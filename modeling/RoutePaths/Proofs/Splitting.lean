import Mathlib.Data.List.Basic

/-! Splitting text at a separator, beside putting it together again. The
separator may stand in front of each piece or behind it. -/
namespace RoutePaths.Splitting

variable {α : Type} {separator : α}

/-- Pieces behind their separators. -/
theorem flatMap_cons_eq_intercalate {pieces : List (List α)} (h : pieces ≠ []) :
    pieces.flatMap (separator :: ·) = separator :: [separator].intercalate pieces := by
  induction pieces with
  | nil => exact absurd rfl h
  | cons first rest ih =>
      cases rest with
      | nil => simp
      | cons second others =>
          rw [List.flatMap_cons, ih (List.cons_ne_nil _ _), List.intercalate_cons_cons]
          simp

/-- All pieces but the first one stand behind separators. -/
theorem intercalate_cons_eq_append (first : List α) (rest : List (List α)) :
    [separator].intercalate (first :: rest) = first ++ rest.flatMap (separator :: ·) := by
  by_cases hRest : rest = []
  · subst hRest
    simp
  · rw [List.intercalate_cons_of_ne_nil hRest, flatMap_cons_eq_intercalate hRest, List.append_assoc,
      List.singleton_append]

/-- Pieces in front of their separators. -/
theorem flatMap_append_eq_intercalate (pieces : List (List α)) :
    pieces.flatMap (· ++ [separator]) = [separator].intercalate (pieces ++ [[]]) := by
  induction pieces with
  | nil => rfl
  | cons first rest ih =>
      rw [List.flatMap_cons, ih, List.cons_append,
        List.intercalate_cons_of_ne_nil (List.append_ne_nil_of_right_ne_nil _ (List.cons_ne_nil _ _))]

/-- Pieces that are joined end in the last one. -/
theorem suffix_intercalate_concat (separator : List α) (pieces : List (List α)) (last : List α) :
    last <:+ separator.intercalate (pieces ++ [last]) := by
  induction pieces with
  | nil => exact ⟨[], List.intercalate_singleton.symm⟩
  | cons first rest ih =>
      rw [List.cons_append, List.intercalate_cons_of_ne_nil
        (List.append_ne_nil_of_right_ne_nil _ (List.cons_ne_nil _ _))]
      exact ih.trans (List.suffix_append _ _)

/-- What holds of the separator and of the pieces holds of the whole text. -/
theorem forall_mem_intercalate {p : α → Prop} {separator : List α} {pieces : List (List α)}
    (hSeparator : ∀ c ∈ separator, p c) (hPieces : ∀ piece ∈ pieces, ∀ c ∈ piece, p c) :
    ∀ c ∈ separator.intercalate pieces, p c := by
  induction pieces with
  | nil => exact fun c hc => absurd hc List.not_mem_nil
  | cons first rest ih =>
      rw [List.forall_mem_cons] at hPieces
      cases rest with
      | nil =>
          rw [List.intercalate_singleton]
          exact hPieces.1
      | cons second others =>
          rw [List.intercalate_cons_cons, List.forall_mem_append, List.forall_mem_append]
          exact ⟨⟨hPieces.1, hSeparator⟩, ih hPieces.2⟩

/-- What stands behind the last separator is determined. -/
theorem eq_of_append_cons_eq {front front' piece piece' : List α}
    (h : front ++ separator :: piece = front' ++ separator :: piece')
    (hPiece : separator ∉ piece) (hPiece' : separator ∉ piece') : piece = piece' := by
  rcases List.append_eq_append_iff.mp h with ⟨between, -, hBehind⟩ | ⟨between, -, hBehind⟩
  · cases between with
    | nil => exact (List.cons.inj hBehind).2
    | cons c rest =>
        have hMem : separator ∈ piece := by
          rw [(List.cons.inj hBehind).2]
          simp
        exact absurd hMem hPiece
  · cases between with
    | nil => exact (List.cons.inj hBehind).2.symm
    | cons c rest =>
        have hMem : separator ∈ piece' := by
          rw [(List.cons.inj hBehind).2]
          simp
        exact absurd hMem hPiece'

/-- A front without the separator ends where the separator comes, or with the text. -/
theorem append_inj_of_head? {front front' rest rest' : List α} (h : front ++ rest = front' ++ rest')
    (hFront : separator ∉ front) (hFront' : separator ∉ front')
    (hRest : ∀ c ∈ rest.head?, c = separator) (hRest' : ∀ c ∈ rest'.head?, c = separator) :
    front = front' ∧ rest = rest' := by
  rcases List.append_eq_append_iff.mp h with ⟨between, hSame, hBehind⟩ | ⟨between, hSame, hBehind⟩
  · cases between with
    | nil => exact ⟨by rw [hSame, List.append_nil], by rw [hBehind, List.nil_append]⟩
    | cons c others =>
        have hHead : c = separator := hRest c (by rw [hBehind]; rfl)
        exact absurd (by rw [hSame, hHead]; simp) hFront'
  · cases between with
    | nil => exact ⟨by rw [hSame, List.append_nil], by rw [hBehind, List.nil_append]⟩
    | cons c others =>
        have hHead : c = separator := hRest' c (by rw [hBehind]; rfl)
        exact absurd (by rw [hSame, hHead]; simp) hFront

/-- The pieces between separators have no separator in them. -/
theorem eq_false_of_mem_splitOnP {separates : α → Bool} {text piece : List α}
    (h : piece ∈ text.splitOnP separates) : ∀ c ∈ piece, separates c = false := by
  induction text generalizing piece with
  | nil =>
      rw [List.splitOnP_nil, List.mem_singleton] at h
      simp [h]
  | cons c rest ih =>
      rw [List.splitOnP_cons_eq_if_modifyHead] at h
      split at h
      · rcases List.mem_cons.mp h with rfl | h
        · simp
        · exact ih h
      · rename_i hc
        obtain ⟨first, others, hPieces⟩ :=
          List.exists_cons_of_ne_nil (List.splitOnP_ne_nil separates rest)
        rw [hPieces] at ih h
        rcases List.mem_cons.mp h with rfl | h
        · intro d hd
          rcases List.mem_cons.mp hd with rfl | hd
          · simpa using hc
          · exact ih (List.mem_cons_self ..) d hd
        · exact ih (List.mem_cons_of_mem _ h)

variable [DecidableEq α]

theorem not_mem_of_mem_splitOn {text piece : List α} (h : piece ∈ text.splitOn separator) :
    separator ∉ piece := by
  intro hMem
  simpa using eq_false_of_mem_splitOnP h separator hMem

theorem flatMap_cons_splitOn (text : List α) :
    (text.splitOn separator).flatMap (separator :: ·) = separator :: text := by
  rw [flatMap_cons_eq_intercalate (List.splitOn_ne_nil separator text), List.intercalate_splitOn]

theorem splitOn_append_flatMap_cons {first : List α} {rest : List (List α)}
    (h : ∀ piece ∈ first :: rest, separator ∉ piece) :
    (first ++ rest.flatMap (separator :: ·)).splitOn separator = first :: rest := by
  induction rest generalizing first with
  | nil =>
      rw [List.flatMap_nil, List.append_nil]
      exact List.splitOn_eq_singleton (h first (List.mem_cons_self ..))
  | cons second others ih =>
      rw [List.flatMap_cons, List.cons_append,
        List.splitOn_append_cons_self_of_not_mem (h first (List.mem_cons_self ..)),
        ih fun piece hPiece => h piece (List.mem_cons_of_mem _ hPiece)]

/-- Pieces in front of their separators leave nothing behind the last one. -/
theorem splitOn_flatMap_append {pieces : List (List α)} (h : ∀ piece ∈ pieces, separator ∉ piece) :
    (pieces.flatMap (· ++ [separator])).splitOn separator = pieces ++ [[]] := by
  induction pieces with
  | nil => rfl
  | cons first rest ih =>
      rw [List.flatMap_cons, List.append_assoc, List.singleton_append,
        List.splitOn_append_cons_self_of_not_mem (h first (List.mem_cons_self ..)),
        ih fun piece hPiece => h piece (List.mem_cons_of_mem _ hPiece), List.cons_append]

theorem flatMap_append_of_splitOn {text : List α} {pieces : List (List α)}
    (h : text.splitOn separator = pieces ++ [[]]) : pieces.flatMap (· ++ [separator]) = text := by
  rw [flatMap_append_eq_intercalate, ← h, List.intercalate_splitOn]

end RoutePaths.Splitting
