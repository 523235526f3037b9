import RoutePaths.Path
import RoutePaths.Proofs.Splitting

/-! Paths in their normal form. What has been read is in it, and what is in it is read back
from its text. Names that are put behind a path only add components to it. -/
namespace RoutePaths.Path

/-- A component of a path in normal form. Two dots are a component like any other. -/
def IsPart (part : String) : Prop :=
  part ≠ "" ∧ part ≠ "." ∧ '/' ∉ part.toList

structure IsNormal (path : Path) : Prop where
  slashes : path.slashes ≤ 2
  parts : ∀ part ∈ path.parts, IsPart part

/-- A component that is listed among others: it has a first character, which is no dot. -/
def IsVisible (name : String) : Prop :=
  name ≠ "" ∧ name.toList.head? ≠ some '.' ∧ '/' ∉ name.toList

theorem IsVisible.isPart {name : String} (h : IsVisible name) : IsPart name := by
  refine ⟨h.1, ?_, h.2.2⟩
  rintro rfl
  exact h.2.1 rfl

theorem IsVisible.ne_up {name : String} (h : IsVisible name) : name ≠ ".." := by
  rintro rfl
  exact h.2.1 rfl

variable {path : Path} {part : String} {parts : List String}

theorem IsPart.toList_ne_nil (h : IsPart part) : part.toList ≠ [] := by
  intro hNil
  exact h.1 (String.toList_eq_nil_iff.mp hNil)

theorem toList_intercalate (parts : List String) :
    ("/".intercalate parts).toList = ['/'].intercalate (parts.map String.toList) :=
  String.toList_intercalate

/-- The joined components start with the first one. -/
theorem takeWhile_intercalate (h : ∀ part ∈ parts, IsPart part) :
    ("/".intercalate parts).toList.takeWhile (· = '/') = [] := by
  cases parts with
  | nil => rfl
  | cons first rest =>
      have hFirst := h first (List.mem_cons_self ..)
      obtain ⟨c, others, hChars⟩ := List.exists_cons_of_ne_nil hFirst.toList_ne_nil
      have hSlash : c ≠ '/' := by
        rintro rfl
        apply hFirst.2.2
        rw [hChars]
        exact List.mem_cons_self ..
      have hJoined : ∃ more, ("/".intercalate (first :: rest)).toList = c :: more := by
        rw [toList_intercalate, List.map_cons, hChars]
        cases rest with
        | nil => exact ⟨others, List.intercalate_singleton⟩
        | cons second further => exact ⟨_, List.intercalate_cons_cons⟩
      obtain ⟨more, hMore⟩ := hJoined
      rw [hMore, List.takeWhile_cons_of_neg (by simpa using hSlash)]

theorem partsOf_intercalate (h : ∀ part ∈ parts, IsPart part) :
    partsOf ("/".intercalate parts).toList = parts := by
  cases parts with
  | nil => rfl
  | cons first rest =>
      have hSlashes : ∀ piece ∈ (first :: rest).map String.toList, '/' ∉ piece := by
        rw [List.forall_mem_map]
        exact fun part hPart => (h part hPart).2.2
      have hKept : ∀ piece ∈ (first :: rest).map String.toList,
          (piece ≠ [] && piece ≠ ['.']) = true := by
        rw [List.forall_mem_map]
        intro part hPart
        have hDot : part.toList ≠ ['.'] := fun hDot =>
          (h part hPart).2.1 (String.toList_inj.mp hDot)
        simp [(h part hPart).toList_ne_nil, hDot]
      rw [partsOf, toList_intercalate, List.splitOn_intercalate '/' hSlashes (List.cons_ne_nil _ _),
        List.filter_eq_self.mpr hKept, List.map_map]
      exact List.map_id'' (fun part => String.ofList_toList) _

/-- Slashes in front name no component. -/
theorem partsOf_replicate_append (count : Nat) (text : List Char) :
    partsOf (List.replicate count '/' ++ text) = partsOf text := by
  induction count with
  | zero => rfl
  | succ count ih =>
      rw [List.replicate_succ, List.cons_append, partsOf, List.splitOn_cons_eq_if_modifyHead,
        if_pos (beq_self_eq_true '/')]
      exact ih

theorem keptSlashes_of_le {count : Nat} (h : count ≤ 2) : keptSlashes count = count := by
  rw [keptSlashes]
  split
  · omega
  · omega

theorem IsNormal.intercalate_ne_empty (h : path.IsNormal) (hParts : path.parts ≠ []) :
    "/".intercalate path.parts ≠ "" := by
  intro hEmpty
  apply hParts
  rw [← partsOf_intercalate h.parts, hEmpty]
  rfl

/-- A path in normal form is read back from its text. -/
theorem read_text (h : path.IsNormal) : read path.text = path := by
  obtain ⟨slashes, parts⟩ := path
  have hParts := h.parts
  rw [text]
  split
  · rename_i hEmpty
    rw [String.append_eq_empty_iff] at hEmpty
    have hNone : parts = [] := by
      by_contra hSome
      exact h.intercalate_ne_empty hSome hEmpty.2
    have hSlashes : slashes = 0 := by
      simpa using congrArg String.toList hEmpty.1
    rw [hNone, hSlashes]
    rfl
  · rw [read, String.toList_append, String.toList_ofList, partsOf_replicate_append,
      partsOf_intercalate hParts, List.takeWhile_append_of_pos (by simp),
      takeWhile_intercalate hParts, List.append_nil, List.length_replicate,
      keptSlashes_of_le h.slashes]

theorem isNormal_read (text : String) : (read text).IsNormal where
  slashes := by
    show keptSlashes _ ≤ 2
    rw [keptSlashes]
    split
    · omega
    · omega
  parts := by
    intro part hPart
    obtain ⟨piece, hPiece, rfl⟩ := List.mem_map.mp hPart
    obtain ⟨hSplit, hKept⟩ := List.mem_filter.mp hPiece
    simp only [ne_eq, Bool.and_eq_true, decide_eq_true_eq] at hKept
    refine ⟨?_, ?_, ?_⟩
    · exact fun hEmpty => hKept.1 (by simpa using congrArg String.toList hEmpty)
    · exact fun hDot => hKept.2 (by simpa using congrArg String.toList hDot)
    · rw [String.toList_ofList]
      exact Splitting.not_mem_of_mem_splitOn hSplit

/-- The path of components that no slash stands in front of. -/
theorem read_intercalate (h : ∀ part ∈ parts, IsPart part) :
    read ("/".intercalate parts) = ⟨0, parts⟩ := by
  rw [read, takeWhile_intercalate h, partsOf_intercalate h]
  rfl

theorem read_of_isPart (h : IsPart part) : read part = ⟨0, [part]⟩ := by
  have hRead := read_intercalate (List.forall_mem_singleton.mpr h)
  rwa [String.intercalate_singleton] at hRead

theorem joinTexts_eq (first : Path) (h : ∀ part ∈ parts, IsPart part) :
    first.joinTexts parts = ⟨first.slashes, first.parts ++ parts⟩ := by
  induction parts generalizing first with
  | nil => rw [joinTexts, List.foldl_nil, List.append_nil]
  | cons part rest ih =>
      rw [List.forall_mem_cons] at h
      rw [joinTexts, List.foldl_cons, ← joinTexts, read_of_isPart h.1, ih _ h.2, join]
      simp [isAbsolute]

theorem partsOf_append_cons (front back : List Char) :
    partsOf (front ++ '/' :: back) = partsOf front ++ partsOf back := by
  rw [partsOf, List.splitOn_append_cons_self, List.filter_append, List.map_append]
  rfl

/-- Slashes behind the components name none. -/
theorem partsOf_append_replicate (front : List Char) (count : Nat) :
    partsOf (front ++ List.replicate count '/') = partsOf front := by
  cases count with
  | zero => rw [List.replicate_zero, List.append_nil]
  | succ count =>
      have hNone := partsOf_replicate_append count []
      rw [List.append_nil] at hNone
      rw [List.replicate_succ, partsOf_append_cons, hNone]
      exact List.append_nil _

/-- The slashes in front of a text that has anything else in it do not reach what is behind. -/
theorem takeWhile_append_of_mem {front : List Char} {c : Char} (hMem : c ∈ front) (hc : c ≠ '/')
    (back : List Char) :
    (front ++ back).takeWhile (· = '/') = front.takeWhile (· = '/') := by
  rw [List.takeWhile_append, if_neg]
  intro hLength
  have hSame : front.takeWhile (· = '/') = front := (List.takeWhile_prefix _).eq_of_length hLength
  have hAll : (front.takeWhile (· = '/')).all (· = '/') = true := List.all_takeWhile
  rw [hSame, List.all_eq_true] at hAll
  exact hc (by simpa using hAll c hMem)

theorem keptSlashes_eq_one_iff {count : Nat} : keptSlashes count = 1 ↔ count ≠ 0 ∧ count ≠ 2 := by
  rw [keptSlashes]
  split
  · omega
  · omega

end RoutePaths.Path
