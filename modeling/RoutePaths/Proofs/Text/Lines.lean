import RoutePaths.Text.Line
import RoutePaths.Proofs.Text.Words

/-! The lines of a text that has been put together of lines. A text without
blanks is always part of one line. -/
namespace RoutePaths.Text

/-- Nothing in the text ends a line. -/
def IsOneLine (text : List Char) : Prop :=
  ∀ c ∈ text, isLineBreak c = false

instance : DecidablePred IsOneLine := fun text =>
  decidable_of_iff (text.all (!isLineBreak ·) = true) (by simp [IsOneLine])

theorem isBlank_of_isLineBreak {c : Char} (h : isLineBreak c = true) : isBlank c = true := by
  simp only [isLineBreak, isBlank, Bool.or_eq_true, Bool.and_eq_true, decide_eq_true_eq,
    beq_iff_eq] at h ⊢
  omega

theorem IsSolid.isOneLine {text : List Char} (h : IsSolid text) : IsOneLine text := by
  intro c hc
  cases hBreak : isLineBreak c with
  | false => rfl
  | true =>
      have hBlank := h c hc
      rw [isBlank_of_isLineBreak hBreak] at hBlank
      cases hBlank

theorem IsOneLine.append {first second : List Char} (hFirst : IsOneLine first)
    (hSecond : IsOneLine second) : IsOneLine (first ++ second) := by
  intro c hc
  rcases List.mem_append.mp hc with hc | hc
  · exact hFirst c hc
  · exact hSecond c hc

/-- Texts that are joined by spaces stay on one line. -/
theorem isOneLine_intercalate {items : List (List Char)} (hItems : ∀ item ∈ items, IsOneLine item) :
    IsOneLine ([' '].intercalate items) :=
  Splitting.forall_mem_intercalate (List.forall_mem_singleton.mpr (by decide)) hItems

variable {line : List Char}

theorem lines_cons {c : Char} (h : isLineBreak c = false) (text : List Char) :
    lines (c :: text) = consFirst c (lines text) := by
  have hReturn : c ≠ '\r' := by
    rintro rfl
    cases h
  rw [lines.eq_3]
  · simp [h]
  · intro rest hc
    exact absurd hc hReturn

/-- A line and a line feed are the first line of a text. -/
theorem IsOneLine.lines_append (h : IsOneLine line) (text : List Char) :
    lines (line ++ '\n' :: text) = line :: lines text := by
  induction line with
  | nil =>
      rw [List.nil_append, lines.eq_3]
      · rfl
      · intro rest hc
        cases hc
  | cons c rest ih =>
      have hParts := List.forall_mem_cons.mp h
      rw [List.cons_append, lines_cons hParts.1, ih hParts.2]
      rfl

/-- The last line needs no line feed. -/
theorem IsOneLine.lines_eq (h : IsOneLine line) (hSome : line ≠ []) : lines line = [line] := by
  induction line with
  | nil => exact absurd rfl hSome
  | cons c rest ih =>
      have hParts := List.forall_mem_cons.mp h
      rw [lines_cons hParts.1]
      cases rest with
      | nil => rfl
      | cons d others =>
          rw [ih hParts.2 (List.cons_ne_nil d others)]
          rfl

/-- Lines that are joined by line feeds are read back, with or without a line
feed behind the last one. Only a first line may be empty: what stands behind
the last line feed is no line if it is empty. -/
theorem tail_lines_intercalate {head : List Char} {rows : List (List Char)}
    (hHead : IsOneLine head) (hRows : ∀ row ∈ rows, row ≠ [] ∧ IsOneLine row) {final : List Char}
    (hFinal : final = [] ∨ final = ['\n']) :
    (lines (['\n'].intercalate (head :: rows) ++ final)).tail = rows := by
  induction rows generalizing head with
  | nil =>
      rw [List.intercalate_singleton]
      rcases hFinal with rfl | rfl
      · rw [List.append_nil]
        cases head with
        | nil => rfl
        | cons c rest =>
            rw [hHead.lines_eq (List.cons_ne_nil c rest)]
            rfl
      · rw [hHead.lines_append]
        rfl
  | cons row rest ih =>
      rw [List.forall_mem_cons] at hRows
      have hRest := ih hRows.1.2 hRows.2
      have hLines : lines (['\n'].intercalate (row :: rest) ++ final) =
          row :: (lines (['\n'].intercalate (row :: rest) ++ final)).tail := by
        cases rest with
        | nil =>
            rw [List.intercalate_singleton]
            rcases hFinal with rfl | rfl
            · rw [List.append_nil, hRows.1.2.lines_eq hRows.1.1]
              rfl
            · rw [hRows.1.2.lines_append]
              rfl
        | cons second others =>
            rw [List.intercalate_cons_cons, List.append_assoc, List.append_assoc,
              List.singleton_append, hRows.1.2.lines_append]
            rfl
      rw [List.intercalate_cons_cons, List.append_assoc, List.append_assoc, List.singleton_append,
        hHead.lines_append, List.tail_cons, hLines, hRest]

/-- Reading line breaks in one way changes nothing where only line feeds are. -/
theorem unifyBreaks_of_not_mem {text : List Char} (h : '\r' ∉ text) : unifyBreaks text = text := by
  induction text with
  | nil => rfl
  | cons c rest ih =>
      rw [List.mem_cons, not_or] at h
      rw [unifyBreaks, ih h.2]
      · rintro _ rfl
        exact absurd rfl h.1
      · rintro rfl
        exact absurd rfl h.1

end RoutePaths.Text
