import RoutePaths.Text.Upper
import RoutePaths.Proofs.Text.Words
import Mathlib.Data.List.Basic

/-! Upper-case forms have no blanks where the text has none, and are empty only
where the text is. For characters outside ASCII these are properties of the
tables. -/
namespace RoutePaths.Text

/-- The runs of blank characters, as their first and last code points. -/
def blankRuns : List (Nat × Nat) :=
  [(0x09, 0x0D), (0x1C, 0x20), (0x85, 0x85), (0xA0, 0xA0), (0x1680, 0x1680), (0x2000, 0x200A),
    (0x2028, 0x2029), (0x202F, 0x202F), (0x205F, 0x205F), (0x3000, 0x3000)]

theorem isBlank_iff {c : Char} :
    isBlank c = true ↔ ∃ run ∈ blankRuns, run.1 ≤ c.toNat ∧ c.toNat ≤ run.2 := by
  simp only [isBlank, blankRuns, Bool.or_eq_true, Bool.and_eq_true, decide_eq_true_eq, beq_iff_eq,
    List.exists_mem_cons_iff, List.not_mem_nil, false_and, exists_false, or_false]
  omega

theorem isBlank_toUpper_of_ascii {c : Char} (hAscii : c.toNat < 0x80) (h : isBlank c = false) :
    isBlank c.toUpper = false := by
  have hAll : ∀ n < 0x80,
      isBlank (Char.ofNat n) = false → isBlank (Char.ofNat n).toUpper = false := by
    decide
  have hChar := hAll c.toNat hAscii
  rw [Char.ofNat_toNat] at hChar
  exact hChar h

theorem isBlank_of_mem_upperExpansions {point : Nat} {points : List Nat}
    (hEntry : (point, points) ∈ upperExpansions) :
    ∀ p ∈ points, isBlank (Char.ofNat p) = false := by
  have hAll : (upperExpansions.all fun entry =>
      entry.2.all fun p => !isBlank (Char.ofNat p)) = true := by
    decide +kernel
  simp only [List.all_eq_true, Bool.not_eq_true'] at hAll
  exact hAll _ hEntry

theorem ne_nil_of_mem_upperExpansions {point : Nat} {points : List Nat}
    (hEntry : (point, points) ∈ upperExpansions) : points ≠ [] := by
  have hAll : (upperExpansions.all fun entry => !entry.2.isEmpty) = true := by
    decide +kernel
  simp only [List.all_eq_true, Bool.not_eq_true', List.isEmpty_eq_false_iff] at hAll
  exact hAll _ hEntry

/-- No run of the table is moved onto a blank character. -/
theorem upperRuns_apart : ∀ run ∈ upperRuns, ∀ blanks ∈ blankRuns,
    (run.last : Int) + run.distance < blanks.1 ∨ (blanks.2 : Int) < run.first + run.distance := by
  have hAll : (upperRuns.all fun run => blankRuns.all fun blanks =>
      decide ((run.last : Int) + run.distance < blanks.1) ||
        decide ((blanks.2 : Int) < run.first + run.distance)) = true := by
    decide +kernel
  simpa only [List.all_eq_true, Bool.or_eq_true, decide_eq_true_eq] using hAll

/-- A number that is no code point gives the null character. -/
theorem toNat_ofNat_cases (n : Nat) : (Char.ofNat n).toNat = n ∨ (Char.ofNat n).toNat = 0 := by
  by_cases hPoint : n.isValidChar
  · have hSome : Char.ofNat n = Char.ofNatAux n hPoint := dif_pos hPoint
    exact Or.inl (by rw [hSome]; rfl)
  · have hNull : Char.ofNat n = ⟨0, by decide⟩ := dif_neg hPoint
    exact Or.inr (by rw [hNull]; rfl)

theorem isBlank_of_mem_upperRuns {run : CaseRun} (hRun : run ∈ upperRuns) {point : Nat}
    (hPoint : run.contains point = true) :
    isBlank (Char.ofNat (point + run.distance).toNat) = false := by
  rw [← Bool.not_eq_true, isBlank_iff]
  rintro ⟨blanks, hBlanks, hFirst, hLast⟩
  have hSome : 0 < blanks.1 := by
    have hAll : ∀ blanks ∈ blankRuns, 0 < blanks.1 := by decide
    exact hAll blanks hBlanks
  have hApart := upperRuns_apart run hRun blanks hBlanks
  simp only [CaseRun.contains, Bool.and_eq_true, decide_eq_true_eq] at hPoint
  rcases toNat_ofNat_cases (point + run.distance).toNat with hSame | hNull <;> omega

/-- The upper-case form of a character is one other character, what a table has for it, or the
character itself. -/
theorem upperChar_cases (c : Char) :
    (c.toNat < 0x80 ∧ upperChar c = [c.toUpper]) ∨
      (∃ points, (c.toNat, points) ∈ upperExpansions ∧ upperChar c = points.map Char.ofNat) ∨
      (∃ run ∈ upperRuns, run.contains c.toNat = true ∧
        upperChar c = [Char.ofNat (c.toNat + run.distance).toNat]) ∨
      upperChar c = [c] := by
  unfold upperChar
  split
  · rename_i hAscii
    exact Or.inl ⟨hAscii, rfl⟩
  · right
    split
    · rename_i points hEntry
      obtain ⟨before, after, hTable, -⟩ := List.lookup_eq_some_iff.mp hEntry
      have hMem : (c.toNat, points) ∈ upperExpansions := by
        rw [hTable]
        exact List.mem_append_right _ (List.mem_cons_self ..)
      exact Or.inl ⟨points, hMem, rfl⟩
    · right
      split
      · rename_i run hRun
        have hPoint : run.contains c.toNat = true := by simpa using List.find?_some hRun
        exact Or.inl ⟨run, List.mem_of_find?_eq_some hRun, hPoint, rfl⟩
      · exact Or.inr rfl

/-- The upper-case form of a character is blank only if the character is. -/
theorem isSolid_upperChar {c : Char} (h : isBlank c = false) : IsSolid (upperChar c) := by
  rcases upperChar_cases c with ⟨hAscii, hUpper⟩ | ⟨points, hEntry, hUpper⟩ |
    ⟨run, hRun, hPoint, hUpper⟩ | hUpper
  all_goals
    rw [hUpper]
    intro d hd
  · rw [List.mem_singleton.mp hd]
    exact isBlank_toUpper_of_ascii hAscii h
  · obtain ⟨p, hp, rfl⟩ := List.mem_map.mp hd
    exact isBlank_of_mem_upperExpansions hEntry p hp
  · rw [List.mem_singleton.mp hd]
    exact isBlank_of_mem_upperRuns hRun hPoint
  · rwa [List.mem_singleton.mp hd]

/-- It is at least one character. -/
theorem upperChar_ne_nil (c : Char) : upperChar c ≠ [] := by
  rcases upperChar_cases c with ⟨-, hUpper⟩ | ⟨points, hEntry, hUpper⟩ | ⟨run, -, -, hUpper⟩ | hUpper
  · rw [hUpper]
    exact List.cons_ne_nil _ _
  · rw [hUpper, Ne, List.map_eq_nil_iff]
    exact ne_nil_of_mem_upperExpansions hEntry
  · rw [hUpper]
    exact List.cons_ne_nil _ _
  · rw [hUpper]
    exact List.cons_ne_nil _ _

theorem upper_ne_nil {text : List Char} (h : text ≠ []) : upper text ≠ [] := by
  obtain ⟨c, rest, rfl⟩ := List.exists_cons_of_ne_nil h
  rw [upper, List.flatMap_cons]
  exact List.append_ne_nil_of_left_ne_nil (upperChar_ne_nil c) _

theorem IsSolid.upper {text : List Char} (h : IsSolid text) : IsSolid (upper text) := by
  intro d hd
  obtain ⟨c, hc, hd⟩ := List.mem_flatMap.mp hd
  exact isSolid_upperChar (h c hc) d hd

end RoutePaths.Text
