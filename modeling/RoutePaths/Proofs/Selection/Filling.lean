import RoutePaths.Selection.Glob
import Mathlib.Data.List.Basic

/-! What patterns mean. A name matches a pattern exactly if the name is the pattern with some
text in place of each star, and a pattern is refused exactly if it holds something that no
pattern may hold. -/
namespace RoutePaths.Pattern

/-- The pattern with texts in place of its stars. The text of a star is found by the position
of the star, so that each star has one of its own. -/
def filled (fill : Nat → List Char) (pattern : List Char) : List Char :=
  pattern.zipIdx.flatMap fun item => if item.1 = '*' then fill item.2 else [item.1]

/-- Texts for a pattern with one more character in front. -/
def shifted (first : List Char) (fill : Nat → List Char) : Nat → List Char
  | 0 => first
  | position + 1 => fill position

variable {fill : Nat → List Char} {pattern name : List Char}

theorem filled_cons (fill : Nat → List Char) (p : Char) (rest : List Char) :
    filled fill (p :: rest) =
      (if p = '*' then fill 0 else [p]) ++ filled (fun position => fill (position + 1)) rest := by
  rw [filled, List.zipIdx_cons', List.flatMap_cons, List.flatMap_map]
  rfl

/-- The text of a star is part of the name. -/
theorem mem_filled {position : Nat} (hStar : pattern[position]? = some '*') {c : Char}
    (hc : c ∈ fill position) : c ∈ filled fill pattern := by
  refine List.mem_flatMap.mpr ⟨('*', position), List.mem_zipIdx_iff_getElem?.mpr hStar, ?_⟩
  rwa [if_pos rfl]

/-- A star takes over a start of the name that holds no line feed. -/
theorem admits_star_iff {rest : List Char} :
    admits ('*' :: rest) name = true ↔
      ∃ front back, name = front ++ back ∧ '\n' ∉ front ∧ admits rest back = true := by
  induction name with
  | nil =>
      rw [admits]
      constructor
      · exact fun h => ⟨[], [], rfl, by simp, h⟩
      · rintro ⟨front, back, hName, -, h⟩
        rwa [(List.append_eq_nil_iff.mp hName.symm).2] at h
  | cons c name ih =>
      rw [admits, Bool.or_eq_true, Bool.and_eq_true, bne_iff_ne, ih]
      constructor
      · rintro (h | ⟨hBreak, front, back, rfl, hFront, h⟩)
        · exact ⟨[], c :: name, rfl, by simp, h⟩
        · refine ⟨c :: front, back, rfl, ?_, h⟩
          rw [List.mem_cons, not_or]
          exact ⟨hBreak.symm, hFront⟩
      · rintro ⟨front, back, hName, hFront, h⟩
        cases front with
        | nil =>
            rw [List.nil_append] at hName
            exact Or.inl (hName ▸ h)
        | cons d front =>
            obtain ⟨rfl, rfl⟩ := List.cons.inj hName
            rw [List.mem_cons, not_or] at hFront
            exact Or.inr ⟨Ne.symm hFront.1, front, back, rfl, hFront.2, h⟩

/-- Any other character takes over itself. -/
theorem admits_cons_iff {p : Char} (hStar : p ≠ '*') {rest : List Char} :
    admits (p :: rest) name = true ↔ ∃ back, name = p :: back ∧ admits rest back = true := by
  cases name with
  | nil =>
      rw [admits]
      · simp
      · exact hStar
  | cons c name =>
      rw [admits]
      · rw [Bool.and_eq_true, beq_iff_eq]
        constructor
        · rintro ⟨rfl, h⟩
          exact ⟨name, rfl, h⟩
        · rintro ⟨back, hName, h⟩
          obtain ⟨rfl, rfl⟩ := List.cons.inj hName
          exact ⟨rfl, h⟩
      · exact hStar

/-- A name matches a pattern if it is the pattern with a text on one line in place of each
star, and only then. -/
theorem admits_iff_exists_filled :
    admits pattern name = true ↔
      ∃ fill, (∀ position, pattern[position]? = some '*' → '\n' ∉ fill position) ∧
        filled fill pattern = name := by
  induction pattern generalizing name with
  | nil => cases name <;> simp [admits, filled]
  | cons p rest ih =>
      simp only [filled_cons]
      by_cases hStar : p = '*'
      · subst hStar
        simp only [admits_star_iff, ih, if_true]
        constructor
        · rintro ⟨front, -, rfl, hFront, fill, hFill, rfl⟩
          refine ⟨shifted front fill, ?_, rfl⟩
          rintro (_ | position) hPosition
          · exact hFront
          · exact hFill position hPosition
        · rintro ⟨fill, hFill, rfl⟩
          exact ⟨fill 0, _, rfl, hFill 0 rfl, _, fun position => hFill (position + 1), rfl⟩
      · simp only [admits_cons_iff hStar, ih, if_neg hStar]
        constructor
        · rintro ⟨-, rfl, fill, hFill, rfl⟩
          refine ⟨shifted [] fill, ?_, rfl⟩
          rintro (_ | position) hPosition
          · exact List.not_mem_nil
          · exact hFill position hPosition
        · rintro ⟨fill, hFill, rfl⟩
          exact ⟨_, rfl, _, fun position => hFill (position + 1), rfl⟩

/-- On names without a line feed the stars need no condition. -/
theorem admits_iff_of_not_mem (hBreak : '\n' ∉ name) :
    admits pattern name = true ↔ ∃ fill, filled fill pattern = name := by
  rw [admits_iff_exists_filled]
  constructor
  · rintro ⟨fill, -, hName⟩
    exact ⟨fill, hName⟩
  · rintro ⟨fill, hName⟩
    exact ⟨fill, fun position hStar hMem => hBreak (hName ▸ mem_filled hStar hMem), hName⟩

/-- What a text has to be like for a pattern. -/
structure IsWellFormed (pattern : String) : Prop where
  ne_empty : pattern ≠ ""
  solid : ∀ c ∈ pattern.toList, Text.isBlank c = false
  supported : ∀ c ∈ pattern.toList, c ∉ ['?', '[', ']', '{', '}']

theorem flaw?_eq_none_iff {pattern : String} :
    (text pattern).flaw? = none ↔ IsWellFormed pattern := by
  have hBlank : pattern.toList.any Text.isBlank = false ↔
      ∀ c ∈ pattern.toList, Text.isBlank c = false := by
    simp
  have hFound : unsupportedChars.filter (· ∈ pattern.toList) = [] ↔
      ∀ c ∈ pattern.toList, c ∉ ['?', '[', ']', '{', '}'] := by
    rw [List.filter_eq_nil_iff, unsupportedChars]
    simp only [decide_eq_true_eq]
    exact ⟨fun h c hc hBad => h c hBad hc, fun h c hBad hc => h c hc hBad⟩
  rw [flaw?]
  split
  · rename_i hEmpty
    simpa using fun h : IsWellFormed pattern => h.ne_empty hEmpty
  · rename_i hEmpty
    cases hAny : pattern.toList.any Text.isBlank with
    | true =>
        have hNot : ¬ IsWellFormed pattern := fun h => by
          rw [hBlank.mpr h.solid] at hAny
          cases hAny
        simpa using hNot
    | false =>
        simp only [Bool.false_eq_true, if_false, ite_eq_left_iff, reduceCtorEq, imp_false,
          not_not, hFound]
        exact ⟨fun h => ⟨hEmpty, hBlank.mp hAny, h⟩, fun h => h.supported⟩

/-- A well-formed pattern matches exactly the names that it can be filled up to, as far as they
stand on one line. Any other pattern is refused, whatever the name. -/
theorem matchName_iff_filled (pattern name : String) :
    (IsWellFormed pattern → '\n' ∉ name.toList →
        ∃ found, matchName pattern name = .ok found ∧
          (found = true ↔ ∃ fill, filled fill pattern.toList = name.toList)) ∧
      (¬ IsWellFormed pattern → ∃ flaw, matchName pattern name = .error ⟨pattern, flaw⟩) := by
  constructor
  · intro h hBreak
    have hCheck : (text pattern).check = .ok pattern := by
      rw [check]
      exact flaw?_eq_none_iff.mpr h
    refine ⟨admits pattern.toList name.toList, ?_, admits_iff_of_not_mem hBreak⟩
    rw [matchName, hCheck]
    rfl
  · intro h
    obtain ⟨flaw, hFlaw⟩ := Option.ne_none_iff_exists'.mp (flaw?_eq_none_iff.not.mpr h)
    have hCheck : (text pattern).check = .error ⟨pattern, flaw⟩ := by
      unfold check
      rw [hFlaw]
      rfl
    refine ⟨flaw, ?_⟩
    rw [matchName, hCheck]
    rfl

/-- A dot is no wildcard, and the two stars of the pattern have texts of their own. -/
theorem matchName_iff_filled_version :
    IsWellFormed "v1.*_*" ∧ matchName "v1.*_*" "v1.a_b_c" = .ok true ∧
      matchName "v1.*_*" "v1xa_b" = .ok false ∧
      ∃ flaw, matchName "v1.[ab]" "v1.a" = .error ⟨"v1.[ab]", flaw⟩ := by
  have hWellFormed : IsWellFormed "v1.*_*" := flaw?_eq_none_iff.mp (by decide)
  have hOther : ¬ IsWellFormed "v1.[ab]" := fun h => absurd (flaw?_eq_none_iff.mpr h) (by decide)
  obtain ⟨found, hFound, hFilled⟩ :=
    (matchName_iff_filled "v1.*_*" "v1.a_b_c").1 hWellFormed (by decide)
  obtain ⟨missed, hMissed, hUnfilled⟩ :=
    (matchName_iff_filled "v1.*_*" "v1xa_b").1 hWellFormed (by decide)
  have hTrue : found = true :=
    hFilled.mpr ⟨fun position => if position = 3 then ['a'] else ['b', '_', 'c'], by decide⟩
  have hFalse : missed = false := by
    rw [← Bool.not_eq_true, hUnfilled]
    rintro ⟨fill, hName⟩
    have hDot : some '.' = some 'x' := congrArg (·[2]?) hName
    exact absurd hDot (by decide)
  exact ⟨hWellFormed, hTrue ▸ hFound, hFalse ▸ hMissed,
    (matchName_iff_filled "v1.[ab]" "v1.a").2 hOther⟩

end RoutePaths.Pattern
