import RoutePaths.Config.Basic
import RoutePaths.Proofs.Result
import RoutePaths.Proofs.Selection.Filling

/-! What a selection does to routes. All of its patterns are checked before any route is looked
at, so that it is refused for every table or for none; and a selection that is not refused
decides by names alone. -/
namespace RoutePaths
open Result

namespace Pattern

/-- The name is the pattern with a text on one line in place of each star. -/
def Matches (pattern name : String) : Prop :=
  ∃ fill, (∀ position, pattern.toList[position]? = some '*' → '\n' ∉ fill position) ∧
    filled fill pattern.toList = name.toList

/-- What is given for a pattern is no text, or a text that no pattern may be. -/
def IsMalformed : Pattern → Prop
  | text pattern => ¬ IsWellFormed pattern
  | other _ => True

/-- A pattern is checked with one of two results. -/
theorem check_cases (pattern : Pattern) :
    (∃ checked, pattern = .text checked ∧ IsWellFormed checked ∧ pattern.check = .ok checked) ∨
      (pattern.IsMalformed ∧ ∃ flaw, pattern.check = .error ⟨pattern.shown, flaw⟩) := by
  cases pattern with
  | other shown => exact Or.inr ⟨trivial, .empty, rfl⟩
  | text pattern =>
      unfold check
      cases hFlaw : (text pattern).flaw? with
      | none => exact Or.inl ⟨pattern, rfl, flaw?_eq_none_iff.mp hFlaw, rfl⟩
      | some flaw =>
          refine Or.inr ⟨fun hWellFormed => ?_, flaw, rfl⟩
          rw [flaw?_eq_none_iff.mpr hWellFormed] at hFlaw
          cases hFlaw

theorem check_eq_ok_iff {pattern : Pattern} {checked : String} :
    pattern.check = .ok checked ↔ pattern = .text checked ∧ IsWellFormed checked := by
  rcases pattern.check_cases with ⟨found, rfl, hWellFormed, hCheck⟩ | ⟨hMalformed, flaw, hCheck⟩
  · rw [hCheck, Except.ok.injEq, text.injEq]
    exact ⟨fun hSame => ⟨hSame, hSame ▸ hWellFormed⟩, And.left⟩
  · rw [hCheck]
    refine ⟨fun hOk => (by cases hOk), ?_⟩
    rintro ⟨rfl, hWellFormed⟩
    exact absurd hWellFormed hMalformed

theorem exists_check_eq_ok_iff {pattern : Pattern} :
    (∃ checked, pattern.check = .ok checked) ↔ ¬ pattern.IsMalformed := by
  rcases pattern.check_cases with ⟨found, rfl, hWellFormed, hCheck⟩ | ⟨hMalformed, flaw, hCheck⟩
  · exact iff_of_true ⟨found, hCheck⟩ (not_not_intro hWellFormed)
  · refine iff_of_false ?_ (not_not_intro hMalformed)
    rintro ⟨checked, hOk⟩
    rw [hCheck] at hOk
    cases hOk

/-- A pattern that is refused is malformed, and is told as it was given. -/
theorem isMalformed_of_check_eq_error {pattern : Pattern} {error : Error}
    (h : pattern.check = .error error) : pattern.IsMalformed ∧ error.pattern = pattern.shown := by
  rcases pattern.check_cases with ⟨found, rfl, hWellFormed, hCheck⟩ | ⟨hMalformed, flaw, hCheck⟩
  · rw [hCheck] at h
    cases h
  · rw [hCheck, Except.error.injEq] at h
    exact ⟨hMalformed, by rw [← h]⟩

/-- Patterns that have been checked are texts, and are kept as they are. -/
theorem eq_map_text_of_mapM_check {patterns : List Pattern} {texts : List String}
    (h : patterns.mapM check = .ok texts) : patterns = texts.map .text := by
  have hEach := mapM_eq_ok_iff.mp h
  induction hEach with
  | nil => rfl
  | cons hFirst hRest ih =>
      rw [List.map_cons, ← ih (mapM_eq_ok_iff.mpr hRest), (check_eq_ok_iff.mp hFirst).1]

end Pattern

namespace Inclusion

/-- The patterns as they are given, one or several. -/
def given : Inclusion Pattern → List Pattern
  | one pattern => [.text pattern]
  | many patterns => patterns

theorem patterns_eq (included : Inclusion Pattern) :
    included.patterns = included.given.filter (· ≠ .text wildcard) := by
  cases included with
  | many patterns => rfl
  | one pattern =>
      rw [patterns, given]
      by_cases hWildcard : pattern = wildcard <;> simp [hWildcard]

theorem isAll_iff {included : Inclusion Pattern} :
    included.isAll = true ↔ .text wildcard ∈ included.given := by
  cases included with
  | one pattern =>
      rw [isAll, given, List.mem_singleton, Pattern.text.injEq, beq_iff_eq]
      exact eq_comm
  | many patterns => simp [isAll, given]

end Inclusion

namespace Selection

/-- The patterns that have to be well formed, those for inclusion first. The lone star among
them is not looked at as a pattern. -/
def candidates (selection : Selection) : List Pattern :=
  selection.included.given.filter (· ≠ .text Inclusion.wildcard) ++ selection.excluded

/-- What it takes for a name to be selected. -/
structure Selects (selection : Selection) (name : String) : Prop where
  included : .text Inclusion.wildcard ∈ selection.included.given ∨
    ∃ pattern, .text pattern ∈ selection.included.given ∧ Pattern.Matches pattern name
  spared : ¬ ∃ pattern, .text pattern ∈ selection.excluded ∧ Pattern.Matches pattern name

/-- What a selection does to any routes. A malformed pattern is told before the routes matter,
the first one if there are several; otherwise exactly the routes whose names are selected are
kept, in their order. The values that come with exclude patterns change nothing. -/
structure Filters (selection : Selection) : Prop where
  refuses : ∀ routes, (∃ error, selection.apply routes = .error error) ↔
    ∃ pattern ∈ selection.candidates, pattern.IsMalformed
  reports : ∀ routes error, selection.apply routes = .error error →
    ∃ before bad after, selection.candidates = before ++ bad :: after ∧
      (∀ pattern ∈ before, ¬ pattern.IsMalformed) ∧ bad.IsMalformed ∧ error.pattern = bad.shown
  keeps : (∀ pattern ∈ selection.candidates, ¬ pattern.IsMalformed) →
    ∃ selected : String → Bool, (∀ name, selected name = true ↔ selection.Selects name) ∧
      ∀ routes, selection.apply routes = .ok (routes.filter (selected ·.name))
  together : ∀ routes kept, selection.apply routes = .ok kept →
    ∀ first ∈ routes, ∀ second ∈ routes, first.name = second.name →
      (first ∈ kept ↔ second ∈ kept)
  markers : ∀ config : Config, config.selection = selection → ∀ entries : List (String × Value),
    entries.map Prod.fst = config.excluded.map Prod.fst →
      ({ config with excluded := entries } : Config).selection = selection

variable {selection : Selection} {checked : Checked} {routes : List Route}

theorem matchesAny_iff {patterns : List String} {name : String} :
    matchesAny patterns name = true ↔ ∃ pattern ∈ patterns, Pattern.Matches pattern name := by
  rw [matchesAny, List.any_eq_true]
  exact exists_congr fun pattern => and_congr_right fun _ => Pattern.admits_iff_exists_filled

/-- The checks for inclusion and for exclusion are one check of all patterns. -/
theorem check_eq_error_iff {error : Pattern.Error} :
    selection.check = .error error ↔ selection.candidates.mapM Pattern.check = .error error := by
  rw [check, candidates, ← Inclusion.patterns_eq, List.mapM_append]
  simp [bind_eq_error_iff, pure, Except.pure]

theorem exists_check_eq_ok_iff :
    (∃ checked, selection.check = .ok checked) ↔
      ∀ pattern ∈ selection.candidates, ¬ pattern.IsMalformed := by
  simp only [check, bind_eq_ok_iff, pure, Except.pure, Except.ok.injEq,
    ← Pattern.exists_check_eq_ok_iff]
  rw [candidates, ← Inclusion.patterns_eq, List.forall_mem_append, ← exists_mapM_eq_ok_iff,
    ← exists_mapM_eq_ok_iff]
  constructor
  · rintro ⟨_, includes, hIncludes, excludes, hExcludes, rfl⟩
    exact ⟨⟨includes, hIncludes⟩, excludes, hExcludes⟩
  · rintro ⟨⟨includes, hIncludes⟩, excludes, hExcludes⟩
    exact ⟨_, includes, hIncludes, excludes, hExcludes, rfl⟩

/-- A lone star among the patterns for inclusion is not kept as one of them, but then every
name is included. -/
theorem selects_iff (h : selection.check = .ok checked) (name : String) :
    checked.selects name = true ↔ selection.Selects name := by
  simp only [check, bind_eq_ok_iff, pure, Except.pure, Except.ok.injEq] at h
  obtain ⟨includes, hIncludes, excludes, hExcludes, rfl⟩ := h
  have hGiven (pattern : String) : pattern ∈ includes ↔
      .text pattern ∈ selection.included.given ∧ pattern ≠ Inclusion.wildcard := by
    have hKept := Pattern.eq_map_text_of_mapM_check hIncludes
    rw [Inclusion.patterns_eq] at hKept
    have hMem : .text pattern ∈ includes.map Pattern.text ↔ pattern ∈ includes := by simp
    rw [← hMem, ← hKept]
    simp
  have hExcluded : (∃ pattern ∈ excludes, Pattern.Matches pattern name) ↔
      ∃ pattern, .text pattern ∈ selection.excluded ∧ Pattern.Matches pattern name := by
    rw [Pattern.eq_map_text_of_mapM_check hExcludes]
    simp
  have hIncluded :
      (selection.included.isAll = true ∨ ∃ pattern ∈ includes, Pattern.Matches pattern name) ↔
        .text Inclusion.wildcard ∈ selection.included.given ∨
          ∃ pattern, .text pattern ∈ selection.included.given ∧ Pattern.Matches pattern name := by
    rw [Inclusion.isAll_iff]
    constructor
    · rintro (hAll | ⟨pattern, hPattern, hMatches⟩)
      · exact Or.inl hAll
      · exact Or.inr ⟨pattern, ((hGiven pattern).mp hPattern).1, hMatches⟩
    · rintro (hAll | ⟨pattern, hPattern, hMatches⟩)
      · exact Or.inl hAll
      · by_cases hWildcard : pattern = Inclusion.wildcard
        · exact Or.inl (hWildcard ▸ hPattern)
        · exact Or.inr ⟨pattern, (hGiven pattern).mpr ⟨hPattern, hWildcard⟩, hMatches⟩
  rw [Checked.selects, Bool.and_eq_true, Bool.not_eq_true', ← Bool.not_eq_true, Bool.or_eq_true,
    matchesAny_iff, matchesAny_iff, hExcluded, hIncluded]
  exact ⟨fun h => ⟨h.2, h.1⟩, fun h => ⟨h.spared, h.included⟩⟩

theorem apply_eq_error_iff {error : Pattern.Error} :
    selection.apply routes = .error error ↔ selection.check = .error error := by
  simp [apply, bind_eq_error_iff, pure, Except.pure]

theorem apply_eq_ok_iff {kept : List Route} :
    selection.apply routes = .ok kept ↔
      ∃ checked, selection.check = .ok checked ∧ routes.filter (checked.selects ·.name) = kept := by
  simp only [apply, bind_eq_ok_iff, pure, Except.pure, Except.ok.injEq]

/-- Routes are refused or selected by what the patterns are, and by nothing else. -/
theorem filters_of_patterns (selection : Selection) : selection.Filters where
  refuses routes := by
    simp only [apply_eq_error_iff]
    cases hCheck : selection.check with
    | error error =>
        refine iff_of_true ⟨error, rfl⟩ ?_
        by_contra hNone
        obtain ⟨checked, hChecked⟩ := exists_check_eq_ok_iff.mpr fun pattern hPattern hMalformed =>
          hNone ⟨pattern, hPattern, hMalformed⟩
        rw [hCheck] at hChecked
        cases hChecked
    | ok checked =>
        refine iff_of_false (by simp) ?_
        rintro ⟨pattern, hPattern, hMalformed⟩
        exact exists_check_eq_ok_iff.mp ⟨checked, hCheck⟩ pattern hPattern hMalformed
  reports routes error hError := by
    rw [apply_eq_error_iff, check_eq_error_iff, mapM_eq_error_iff] at hError
    obtain ⟨before, bad, after, hCandidates, hBefore, hBad⟩ := hError
    obtain ⟨hMalformed, hShown⟩ := Pattern.isMalformed_of_check_eq_error hBad
    exact ⟨before, bad, after, hCandidates,
      fun pattern hPattern => Pattern.exists_check_eq_ok_iff.mp (hBefore pattern hPattern),
      hMalformed, hShown⟩
  keeps hWellFormed := by
    obtain ⟨checked, hChecked⟩ := exists_check_eq_ok_iff.mpr hWellFormed
    exact ⟨checked.selects, selects_iff hChecked,
      fun routes => apply_eq_ok_iff.mpr ⟨checked, hChecked, rfl⟩⟩
  together routes kept hKept first hFirst second hSecond hName := by
    obtain ⟨checked, -, rfl⟩ := apply_eq_ok_iff.mp hKept
    rw [List.mem_filter, List.mem_filter, hName]
    exact and_congr_left fun _ => iff_of_true hFirst hSecond
  markers config hConfig entries hKeys := by
    have hTexts (entries : List (String × Value)) :
        entries.map (fun entry => Pattern.text entry.1) = (entries.map Prod.fst).map .text := by
      rw [List.map_map]
      rfl
    rw [← hConfig, Config.selection, Config.selection, hTexts, hTexts, hKeys]

end Selection

end RoutePaths
