import RoutePaths.Selection.Basic
import RoutePaths.Proofs.Result
import RoutePaths.Proofs.Selection.Filling

/-! Excluding one route name. A pattern without a star stands for a single name,
so that exactly the routes of that name are dropped. -/
namespace RoutePaths
open Result

/-- A pattern without a star matches nothing but itself. -/
theorem Pattern.admits_iff_eq {pattern name : List Char} (h : '*' ∉ pattern) :
    Pattern.admits pattern name = true ↔ pattern = name := by
  induction pattern generalizing name with
  | nil => cases name <;> simp [admits]
  | cons p rest ih =>
      rw [List.mem_cons, not_or] at h
      rw [admits_cons_iff (Ne.symm h.1)]
      constructor
      · rintro ⟨back, rfl, hBack⟩
        rw [(ih h.2).mp hBack]
      · rintro rfl
        exact ⟨rest, rfl, (ih h.2).mpr rfl⟩

namespace Selection

/-- The selection of everything but one name. -/
def without (name : String) : Selection :=
  ⟨.one Inclusion.wildcard, [.text name]⟩

/-- If the name is a pattern of its own, the selection drops its routes and keeps
all others. -/
theorem apply_without {name : String} (hStar : '*' ∉ name.toList)
    (hFlaw : (Pattern.text name).flaw? = none) (routes : List Route) :
    (without name).apply routes = .ok (routes.filter (·.name ≠ name)) := by
  have hPattern : (Pattern.text name).check = .ok name := by
    rw [Pattern.check]
    exact hFlaw
  have hIncludes : (without name).included.patterns.mapM Pattern.check = .ok [] := rfl
  have hExcludes : (without name).excluded.mapM Pattern.check = .ok [name] :=
    mapM_eq_ok_iff.mpr (.cons hPattern .nil)
  have hCheck : (without name).check = .ok ⟨true, [], [name]⟩ := by
    rw [check, hIncludes, hExcludes]
    rfl
  rw [apply, hCheck]
  show Except.ok _ = Except.ok _
  congr 1
  apply List.filter_congr
  intro route _
  have hMatch : Pattern.admits name.toList route.name.toList = decide (route.name = name) := by
    rw [Bool.eq_iff_iff, Pattern.admits_iff_eq hStar, String.toList_inj, decide_eq_true_eq, eq_comm]
  simp [Checked.selects, matchesAny, hMatch]

end Selection

end RoutePaths
