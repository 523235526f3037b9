import RoutePaths.Module.Grouping
import RoutePaths.Proofs.Table.Columns
import RoutePaths.Table.Basic

/-! The routes of a table. Whatever the text of the table is, each of its routes
has a name, is what its URI is read as, and holds no blank where a column cannot
hold one. -/
namespace RoutePaths
open Text

/-- A route that can stand in a table. -/
structure Route.IsTabular (route : Route) : Prop where
  named : route.name ≠ ""
  name : IsSolid route.name.toList
  verb : IsSolid route.verb.toList
  uri : IsSolid route.uri.toList
  segments : Template.read route.uri = .ok route.segments
  action : ∃ words, (∀ word ∈ words, IsWord word) ∧
    route.action.toList = [' '].intercalate words

namespace Table

/-- A name that rows may inherit. -/
def Inheritable (lastName : Option String) : Prop :=
  ∀ name, lastName = some name → name ≠ "" ∧ IsSolid name.toList

variable {lastName : Option String} {number : Nat} {line : String}

/-- The name of a row is its own one or the inherited one. -/
theorem inheritable_of_columns {columns : Row.Columns} (hColumns : columns.IsTabular)
    (hLast : Inheritable lastName) :
    Inheritable (if columns.name = "" then lastName else some columns.name) := by
  split
  · exact hLast
  · rename_i hName
    rintro name ⟨⟩
    exact ⟨hName, hColumns.name⟩

theorem Inheritable.nextName (hLast : Inheritable lastName) (line : String) :
    Inheritable (nextName lastName line) := by
  unfold Table.nextName
  split
  · exact hLast
  · split
    · rename_i columns hRead
      exact inheritable_of_columns (Row.isTabular_of_read hRead) hLast
    · exact hLast

theorem isTabular_of_ofColumns {columns : Row.Columns} {route : Route}
    (hColumns : columns.IsTabular) (hLast : Inheritable lastName)
    (hRoute : ofColumns lastName number line columns = .accepted route) : route.IsTabular := by
  unfold ofColumns at hRoute
  split at hRoute
  · cases hRoute
  · rename_i name hName
    split at hRoute
    · cases hRoute
    · rename_i segments hSegments
      cases hRoute
      obtain ⟨hNamed, hSolid⟩ := inheritable_of_columns hColumns hLast name hName
      exact ⟨hNamed, hSolid, hColumns.verb, hColumns.uri, hSegments, hColumns.action⟩

theorem isTabular_of_readLine {route : Route} (hLast : Inheritable lastName)
    (hRoute : readLine lastName number line = .accepted route) : route.IsTabular := by
  unfold readLine at hRoute
  split at hRoute
  · cases hRoute
  · split at hRoute
    · rename_i columns hRead
      exact isTabular_of_ofColumns (Row.isTabular_of_read hRead) hLast hRoute
    · cases hRoute

theorem isTabular_of_outcomes {lines : List String} (hLast : Inheritable lastName) {route : Route}
    (hRoute : .accepted route ∈ outcomes lastName number lines) : route.IsTabular := by
  induction lines generalizing lastName number with
  | nil => cases hRoute
  | cons line rest ih =>
      rw [outcomes] at hRoute
      rcases List.mem_cons.mp hRoute with hFirst | hRest
      · exact isTabular_of_readLine hLast hFirst.symm
      · exact ih (hLast.nextName line) hRest

/-- All routes of a table are of that form, whatever its text is. -/
theorem isTabular_of_mem_routes {text : String} {route : Route}
    (hRoute : route ∈ (read text).routes) : route.IsTabular := by
  obtain ⟨outcome, hOutcome, hAccepted⟩ := List.mem_filterMap.mp hRoute
  cases outcome with
  | skipped => cases hAccepted
  | rejected diagnostic => cases hAccepted
  | accepted other =>
      cases hAccepted
      exact isTabular_of_outcomes (by rintro name ⟨⟩) hOutcome

end Table

namespace ModuleTree

/-- The action of such a route always says which namespace the route has. -/
theorem exists_byController {route : Route} (h : route.IsTabular) :
    ∃ parts, byController route = .ok parts := by
  obtain ⟨words, hWords, hAction⟩ := h.action
  rw [byController, namespaceOfAction, hAction, words_intercalate hWords]
  split
  · exact ⟨[], rfl⟩
  · rename_i hSome
    cases words with
    | nil => exact absurd rfl hSome
    | cons target others =>
        dsimp only
        split
        · exact ⟨_, rfl⟩
        · exact ⟨[], rfl⟩

end ModuleTree

end RoutePaths
