import RoutePaths.Generation
import RoutePaths.Proofs.Module.Growth
import RoutePaths.Proofs.Table.Printing
import RoutePaths.Proofs.Uri.Derivation

/-! Tables of one row. With the settings of a project that has chosen nothing, the
files for such a table are those of the tree that holds its route alone. -/
namespace RoutePaths.Generation

/-- The tree of one route, which has the given namespace. -/
def rowTree (route : Route) (parts : List String) : ModuleTree :=
  ⟨⟨[], "Routes"⟩, ModuleTree.emptyRoot.insert route parts⟩

/-- The table of one line behind its header. -/
def rowTable (line : String) : String :=
  Table.print "Prefix Verb URI Pattern Controller#Action" [line] true

theorem read_users : Template.read "/users" = .ok [.literal "users"] := by
  have hDerives : Template.Derivation.Derives ⟨.sequence [] [.literal "users".toList], false⟩
      "/users".toList := by
    decide
  exact hDerives.read

theorem apply_default (routes : List Route) :
    Config.default.selection.apply routes = .ok routes := by
  have hCheck : Config.default.selection.check = .ok ⟨true, [], []⟩ := rfl
  rw [Selection.apply, hCheck]
  show Except.ok _ = _
  congr 1
  exact List.filter_eq_self.mpr fun route _ => rfl

theorem build_row {rule : ModuleTree.NamespaceRule} {route : Route} {parts : List String}
    (hRule : rule route = .ok parts) :
    ModuleTree.build Config.default.packages Config.default.moduleName rule [route] =
      .ok (rowTree route parts) := by
  have hLayout : ModuleTree.layout? Config.default.packages Config.default.moduleName =
      .ok ⟨[], "Routes"⟩ := rfl
  have hGrow : ModuleTree.grow rule [] ModuleTree.emptyRoot [route] =
      .ok (rowTree route parts).root :=
    ModuleTree.grow_cons_eq_ok_iff.mpr ⟨rfl, parts, hRule, rfl⟩
  rw [ModuleTree.build, hLayout, hGrow]
  rfl

/-- A row that prints its own name is generated like any other. -/
theorem run_row {entry : Table.Entry} {name line : String} {segments : List Segment}
    (hValid : entry.IsValid) (hPrints : entry.Prints line) (hName : entry.name? = some name)
    (hSegments : Template.read entry.uri = .ok segments) {rule : ModuleTree.NamespaceRule}
    {route : Route} (hRoute : route =
      ⟨name, entry.verb, entry.uri, segments, " ".intercalate entry.action, 2, false⟩)
    {parts : List String} (hRule : rule route = .ok parts) {files : List SourceFile}
    (hFiles : (rowTree route parts).files = .ok files) :
    run (rowTable line) Config.default rule = .ok ⟨[], [route], rowTree route parts, files⟩ := by
  have hOwn : (entry.name? <|> none) = some name := by rw [hName]; rfl
  have hLine : Table.readLine none 2 line = .accepted route := by
    rw [hPrints.readLine_eq hValid hOwn hSegments 2, hRoute, hName]
    rfl
  have hOutcomes : Table.outcomes none 2 [line] = [route].map .accepted := by
    rw [Table.outcomes, hLine]
    rfl
  have hLines : ∀ row ∈ [line], row.toList ≠ [] ∧ Text.IsOneLine row.toList := by
    rw [List.forall_mem_singleton]
    exact ⟨hPrints.ne_nil hValid, hPrints.isOneLine hValid⟩
  have hRead : Table.read (rowTable line) = ⟨[route], []⟩ :=
    Table.read_print_of_outcomes (by decide) hLines hOutcomes true
  simp only [run, hRead, apply_default, build_row hRule, hFiles, Except.mapError, bind, Except.bind,
    pure, Except.pure]

end RoutePaths.Generation
