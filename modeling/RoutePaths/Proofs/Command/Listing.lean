import RoutePaths.Proofs.Command.Inspection
import RoutePaths.Proofs.Command.Regeneration
import RoutePaths.Proofs.Console.Tabbed
import RoutePaths.Proofs.Table.Routes

/-! The table of routes as another program reads it. No cell of it can hold a tab or a line
break, because no column of a route and no name can. -/
namespace RoutePaths
open Result Grid

theorem Generation.isTabular_of_mem_routes {text : String} {config : Config}
    {rule : ModuleTree.NamespaceRule} {generation : Generation}
    (hRun : Generation.run text config rule = .ok generation) :
    ∀ route ∈ generation.routes, route.IsTabular := by
  simp only [Generation.run, Selection.apply, bind_eq_ok_iff, mapError_eq_ok_iff, pure, Except.pure,
    Except.ok.injEq] at hRun
  obtain ⟨_, ⟨checked, -, rfl⟩, tree, -, files, -, rfl⟩ := hRun
  exact fun route hRoute => Table.isTabular_of_mem_routes (List.mem_of_mem_filter hRoute)

namespace Command

theorem isCell_of_isSolid {text : String} (h : Text.IsSolid text.toList) : IsCell text :=
  isCell_of_forall_mem h (by decide) (by decide)

theorem isCell_orDash {text : String} (h : IsCell text) : IsCell (orDash text) := by
  rw [orDash]
  split
  · exact isCell_of_isSolid (by decide)
  · exact h

/-- The words of an action have single spaces between them, and nothing else. -/
theorem isCell_action {route : Route} (h : route.IsTabular) : IsCell route.action := by
  obtain ⟨words, hWords, hAction⟩ := h.action
  refine isCell_of_forall_mem (p := fun c => Text.isBlank c = false ∨ c = ' ') ?_ (by decide)
    (by decide)
  rw [hAction]
  refine Splitting.forall_mem_intercalate (by simp) fun word hWord c hc => ?_
  exact Or.inl ((hWords word hWord).2 c hc)

theorem isCell_of_isIdentifier {text : String} (h : Text.isIdentifier text.toList = true) :
    IsCell text :=
  isCell_of_forall_mem (Text.isIdentifierChar_of_mem h) (by decide) (by decide)

/-- The full name of a module has identifiers with dots between them. -/
theorem isCell_dotted {layout : Layout} (hLegal : layout.IsLegal) (branch : Branch) :
    IsCell (layout.dotted branch) := by
  refine isCell_of_forall_mem (p := fun c => Text.isIdentifierChar c = true ∨ c = '.') ?_
    (by decide) (by decide)
  rw [Layout.dotted, String.toList_intercalate]
  refine Splitting.forall_mem_intercalate (by simp) ?_
  rw [List.forall_mem_map]
  exact fun part hPart c hc =>
    Or.inl (Text.isIdentifierChar_of_mem (hLegal.isIdentifier branch part hPart) c hc)

theorem isCell_of_mem_cells {tree : ModuleTree} (hLegal : tree.layout.IsLegal)
    {line : ShownRoute} (hLine : line ∈ tree.shownRoutes) (hRoute : line.route.IsTabular) :
    ∀ cell ∈ line.cells, IsCell cell := by
  obtain ⟨branch, -, route, hMem, rfl⟩ := ModuleTree.mem_shownRoutes_iff.mp hLine
  have hFunction : IsCell (branch.functionOf route).name := by
    rw [(Branch.functionOf_mem hMem).2.1]
    exact isCell_of_isIdentifier (Name.isIdentifier_of_isLegal (Function.isLegal_nameFor _ _))
  rw [ShownRoute.cells]
  simp only [List.forall_mem_cons]
  exact ⟨isCell_of_isSolid hRoute.name, isCell_orDash (isCell_of_isSolid hRoute.verb),
    isCell_of_isSolid hRoute.uri, isCell_orDash (isCell_action hRoute),
    isCell_dotted hLegal branch, hFunction, List.forall_mem_nil _⟩

variable {path : Option Path} {config : Config} {text : String} {generation : Generation}
  {words : List String} {shown : GlobalOptions} {options : InspectOptions} {around : Surroundings}

/-- What a run writes for a table of routes in plain form. -/
theorem execute_inspectRoutes (hWords : CommandLine.read? words = some (.run shown
      (.inspectRoutes options)))
    (hPlain : (shown.console around.terminal).format = .plain)
    {notices : List Notice}
    (hInspected : inspected options around = .ok (notices, config, generation)) :
    (CommandLine.execute words around).exit = 0 ∧
      (CommandLine.execute words around).out = (routeGrid generation.tree).tabbed := by
  have hRun : (Command.inspectRoutes options).run around =
      ⟨[.grid (routeGrid generation.tree)], notices, 0, around.files⟩ := by
    rw [Command.run, InspectOptions.showRoutes, hInspected]
  rw [CommandLine.execute, hWords]
  dsimp only
  rw [hRun]
  refine ⟨rfl, ?_⟩
  rw [Report.out, List.map_singleton, Console.result, Console.grid, hPlain]
  simp [String.join]

/-- The table of routes can be read back from the plain output. Under the head there is one row
for each selected route, and its six cells are what the route says, with the module and the
function that document it. -/
theorem cellsOf_execute (hWords : CommandLine.read? words = some (.run shown
      (.inspectRoutes options)))
    (hPlain : (shown.console around.terminal).format = .plain)
    (hConfig : Config.resolve around.files around.directory options.config around.configVariable
      false = .ok (path, config))
    (hText : Table.load around.files around.directory around.input options.routes = .ok text)
    (hRun : Generation.run text config ModuleTree.byController = .ok generation) :
    (CommandLine.execute words around).exit = 0 ∧
      ∃ (emitted : List (SourceFile × Module)) (rows : List ShownRoute),
        emitted.map Prod.fst = generation.files ∧
        (∀ entry ∈ emitted, generation.tree.Prints entry.1 entry.2) ∧
        ListsRoutes generation.routes emitted rows ∧
        cellsOf (CommandLine.execute words around).out =
          ["Name", "Verb", "URI", "Controller#Action", "Module", "Function"] ::
            rows.map (fun row =>
              [row.route.name, if row.route.verb = "" then "-" else row.route.verb, row.route.uri,
                if row.route.action = "" then "-" else row.route.action,
                row.module.dotted, row.function.name]) ++ [[""]] := by
  obtain ⟨notices, hInspected⟩ := exists_inspected hConfig hText hRun
  obtain ⟨hExit, hOut⟩ := execute_inspectRoutes hWords hPlain hInspected
  obtain ⟨hBuild, hFiles⟩ := Generation.build_and_files_of_run hRun
  have hHolds := ModuleTree.holds_of_build hBuild
  have hSound := ModuleTree.sound_of_build hBuild hFiles
  have hLists := ModuleTree.listsRoutes hHolds hSound
  refine ⟨hExit, generation.tree.entries, generation.tree.shownRoutes,
    ModuleTree.files_eq_map_entries hFiles, fun entry => ModuleTree.prints_of_mem_entries hFiles,
    hLists, ?_⟩
  have hRows := ModuleTree.rows_routeGrid generation.tree
  have hHead : ∀ cell ∈ ["Name", "Verb", "URI", "Controller#Action", "Module", "Function"],
      IsCell cell := by decide
  rw [hOut, cellsOf_tabbed, hRows]
  · rfl
  · rw [List.forall_mem_cons, hRows, List.forall_mem_map]
    refine ⟨⟨List.cons_ne_nil _ _, hHead⟩, fun line hLine => ⟨List.cons_ne_nil _ _, ?_⟩⟩
    refine isCell_of_mem_cells (ModuleTree.isLegal_of_build hBuild) hLine ?_
    exact Generation.isTabular_of_mem_routes hRun _
      (hLists.routes.mem_iff.mp (List.mem_map_of_mem hLine))

/-- A command line that asks for plain output. -/
def plainWords : List String :=
  ["--plain", "inspect", "routes", "--routes", "-"]

theorem cellsOf_execute_pipedTable :
    ∃ generation,
      CommandLine.read? plainWords =
        some (.run ⟨false, true, false, false, false⟩ (.inspectRoutes ⟨"-", none⟩)) ∧
      Generation.run pipedTable.input Config.default ModuleTree.byController = .ok generation ∧
      (CommandLine.execute plainWords pipedTable).exit = 0 ∧
      ∃ (emitted : List (SourceFile × Module)) (rows : List ShownRoute),
        ListsRoutes [Generation.actionRoute "admin/users#index"] emitted rows ∧
        cellsOf (CommandLine.execute plainWords pipedTable).out =
          ["Name", "Verb", "URI", "Controller#Action", "Module", "Function"] ::
            rows.map (fun row =>
              [row.route.name, if row.route.verb = "" then "-" else row.route.verb, row.route.uri,
                if row.route.action = "" then "-" else row.route.action,
                row.module.dotted, row.function.name]) ++ [[""]] := by
  have hWords : CommandLine.read? plainWords =
      some (.run ⟨false, true, false, false, false⟩ (.inspectRoutes ⟨"-", none⟩)) := by
    decide +kernel
  have hConfig : Config.resolve .empty [] none none false = .ok (none, Config.default) := rfl
  have hText : Table.load .empty [] pipedTable.input "-" = .ok pipedTable.input :=
    Table.load_standardInput _ _ (by decide +kernel) (by decide +kernel)
  obtain ⟨files, hRun, -⟩ := Generation.exists_run_adminTable
  obtain ⟨hExit, emitted, rows, -, -, hLists, hCells⟩ :=
    cellsOf_execute hWords rfl hConfig hText hRun
  exact ⟨_, hWords, hRun, hExit, emitted, rows, hLists, hCells⟩

end Command

end RoutePaths
