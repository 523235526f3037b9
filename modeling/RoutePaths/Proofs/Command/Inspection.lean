import RoutePaths.Command.Run
import RoutePaths.Proofs.Console.Outline
import RoutePaths.Proofs.Generation.Names
import RoutePaths.Proofs.Module.Documentation
import RoutePaths.Proofs.Module.Imports
import RoutePaths.Proofs.Splitting

/-! What is shown is what is generated. The commands that inspect a table go through the
modules on their own, and never look at a file; the names that they show are those of the
functions in the files all the same. -/
namespace RoutePaths
open Result

namespace Command

/-- The line of the table for a route: its module, and the function that documents it. -/
structure ShownRoute where
  route : Route
  module : Module
  function : Function

namespace ShownRoute

/-- The cells of the line. -/
def cells (shown : ShownRoute) : List String :=
  [shown.route.name, orDash shown.route.verb, shown.route.uri, orDash shown.route.action,
    shown.module.dotted, shown.function.name]

/-- The docstring of the function has a line for the verb and the URI of the route. -/
def IsDocumented (shown : ShownRoute) : Prop :=
  ∃ action, "    " ++ code ((if shown.route.verb = "" then "ANY" else shown.route.verb) ++
    " " ++ docText shown.route.uri) ++ action ∈ shown.function.docLines

end ShownRoute

/-- Lines of a table that agree with the files. Each route has a line, with a function of a
file that documents it; the names of a module and a function stand for one function only; and
no function is left out. -/
structure ListsRoutes (routes : List Route) (emitted : List (SourceFile × Module))
    (shown : List ShownRoute) : Prop where
  routes : (shown.map (·.route)).Perm routes
  defined : ∀ line ∈ shown,
    (∃ file, (file, line.module) ∈ emitted) ∧ line.function ∈ line.module.functions
  documented : ∀ line ∈ shown, line.IsDocumented
  determined : ∀ first ∈ shown, ∀ second ∈ shown, first.module.dotted = second.module.dotted →
    first.function.name = second.function.name →
      first.module = second.module ∧ first.function = second.function
  complete : ∀ entry ∈ emitted, ∀ function ∈ entry.2.functions,
    ∃ line ∈ shown, line.module = entry.2 ∧ line.function = function

/-- The labels for a file: that of its module, which tells where the file is, and those of the
functions in it. -/
def sectionOf (sourceDirectory : String) (entry : SourceFile × Module) : String × List String :=
  (entry.2.dotted ++ " (" ++ "/".intercalate (withoutEndSlashes sourceDirectory ::
      entry.1.directories ++ [entry.1.filename]) ++ ")",
    entry.2.functions.map fun function => function.name ++ "()")

end Command

namespace ModuleTree

/-- The lines for the routes of a tree. -/
def shownRoutes (tree : ModuleTree) : List Command.ShownRoute :=
  tree.modules.flatMap fun branch => branch.routes.map fun route =>
    ⟨route, branch.contents tree.layout, branch.functionOf route⟩

variable {tree : ModuleTree} {rule : NamespaceRule} {routes : List Route}

theorem mem_shownRoutes_iff {line : Command.ShownRoute} :
    line ∈ tree.shownRoutes ↔ ∃ branch ∈ tree.modules, ∃ route ∈ branch.routes,
      (⟨route, branch.contents tree.layout, branch.functionOf route⟩ : Command.ShownRoute) = line := by
  simp only [shownRoutes, List.mem_flatMap, List.mem_map]

theorem map_route_shownRoutes (tree : ModuleTree) :
    tree.shownRoutes.map (·.route) = tree.root.allRoutes := by
  rw [shownRoutes, List.map_flatMap]
  refine List.flatMap_congr fun branch _ => ?_
  rw [List.map_map]
  exact List.map_id _

/-- The table has these lines. -/
theorem rows_routeGrid (tree : ModuleTree) :
    (Command.routeGrid tree).rows = tree.shownRoutes.map Command.ShownRoute.cells := by
  rw [Command.routeGrid, shownRoutes, List.map_flatMap]
  refine List.flatMap_congr fun branch _ => ?_
  rw [List.map_map]
  refine List.map_congr_left fun route hRoute => ?_
  have hName := (Branch.functionOf_mem hRoute).2.1
  rw [Function.comp_apply, Command.ShownRoute.cells, hName]
  rfl

theorem isDocumented_of_mem {line : Command.ShownRoute} (h : line.route ∈ line.function.routes) :
    line.IsDocumented := by
  refine ⟨if line.route.action = "" then ""
    else " -> " ++ code (docText line.route.action), ?_⟩
  rw [Function.docLines, List.mem_append, List.mem_append]
  refine Or.inl (Or.inr (List.mem_map.mpr ⟨line.route, h, ?_⟩))
  rw [Function.docLine]
  simp only [String.append_assoc]

theorem listsRoutes (h : Holds rule tree.root routes) (hSound : tree.Sound) :
    Command.ListsRoutes routes tree.entries tree.shownRoutes := by
  have hContent {branch : Branch} {route : Route} (hRoute : route ∈ branch.routes) :
      branch.hasContent = true :=
    Branch.hasContent_iff.mpr ⟨branch, branch.mem_walk_self, List.ne_nil_of_mem hRoute⟩
  refine ⟨?_, ?_, ?_, ?_, ?_⟩
  · rw [map_route_shownRoutes]
    exact h.all
  · intro line hLine
    obtain ⟨branch, hBranch, route, hRoute, rfl⟩ := mem_shownRoutes_iff.mp hLine
    refine ⟨⟨branch.file tree.layout, ?_⟩, (Branch.functionOf_mem hRoute).1⟩
    exact mem_entries_iff.mpr ⟨branch, hBranch, hContent hRoute, rfl⟩
  · intro line hLine
    obtain ⟨branch, -, route, hRoute, rfl⟩ := mem_shownRoutes_iff.mp hLine
    exact isDocumented_of_mem (Branch.functionOf_mem hRoute).2.2
  · intro first hFirst second hSecond hModule hFunction
    obtain ⟨branch, hBranch, route, hRoute, rfl⟩ := mem_shownRoutes_iff.mp hFirst
    obtain ⟨other, hOther, row, hRow, rfl⟩ := mem_shownRoutes_iff.mp hSecond
    obtain rfl := hSound.dotted_inj hBranch (hContent hRoute) hOther (hContent hRow) hModule
    have hName : branch.functionName route = branch.functionName row := by
      rw [← (Branch.functionOf_mem hRoute).2.1, ← (Branch.functionOf_mem hRow).2.1]
      exact hFunction
    exact ⟨rfl, Branch.functionOf_congr hRoute hName⟩
  · intro entry hEntry function hFunction
    obtain ⟨branch, hBranch, -, rfl⟩ := mem_entries_iff.mp hEntry
    obtain ⟨row, hRow, rfl⟩ := Branch.exists_functionOf hFunction
    exact ⟨_, mem_shownRoutes_iff.mpr ⟨branch, hBranch, row, hRow, rfl⟩, rfl, rfl⟩

/-- The labels for a module. -/
def branchSection (sourceDirectory : String) (layout : Layout) (branch : Branch) :
    String × List String :=
  (layout.dotted branch ++ " (" ++ Command.location sourceDirectory layout branch ++ ")",
    (Command.functionNames layout branch).map (· ++ "()"))

/-- A location ends as the names of generated files do. -/
theorem suffix_location (sourceDirectory : String) (layout : Layout) (branch : Branch) :
    ".py".toList <:+ (Command.location sourceDirectory layout branch).toList := by
  have hFile : ".py".toList <:+ (layout.filename branch).toList := by
    rw [Layout.filename]
    split
    · rw [String.toList_append]
      exact List.suffix_append _ _
    · decide
  refine hFile.trans ?_
  rw [Command.location, String.toList_intercalate, List.map_append, List.map_singleton]
  exact Splitting.suffix_intercalate_concat _ _ _

/-- The label of a module is never taken for that of a function. -/
theorem isFunction_moduleOutline (sourceDirectory : String) (layout : Layout) (branch : Branch) :
    (Command.moduleOutline sourceDirectory layout branch).isFunction = false := by
  have hLabel (lead location : List Char) (hLocation : ".py".toList <:+ location) :
      ¬ "()".toList <:+ lead ++ location ++ [')'] := by
    obtain ⟨front, rfl⟩ := hLocation
    have hEnd : ".py)".toList <:+ lead ++ (front ++ ".py".toList) ++ [')'] :=
      ⟨lead ++ front, by simp⟩
    intro hSuffix
    exact absurd (List.suffix_of_suffix_length_le hSuffix hEnd (by decide)) (by decide)
  obtain ⟨parts, routes, children⟩ := branch
  rw [Command.moduleOutline, Outline.isFunction, Outline.label, ← Bool.not_eq_true,
    List.isSuffixOf_iff_suffix, String.toList_append, String.toList_append]
  exact hLabel _ _ (suffix_location sourceDirectory layout _)

theorem moduleOutlines_eq_map {sourceDirectory : String} {layout : Layout} {branches : List Branch}
    (h : ∀ child ∈ branches, child.hasContent = true) :
    Command.moduleOutlines sourceDirectory layout branches =
      branches.map (Command.moduleOutline sourceDirectory layout) := by
  induction branches with
  | nil => rfl
  | cons child rest ih =>
      rw [List.forall_mem_cons] at h
      rw [Command.moduleOutlines, if_pos h.1, ih h.2, List.map_cons]

/-- The outline of a module has the labels of all modules of its walk. -/
theorem sections_moduleOutline {branch : Branch} (h : branch.Filled) (sourceDirectory : String)
    (layout : Layout) :
    (Command.moduleOutline sourceDirectory layout branch).sections =
      branch.walk.map (branchSection sourceDirectory layout) := by
  induction h with
  | @node parts routes children content below ih =>
      rw [Command.moduleOutline, moduleOutlines_eq_map content, Outline.sections_node, List.map_map,
        List.flatMap_map, Branch.walk_node, List.map_cons, List.map_flatMap]
      · refine congrArg₂ List.cons ?_ (List.flatMap_congr ih)
        rw [branchSection]
        rfl
      · simp only [List.forall_mem_map]
        exact fun child _ => isFunction_moduleOutline sourceDirectory layout child
      · simp only [List.forall_mem_map]
        intro name _
        rw [Outline.isFunction, Outline.label, List.isSuffixOf_iff_suffix, String.toList_append]
        exact List.suffix_append _ _

/-- The labels for a module of a sound tree are those for its file. -/
theorem branchSection_eq (h : tree.Sound) {branch : Branch} (hBranch : branch ∈ tree.modules)
    (hContent : branch.hasContent = true) (sourceDirectory : String) :
    branchSection sourceDirectory tree.layout branch =
      Command.sectionOf sourceDirectory (entryOf tree.layout branch) := by
  have hModule : Module.ofBranch tree.layout branch = .ok (branch.contents tree.layout) :=
    Module.ofBranch_eq_ok_iff.mpr ⟨h.free branch hBranch hContent, rfl⟩
  have hNames : Command.functionNames tree.layout branch =
      (branch.contents tree.layout).functions.map (·.name) := by
    rw [Command.functionNames, hModule]
  rw [branchSection, hNames, List.map_map]
  rfl

/-- The outline of a tree has the labels of all files, in their order. -/
theorem sections_outline (h : tree.Sound) (hFilled : tree.root.Filled)
    (hContent : tree.root.hasContent = true) (sourceDirectory : String) :
    (Command.moduleOutline sourceDirectory tree.layout tree.root).sections =
      tree.entries.map (Command.sectionOf sourceDirectory) := by
  have hModules : tree.modules.filter (·.hasContent) = tree.modules := hFilled.filter_walk hContent
  rw [sections_moduleOutline hFilled, entries, hModules, List.map_map]
  refine List.map_congr_left fun branch hBranch => ?_
  exact branchSection_eq h hBranch (hFilled.hasContent_of_mem_walk hContent hBranch) sourceDirectory

theorem files_eq_map_entries {files : List SourceFile} (hFiles : tree.files = .ok files) :
    tree.entries.map Prod.fst = files := by
  rw [entries, List.map_map, ← (files_eq_ok_iff.mp hFiles).2]
  rfl

theorem prints_of_mem_entries {files : List SourceFile} (hFiles : tree.files = .ok files)
    {entry : SourceFile × Module} (hEntry : entry ∈ tree.entries) :
    tree.Prints entry.1 entry.2 := by
  obtain ⟨branch, hBranch, hContent, rfl⟩ := mem_entries_iff.mp hEntry
  exact prints_file hFiles hBranch hContent

end ModuleTree

namespace Command

variable {path : Option Path} {config : Config} {text : String} {generation : Generation}

/-- The commands get to the generation, whatever messages they have for it. -/
theorem exists_inspected {options : InspectOptions} {around : Surroundings}
    (hConfig : Config.resolve around.files around.directory options.config around.configVariable
      false = .ok (path, config))
    (hText : Table.load around.files around.directory around.input options.routes = .ok text)
    (hRun : Generation.run text config ModuleTree.byController = .ok generation) :
    ∃ notices, inspected options around = .ok (notices, config, generation) := by
  rw [inspected, hConfig]
  dsimp only
  rw [hText]
  dsimp only
  rw [hRun]
  exact ⟨_, rfl⟩

/-- A table at the standard input, in a place without settings. -/
def pipedTable : Surroundings :=
  ⟨.empty, [], none, Generation.adminTable, ⟨false, false, none⟩⟩

end Command

end RoutePaths
