import RoutePaths.Proofs.Module.Location
import RoutePaths.Proofs.Module.Spelling

/-! Where the routes of a table end up. Every route is documented once, in the
file of the module that the rule sends it to, and in table order. Rules are
arbitrary: rows of different modules may alternate in any way. -/
namespace RoutePaths
open Firsts Result

namespace Function

theorem name_forGroup (nameOf : Route → String) (rows : List Route) (first : Route) :
    (forGroup (RouteGroup.ofFirst nameOf rows first)).name = nameOf first :=
  rfl

theorem routes_forGroup {nameOf : Route → String} {rows : List Route} {first : Route}
    (hFirst : first ∈ firsts nameOf rows) :
    (forGroup (RouteGroup.ofFirst nameOf rows first)).routes =
      rows.filter (nameOf · = nameOf first) :=
  RouteGroup.first_cons_others hFirst

end Function

namespace Branch

variable {branch : Branch} {function : Function}

theorem mem_functions_iff :
    function ∈ branch.functions ↔
      ∃ first ∈ branch.firstRows,
        Function.forGroup (RouteGroup.ofFirst branch.functionName branch.routes first) =
          function := by
  rw [functions, RouteGroup.groupsOf, List.map_map, List.mem_map]
  rfl

theorem map_route_functions : branch.functions.map (·.route) = branch.firstRows := by
  rw [functions, List.map_map]
  exact RouteGroup.map_first_groupsOf

/-- The function for a row: the one of the first row of its function name. -/
def functionOf (branch : Branch) (row : Route) : Function :=
  Function.forGroup (RouteGroup.ofFirst branch.functionName branch.routes
    ((branch.routes.find? (branch.functionName · = branch.functionName row)).getD row))

theorem functionOf_first {first row : Route} (hFirst : first ∈ branch.firstRows)
    (hName : branch.functionName first = branch.functionName row) :
    branch.functionOf row =
      Function.forGroup (RouteGroup.ofFirst branch.functionName branch.routes first) := by
  have hFind := (mem_firsts_iff branch.functionName).mp hFirst
  rw [hName] at hFind
  rw [functionOf, hFind, Option.getD_some]

/-- Every row is documented in a function of its module, which has its function name. -/
theorem functionOf_mem {row : Route} (hRow : row ∈ branch.routes) :
    branch.functionOf row ∈ branch.functions ∧
      (branch.functionOf row).name = branch.functionName row ∧
      row ∈ (branch.functionOf row).routes := by
  obtain ⟨first, hFirst, hName⟩ := exists_mem_firsts branch.functionName hRow
  rw [functionOf_first hFirst hName, Function.name_forGroup, Function.routes_forGroup hFirst]
  refine ⟨mem_functions_iff.mpr ⟨first, hFirst, rfl⟩, hName, ?_⟩
  exact List.mem_filter.mpr ⟨hRow, by simpa using hName.symm⟩

/-- Rows of one function name have one function. -/
theorem functionOf_congr {row other : Route} (hRow : row ∈ branch.routes)
    (hName : branch.functionName row = branch.functionName other) :
    branch.functionOf row = branch.functionOf other := by
  obtain ⟨first, hFirst, hFirstName⟩ := exists_mem_firsts branch.functionName hRow
  rw [functionOf_first hFirst hFirstName, functionOf_first hFirst (hFirstName.trans hName)]

/-- Every function is that of some row. -/
theorem exists_functionOf (hFunction : function ∈ branch.functions) :
    ∃ row ∈ branch.routes, branch.functionOf row = function := by
  obtain ⟨first, hFirst, rfl⟩ := mem_functions_iff.mp hFunction
  exact ⟨first, mem_of_mem_firsts _ hFirst, functionOf_first hFirst rfl⟩

/-- The functions of a module document its rows. -/
theorem perm_routes_functions (branch : Branch) :
    (branch.functions.flatMap Function.routes).Perm branch.routes := by
  have hFunctions : branch.functions.flatMap Function.routes =
      (firsts branch.functionName branch.routes).flatMap fun first =>
        branch.routes.filter (branch.functionName · = branch.functionName first) := by
    rw [functions, RouteGroup.groupsOf, List.map_map, List.flatMap_map]
    exact List.flatMap_congr fun first hFirst => Function.routes_forGroup hFirst
  rw [hFunctions]
  exact perm_flatMap_firsts branch.functionName branch.routes

theorem sublist_routes (hFunction : function ∈ branch.functions) :
    function.routes.Sublist branch.routes := by
  obtain ⟨first, hFirst, rfl⟩ := mem_functions_iff.mp hFunction
  rw [Function.routes_forGroup hFirst]
  exact List.filter_sublist

/-- Without a collision, all rows of a function repeat the first one. -/
theorem repeats_of_mem_others (hRows : ¬ branch.RowsCollide)
    (hFunction : function ∈ branch.functions) {row : Route} (hRow : row ∈ function.others) :
    RouteGroup.Repeats row function.route := by
  obtain ⟨first, hFirst, rfl⟩ := mem_functions_iff.mp hFunction
  exact (not_rowsCollide_iff.mp hRows).repeats hFirst hRow

/-- The directories of a file are the path of its module. -/
theorem directories_eq_path (branch : Branch) : Layout.directories branch = branch.path := by
  rw [Layout.directories]
  split
  · rename_i hRoot
    rw [isRoot, decide_eq_true_eq] at hRoot
    rw [path, hRoot]
    rfl
  · rfl

theorem filename_eq (layout : Layout) (branch : Branch) :
    layout.filename branch =
      if branch.path = [] then layout.rootName ++ ".py" else "__init__.py" := by
  simp [Layout.filename, isRoot, path]

end Branch

namespace ModuleTree

/-- What a file says about the routes of a table. It is the printed form of a
module, in which the docstring of each function has a line for each of its
routes. They are routes of the table that the rule sends to the directories of
the file; those behind the first one took over its name, and have its path. -/
structure Documents (rule : NamespaceRule) (rootName : String) (routes : List Route)
    (file : SourceFile) (module : Module) : Prop where
  content : file.content = module.print
  filename : file.filename = if file.directories = [] then rootName ++ ".py" else "__init__.py"
  lines : ∀ function ∈ module.functions,
    function.docLines = ["    " ++ Function.docQuote ++ Function.summary function.route, ""] ++
      function.routes.map (fun route => "    " ++ Function.docLine route) ++
      ["    " ++ Function.docQuote]
  placed : ∀ function ∈ module.functions, ∀ route ∈ function.routes,
    ∃ parts, rule route = .ok parts ∧ file.directories = parts.map Name.pascal
  repeated : ∀ function ∈ module.functions, ∀ route ∈ function.others,
    route.inherited = true ∧ function.route.name = route.name ∧
      function.route.segments = route.segments
  rowOrder : ∀ function ∈ module.functions, function.routes.Sublist routes
  functionOrder : (module.functions.map (·.route)).Sublist routes

variable {rule : NamespaceRule} {tree : ModuleTree} {routes : List Route}

theorem documents_file (h : Holds rule tree.root routes) {branch : Branch}
    (hBranch : branch ∈ tree.modules) (hFree : ¬ branch.Collides tree.layout) :
    Documents rule tree.layout.rootName routes (branch.file tree.layout)
      (branch.contents tree.layout) := by
  have hRoutes := h.routes_eq hBranch
  have hSublist : branch.routes.Sublist routes := by
    rw [hRoutes]
    exact List.filter_sublist
  refine ⟨?_, ?_, ?_, ?_, ?_, ?_, ?_⟩
  · rw [Branch.file]
  · show tree.layout.filename branch = if Layout.directories branch = [] then _ else _
    rw [Branch.directories_eq_path, Branch.filename_eq]
  · intro function _
    rw [Function.docLines]
  · intro function hFunction route hRoute
    have hMem := (Branch.sublist_routes hFunction).subset hRoute
    rw [hRoutes, List.mem_filter, decide_eq_true_eq] at hMem
    obtain ⟨parts, hRule, hPath⟩ := target?_eq_some_iff.mp hMem.2
    exact ⟨parts, hRule, (Branch.directories_eq_path branch).trans hPath.symm⟩
  · intro function hFunction route hRoute
    exact Branch.repeats_of_mem_others (fun hRows => hFree (Or.inl hRows)) hFunction hRoute
  · intro function hFunction
    exact (Branch.sublist_routes hFunction).trans hSublist
  · show (branch.functions.map (·.route)).Sublist routes
    rw [Branch.map_route_functions]
    exact (firsts_sublist _ _).trans hSublist

/-- Together, the modules that have content document all routes of the tree. -/
theorem perm_documented (h : Holds rule tree.root routes) :
    ((tree.modules.filter (·.hasContent)).flatMap
      fun branch => branch.functions.flatMap Function.routes).Perm routes := by
  have hContent : (tree.modules.filter (·.hasContent)).flatMap Branch.routes =
      tree.root.allRoutes := by
    rw [Branch.allRoutes, ← modules]
    generalize tree.modules = branches
    induction branches with
    | nil => rfl
    | cons branch rest ih =>
        cases hBranch : branch.hasContent with
        | true => rw [List.filter_cons_of_pos hBranch, List.flatMap_cons, List.flatMap_cons, ih]
        | false =>
            have hEmpty : branch.routes = [] := by
              by_contra hNe
              have hContent := Branch.hasContent_iff.mpr ⟨branch, branch.mem_walk_self, hNe⟩
              rw [hBranch] at hContent
              cases hContent
            rw [List.filter_cons_of_neg (by simp [hBranch]), List.flatMap_cons, hEmpty,
              List.nil_append, ih]
  refine (List.Perm.flatMap_left _ fun branch _ => branch.perm_routes_functions).trans ?_
  rw [hContent]
  exact h.all

/-- There is a file in a directory exactly if the rule sends a route there or further
down. -/
theorem mem_directories_iff {packages rootName : String} {files : List SourceFile}
    (hBuild : build packages rootName rule routes = .ok tree) (hFiles : tree.files = .ok files)
    {directories : List String} :
    directories ∈ files.map (·.directories) ↔
      ∃ row ∈ routes, ∃ names, target? rule row = some names ∧ directories <+: names := by
  have hHolds := holds_of_build hBuild
  have hPath (branch : Branch) : (branch.file tree.layout).directories = branch.path :=
    branch.directories_eq_path
  rw [List.mem_map]
  simp only [mem_files_iff hFiles]
  constructor
  · rintro ⟨_, ⟨branch, hBranch, hContent, rfl⟩, rfl⟩
    obtain ⟨row, hRow, deeper, hTarget⟩ := (hHolds.hasContent_iff hBranch).mp hContent
    exact ⟨row, hRow, _, hTarget, by rw [hPath]; exact List.prefix_append _ _⟩
  · rintro ⟨row, hRow, names, hTarget, hPrefix⟩
    obtain ⟨parts, hRule, rfl⟩ := target?_eq_some_iff.mp hTarget
    obtain ⟨front, hFront, rfl⟩ := List.prefix_map_iff.mp hPrefix
    obtain ⟨branch, hBranch, hSame⟩ := hHolds.exists_path_eq hRow hRule hFront
    obtain ⟨deeper, hDeeper⟩ := hPrefix
    refine ⟨_, ⟨branch, hBranch, ?_, rfl⟩, by rw [hPath, hSame]⟩
    exact (hHolds.hasContent_iff hBranch).mpr ⟨row, hRow, deeper, by rw [hTarget, hSame, hDeeper]⟩

/-- Rows of two modules that alternate. The last one is a further verb of the
first. -/
def alternatingRows : List Route :=
  [⟨"reports", "GET", "/reports", [.literal "reports"], "reports#index", 1, false⟩,
    ⟨"admin_users", "GET", "/admin/users", [.literal "admin", .literal "users"],
      "admin/users#index", 2, false⟩,
    ⟨"reports", "POST", "/reports", [.literal "reports"], "reports#create", 3, true⟩]

def alternatingTree : ModuleTree :=
  ⟨⟨[], "Routes"⟩, .node [] [alternatingRows[0], alternatingRows[2]]
    [.node ["admin"] [alternatingRows[1]] []]⟩

end ModuleTree

end RoutePaths
