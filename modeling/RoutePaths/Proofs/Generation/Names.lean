import RoutePaths.Proofs.Generation.Row
import RoutePaths.Proofs.Module.Names

/-! The names in the files for a table. Whatever the text of the table is, what is
defined in a file has a legal name. Names of modules are legal too, except that
words of a namespace may become keywords when their first letters are put in upper
case. Nothing is done about that. -/
namespace RoutePaths
open Result

namespace ModuleTree

variable {rule : NamespaceRule} {tree : ModuleTree} {routes : List Route} {branch : Branch}

/-- The names on the path of a module with content come from the namespace of a
route. -/
theorem Holds.exists_parts (h : Holds rule tree.root routes) (hBranch : branch ∈ tree.modules)
    (hContent : branch.hasContent = true) {name : String} (hName : name ∈ branch.path) :
    ∃ route ∈ routes, ∃ parts, rule route = .ok parts ∧ name ∈ parts.map Name.pascal := by
  obtain ⟨route, hRoute, deeper, hTarget⟩ := (h.hasContent_iff hBranch).mp hContent
  obtain ⟨parts, hRule, hParts⟩ := target?_eq_some_iff.mp hTarget
  refine ⟨route, hRoute, parts, hRule, ?_⟩
  rw [hParts]
  exact List.mem_append_left _ hName

/-- All names in the namespace of a route are imported by some module. -/
theorem Holds.exists_importedNames (h : Holds rule tree.root routes) {route : Route}
    (hRoute : route ∈ routes) :
    ∃ parts, rule route = .ok parts ∧ ∀ name ∈ parts.map Name.pascal,
      ∃ branch ∈ tree.modules, branch.hasContent = true ∧
        name ∈ (branch.contents tree.layout).importedNames := by
  have hAll : route ∈ tree.root.allRoutes := h.all.mem_iff.mpr hRoute
  obtain ⟨other, hOther, hMem⟩ := List.mem_flatMap.mp hAll
  have hContent : other.hasContent = true :=
    Branch.hasContent_iff.mpr ⟨other, other.mem_walk_self, List.ne_nil_of_mem hMem⟩
  have hTarget := hMem
  rw [h.routes_eq hOther, List.mem_filter, decide_eq_true_eq] at hTarget
  obtain ⟨parts, hRule, hParts⟩ := target?_eq_some_iff.mp hTarget.2
  refine ⟨parts, hRule, fun name hName => ?_⟩
  rw [hParts] at hName
  rcases Branch.exists_binds_of_mem_path h.grown tree.root.mem_walk_self
    (Branch.reaches_of_mem_walk hOther hContent) name hName with
    hNone | ⟨parent, hParent, child, hBinds, hPath⟩
  · rw [h.path_root] at hNone
    exact absurd hNone List.not_mem_nil
  · refine ⟨parent, hParent, hBinds.hasContent.1, ?_⟩
    refine (Branch.mem_importedNames_iff (h.grown.of_mem_walk hParent)).mpr
      ⟨child, hBinds, Or.inr ?_⟩
    rw [hPath]
    exact List.mem_append_right _ (List.mem_singleton_self name)

end ModuleTree

namespace Generation

variable {text : String} {config : Config} {rule : ModuleTree.NamespaceRule}
  {generation : Generation}

/-- What is generated is the tree of the selected routes, with its files. -/
theorem build_and_files_of_run (hRun : run text config rule = .ok generation) :
    ModuleTree.build config.packages config.moduleName rule generation.routes =
        .ok generation.tree ∧
      generation.tree.files = .ok generation.files := by
  simp only [run, bind_eq_ok_iff, mapError_eq_ok_iff, pure, Except.pure, Except.ok.injEq] at hRun
  obtain ⟨_, -, tree, hBuild, files, hFiles, rfl⟩ := hRun
  exact ⟨hBuild, hFiles⟩

/-- In all files for a table, what is defined has a legal name. A name that is
imported is legal, or it is one of three keywords and comes from the namespace of a
route. All names that a namespace gives are imported. -/
theorem names_of_run (hRun : run text config rule = .ok generation) :
    (∀ file ∈ generation.files, ∃ module, generation.tree.Prints file module ∧
      (∀ name ∈ module.definedNames, Name.isLegal name = true) ∧
      ∀ name ∈ module.importedNames, Name.isLegal name = true ∨
        name ∈ Name.capitalKeywords ∧
          ∃ route ∈ generation.routes, ∃ parts, rule route = .ok parts ∧
            name ∈ parts.map Name.pascal) ∧
    ∀ route ∈ generation.routes, ∃ parts, rule route = .ok parts ∧
      ∀ name ∈ parts.map Name.pascal, ∃ file ∈ generation.files, ∃ module,
        generation.tree.Prints file module ∧ name ∈ module.importedNames := by
  obtain ⟨hBuild, hFiles⟩ := build_and_files_of_run hRun
  have hHolds := ModuleTree.holds_of_build hBuild
  have hLegal := ModuleTree.isLegal_of_build hBuild
  constructor
  · intro file hFile
    obtain ⟨branch, hBranch, hContent, rfl⟩ := (ModuleTree.mem_files_iff hFiles).mp hFile
    refine ⟨_, ModuleTree.prints_file hFiles hBranch hContent,
      branch.isLegal_of_mem_definedNames _, fun name hName => ?_⟩
    obtain ⟨child, hBinds, hPackage | hPath⟩ :=
      (Branch.mem_importedNames_iff (hHolds.grown.of_mem_walk hBranch)).mp hName
    · exact Or.inl (hLegal.packages name hPackage)
    · obtain ⟨component, -, rfl⟩ := List.mem_map.mp hPath
      by_cases hKeyword : Name.pascal component ∈ Name.capitalKeywords
      · refine Or.inr ⟨hKeyword, ?_⟩
        exact hHolds.exists_parts (hBinds.mem_walk hBranch) hBinds.hasContent.2 hPath
      · exact Or.inl (Name.isLegal_pascal_iff.mpr hKeyword)
  · intro route hRoute
    obtain ⟨parts, hRule, hNames⟩ := hHolds.exists_importedNames hRoute
    refine ⟨parts, hRule, fun name hName => ?_⟩
    obtain ⟨branch, hBranch, hContent, hImported⟩ := hNames name hName
    exact ⟨_, (ModuleTree.mem_files_iff hFiles).mpr ⟨branch, hBranch, hContent, rfl⟩, _,
      ModuleTree.prints_file hFiles hBranch hContent, hImported⟩

/-- A row with the given action. -/
def actionEntry (action : String) : Table.Entry :=
  ⟨some "users", "GET", "/users", [action]⟩

def actionLine (action : String) : String :=
  " users GET /users " ++ action

def actionRoute (action : String) : Route :=
  ⟨"users", "GET", "/users", [.literal "users"], action, 2, false⟩

theorem run_actionLine {action : String} (hValid : (actionEntry action).IsValid)
    (hPrints : (actionEntry action).Prints (actionLine action)) {parts : List String}
    (hRule : ModuleTree.namespaceOfAction action.toList = .ok parts) {files : List SourceFile}
    (hFiles : (rowTree (actionRoute action) parts).files = .ok files) :
    run (rowTable (actionLine action)) Config.default ModuleTree.byController =
      .ok ⟨[], [actionRoute action], rowTree (actionRoute action) parts, files⟩ :=
  run_row hValid hPrints rfl read_users rfl hRule hFiles

/-- A table with a row of an ordinary namespace. -/
def adminTable : String :=
  rowTable (actionLine "admin/users#index")

theorem exists_run_adminTable :
    ∃ files, run adminTable Config.default ModuleTree.byController =
        .ok ⟨[], [actionRoute "admin/users#index"],
          rowTree (actionRoute "admin/users#index") ["admin"], files⟩ ∧
      files.map (·.directories) = [[], ["Admin"]] := by
  have hValid : (actionEntry "admin/users#index").IsValid :=
    ⟨by decide, by decide, by decide, by decide, ⟨_, read_users⟩, by decide, by decide,
      by decide⟩
  have hPrints : (actionEntry "admin/users#index").Prints (actionLine "admin/users#index") :=
    ⟨1, _, .more _ 0 (.more _ 0 (.more _ 0 (.last _))), by decide⟩
  obtain ⟨files, hFiles⟩ := exists_eq_ok_of_isOk
    (by decide : (rowTree (actionRoute "admin/users#index") ["admin"]).files.isOk = true)
  refine ⟨files, run_actionLine hValid hPrints rfl hFiles, ?_⟩
  rw [← (ModuleTree.files_eq_ok_iff.mp hFiles).2, List.map_map]
  decide

/-- Names of an ordinary namespace. -/
theorem names_of_run_admin :
    ∃ generation,
      run (rowTable (actionLine "admin/users#index")) Config.default ModuleTree.byController =
        .ok generation ∧
      generation.files.map (·.directories) = [[], ["Admin"]] ∧
      (∀ file ∈ generation.files, ∃ module, generation.tree.Prints file module ∧
        (∀ name ∈ module.definedNames, Name.isLegal name = true) ∧
        ∀ name ∈ module.importedNames, Name.isLegal name = true ∨
          name ∈ Name.capitalKeywords ∧
            ∃ route ∈ generation.routes, ∃ parts, ModuleTree.byController route = .ok parts ∧
              name ∈ parts.map Name.pascal) := by
  have hValid : (actionEntry "admin/users#index").IsValid :=
    ⟨by decide, by decide, by decide, by decide, ⟨_, read_users⟩, by decide, by decide,
      by decide⟩
  have hPrints : (actionEntry "admin/users#index").Prints (actionLine "admin/users#index") :=
    ⟨1, _, .more _ 0 (.more _ 0 (.more _ 0 (.last _))), by decide⟩
  obtain ⟨files, hFiles⟩ := exists_eq_ok_of_isOk
    (by decide : (rowTree (actionRoute "admin/users#index") ["admin"]).files.isOk = true)
  have hRun := run_actionLine hValid hPrints rfl hFiles
  refine ⟨_, hRun, ?_, (names_of_run hRun).1⟩
  show files.map (·.directories) = _
  rw [← (ModuleTree.files_eq_ok_iff.mp hFiles).2, List.map_map]
  decide

/-- A namespace whose word becomes a keyword is imported by that name. -/
theorem exists_illegal_import :
    ∃ generation,
      run (rowTable (actionLine "none/users#index")) Config.default ModuleTree.byController =
        .ok generation ∧
      ∃ file ∈ generation.files, ∃ module, generation.tree.Prints file module ∧
        "import None" ∈ module.lines ∧ "None" ∈ module.importedNames ∧
        Name.isLegal "None" = false := by
  have hValid : (actionEntry "none/users#index").IsValid :=
    ⟨by decide, by decide, by decide, by decide, ⟨_, read_users⟩, by decide, by decide,
      by decide⟩
  have hPrints : (actionEntry "none/users#index").Prints (actionLine "none/users#index") :=
    ⟨1, _, .more _ 0 (.more _ 0 (.more _ 0 (.last _))), by decide⟩
  obtain ⟨files, hFiles⟩ := exists_eq_ok_of_isOk
    (by decide : (rowTree (actionRoute "none/users#index") ["none"]).files.isOk = true)
  have hTop := Branch.mem_walk_self (rowTree (actionRoute "none/users#index") ["none"]).root
  have hContent : (rowTree (actionRoute "none/users#index") ["none"]).root.hasContent = true := rfl
  refine ⟨_, run_actionLine hValid hPrints rfl hFiles, _,
    (ModuleTree.mem_files_iff hFiles).mpr ⟨_, hTop, hContent, rfl⟩, _,
    ModuleTree.prints_file hFiles hTop hContent, ?_, ?_, by decide⟩
  · decide
  · decide

end Generation

end RoutePaths
