import RoutePaths.Proofs.Module.TopLevel

/-! Import statements between the files of a tree. They are read off the lines of a
file, and what they name is found among the files that are generated together with
it. Imports of library names are left out. -/
namespace RoutePaths
open Relation Result

namespace TopLevel

/-- The full names of the modules that a statement imports, if what it imports are
modules. -/
def targets : TopLevel → List String
  | .importing none names => names
  | .importing (some package) names => names.map (package ++ "." ++ ·)
  | _ => []

theorem targets_ofImport (binding : Import) :
    (ofImport binding).targets = [".".intercalate (binding.packages ++ [binding.name])] := by
  rw [ofImport]
  split
  · rename_i hTop
    rw [hTop, List.nil_append, String.intercalate_singleton]
    rfl
  · rename_i hPackages
    rw [String.intercalate_append_of_ne_nil hPackages (List.cons_ne_nil _ _),
      String.intercalate_singleton]
    rfl

theorem targets_defining (names : List String) : (names.map defining).flatMap targets = [] := by
  rw [List.flatMap_eq_nil_iff, List.forall_mem_map]
  exact fun name _ => rfl

end TopLevel

/-- The library names that modules import. -/
def libraryTargets : List String :=
  ["__future__.annotations", "typing.NotRequired", "typing.TypedDict", "urllib.parse.quote"]

/-- The modules that a module imports, by their full names. -/
def Module.importedModules (module : Module) : List String :=
  (module.statements.flatMap TopLevel.targets).filter (· ∉ libraryTargets)

namespace Layout

variable {layout : Layout} {branch child : Branch}

/-- No child is bound by the name of a library import. -/
theorem IsLegal.dotted_not_mem_libraryTargets (hLegal : layout.IsLegal)
    (hFree : ¬ branch.Collides layout) (hChild : branch.Binds child) {name : String}
    (hPath : child.path = branch.path ++ [name]) : layout.dotted child ∉ libraryTargets := by
  intro hMem
  have hAll : ∀ target ∈ libraryTargets, ∃ name ∈ Name.reserved,
      (Name.dottedParts target).getLast? = some name := by
    decide
  obtain ⟨last, hReserved, hLast⟩ := hAll _ hMem
  rw [hLegal.dottedParts_dotted, layout.qualified_of_path_eq hPath, List.getLast?_concat,
    Option.some_inj] at hLast
  have hName : layout.name child = last := by
    rw [layout.name_of_isNamed (Branch.isNamed_of_path_eq hPath), hLast]
  have hExported : last ∈ (branch.contents layout).exports := by
    rw [← hName]
    refine List.mem_append_left _ (List.mem_map.mpr ⟨Module.importOf layout child, ?_, rfl⟩)
    exact List.mem_map.mpr ⟨child, hChild, rfl⟩
  exact (List.nodup_append'.mp (Branch.nodup_reserved_append_exports hFree)).2.2 hReserved hExported

end Layout

namespace Branch

variable {layout : Layout} {branch : Branch}

theorem flatMap_targets_imports (hGrown : branch.Grown) :
    ((branch.contents layout).imports.map TopLevel.ofImport).flatMap TopLevel.targets =
      branch.emitting.map layout.dotted := by
  have hTarget : ∀ child ∈ branch.emitting,
      (TopLevel.ofImport (Module.importOf layout child)).targets = [layout.dotted child] := by
    intro child hChild
    obtain ⟨name, hPath⟩ := Binds.exists_path hChild hGrown branch.mem_walk_self
    rw [TopLevel.targets_ofImport, layout.importOf_of_path_eq hPath, Layout.dotted,
      layout.qualified_of_path_eq hPath]
  rw [contents, List.map_map, List.flatMap_map, List.map_eq_flatMap]
  exact List.flatMap_congr hTarget

/-- A module imports exactly the modules that it binds. -/
theorem importedModules_contents (hLegal : layout.IsLegal) (hGrown : branch.Grown)
    (hFree : ¬ branch.Collides layout) :
    (branch.contents layout).importedModules = branch.emitting.map layout.dotted := by
  have hFuture : (TopLevel.targets (.importing (some "__future__") ["annotations"])).filter
      (· ∉ libraryTargets) = [] := by
    decide
  have hLibrary : ((branch.contents layout).libraryStatements.flatMap TopLevel.targets).filter
      (· ∉ libraryTargets) = [] := by
    rw [Module.libraryStatements]
    split
    · split <;> decide
    · rfl
  have hEscape : (if (branch.contents layout).hasParameters then
      [TopLevel.defining "_escape"] else []).flatMap TopLevel.targets = [] := by
    split <;> rfl
  have hFunctions : (branch.functions.flatMap fun function =>
      function.exports.map TopLevel.defining).flatMap TopLevel.targets = [] := by
    rw [List.flatMap_assoc, List.flatMap_eq_nil_iff]
    exact fun function _ => TopLevel.targets_defining function.exports
  have hChildren : (branch.emitting.map layout.dotted).filter (· ∉ libraryTargets) =
      branch.emitting.map layout.dotted := by
    rw [List.filter_eq_self, List.forall_mem_map]
    intro child hChild
    obtain ⟨name, hPath⟩ := Binds.exists_path hChild hGrown branch.mem_walk_self
    exact decide_eq_true (hLegal.dotted_not_mem_libraryTargets hFree hChild hPath)
  rw [Module.importedModules, statements_contents hLegal]
  simp only [List.flatMap_append, List.filter_append, List.flatMap_cons, List.flatMap_nil,
    List.append_nil, hFuture, hLibrary, flatMap_targets_imports hGrown, hEscape, hFunctions,
    hChildren, List.nil_append]
  exact List.append_nil _

end Branch

namespace ModuleTree

/-- The first file imports the module of the second one. -/
def Imports (importer imported : SourceFile × Module) : Prop :=
  imported.2.dotted ∈ importer.2.importedModules

/-- A package all of whose imports stay inside it. An imported module is found at the
place that its full name says. The root comes first, all other files are reached from
it, and each of them is imported by one file. -/
structure IsResolved (packages rootName : String) (emitted : List (SourceFile × Module)) : Prop where
  distinct : (emitted.map (·.2.dotted)).Nodup
  resolved : ∀ entry ∈ emitted, ∀ target ∈ entry.2.importedModules, ∃ other ∈ emitted,
    other.2.dotted = target ∧ other.1.filename = "__init__.py" ∧
      Name.dottedParts target = Name.dottedParts packages ++ other.1.directories
  reached : emitted = [] ∨ ∃ root others, emitted = root :: others ∧
    root.1.directories = [] ∧ root.1.filename = rootName ++ ".py" ∧
      ∀ entry ∈ others, entry.1.directories ≠ [] ∧
        ReflTransGen (fun importer imported => imported ∈ emitted ∧ Imports importer imported)
          root entry ∧
        ∃ importer ∈ emitted, importer ≠ entry ∧ Imports importer entry ∧
          ∀ other ∈ emitted, Imports other entry → other = importer

/-- The file of a module with the module. -/
def entryOf (layout : Layout) (branch : Branch) : SourceFile × Module :=
  (branch.file layout, branch.contents layout)

/-- The files of a tree with their modules, each before those of the child modules. -/
def entries (tree : ModuleTree) : List (SourceFile × Module) :=
  (tree.modules.filter (·.hasContent)).map (entryOf tree.layout)

variable {tree : ModuleTree} {branch other child : Branch}

theorem mem_entries_iff {entry : SourceFile × Module} :
    entry ∈ tree.entries ↔
      ∃ branch ∈ tree.modules, branch.hasContent = true ∧ entryOf tree.layout branch = entry := by
  simp only [entries, List.mem_map, List.mem_filter, and_assoc]

namespace Sound

theorem dotted_inj (h : tree.Sound) (hBranch : branch ∈ tree.modules)
    (hContent : branch.hasContent = true) (hOther : other ∈ tree.modules)
    (hOtherContent : other.hasContent = true)
    (hSame : tree.layout.dotted branch = tree.layout.dotted other) : branch = other := by
  apply h.qualified_inj hBranch hContent hOther hOtherContent
  rw [← h.legal.dottedParts_dotted, hSame, h.legal.dottedParts_dotted]

/-- Between files, import statements say what the modules bind. -/
theorem imports_iff (h : tree.Sound) (hBranch : branch ∈ tree.modules)
    (hContent : branch.hasContent = true) (hOther : other ∈ tree.modules)
    (hOtherContent : other.hasContent = true) :
    Imports (entryOf tree.layout branch) (entryOf tree.layout other) ↔ branch.Binds other := by
  have hImported := Branch.importedModules_contents h.legal (h.grown.of_mem_walk hBranch)
    (h.free branch hBranch hContent)
  rw [Imports, entryOf, entryOf, hImported]
  constructor
  · intro hMem
    obtain ⟨child, hChild, hDotted⟩ := List.mem_map.mp hMem
    have hBinds : branch.Binds child := hChild
    rw [← h.dotted_inj (hBinds.mem_walk hBranch) hBinds.hasContent.2 hOther hOtherContent hDotted]
    exact hBinds
  · exact fun hBinds => List.mem_map.mpr ⟨other, hBinds, rfl⟩

theorem nodup_dotted (h : tree.Sound) : (tree.entries.map (·.2.dotted)).Nodup := by
  have hDotted : tree.entries.map (·.2.dotted) =
      (tree.modules.filter (·.hasContent)).map tree.layout.dotted := by
    rw [entries, List.map_map]
    rfl
  rw [hDotted]
  refine List.Nodup.map_on ?_ ((List.Nodup.of_map Branch.path h.grown.nodup_paths).filter _)
  intro branch hBranch other hOther hSame
  rw [List.mem_filter] at hBranch hOther
  exact h.dotted_inj hBranch.1 hBranch.2 hOther.1 hOther.2 hSame

/-- What is imported is the module of a file, at the place that its full name says. -/
theorem exists_imported (h : tree.Sound) (hBranch : branch ∈ tree.modules)
    (hContent : branch.hasContent = true) {target : String}
    (hTarget : target ∈ (branch.contents tree.layout).importedModules) :
    ∃ other ∈ tree.entries, other.2.dotted = target ∧ other.1.filename = "__init__.py" ∧
      Name.dottedParts target = tree.layout.packages ++ other.1.directories := by
  have hGrown := h.grown.of_mem_walk hBranch
  rw [Branch.importedModules_contents h.legal hGrown (h.free branch hBranch hContent)] at hTarget
  obtain ⟨child, hChild, rfl⟩ := List.mem_map.mp hTarget
  have hBinds : branch.Binds child := hChild
  obtain ⟨name, hPath⟩ := hBinds.exists_path h.grown hBranch
  have hNe : child.path ≠ [] := by
    rw [hPath]
    exact List.append_ne_nil_of_right_ne_nil _ (List.cons_ne_nil _ _)
  refine ⟨entryOf tree.layout child, ?_, rfl, ?_, ?_⟩
  · exact mem_entries_iff.mpr ⟨child, hBinds.mem_walk hBranch, hBinds.hasContent.2, rfl⟩
  · show tree.layout.filename child = "__init__.py"
    rw [Branch.filename_eq, if_neg hNe]
  · show _ = _ ++ Layout.directories child
    rw [h.legal.dottedParts_dotted, Layout.qualified_eq, if_neg hNe, Branch.directories_eq_path]

/-- Import statements lead from the root to all files. -/
theorem reaches_entry (h : tree.Sound) (hReaches : ReflTransGen Branch.Binds tree.root branch) :
    ReflTransGen (fun importer imported => imported ∈ tree.entries ∧ Imports importer imported)
      (entryOf tree.layout tree.root) (entryOf tree.layout branch) := by
  induction hReaches with
  | refl => exact .refl
  | @tail parent child hParent hBinds ih =>
      have hMem := Branch.mem_walk_of_reaches tree.root.mem_walk_self hParent
      have hContent := hBinds.hasContent
      refine ih.tail ⟨mem_entries_iff.mpr ⟨child, hBinds.mem_walk hMem, hContent.2, rfl⟩, ?_⟩
      exact (h.imports_iff hMem hContent.1 (hBinds.mem_walk hMem) hContent.2).mpr hBinds

/-- A file other than the root is imported by the file of the module that binds its
own, and by no other. -/
theorem exists_importer (h : tree.Sound) (hBranch : branch ∈ tree.modules)
    (hContent : branch.hasContent = true) (hNe : branch ≠ tree.root) :
    ∃ importer ∈ tree.entries, importer ≠ entryOf tree.layout branch ∧
      Imports importer (entryOf tree.layout branch) ∧
      ∀ other ∈ tree.entries, Imports other (entryOf tree.layout branch) → other = importer := by
  obtain ⟨parent, hParent, hBinds⟩ := Branch.exists_binds hBranch hContent hNe
  have hParentContent := hBinds.hasContent.1
  refine ⟨entryOf tree.layout parent,
    mem_entries_iff.mpr ⟨parent, hParent, hParentContent, rfl⟩, ?_,
    (h.imports_iff hParent hParentContent hBranch hContent).mpr hBinds, ?_⟩
  · intro hSame
    have hDotted : tree.layout.dotted parent = tree.layout.dotted branch :=
      congrArg (·.2.dotted) hSame
    obtain ⟨name, hPath⟩ := hBinds.exists_path h.grown hParent
    rw [h.dotted_inj hParent hParentContent hBranch hContent hDotted] at hPath
    exact List.cons_ne_nil _ _ (List.self_eq_append_right.mp hPath)
  · intro other hOther hImports
    obtain ⟨importer, hImporter, hImporterContent, rfl⟩ := mem_entries_iff.mp hOther
    have hOtherBinds := (h.imports_iff hImporter hImporterContent hBranch hContent).mp hImports
    rw [Branch.Binds.unique h.grown hImporter hParent hOtherBinds hBinds]

/-- The root comes first, if there is a file at all. -/
theorem entries_cases (h : tree.Sound) :
    tree.entries = [] ∨ ∃ others, tree.entries = entryOf tree.layout tree.root :: others ∧
      ∀ entry ∈ others, ∃ branch ∈ tree.modules, branch.hasContent = true ∧
        branch.path ≠ [] ∧ entryOf tree.layout branch = entry := by
  obtain ⟨rest, hWalk⟩ : ∃ rest, tree.root.walk = tree.root :: rest := by
    cases tree.root
    exact ⟨_, Branch.walk_node _ _ _⟩
  have hPaths := h.grown.nodup_paths
  rw [hWalk, List.map_cons, List.nodup_cons, h.top] at hPaths
  have hModules : tree.modules = tree.root :: rest := hWalk
  cases hContent : tree.root.hasContent with
  | false =>
      refine Or.inl (List.map_eq_nil_iff.mpr (List.filter_eq_nil_iff.mpr ?_))
      intro branch hBranch hSome
      rw [Branch.hasContent_of_mem_walk hBranch hSome] at hContent
      cases hContent
  | true =>
      refine Or.inr ⟨(rest.filter (·.hasContent)).map (entryOf tree.layout), ?_, ?_⟩
      · rw [entries, hModules, List.filter_cons_of_pos hContent, List.map_cons]
      · intro entry hEntry
        obtain ⟨branch, hBranch, rfl⟩ := List.mem_map.mp hEntry
        obtain ⟨hRest, hSome⟩ := List.mem_filter.mp hBranch
        refine ⟨branch, ?_, hSome, ?_, rfl⟩
        · rw [hModules]
          exact List.mem_cons_of_mem _ hRest
        · intro hTop
          exact hPaths.1 (List.mem_map.mpr ⟨branch, hRest, hTop⟩)

theorem isResolved (h : tree.Sound) {packages : String}
    (hPackages : tree.layout.packages = Name.dottedParts packages) :
    IsResolved packages tree.layout.rootName tree.entries where
  distinct := h.nodup_dotted
  resolved := by
    intro entry hEntry target hTarget
    obtain ⟨branch, hBranch, hContent, rfl⟩ := mem_entries_iff.mp hEntry
    rw [← hPackages]
    exact h.exists_imported hBranch hContent hTarget
  reached := by
    refine h.entries_cases.imp_right ?_
    rintro ⟨others, hEntries, hOthers⟩
    refine ⟨_, others, hEntries, ?_, ?_, ?_⟩
    · show Layout.directories tree.root = []
      rw [Branch.directories_eq_path, h.top]
    · show tree.layout.filename tree.root = _
      rw [Branch.filename_eq, if_pos h.top]
    · intro entry hEntry
      obtain ⟨branch, hBranch, hContent, hPath, rfl⟩ := hOthers entry hEntry
      have hNe : branch ≠ tree.root := by
        rintro rfl
        exact hPath h.top
      refine ⟨?_, h.reaches_entry (Branch.reaches_of_mem_walk hBranch hContent),
        h.exists_importer hBranch hContent hNe⟩
      show Layout.directories branch ≠ []
      rwa [Branch.directories_eq_path]

end Sound

/-- A row of a namespace inside another one that has no row of its own. -/
def nestedRow : Route :=
  ⟨"users", "GET", "/users", [.literal "users"], "admin/reports/users#index", 2, false⟩

def nestedTree : ModuleTree :=
  ⟨⟨["myapp"], "Routes"⟩,
    .node [] [] [.node ["admin"] [] [.node ["admin", "reports"] [nestedRow] []]]⟩

end ModuleTree

end RoutePaths
