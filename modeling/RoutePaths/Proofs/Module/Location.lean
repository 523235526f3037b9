import RoutePaths.Proofs.Module.Collisions
import RoutePaths.Proofs.Module.Content
import RoutePaths.Proofs.Name.Dotted
import Mathlib.Logic.Relation

/-! Where modules live, and how their parents bind them. The full name of a module
is its path behind the packages of the layout. Only the root module has a name that
is in no path. -/
namespace RoutePaths
open Relation Result

namespace Layout

/-- All names in the layout are legal. -/
structure IsLegal (layout : Layout) : Prop where
  rootName : Name.isLegal layout.rootName = true
  packages : ∀ part ∈ layout.packages, Name.isLegal part = true

variable (layout : Layout) {branch : Branch} {base : List String} {name : String}

theorem qualified_eq (branch : Branch) :
    layout.qualified branch =
      layout.packages ++ if branch.path = [] then [layout.rootName] else branch.path := by
  simp [Layout.qualified, Branch.isRoot, Branch.path]

/-- The full name of a module that is not the root. -/
theorem qualified_of_path_eq (h : branch.path = base ++ [name]) :
    layout.qualified branch = layout.packages ++ base ++ [name] := by
  have hNe : branch.path ≠ [] := by
    rw [h]
    exact List.append_ne_nil_of_right_ne_nil _ (List.cons_ne_nil _ _)
  rw [qualified_eq, if_neg hNe, h, List.append_assoc]

theorem name_mem_qualified (branch : Branch) : layout.name branch ∈ layout.qualified branch := by
  have hNe : layout.qualified branch ≠ [] := by
    rw [qualified_eq]
    split
    · exact List.append_ne_nil_of_right_ne_nil _ (List.cons_ne_nil _ _)
    · rename_i hPath
      exact List.append_ne_nil_of_right_ne_nil _ hPath
  rw [Layout.name, List.getLastD_eq_getLast?, List.getLast?_eq_getLast_of_ne_nil hNe]
  exact List.getLast_mem hNe

/-- A module is bound by its own name, out of the package that its parent is. -/
theorem importOf_of_path_eq (h : branch.path = base ++ [name]) :
    Module.importOf layout branch = ⟨layout.packages ++ base, name⟩ := by
  rw [Module.importOf, layout.name_of_isNamed (Branch.isNamed_of_path_eq h),
    layout.qualified_of_path_eq h, List.dropLast_concat]

end Layout

namespace ModuleTree

/-- The file is the one of a module of the tree. -/
def Prints (tree : ModuleTree) (file : SourceFile) (module : Module) : Prop :=
  ∃ branch ∈ tree.modules, SourceFile.ofBranch tree.layout branch = .ok file ∧
    Module.ofBranch tree.layout branch = .ok module ∧ file.content = module.print

theorem mem_files_iff {tree : ModuleTree} {files : List SourceFile} (hFiles : tree.files = .ok files)
    {file : SourceFile} :
    file ∈ files ↔
      ∃ branch ∈ tree.modules, branch.hasContent = true ∧ branch.file tree.layout = file := by
  rw [← (files_eq_ok_iff.mp hFiles).2, List.mem_map]
  simp only [List.mem_filter, and_assoc]

theorem prints_file {tree : ModuleTree} {files : List SourceFile} (hFiles : tree.files = .ok files)
    {branch : Branch} (hBranch : branch ∈ tree.modules) (hContent : branch.hasContent = true) :
    tree.Prints (branch.file tree.layout) (branch.contents tree.layout) := by
  have hFree := (files_eq_ok_iff.mp hFiles).1 branch hBranch hContent
  exact ⟨branch, hBranch, SourceFile.ofBranch_eq_ok_iff.mpr ⟨hFree, rfl⟩,
    Module.ofBranch_eq_ok_iff.mpr ⟨hFree, rfl⟩, by rw [Branch.file]⟩

theorem layout?_eq_ok_iff {packages rootName : String} {layout : Layout} :
    layout? packages rootName = .ok layout ↔
      Name.isLegal rootName = true ∧ Name.isDotted packages = true ∧
        ⟨Name.dottedParts packages, rootName⟩ = layout := by
  rw [layout?, Name.dottedParts]
  cases Name.isLegal rootName with
  | false => simp
  | true =>
      cases Name.isDotted packages with
      | false => simp
      | true => simp

variable {packages rootName : String} {rule : NamespaceRule} {routes : List Route}
  {tree : ModuleTree}

theorem layout_of_build (hBuild : build packages rootName rule routes = .ok tree) :
    layout? packages rootName = .ok tree.layout := by
  simp only [build, bind_eq_ok_iff, pure, Except.pure, Except.ok.injEq] at hBuild
  obtain ⟨layout, hLayout, root, -, rfl⟩ := hBuild
  exact hLayout

theorem rootName_of_build (hBuild : build packages rootName rule routes = .ok tree) :
    tree.layout.rootName = rootName := by
  obtain ⟨-, -, hLayout⟩ := layout?_eq_ok_iff.mp (layout_of_build hBuild)
  rw [← hLayout]

theorem packages_of_build (hBuild : build packages rootName rule routes = .ok tree) :
    tree.layout.packages = Name.dottedParts packages := by
  obtain ⟨-, -, hLayout⟩ := layout?_eq_ok_iff.mp (layout_of_build hBuild)
  rw [← hLayout]

theorem isLegal_of_build (hBuild : build packages rootName rule routes = .ok tree) :
    tree.layout.IsLegal := by
  obtain ⟨hRootName, hPackages, hLayout⟩ := layout?_eq_ok_iff.mp (layout_of_build hBuild)
  rw [← hLayout]
  exact ⟨hRootName, Name.isDotted_iff.mp hPackages⟩

end ModuleTree

namespace Branch

/-- The one module binds the other. -/
def Binds (parent child : Branch) : Prop :=
  child ∈ parent.emitting

theorem binds_iff {parent child : Branch} :
    parent.Binds child ↔ child ∈ parent.children ∧ child.hasContent = true :=
  List.mem_filter

theorem Binds.hasContent {parent child : Branch} (h : parent.Binds child) :
    parent.hasContent = true ∧ child.hasContent = true := by
  obtain ⟨hChild, hContent⟩ := binds_iff.mp h
  exact ⟨hasContent_of_mem_children hChild hContent, hContent⟩

theorem Binds.mem_walk {top parent child : Branch} (h : parent.Binds child)
    (hParent : parent ∈ top.walk) : child ∈ top.walk :=
  mem_walk_trans hParent (mem_walk_of_mem_children (binds_iff.mp h).1)

/-- Below a module that has grown, a child is bound by the last component of its
path. -/
theorem Binds.exists_path {top parent child : Branch} (h : parent.Binds child)
    (hGrown : top.Grown) (hParent : parent ∈ top.walk) :
    ∃ name, child.path = parent.path ++ [name] :=
  (hGrown.of_mem_walk hParent).exists_path_child (binds_iff.mp h).1

theorem hasContent_of_mem_walk {branch other : Branch} (hOther : other ∈ branch.walk)
    (hContent : other.hasContent = true) : branch.hasContent = true := by
  obtain ⟨deepest, hDeepest, hRoutes⟩ := hasContent_iff.mp hContent
  exact hasContent_iff.mpr ⟨deepest, mem_walk_trans hOther hDeepest, hRoutes⟩

/-- Following bindings from a module leads to every module below it that has
content. -/
theorem reaches_of_mem_walk {branch other : Branch} (hOther : other ∈ branch.walk)
    (hContent : other.hasContent = true) : ReflTransGen Binds branch other := by
  induction branch using induction_on_children with
  | node parts routes children ih =>
      rw [walk_node] at hOther
      rcases List.mem_cons.mp hOther with rfl | hOther
      · exact .refl
      · obtain ⟨child, hChild, hBelow⟩ := List.mem_flatMap.mp hOther
        refine .head (binds_iff.mpr ⟨hChild, ?_⟩) (ih child hChild hBelow)
        exact hasContent_of_mem_walk hBelow hContent

theorem mem_walk_of_reaches {top branch other : Branch} (hBranch : branch ∈ top.walk)
    (hReaches : ReflTransGen Binds branch other) : other ∈ top.walk := by
  induction hReaches with
  | refl => exact hBranch
  | tail _ hBinds ih => exact hBinds.mem_walk ih

/-- Every component of a path is the name by which some module binds a child. -/
theorem exists_binds_of_mem_path {top branch other : Branch} (hGrown : top.Grown)
    (hBranch : branch ∈ top.walk) (hReaches : ReflTransGen Binds branch other) :
    ∀ name ∈ other.path, name ∈ branch.path ∨
      ∃ parent ∈ top.walk, ∃ child, parent.Binds child ∧ child.path = parent.path ++ [name] := by
  induction hReaches with
  | refl => exact fun name hName => Or.inl hName
  | @tail parent child hParent hBinds ih =>
      have hMem := mem_walk_of_reaches hBranch hParent
      obtain ⟨last, hPath⟩ := hBinds.exists_path hGrown hMem
      intro name hName
      rw [hPath, List.mem_append, List.mem_singleton] at hName
      rcases hName with hName | rfl
      · exact ih name hName
      · exact Or.inr ⟨parent, hMem, child, hBinds, hPath⟩

variable {top branch other child : Branch}

theorem eq_of_path_eq (hGrown : top.Grown) (hBranch : branch ∈ top.walk) (hOther : other ∈ top.walk)
    (hPath : branch.path = other.path) : branch = other :=
  List.inj_on_of_nodup_map hGrown.nodup_paths hBranch hOther hPath

/-- A module is bound by one module only. -/
theorem Binds.unique (hGrown : top.Grown) (hBranch : branch ∈ top.walk) (hOther : other ∈ top.walk)
    (hFirst : branch.Binds child) (hSecond : other.Binds child) : branch = other := by
  obtain ⟨name, hPath⟩ := hFirst.exists_path hGrown hBranch
  obtain ⟨last, hSame⟩ := hSecond.exists_path hGrown hOther
  rw [hPath] at hSame
  exact eq_of_path_eq hGrown hBranch hOther (List.append_inj' hSame rfl).1

/-- Every module but the top one is bound. -/
theorem exists_binds (hOther : other ∈ top.walk) (hContent : other.hasContent = true)
    (hNe : other ≠ top) : ∃ parent ∈ top.walk, parent.Binds other := by
  rcases (reaches_of_mem_walk hOther hContent).cases_tail with rfl | ⟨parent, hParent, hBinds⟩
  · exact absurd rfl hNe
  · exact ⟨parent, mem_walk_of_reaches top.mem_walk_self hParent, hBinds⟩

end Branch

namespace ModuleTree

/-- A tree of modules that can be generated: nothing in it collides, and its layout
is made of legal names. -/
structure Sound (tree : ModuleTree) : Prop where
  top : tree.root.path = []
  grown : tree.root.Grown
  legal : tree.layout.IsLegal
  free : ∀ branch ∈ tree.modules, branch.hasContent = true → ¬ branch.Collides tree.layout

theorem sound_of_build {packages rootName : String} {rule : NamespaceRule} {routes : List Route}
    {tree : ModuleTree} {files : List SourceFile}
    (hBuild : build packages rootName rule routes = .ok tree) (hFiles : tree.files = .ok files) :
    tree.Sound where
  top := (holds_of_build hBuild).path_root
  grown := (holds_of_build hBuild).grown
  legal := isLegal_of_build hBuild
  free := (files_eq_ok_iff.mp hFiles).1

namespace Sound

variable {tree : ModuleTree} {branch other : Branch}

/-- No child of the root has the name of the root. -/
theorem path_ne_rootName (h : tree.Sound) (hBranch : branch ∈ tree.modules)
    (hContent : branch.hasContent = true) : branch.path ≠ [tree.layout.rootName] := by
  intro hPath
  have hNe : branch ≠ tree.root := by
    rintro rfl
    rw [h.top] at hPath
    cases hPath
  obtain ⟨parent, hParent, hBinds⟩ := Branch.exists_binds hBranch hContent hNe
  obtain ⟨name, hName⟩ := hBinds.exists_path h.grown hParent
  rw [hPath] at hName
  have hTop : parent.path = [] := (List.append_inj' (hName.symm.trans (List.nil_append _).symm) rfl).1
  have hRoot : parent = tree.root :=
    Branch.eq_of_path_eq h.grown hParent tree.root.mem_walk_self (hTop.trans h.top.symm)
  have hCollides : parent.RootCollides tree.layout := by
    refine ⟨?_, branch, hBinds, ?_⟩
    · rw [Branch.isRoot, decide_eq_true_eq]
      exact List.map_eq_nil_iff.mp hTop
    · rw [Layout.name, Layout.name, Layout.qualified_eq, Layout.qualified_eq, hPath, hTop]
      rfl
  exact h.free parent hParent hBinds.hasContent.1 (Or.inr (Or.inr (Or.inl hCollides)))

/-- No two modules with content have the same full name. -/
theorem qualified_inj (h : tree.Sound) (hBranch : branch ∈ tree.modules)
    (hContent : branch.hasContent = true) (hOther : other ∈ tree.modules)
    (hOtherContent : other.hasContent = true)
    (hSame : tree.layout.qualified branch = tree.layout.qualified other) : branch = other := by
  rw [Layout.qualified_eq, Layout.qualified_eq, List.append_cancel_left_eq] at hSame
  apply Branch.eq_of_path_eq h.grown hBranch hOther
  split at hSame
  · rename_i hTop
    split at hSame
    · rename_i hOtherTop
      rw [hTop, hOtherTop]
    · exact absurd hSame.symm (h.path_ne_rootName hOther hOtherContent)
  · split at hSame
    · exact absurd hSame (h.path_ne_rootName hBranch hContent)
    · exact hSame

end Sound

end ModuleTree

end RoutePaths
