import RoutePaths.Module.File
import RoutePaths.Proofs.Module.Claims
import RoutePaths.Proofs.Module.Groups
import Mathlib.Data.List.Perm.Subperm

/-! When generation reports a collision. What makes a module collide is said of
the rows and the child modules alone, without the order in which names are
claimed. -/
namespace RoutePaths
open Firsts Result

namespace Layout

variable (layout : Layout) {first second : Branch}

/-- Where a module lives is decided by its namespace. -/
theorem qualified_congr (h : first.namespaceOf = second.namespaceOf) :
    layout.qualified first = layout.qualified second := by
  have hRoot : first.isRoot = second.isRoot := by rw [Branch.isRoot, Branch.isRoot, h]
  have hPath : first.path = second.path := by rw [Branch.path, Branch.path, h]
  rw [Layout.qualified, Layout.qualified, hRoot, hPath]

theorem name_congr (h : first.namespaceOf = second.namespaceOf) :
    layout.name first = layout.name second := by
  rw [Layout.name, Layout.name, layout.qualified_congr h]

theorem dotted_congr (h : first.namespaceOf = second.namespaceOf) :
    layout.dotted first = layout.dotted second := by
  rw [Layout.dotted, Layout.dotted, layout.qualified_congr h]

theorem importOf_congr (h : first.namespaceOf = second.namespaceOf) :
    Module.importOf layout first = Module.importOf layout second := by
  rw [Module.importOf, Module.importOf, layout.qualified_congr h, layout.name_congr h]

end Layout

namespace Branch

theorem functionName_congr {first second : Branch} (h : first.namespaceOf = second.namespaceOf) :
    first.functionName = second.functionName := by
  funext route
  rw [functionName, functionName, h]

/-- The rows that functions are generated for: the first one of each function
name. -/
def firstRows (branch : Branch) : List Route :=
  firsts branch.functionName branch.routes

/-- The class for the parameters of the function of a row. There is none
without a dynamic segment. -/
def className? (branch : Branch) (route : Route) : Option String :=
  if Segment.names route.segments = [] then none
  else some (Name.pascal (branch.functionName route) ++ "Params")

theorem className?_congr {first second : Branch} (h : first.namespaceOf = second.namespaceOf) :
    first.className? = second.className? := by
  funext route
  rw [className?, className?, functionName_congr h]

/-- A row has the function name of an earlier one, and does not repeat the
first row of that name. -/
def RowsCollide (branch : Branch) : Prop :=
  ∃ before row after first, branch.routes = before ++ row :: after ∧
    before.find? (branch.functionName · = branch.functionName row) = some first ∧
    ¬ (row.inherited = true ∧ first.name = row.name ∧ first.segments = row.segments)

/-- Two dynamic segments of a function need parameters of one name. -/
def ParametersCollide (branch : Branch) : Prop :=
  ∃ first ∈ branch.firstRows, ¬ (Function.parameterNames first.segments).Nodup

/-- A child of the root module has the name of the root module. -/
def RootCollides (layout : Layout) (branch : Branch) : Prop :=
  branch.isRoot = true ∧ ∃ child ∈ branch.emitting, layout.name child = layout.name branch

/-- All names that are bound in a module: the helpers, the child modules, the
functions, and the classes for their parameters. -/
def boundNames (layout : Layout) (branch : Branch) : List String :=
  Name.reserved ++ branch.emitting.map layout.name ++ branch.firstRows.map branch.functionName ++
    branch.firstRows.filterMap branch.className?

/-- Something in the module collides. -/
def Collides (layout : Layout) (branch : Branch) : Prop :=
  branch.RowsCollide ∨ branch.ParametersCollide ∨ branch.RootCollides layout ∨
    ¬ (branch.boundNames layout).Nodup

theorem not_rowsCollide_iff {branch : Branch} :
    ¬ branch.RowsCollide ↔ RouteGroup.Agree branch.functionName branch.routes := by
  constructor
  · intro h before row after first hSplit hFirst
    by_contra hNot
    exact h ⟨before, row, after, first, hSplit, hFirst, hNot⟩
  · rintro hAgree ⟨before, row, after, first, hSplit, hFirst, hNot⟩
    exact hNot (hAgree before row after first hSplit hFirst)

theorem not_parametersCollide_iff {branch : Branch} :
    ¬ branch.ParametersCollide ↔
      ∀ group ∈ RouteGroup.groupsOf branch.functionName branch.routes,
        (Function.parameterNames group.first.segments).Nodup := by
  simp only [ParametersCollide, not_exists, not_and, not_not]
  rw [firstRows, ← RouteGroup.map_first_groupsOf, List.forall_mem_map]

theorem not_rootCollides_iff {layout : Layout} {branch : Branch} :
    ¬ branch.RootCollides layout ↔
      ∀ child ∈ branch.emitting,
        ¬ (branch.isRoot = true ∧ layout.name child = layout.name branch) := by
  simp only [RootCollides, not_and, not_exists]
  constructor
  · intro h child hChild hRoot
    exact h hRoot child hChild
  · intro h hRoot child hChild
    exact h child hChild hRoot

/-- In a module that has no rows and no children but those of another, nothing collides
unless something does in the other one. -/
theorem not_collides_of_sublist {layout : Layout} {whole branch : Branch}
    (hNamespace : branch.namespaceOf = whole.namespaceOf)
    (hAgree : RouteGroup.Agree branch.functionName branch.routes)
    (hRows : branch.firstRows.Sublist whole.firstRows)
    (hNames : (branch.emitting.map layout.name).Subperm (whole.emitting.map layout.name))
    (hFree : ¬ whole.Collides layout) : ¬ branch.Collides layout := by
  have hBound : (branch.boundNames layout).Subperm (whole.boundNames layout) := by
    rw [boundNames, boundNames, className?_congr hNamespace, functionName_congr hNamespace]
    refine List.Subperm.append (List.Subperm.append (List.Subperm.append ?_ hNames) ?_) ?_
    · exact List.Subperm.refl _
    · exact (hRows.map _).subperm
    · exact (hRows.filterMap _).subperm
  simp only [Collides, not_or, not_not] at hFree ⊢
  obtain ⟨-, hParameters, hRoot, hDistinct⟩ := hFree
  obtain ⟨left, hPerm, hSublist⟩ := hBound
  refine ⟨not_rowsCollide_iff.mpr hAgree, ?_, ?_, hPerm.nodup_iff.mp (hDistinct.sublist hSublist)⟩
  · rintro ⟨first, hFirst, hRepeated⟩
    exact hParameters ⟨first, hRows.subset hFirst, hRepeated⟩
  · rintro ⟨hTop, child, hChild, hName⟩
    obtain ⟨other, hOther, hSame⟩ := List.mem_map.mp (hNames.subset (List.mem_map_of_mem hChild))
    refine hRoot ⟨by rwa [isRoot, hNamespace] at hTop, other, hOther, ?_⟩
    rw [hSame, hName, layout.name_congr hNamespace]

/-- The functions of a module, whether or not something in it collides. -/
def functions (branch : Branch) : List Function :=
  (RouteGroup.groupsOf branch.functionName branch.routes).map Function.forGroup

/-- What the function of a row claims are its class and its name. -/
theorem map_fst_entries (branch : Branch) (first : Route) :
    (Function.entries (Function.forGroup
        (RouteGroup.ofFirst branch.functionName branch.routes first))).map Prod.fst =
      (branch.className? first).toList ++ [branch.functionName first] := by
  have hEmpty : (Function.parametersOf first.segments).isEmpty = true ↔
      Segment.names first.segments = [] := by
    rw [List.isEmpty_iff, Function.parametersOf_eq_nil_iff]
  simp only [Function.entries, Function.forGroup, RouteGroup.ofFirst, Function.paramsClass?,
    className?, hEmpty]
  split <;> simp

theorem perm_boundNames (layout : Layout) (branch : Branch) :
    (Name.reserved ++ (branch.emitting.map (Module.childEntry layout) ++
        branch.functions.flatMap Function.entries).map Prod.fst).Perm
      (branch.boundNames layout) := by
  have hChildren : (branch.emitting.map (Module.childEntry layout)).map Prod.fst =
      branch.emitting.map layout.name := by
    rw [List.map_map]
    rfl
  have hFunctions : (branch.functions.flatMap Function.entries).map Prod.fst =
      branch.firstRows.flatMap fun first =>
        (branch.className? first).toList ++ [branch.functionName first] := by
    rw [functions, RouteGroup.groupsOf, List.map_map, List.flatMap_map, List.map_flatMap]
    exact List.flatMap_congr fun first _ => branch.map_fst_entries first
  have hOrder : (branch.firstRows.flatMap fun first =>
        (branch.className? first).toList ++ [branch.functionName first]).Perm
      (branch.firstRows.map branch.functionName ++
        branch.firstRows.filterMap branch.className?) := by
    rw [List.filterMap_eq_flatMap_toList, List.map_eq_flatMap]
    exact (List.flatMap_append_perm _ _ _).symm.trans List.perm_append_comm
  rw [List.map_append, hChildren, hFunctions, ← List.append_assoc, boundNames,
    List.append_assoc (Name.reserved ++ branch.emitting.map layout.name)]
  exact hOrder.append_left _

/-- The content of a module, whether or not something in it collides. -/
def contents (layout : Layout) (branch : Branch) : Module :=
  ⟨layout.dotted branch, branch.emitting.map (Module.importOf layout), branch.functions⟩

/-- The file of a module, whether or not something in it collides. -/
def file (layout : Layout) (branch : Branch) : SourceFile :=
  ⟨Layout.directories branch, layout.filename branch, (branch.contents layout).print⟩

/-- Of its children a module says nothing but where they live. -/
theorem map_importOf_congr (layout : Layout) {branches others : List Branch}
    (h : branches.map namespaceOf = others.map namespaceOf) :
    branches.map (Module.importOf layout) = others.map (Module.importOf layout) := by
  have hView : Module.importOf layout = (fun parts => Module.importOf layout (fresh parts)) ∘
      namespaceOf := by
    funext branch
    exact layout.importOf_congr rfl
  rw [hView, ← List.map_map, ← List.map_map, h]

/-- A module has the same file whatever lies in the modules below it. -/
theorem file_congr (layout : Layout) {branch other : Branch}
    (hNamespace : branch.namespaceOf = other.namespaceOf) (hRoutes : branch.routes = other.routes)
    (hChildren : branch.emitting.map namespaceOf = other.emitting.map namespaceOf) :
    branch.file layout = other.file layout := by
  have hFunctions : branch.functions = other.functions := by
    rw [functions, functions, functionName_congr hNamespace, hRoutes]
  have hContents : branch.contents layout = other.contents layout := by
    rw [contents, contents, layout.dotted_congr hNamespace, map_importOf_congr layout hChildren,
      hFunctions]
  have hPath : branch.path = other.path := by rw [path, path, hNamespace]
  have hRoot : branch.isRoot = other.isRoot := by rw [isRoot, isRoot, hNamespace]
  rw [file, file, hContents, Layout.directories, Layout.directories, Layout.filename,
    Layout.filename, hPath, hRoot]

end Branch

/-- The content of a module can be made exactly if nothing in it collides. -/
theorem Module.ofBranch_eq_ok_iff {layout : Layout} {branch : Branch} {module : Module} :
    Module.ofBranch layout branch = .ok module ↔
      ¬ branch.Collides layout ∧ branch.contents layout = module := by
  have hClaimed : (∃ claimed, claimChildren layout branch .helpers branch.emitting = .ok claimed ∧
        ∃ after, claimed.addAll (layout.dotted branch)
          (branch.functions.flatMap Function.entries) = .ok after) ↔
      ¬ branch.RootCollides layout ∧ (branch.boundNames layout).Nodup := by
    rw [← (branch.perm_boundNames layout).nodup_iff,
      ← Claims.addAll_helpers_iff (layout.dotted branch), Branch.not_rootCollides_iff]
    simp only [claimChildren_eq_ok_iff, Claims.addAll_append, bind_eq_ok_iff]
    constructor
    · rintro ⟨claimed, ⟨hRoot, hChildren⟩, after, hFunctions⟩
      exact ⟨hRoot, after, claimed, hChildren, hFunctions⟩
    · rintro ⟨hRoot, after, claimed, hChildren, hFunctions⟩
      exact ⟨claimed, ⟨hRoot, hChildren⟩, after, hFunctions⟩
  rw [Branch.Collides, not_or, not_or, not_or, not_not, ← hClaimed, Branch.not_rowsCollide_iff,
    Branch.not_parametersCollide_iff]
  simp only [ofBranch, bind_eq_ok_iff, RouteGroup.ofRoutes_eq_ok_iff, functionsOf_eq_ok_iff, pure,
    Except.pure, Except.ok.injEq]
  constructor
  · rintro ⟨claimed, hClaimed, _, ⟨hAgree, rfl⟩, _, ⟨hParameters, rfl, hAfter⟩, rfl⟩
    exact ⟨⟨hAgree, hParameters, claimed, hClaimed, hAfter⟩, rfl⟩
  · rintro ⟨⟨hAgree, hParameters, claimed, hClaimed, hAfter⟩, rfl⟩
    exact ⟨claimed, hClaimed, _, ⟨hAgree, rfl⟩, _, ⟨hParameters, rfl, hAfter⟩, rfl⟩

theorem SourceFile.ofBranch_eq_ok_iff {layout : Layout} {branch : Branch} {file : SourceFile} :
    SourceFile.ofBranch layout branch = .ok file ↔
      ¬ branch.Collides layout ∧ branch.file layout = file := by
  simp only [SourceFile.ofBranch, bind_eq_ok_iff, Module.ofBranch_eq_ok_iff, pure, Except.pure,
    Except.ok.injEq]
  constructor
  · rintro ⟨_, ⟨hFree, rfl⟩, hFile⟩
    exact ⟨hFree, hFile⟩
  · rintro ⟨hFree, hFile⟩
    exact ⟨_, ⟨hFree, rfl⟩, hFile⟩

namespace ModuleTree

/-- The files of a tree can be made exactly if nothing collides in any module
that has one. -/
theorem files_eq_ok_iff {tree : ModuleTree} {files : List SourceFile} :
    tree.files = .ok files ↔
      (∀ branch ∈ tree.modules, branch.hasContent = true → ¬ branch.Collides tree.layout) ∧
        (tree.modules.filter (·.hasContent)).map (Branch.file tree.layout) = files := by
  rw [ModuleTree.files, mapM_eq_ok_iff]
  simp only [SourceFile.ofBranch_eq_ok_iff, List.forall₂_and_left, List.mem_filter, and_imp]
  rw [← List.forall₂_map_left_iff, List.forall₂_eq_eq_eq]

/-- A collision is reported exactly if something collides in a module that has
routes in it or below it. Otherwise each such module gets its file. -/
theorem files_collision_iff (tree : ModuleTree) :
    ((∃ collision, tree.files = .error collision) ↔
        ∃ branch ∈ tree.modules, branch.hasContent = true ∧ branch.Collides tree.layout) ∧
      ((∀ branch ∈ tree.modules, branch.hasContent = true → ¬ branch.Collides tree.layout) →
        ∃ files, tree.files = .ok files ∧
          files.map (fun file => (file.directories, file.filename)) =
            (tree.modules.filter (·.hasContent)).map fun branch =>
              (Layout.directories branch, tree.layout.filename branch)) := by
  constructor
  · cases hResult : tree.files with
    | error collision =>
        simp only [Except.error.injEq, exists_eq', true_iff]
        by_contra hNone
        have hFree : ∀ branch ∈ tree.modules, branch.hasContent = true →
            ¬ branch.Collides tree.layout :=
          fun branch hBranch hContent hCollides => hNone ⟨branch, hBranch, hContent, hCollides⟩
        have hFiles := files_eq_ok_iff.mpr ⟨hFree, rfl⟩
        rw [hResult] at hFiles
        cases hFiles
    | ok files =>
        have hFree := (files_eq_ok_iff.mp hResult).1
        simp only [reduceCtorEq, exists_false, false_iff]
        rintro ⟨branch, hBranch, hContent, hCollides⟩
        exact hFree branch hBranch hContent hCollides
  · intro hFree
    refine ⟨_, files_eq_ok_iff.mpr ⟨hFree, rfl⟩, ?_⟩
    rw [List.map_map]
    rfl

end ModuleTree

end RoutePaths
