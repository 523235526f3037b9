import RoutePaths.Proofs.Module.Collisions
import RoutePaths.Proofs.Module.Growth
import RoutePaths.Proofs.Table.Padding

/-! Modules whose routes stand on other lines. The numbers of lines go into the wording
of errors and into nothing else: grouping, collisions and the text of a file are the
same in every numbering. -/
namespace RoutePaths
open Firsts Result

namespace Branch

mutual

/-- The module with the lines of all routes in another numbering. -/
def renumber (numbering : Nat → Nat) : Branch → Branch
  | node parts routes children =>
    node parts (routes.map (·.renumber numbering)) (renumberAll numbering children)

/-- Several modules in another numbering. -/
def renumberAll (numbering : Nat → Nat) : List Branch → List Branch
  | [] => []
  | child :: rest => renumber numbering child :: renumberAll numbering rest

end

variable (numbering : Nat → Nat)

theorem renumberAll_eq_map (branches : List Branch) :
    renumberAll numbering branches = branches.map (renumber numbering) := by
  induction branches with
  | nil => rfl
  | cons child rest ih => rw [renumberAll, List.map_cons, ih]

@[simp] theorem renumber_node (parts : List String) (routes : List Route)
    (children : List Branch) :
    renumber numbering (.node parts routes children) =
      .node parts (routes.map (·.renumber numbering)) (children.map (renumber numbering)) := by
  rw [renumber, renumberAll_eq_map]

@[simp] theorem namespaceOf_renumber (branch : Branch) :
    (branch.renumber numbering).namespaceOf = branch.namespaceOf := by
  cases branch
  rw [renumber_node, namespaceOf, namespaceOf]

@[simp] theorem routes_renumber (branch : Branch) :
    (branch.renumber numbering).routes = branch.routes.map (·.renumber numbering) := by
  cases branch
  rw [renumber_node, routes, routes]

@[simp] theorem children_renumber (branch : Branch) :
    (branch.renumber numbering).children = branch.children.map (renumber numbering) := by
  cases branch
  rw [renumber_node, children, children]

theorem path_renumber (branch : Branch) : (branch.renumber numbering).path = branch.path := by
  rw [path, path, namespaceOf_renumber]

@[simp] theorem walk_renumber (branch : Branch) :
    (branch.renumber numbering).walk = branch.walk.map (renumber numbering) := by
  induction branch using induction_on_children with
  | node parts routes children ih =>
      rw [renumber_node, walk_node, walk_node, List.map_cons, renumber_node, List.flatMap_map,
        List.map_flatMap]
      congr 1
      exact List.flatMap_congr ih

@[simp] theorem hasContent_renumber (branch : Branch) :
    (branch.renumber numbering).hasContent = branch.hasContent := by
  rw [Bool.eq_iff_iff, hasContent_iff, hasContent_iff, walk_renumber]
  simp

theorem emitting_renumber (branch : Branch) :
    (branch.renumber numbering).emitting = branch.emitting.map (renumber numbering) := by
  rw [emitting, emitting, children_renumber, List.filter_map]
  simp only [Function.comp_def, hasContent_renumber]

/-- Changing the child that a test picks commutes with a change of all children that
the test does not see. -/
theorem alter_map {picks : Branch → Bool} {new : Branch} {change other : Branch → Branch}
    {view : Branch → Branch} (hPicks : ∀ child, picks (view child) = picks child)
    (hChange : ∀ child, other (view child) = view (change child)) (children : List Branch) :
    alter picks (view new) other (children.map view) =
      (alter picks new change children).map view := by
  induction children with
  | nil => rw [List.map_nil, alter, alter, hChange, List.map_singleton]
  | cons child rest ih =>
      rw [List.map_cons, alter, alter, hPicks, ih, hChange]
      split <;> rfl

/-- A route goes to the same module in every numbering. -/
theorem insert_renumber (route : Route) (components : List String) (branch : Branch) :
    (branch.renumber numbering).insert (route.renumber numbering) components =
      (branch.insert route components).renumber numbering := by
  induction components generalizing branch with
  | nil =>
      cases branch
      rw [renumber_node, insert, insert, renumber_node, List.map_append, List.map_singleton]
  | cons component deeper ih =>
      obtain ⟨parts, routes, children⟩ := branch
      have hPicks (child : Branch) :
          isFor component (child.renumber numbering) = isFor component child := by
        rw [isFor, isFor, path_renumber]
      have hFresh : fresh (parts ++ [component]) = (fresh (parts ++ [component])).renumber numbering := by
        rw [fresh, renumber_node, List.map_nil, List.map_nil]
      rw [renumber_node, insert, insert, renumber_node, hFresh, alter_map hPicks ih, ← hFresh]

theorem functionName_renumber (branch : Branch) :
    (branch.renumber numbering).functionName = branch.functionName :=
  functionName_congr (namespaceOf_renumber numbering branch)

/-- The function of a row is named in the same way in every numbering. -/
@[simp] theorem functionName_route_renumber (branch : Branch) (route : Route) :
    branch.functionName (route.renumber numbering) = branch.functionName route :=
  rfl

theorem firstRows_renumber (branch : Branch) :
    (branch.renumber numbering).firstRows = branch.firstRows.map (·.renumber numbering) := by
  rw [firstRows, firstRows, functionName_renumber, routes_renumber]
  exact firsts_map _ (branch.functionName_route_renumber numbering) _

theorem className?_renumber (branch : Branch) :
    (branch.renumber numbering).className? = branch.className? :=
  className?_congr (namespaceOf_renumber numbering branch)

@[simp] theorem className?_route_renumber (branch : Branch) (route : Route) :
    branch.className? (route.renumber numbering) = branch.className? route := by
  rw [className?, className?, Route.renumber_segments, functionName_route_renumber]

end Branch

namespace RouteGroup

/-- Whether rows agree is the same in every numbering. -/
theorem agree_renumber (numbering : Nat → Nat) {nameOf : Route → String}
    (hName : ∀ route : Route, nameOf (route.renumber numbering) = nameOf route)
    {routes : List Route} :
    Agree nameOf (routes.map (·.renumber numbering)) ↔ Agree nameOf routes := by
  have hFind (before : List Route) (row : Route) :
      (before.map (·.renumber numbering)).find? (nameOf · = nameOf (row.renumber numbering)) =
        (before.find? (nameOf · = nameOf row)).map (·.renumber numbering) := by
    rw [List.find?_map]
    simp only [Function.comp_def, hName]
  constructor
  · rintro hAgree before row after first rfl hFirst
    refine hAgree (before.map (·.renumber numbering)) (row.renumber numbering)
      (after.map (·.renumber numbering)) (first.renumber numbering) (by simp) ?_
    rw [hFind, hFirst]
    rfl
  · intro hAgree before row after first hSplit hFirst
    obtain ⟨front, back, rfl, rfl, hBack⟩ := List.map_eq_append_iff.mp hSplit
    obtain ⟨own, later, rfl, rfl, rfl⟩ := List.map_eq_cons_iff.mp hBack
    rw [hFind] at hFirst
    obtain ⟨leader, hLeader, rfl⟩ := Option.map_eq_some_iff.mp hFirst
    exact hAgree front own later leader rfl hLeader

end RouteGroup

namespace Branch

variable (numbering : Nat → Nat)

theorem boundNames_renumber (layout : Layout) (branch : Branch) :
    (branch.renumber numbering).boundNames layout = branch.boundNames layout := by
  have hChildren : (branch.emitting.map (renumber numbering)).map layout.name =
      branch.emitting.map layout.name := by
    rw [List.map_map]
    exact List.map_congr_left fun child _ =>
      layout.name_congr (namespaceOf_renumber numbering child)
  rw [boundNames, boundNames, emitting_renumber, hChildren, firstRows_renumber,
    functionName_renumber, className?_renumber, List.map_map, List.filterMap_map]
  simp only [Function.comp_def, functionName_route_renumber, className?_route_renumber]

/-- What collides does so in every numbering. -/
theorem collides_renumber (layout : Layout) (branch : Branch) :
    (branch.renumber numbering).Collides layout ↔ branch.Collides layout := by
  have hRows : (branch.renumber numbering).RowsCollide ↔ branch.RowsCollide := by
    rw [← not_iff_not, not_rowsCollide_iff, not_rowsCollide_iff, functionName_renumber,
      routes_renumber]
    exact RouteGroup.agree_renumber numbering (branch.functionName_route_renumber numbering)
  have hParameters : (branch.renumber numbering).ParametersCollide ↔ branch.ParametersCollide := by
    simp only [ParametersCollide, firstRows_renumber, List.mem_map, exists_exists_and_eq_and,
      Route.renumber_segments]
  have hRoot : (branch.renumber numbering).RootCollides layout ↔ branch.RootCollides layout := by
    have hOwn := layout.name_congr (namespaceOf_renumber numbering branch)
    have hChild (child : Branch) := layout.name_congr (namespaceOf_renumber numbering child)
    simp only [RootCollides, isRoot, namespaceOf_renumber, emitting_renumber, List.mem_map,
      exists_exists_and_eq_and, hOwn, hChild]
  rw [Collides, Collides, hRows, hParameters, hRoot, boundNames_renumber]

end Branch

namespace Function

/-- The function with the lines of its routes in another numbering. -/
def renumber (numbering : Nat → Nat) (function : Function) : Function :=
  { function with
    route := function.route.renumber numbering
    others := function.others.map (·.renumber numbering) }

/-- No line of a function tells where its routes stand. -/
theorem lines_renumber (numbering : Nat → Nat) (function : Function) :
    (function.renumber numbering).lines = function.lines := by
  have hDocumented : (function.renumber numbering).docLines = function.docLines := by
    simp only [docLines, Function.routes, renumber, List.map_cons, List.map_map]
    rfl
  rw [lines, lines, hDocumented]
  rfl

end Function

namespace Branch

variable (numbering : Nat → Nat)

theorem functions_renumber (branch : Branch) :
    (branch.renumber numbering).functions = branch.functions.map (·.renumber numbering) := by
  have hFirsts := firstRows_renumber numbering branch
  rw [firstRows, firstRows, functionName_renumber] at hFirsts
  rw [functions, functions, RouteGroup.groupsOf, RouteGroup.groupsOf, functionName_renumber,
    hFirsts, routes_renumber, List.map_map, List.map_map, List.map_map, List.map_map]
  apply List.map_congr_left
  intro first _
  simp only [Function.comp_def, RouteGroup.ofFirst, Function.forGroup, Function.renumber,
    List.filter_map, List.map_tail, functionName_route_renumber, Route.renumber_segments]
  congr

/-- The file of a module has the same text in every numbering. -/
theorem file_renumber (layout : Layout) (branch : Branch) :
    (branch.renumber numbering).file layout = branch.file layout := by
  have hImports : (branch.emitting.map (renumber numbering)).map (Module.importOf layout) =
      branch.emitting.map (Module.importOf layout) := by
    rw [List.map_map]
    exact List.map_congr_left fun child _ =>
      layout.importOf_congr (namespaceOf_renumber numbering child)
  have hContents : (branch.renumber numbering).contents layout =
      { branch.contents layout with
        functions := (branch.contents layout).functions.map (·.renumber numbering) } := by
    rw [contents, contents, layout.dotted_congr (namespaceOf_renumber numbering branch),
      emitting_renumber, hImports, functions_renumber]
  have hLines : ((branch.renumber numbering).contents layout).lines =
      (branch.contents layout).lines := by
    rw [hContents]
    simp only [Module.lines, Module.headLines, Module.libraryLines, Module.childLines,
      Module.exportLines, Module.escapeLines, Module.exports, Module.hasParameters,
      Module.hasOptional, List.flatMap_map, List.any_map, Function.lines_renumber]
    rfl
  rw [file, file, Module.print, Module.print, hLines, Layout.directories, Layout.directories,
    Layout.filename, Layout.filename, isRoot, isRoot, path_renumber, namespaceOf_renumber]

end Branch

namespace ModuleTree

/-- The tree with the lines of all routes in another numbering. -/
def renumber (numbering : Nat → Nat) (tree : ModuleTree) : ModuleTree :=
  { tree with root := tree.root.renumber numbering }

/-- The rule gives a route its namespace without regard to its line. -/
def IgnoresLines (rule : NamespaceRule) : Prop :=
  ∀ (route : Route) (line : Int), rule { route with line } = rule route

theorem ignoresLines_byController : IgnoresLines byController :=
  fun _ _ => rfl

variable {rule : NamespaceRule} (numbering : Nat → Nat)

/-- The errors of grouping are of one kind: they say the same, but for the numbers of
lines. -/
inductive Error.SameButLines : Error → Error → Prop
  | same (error : Error) : SameButLines error error
  | ambiguous (name verb : String) (first second first' second' : Int) :
      SameButLines (.ambiguous name verb first second) (.ambiguous name verb first' second')

/-- Routes in another numbering grow the same tree, in that numbering. -/
theorem grow_renumber (hRule : IgnoresLines rule) (seen : List Route) (root : Branch)
    (routes : List Route) :
    Alike Error.SameButLines (fun final other => other = final.renumber numbering)
      (grow rule seen root routes)
      (grow rule (seen.map (·.renumber numbering)) (root.renumber numbering)
        (routes.map (·.renumber numbering))) := by
  induction routes generalizing seen root with
  | nil => exact .ok rfl
  | cons route rest ih =>
      have hSeen : (seen.map (·.renumber numbering)).find? (sameEntry (route.renumber numbering)) =
          (seen.find? (sameEntry route)).map (·.renumber numbering) := by
        rw [List.find?_map]
        rfl
      have hParts : rule (route.renumber numbering) = rule route := hRule route _
      rw [List.map_cons, grow, grow, hSeen, hParts]
      cases seen.find? (sameEntry route) with
      | some first => exact .error (.ambiguous ..)
      | none =>
          cases rule route with
          | error error => exact .error (.same error)
          | ok parts =>
              have hRest := ih (route :: seen) (root.insert route parts)
              rw [← Branch.insert_renumber] at hRest
              exact hRest

theorem build_renumber (hRule : IgnoresLines rule) (packages rootName : String)
    (routes : List Route) :
    Alike Error.SameButLines (fun tree other => other = tree.renumber numbering)
      (build packages rootName rule routes)
      (build packages rootName rule (routes.map (·.renumber numbering))) := by
  have hTop : emptyRoot.renumber numbering = emptyRoot := by
    rw [emptyRoot, Branch.fresh, Branch.renumber_node, List.map_nil, List.map_nil]
  have hGrow := grow_renumber numbering hRule [] emptyRoot routes
  rw [hTop, List.map_nil] at hGrow
  rw [build, build]
  cases layout? packages rootName with
  | error error => exact .error (.same error)
  | ok layout =>
      show Alike _ _ (grow rule [] emptyRoot routes >>= _)
        (grow rule [] emptyRoot (routes.map (·.renumber numbering)) >>= _)
      refine hGrow.bind fun root other hRoot => ?_
      rw [hRoot]
      exact .ok rfl

/-- A tree has its files in every numbering or in none, and they are the same. -/
theorem files_renumber (tree : ModuleTree) :
    Alike (fun _ _ => True) (fun files others => others = files) tree.files
      (tree.renumber numbering).files := by
  have hFiles (files : List SourceFile) :
      (tree.renumber numbering).files = .ok files ↔ tree.files = .ok files := by
    simp only [files_eq_ok_iff, modules, renumber, Branch.walk_renumber, List.forall_mem_map,
      Branch.hasContent_renumber, Branch.collides_renumber, List.filter_map, List.map_map,
      Function.comp_def, Branch.file_renumber]
  cases hFirst : tree.files with
  | ok files =>
      rw [(hFiles files).mpr hFirst]
      exact .ok rfl
  | error collision =>
      cases hSecond : (tree.renumber numbering).files with
      | error other => exact .error trivial
      | ok files =>
          rw [(hFiles files).mp hSecond] at hFirst
          cases hFirst

end ModuleTree

end RoutePaths
