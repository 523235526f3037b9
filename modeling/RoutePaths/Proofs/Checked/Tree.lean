import RoutePaths.Proofs.Checked.Table
import RoutePaths.Proofs.Module.Insertion

/-! Grouping routes into modules with all steps checked. The rules are those of
the library, except for rules that list namespaces by route name. -/
namespace RoutePaths.Checked
open Result

/-- `ModuleTree.NamespaceRule`. -/
abbrev Rule := Route → Except Stop (List String)

/-- The first word of a text. -/
def firstWord (text : List Char) : Except Stop (List Char) :=
  match Text.words text with
  | [] => .error .noFirstWord
  | word :: _ => .ok word

/-- `ModuleTree.byController`, which looks at the first word of an action. -/
def byController : Rule := fun route => do
  if route.action.toList = [] then return []
  let target ← firstWord route.action.toList
  if '#' ∈ target then return ModuleTree.packagesOf (target.takeWhile (· ≠ '#'))
  else return []

/-- `ModuleTree.flat`. -/
def flat : Rule :=
  fun _ => .ok []

/-- `Branch.alter`, for changes that can stop the run. -/
def alter (picks : Branch → Bool) (new : Branch) (change : Branch → Except Stop Branch) :
    List Branch → Except Stop (List Branch)
  | [] => do
    let changed ← change new
    return [changed]
  | child :: rest =>
    if picks child then do
      let changed ← change child
      return changed :: rest
    else do
      let others ← alter picks new change rest
      return child :: others

/-- `Branch.insert`, which names the modules on its way. -/
def insert (route : Route) : List String → Branch → Except Stop Branch
  | [], .node parts routes children => .ok (.node parts (routes ++ [route]) children)
  | component :: deeper, .node parts routes children => do
    let name ← pascal component
    let children ← alter (Branch.isNamed name) (.fresh (parts ++ [component])) (insert route deeper)
      children
    return .node parts routes children

/-- An error of grouping, which the user is told. -/
def grouping (error : ModuleTree.Error) : Stop :=
  .known (.tree error)

/-- `ModuleTree.grow`. -/
def grow (rule : Rule) (seen : List Route) (root : Branch) : List Route → Except Stop Branch
  | [] => .ok root
  | route :: rest =>
    match seen.find? (ModuleTree.sameEntry route) with
    | some first => .error (grouping (.ambiguous route.name route.verb first.line route.line))
    | none => do
      let parts ← rule route
      let root ← insert route parts root
      grow rule (route :: seen) root rest

/-- `ModuleTree.build`. -/
def build (packages rootName : String) (rule : Rule) (routes : List Route) :
    Except Stop ModuleTree := do
  let layout ← (ModuleTree.layout? packages rootName).mapError grouping
  let root ← grow rule [] ModuleTree.emptyRoot routes
  return ⟨layout, root⟩

/-- Both rules give the route one and the same namespace. -/
def Agrees (checked : Rule) (rule : ModuleTree.NamespaceRule) (route : Route) : Prop :=
  ∃ parts, checked route = .ok parts ∧ rule route = .ok parts

/-- The action of a route of a table is empty or has a first word. -/
theorem agrees_byController {route : Route} (h : route.IsTabular) :
    Agrees byController ModuleTree.byController route := by
  obtain ⟨parts, hRule⟩ := ModuleTree.exists_byController h
  refine ⟨parts, ?_, hRule⟩
  rw [ModuleTree.byController, ModuleTree.namespaceOfAction] at hRule
  simp only [byController, firstWord]
  split at hRule
  · rename_i hEmpty
    cases hRule
    rw [if_pos hEmpty]
    rfl
  · rename_i hSome
    rw [if_neg hSome]
    cases hWords : Text.words route.action.toList with
    | nil =>
        rw [hWords] at hRule
        cases hRule
    | cons target others =>
        rw [hWords] at hRule
        dsimp only at hRule
        split at hRule
        · rename_i hHash
          cases hRule
          simp only [bind, Except.bind, if_pos hHash]
          rfl
        · rename_i hHash
          cases hRule
          simp only [bind, Except.bind, if_neg hHash]
          rfl

theorem agrees_flat (route : Route) : Agrees flat ModuleTree.flat route :=
  ⟨[], rfl, rfl⟩

theorem alter_eq {picks : Branch → Bool} {new : Branch} {checked : Branch → Except Stop Branch}
    {change : Branch → Branch} (h : ∀ branch, checked branch = .ok (change branch))
    (children : List Branch) :
    alter picks new checked children = .ok (Branch.alter picks new change children) := by
  induction children with
  | nil =>
      rw [alter, h]
      rfl
  | cons child rest ih =>
      rw [alter, Branch.alter]
      split
      · rw [h]
        rfl
      · rw [ih]
        rfl

theorem insert_eq (route : Route) (components : List String) (branch : Branch) :
    insert route components branch = .ok (branch.insert route components) := by
  induction components generalizing branch with
  | nil =>
      cases branch
      rfl
  | cons component deeper ih =>
      obtain ⟨parts, routes, children⟩ := branch
      rw [insert, pascal_eq]
      show (alter (Branch.isFor component) _ _ children >>= _) = _
      rw [alter_eq ih]
      rfl

variable {checked : Rule} {rule : ModuleTree.NamespaceRule}

theorem grow_eq {routes seen : List Route} {root : Branch}
    (h : ∀ route ∈ routes, Agrees checked rule route) :
    grow checked seen root routes = (ModuleTree.grow rule seen root routes).mapError grouping := by
  induction routes generalizing seen root with
  | nil => rfl
  | cons route rest ih =>
      rw [List.forall_mem_cons] at h
      obtain ⟨parts, hChecked, hRule⟩ := h.1
      rw [grow, ModuleTree.grow]
      cases seen.find? (ModuleTree.sameEntry route) with
      | some first => rfl
      | none =>
          simp only [hChecked, hRule]
          rw [← ih h.2]
          show (insert route parts root >>= fun root => grow checked (route :: seen) root rest) = _
          rw [insert_eq]
          rfl

theorem build_eq {packages rootName : String} {routes : List Route}
    (h : ∀ route ∈ routes, Agrees checked rule route) :
    build packages rootName checked routes =
      (ModuleTree.build packages rootName rule routes).mapError grouping := by
  simp only [build, ModuleTree.build, mapError_bind, grow_eq h]
  rfl

end RoutePaths.Checked
