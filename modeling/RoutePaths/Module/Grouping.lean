import RoutePaths.Module.Tree
import RoutePaths.Text.Blank

/-! Grouping routes into modules. A rule says which namespace a route has,
and the routes are put into their modules one by one, in table order. Two
routes with the same name and verb are refused wherever they would go. -/
namespace RoutePaths.ModuleTree

/-- The components of the controller's path that are packages: everything
but the last one. -/
def packagesOf (controller : List Char) : List String :=
  ((controller.splitOn '/').dropLast.filter (· ≠ [])).map String.ofList

/-- The namespace that an action names. Only a first word of the form
`controller#action` names one. -/
def namespaceOfAction (action : List Char) : Except Error (List String) :=
  if action = [] then .ok []
  else
    match Text.words action with
    | [] => .error .blankAction
    | target :: _ =>
      if '#' ∈ target then .ok (packagesOf (target.takeWhile (· ≠ '#'))) else .ok []

/-- The namespace is the path of the controller. -/
def byController : NamespaceRule :=
  fun route => namespaceOfAction route.action.toList

/-- No route has a namespace, so all of them go into the root module. -/
def flat : NamespaceRule :=
  fun _ => .ok []

/-- The namespaces are listed by route name. Names that are not listed have
none; of two entries for a name the later one counts. -/
def byName (listed : List (String × List String)) : NamespaceRule :=
  fun route => .ok ((listed.reverse.lookup route.name).getD [])

/-- Two routes that the table does not tell apart. -/
def sameEntry (first second : Route) : Bool :=
  first.name == second.name && first.verb == second.verb

/-- Puts routes into the modules below a branch. The routes that have been
put there already are given in reverse. -/
def grow (rule : NamespaceRule) (seen : List Route) (root : Branch) :
    List Route → Except Error Branch
  | [] => .ok root
  | route :: rest =>
    match seen.find? (sameEntry route) with
    | some first => .error (.ambiguous route.name route.verb first.line route.line)
    | none =>
      match rule route with
      | .error error => .error error
      | .ok parts => grow rule (route :: seen) (root.insert route parts) rest

/-- The module with nothing in it that the tree grows from. -/
def emptyRoot : Branch :=
  .fresh []

/-- The layout with the given names, if they are names that Python accepts.
The path of the packages may be empty. -/
def layout? (packages rootName : String) : Except Error Layout :=
  if !Name.isLegal rootName then .error (.badRootName rootName)
  else if !Name.isDotted packages then .error (.badPackages packages)
  else
    let parts := if packages = "" then [] else (packages.toList.splitOn '.').map String.ofList
    .ok ⟨parts, rootName⟩

/-- The modules of the given routes. -/
def build (packages rootName : String) (rule : NamespaceRule) (routes : List Route) :
    Except Error ModuleTree := do
  let layout ← layout? packages rootName
  let root ← grow rule [] emptyRoot routes
  return ⟨layout, root⟩

/-- All modules of the tree, each before its children. -/
def modules (tree : ModuleTree) : List Branch :=
  tree.root.walk

end RoutePaths.ModuleTree
