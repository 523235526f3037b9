import RoutePaths.Name
import RoutePaths.Route

/-! The modules that routes are grouped into. Each route has a namespace, a
list of components; routes of one namespace share a module, and the modules
form a tree under the root module. Namespaces are told apart by the names of
their modules, so different spellings may share one. -/
namespace RoutePaths

/-- A module with its routes and its child modules, each in the order of
first appearance. The namespace is the one of the route that first needed
the module, and the root module has none. -/
inductive Branch where
  | node (namespaceOf : List String) (routes : List Route) (children : List Branch)
  deriving Repr, Inhabited

namespace Branch

/-- The components of the namespace as they were first written. -/
def namespaceOf : Branch → List String
  | node parts _ _ => parts

/-- The routes of the module itself, in table order. -/
def routes : Branch → List Route
  | node _ routes _ => routes

def children : Branch → List Branch
  | node _ _ children => children

/-- The names of the modules from the root down to this one, without the
root. -/
def path (branch : Branch) : List String :=
  branch.namespaceOf.map Name.pascal

/-- The root module is the only one without a namespace. -/
def isRoot (branch : Branch) : Bool :=
  branch.namespaceOf = []

/-- The module that a namespace component names, with nothing in it. -/
def fresh (parts : List String) : Branch :=
  node parts [] []

/-- Whether the module is the one for a path that ends in the given
component. -/
def isFor (component : String) (branch : Branch) : Bool :=
  branch.path.getLast? == some (Name.pascal component)

/-- Changes the first module that the test picks, or adds a changed new one
at the end. -/
def alter (picks : Branch → Bool) (new : Branch) (change : Branch → Branch) :
    List Branch → List Branch
  | [] => [change new]
  | child :: rest =>
    if picks child then change child :: rest else child :: alter picks new change rest

/-- Puts a route into the module that lies at the given components below
this one. -/
def insert (route : Route) : List String → Branch → Branch
  | [], node parts routes children => node parts (routes ++ [route]) children
  | component :: deeper, node parts routes children =>
    node parts routes
      (alter (isFor component) (fresh (parts ++ [component])) (insert route deeper) children)

mutual

/-- The module and all modules below it, each before its children. -/
def walk : Branch → List Branch
  | node parts routes children => node parts routes children :: walkAll children

/-- The modules of several branches, one branch after the other. -/
def walkAll : List Branch → List Branch
  | [] => []
  | child :: rest => walk child ++ walkAll rest

end

mutual

/-- There is a route in the module or below it. -/
def hasContent : Branch → Bool
  | node _ routes children => !routes.isEmpty || anyContent children

/-- There is a route in one of the branches. -/
def anyContent : List Branch → Bool
  | [] => false
  | child :: rest => hasContent child || anyContent rest

end

/-- The child modules for which something is generated. -/
def emitting (branch : Branch) : List Branch :=
  branch.children.filter hasContent

end Branch

/-- Where the modules live: the packages around the root module, and its
name. Namespace modules stand beside the root module, not inside it. -/
structure Layout where
  packages : List String
  rootName : String
  deriving DecidableEq, Repr

namespace Layout

/-- The full name of a module, as its components. -/
def qualified (layout : Layout) (branch : Branch) : List String :=
  layout.packages ++ (if branch.isRoot then [layout.rootName] else branch.path)

/-- The full name of a module. -/
def dotted (layout : Layout) (branch : Branch) : String :=
  ".".intercalate (layout.qualified branch)

/-- The last component of the full name. -/
def name (layout : Layout) (branch : Branch) : String :=
  (layout.qualified branch).getLastD ""

end Layout

/-- The modules of a selection of routes, and where they live. -/
structure ModuleTree where
  layout : Layout
  root : Branch
  deriving Repr

namespace ModuleTree

/-- Why routes cannot be grouped into modules. An action that is blank but
not empty has no first word to take a namespace from. -/
inductive Error where
  | badRootName (name : String)
  | badPackages (path : String)
  | ambiguous (name verb : String) (first second : Int)
  | blankAction
  deriving DecidableEq, Repr

/-- The wording of an error. -/
def Error.message : Error → String
  | badRootName name => "module-name " ++ Text.quoted name ++ " is not a valid Python module name"
  | badPackages path =>
    "module-prefix " ++ Text.quoted path ++ " is not a valid dotted Python module path"
  | ambiguous name verb first second =>
    "Ambiguous route '" ++ name ++ "' " ++ (if verb = "" then "(no verb)" else verb) ++
      ": defined on line " ++ toString first ++ " and again on line " ++ toString second ++
      ". Rename or exclude one of them."
  | blankAction => "the action column is blank"

/-- A rule that gives each route its namespace. -/
abbrev NamespaceRule := Route → Except Error (List String)

end ModuleTree

end RoutePaths
