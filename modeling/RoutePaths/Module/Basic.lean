import RoutePaths.Module.Function
import RoutePaths.Module.Tree

/-! The content of a generated module. Everything the module defines or
imports claims a name, and a name is claimed once: a second claim is a
collision, and then nothing is generated at all. -/
namespace RoutePaths

/-- Who claims a name. Routes are told by their labels and modules by their
full names. -/
inductive Owner where
  | helper
  | rootModule (dotted : String)
  | childModule (dotted : String)
  | parameters (label : String)
  | route (label : String)
  | segmentOf (name label : String)
  | segment (name : String)
  deriving DecidableEq, Repr

/-- The owner as messages name it. -/
def Owner.describe : Owner → String
  | helper => "a generated helper"
  | rootModule dotted => "root module " ++ dotted
  | childModule dotted => "module " ++ dotted
  | parameters label => "params of route " ++ label
  | route label => "route " ++ label
  | segmentOf name label => "segment :" ++ name ++ " of route " ++ label
  | segment name => "segment :" ++ name

/-- Two claims to one name of a module. -/
structure Collision where
  module : String
  name : String
  first : Owner
  second : Owner
  deriving DecidableEq, Repr

/-- The wording of a collision. -/
def Collision.message (collision : Collision) : String :=
  "Name collision in module " ++ collision.module ++ ": " ++ collision.first.describe ++ " and " ++
    collision.second.describe ++ " both generate '" ++ collision.name ++
    "'. Rename one of the routes or exclude it."

/-- The names claimed so far, with their owners. -/
abbrev Claims := List (String × Owner)

namespace Claims

/-- The claims of an empty module. -/
def helpers : Claims :=
  Name.reserved.map (·, .helper)

/-- Claims a name that nobody has claimed. -/
def add (claims : Claims) (module name : String) (owner : Owner) : Except Collision Claims :=
  match claims.lookup name with
  | some first => .error ⟨module, name, first, owner⟩
  | none => .ok ((name, owner) :: claims)

end Claims

/-- The routes that share a function, in table order. -/
structure RouteGroup where
  name : String
  first : Route
  others : List Route
  deriving Repr

namespace RouteGroup

/-- A row may join a group if it took its name from the row above and
stands for the same path. -/
def admits (group : RouteGroup) (route : Route) : Bool :=
  route.inherited && group.first.name == route.name && group.first.segments == route.segments

/-- Adds a route whose function has the given name. -/
def add (module name : String) (route : Route) : List RouteGroup →
    Except Collision (List RouteGroup)
  | [] => .ok [⟨name, route, []⟩]
  | group :: rest =>
    if group.name = name then
      if group.admits route then .ok ({ group with others := group.others ++ [route] } :: rest)
      else .error ⟨module, name, .route group.first.label, .route route.label⟩
    else (add module name route rest).map (group :: ·)

/-- The groups of the routes of a module, in the order of their first
rows. -/
def ofRoutes (module : String) (parts : List String) (routes : List Route) :
    Except Collision (List RouteGroup) :=
  routes.foldlM (fun groups route => add module (Function.nameFor parts route.name) route groups) []

end RouteGroup

namespace Function

/-- The parameters for dynamic segments, when those of earlier segments of
the route are known, each with the name of its segment. -/
def parameters? (module label : String) (known : List (String × String)) :
    List Segment → Except Collision (List Parameter)
  | [] => .ok []
  | .literal _ :: rest => parameters? module label known rest
  | .dynamic name optional _ :: rest =>
    let parameter := parameterName name
    match known.lookup parameter with
    | some earlier => .error ⟨module, parameter, .segmentOf earlier label, .segment name⟩
    | none =>
      (parameters? module label ((parameter, name) :: known) rest).map (⟨parameter, optional⟩ :: ·)

/-- The function of a group of routes. -/
def ofGroup (module : String) (group : RouteGroup) : Except Collision Function := do
  let parameters ← parameters? module group.first.label [] group.first.segments
  return ⟨group.name, parameters, group.first, group.others, bodyOf group.first.segments⟩

/-- Claims the names that a function defines. -/
def claim (module : String) (claims : Claims) (function : Function) : Except Collision Claims := do
  let label := function.route.label
  let claims ← match function.paramsClass? with
    | some name => claims.add module name (.parameters label)
    | none => pure claims
  claims.add module function.name (.route label)

/-- The names that a function adds to those that its module offers. -/
def exports (function : Function) : List String :=
  function.paramsClass?.toList ++ [function.name]

end Function

/-- The binding of a child module in its parent. -/
structure Import where
  packages : List String
  name : String
  deriving DecidableEq, Repr

/-- The content of a generated module. -/
structure Module where
  dotted : String
  imports : List Import
  functions : List Function
  deriving Repr

namespace Module

/-- How a child module is bound. -/
def importOf (layout : Layout) (child : Branch) : Import :=
  ⟨(layout.qualified child).dropLast, layout.name child⟩

/-- Claims the names of child modules. A child of the root module with the
root's own name is refused, because their files would share one import
name. -/
def claimChildren (layout : Layout) (parent : Branch) (claims : Claims) :
    List Branch → Except Collision Claims
  | [] => .ok claims
  | child :: rest =>
    let module := layout.dotted parent
    let name := layout.name child
    if parent.isRoot && name = layout.name parent then
      .error ⟨module, name, .rootModule module, .childModule (layout.dotted child)⟩
    else do
      let claims ← claims.add module name (.childModule (layout.dotted child))
      claimChildren layout parent claims rest

/-- The functions of groups of routes, each of which claims its names before
the next one is made. -/
def functionsOf (module : String) (claims : Claims) :
    List RouteGroup → Except Collision (List Function)
  | [] => .ok []
  | group :: rest => do
    let function ← Function.ofGroup module group
    let claims ← function.claim module claims
    let others ← functionsOf module claims rest
    return function :: others

/-- The content of the module for a branch. -/
def ofBranch (layout : Layout) (branch : Branch) : Except Collision Module := do
  let dotted := layout.dotted branch
  let claims ← claimChildren layout branch .helpers branch.emitting
  let groups ← RouteGroup.ofRoutes dotted branch.namespaceOf branch.routes
  let functions ← functionsOf dotted claims groups
  return ⟨dotted, branch.emitting.map (importOf layout), functions⟩

/-- The names that the module offers: its child modules, then what its
functions define. -/
def exports (module : Module) : List String :=
  module.imports.map (·.name) ++ module.functions.flatMap (·.exports)

/-- Some function has a parameter. -/
def hasParameters (module : Module) : Bool :=
  module.functions.any (!·.parameters.isEmpty)

/-- Some function has a parameter that may be left out. -/
def hasOptional (module : Module) : Bool :=
  module.functions.any (·.hasOptional)

end Module

end RoutePaths
