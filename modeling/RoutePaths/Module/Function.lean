import RoutePaths.Name
import RoutePaths.Route

/-! The function generated for a route. It has a parameter for each dynamic
segment, in path order, and returns the path with the values put in. How the
function is written down is decided elsewhere. -/
namespace RoutePaths

/-- A parameter of a generated function. -/
structure Parameter where
  name : String
  optional : Bool
  deriving DecidableEq, Repr

/-- A part of a path: fixed text, an escaped value, or a value that brings
its separator with it and is nothing when it is left out. -/
inductive Piece where
  | text (text : String)
  | value (parameter : String)
  | optional (parameter separator : String)
  deriving DecidableEq, Repr

/-- What a generated function returns: its pieces joined, and the root path
instead of an empty result if it asks for that. -/
structure Body where
  pieces : List Piece
  orRoot : Bool
  deriving DecidableEq, Repr

/-- A generated function. The first route gives it its name and its body;
the others are rows for further verbs of the same path, and are only
documented. -/
structure Function where
  name : String
  parameters : List Parameter
  route : Route
  others : List Route
  body : Body
  deriving Repr

namespace Function

/-- The name of the function for a route in a module with the given
namespace. What the namespace puts in front of route names is dropped, but a
name that consists of nothing else is kept. -/
def nameFor (parts : List String) (routeName : String) : String :=
  let lead := ("_".intercalate parts ++ "_").toList
  let name := routeName.toList
  let base :=
    if parts ≠ [] && lead.isPrefixOf name && name.length > lead.length then name.drop lead.length
    else name
  Name.sanitize (String.ofList base) "route"

/-- The parameter for a dynamic name. -/
def parameterName (name : String) : String :=
  Name.sanitize name "param"

/-- The text that is still to be written, as a piece unless it is empty. -/
def flush (pending : String) : List Piece :=
  if pending = "" then [] else [.text pending]

/-- The pieces of a path. Neighbouring fixed texts are joined, and the
separator of a required value is fixed text too. -/
def pieces (pending : String) : List Segment → List Piece
  | [] => flush pending
  | .literal text :: rest => pieces (pending ++ "/" ++ text) rest
  | .dynamic name false separator :: rest =>
    .text (pending ++ separator) :: .value (parameterName name) :: pieces "" rest
  | .dynamic name true separator :: rest =>
    flush pending ++ .optional (parameterName name) separator :: pieces "" rest

/-- Every segment can be left out, so the pieces may all be nothing. -/
def isAllOptional (segments : List Segment) : Bool :=
  segments.all fun segment => match segment with
    | .dynamic _ true _ => true
    | _ => false

/-- The body for a path. -/
def bodyOf (segments : List Segment) : Body :=
  ⟨pieces "" segments, isAllOptional segments⟩

/-- The class that holds the parameters. There is none without
parameters. -/
def paramsClass? (function : Function) : Option String :=
  if function.parameters.isEmpty then none else some (Name.pascal function.name ++ "Params")

/-- One of the parameters may be left out. -/
def hasOptional (function : Function) : Bool :=
  function.parameters.any (·.optional)

/-- The documented routes. -/
def routes (function : Function) : List Route :=
  function.route :: function.others

end Function

end RoutePaths
