import RoutePaths.Uri.Segment

/-! Routes: a name for a URI template, with the verbs and the action that the
template serves. Only the name, the segments and the namespace decide what is
generated for a route; the rest documents it. -/
namespace RoutePaths

/-- A row of a route table. The verb and the action may be empty. A route
has an inherited name if its row named none and it took the name of an
earlier row. -/
structure Route where
  name : String
  verb : String
  uri : String
  segments : List Segment
  action : String
  line : Int
  inherited : Bool
  deriving DecidableEq, Repr, Inhabited

/-- How messages refer to a route. Routes of one table have different
labels, because they stand on different lines. -/
def Route.label (route : Route) : String :=
  let verb := if route.verb = "" then "no verb" else route.verb
  "'" ++ route.name ++ "' (" ++ verb ++ ", line " ++ toString route.line ++ ")"

end RoutePaths
