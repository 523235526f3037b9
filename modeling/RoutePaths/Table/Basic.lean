import RoutePaths.Route
import RoutePaths.Uri.Template
import RoutePaths.Table.Row
import RoutePaths.Text.Line

/-! Reading route tables. The first line is the head of the table. Every
later line has exactly one outcome: it is passed over, it is a route, or it
is rejected with a diagnostic. Reading never fails as a whole. -/
namespace RoutePaths

/-- Why a line of a table is no route. -/
inductive Fault where
  | columns (error : Row.Error)
  | nameless (uri : String)
  | template (error : Template.Error)
  deriving DecidableEq, Repr

/-- The wording of a fault. -/
def Fault.message : Fault → String
  | columns error => error.message
  | nameless uri => "Route " ++ uri ++ " has no name and no preceding named route; skipped"
  | template error => error.message

/-- A rejected line, with its number and its text. -/
structure Diagnostic where
  number : Nat
  line : String
  fault : Fault
  deriving DecidableEq, Repr

/-- The diagnostic with its line number in front. -/
def Diagnostic.text (diagnostic : Diagnostic) : String :=
  "line " ++ toString diagnostic.number ++ ": " ++ diagnostic.fault.message

namespace Table

/-- What becomes of a line. -/
inductive Outcome where
  | skipped
  | accepted (route : Route)
  | rejected (diagnostic : Diagnostic)
  deriving Repr

/-- The head of the table, which may be repeated further down. Only its
first words are looked at. -/
def isHeader (line : List Char) : Bool :=
  match Text.words line with
  | first :: second :: third :: fourth :: _ =>
    first == "Prefix".toList && second == "Verb".toList && third == "URI".toList &&
      "Pattern".toList.isPrefixOf fourth
  | _ => false

/-- The start of the line that announces the routes of an engine. -/
def bannerStart : List Char :=
  "Routes for ".toList

/-- The line that announces the routes of an engine. It names the engine and
ends with a colon. -/
def isBanner (line : List Char) : Bool :=
  let text := Text.trim line
  bannerStart.isPrefixOf text && text.getLast? == some ':' &&
    text.length ≥ bannerStart.length + 2

/-- A line that is no row. -/
def isLayout (line : List Char) : Bool :=
  Text.isAllBlank line || isHeader line || isBanner line

/-- The outcome of a row with the given columns when the last named row had
the given name. -/
def ofColumns (lastName : Option String) (number : Nat) (line : String) (columns : Row.Columns) :
    Outcome :=
  match (if columns.name = "" then lastName else some columns.name) with
  | none => .rejected ⟨number, line, .nameless columns.uri⟩
  | some name =>
    match Template.read columns.uri with
    | .error error => .rejected ⟨number, line, .template error⟩
    | .ok segments => .accepted
        { name
          verb := columns.verb
          uri := columns.uri
          segments
          action := columns.action
          line := number
          inherited := columns.name = "" }

/-- The name that rows after this one inherit. A row passes its name on as
soon as its columns can be told, even if its URI then turns out to be no
template. -/
def nextName (lastName : Option String) (line : String) : Option String :=
  if isLayout line.toList then lastName
  else
    match Row.read line with
    | .ok columns => if columns.name = "" then lastName else some columns.name
    | .error _ => lastName

/-- The outcome of a line. -/
def readLine (lastName : Option String) (number : Nat) (line : String) : Outcome :=
  if isLayout line.toList then .skipped
  else
    match Row.read line with
    | .ok columns => ofColumns lastName number line columns
    | .error error => .rejected ⟨number, line, .columns error⟩

/-- The outcomes of consecutive lines. -/
def outcomes (lastName : Option String) (number : Nat) : List String → List Outcome
  | [] => []
  | line :: rest =>
    readLine lastName number line :: outcomes (nextName lastName line) (number + 1) rest

/-- The route of an outcome. -/
def Outcome.route? : Outcome → Option Route
  | accepted route => some route
  | _ => none

/-- The diagnostic of an outcome. -/
def Outcome.diagnostic? : Outcome → Option Diagnostic
  | rejected diagnostic => some diagnostic
  | _ => none

end Table

/-- A table that has been read: its routes and its rejected lines, each in
the order of the lines. -/
structure Table where
  routes : List Route
  diagnostics : List Diagnostic
  deriving Repr

/-- Reads a table. Lines are numbered from one, and the first one is passed
over whatever it holds. -/
def Table.read (text : String) : Table :=
  let lines := (Text.lines text.toList).map String.ofList
  let results := outcomes none 2 lines.tail
  ⟨results.filterMap (·.route?), results.filterMap (·.diagnostic?)⟩

end RoutePaths
