import RoutePaths.Text.Blank
import RoutePaths.Text.Quoted
import RoutePaths.Value.Shown

/-! Patterns for route names. The star stands for any run of characters on
one line and every other character for itself. Other wildcard notations are
refused, so that a pattern that was meant differently never selects
routes. -/
namespace RoutePaths

/-- What a configuration or a caller gives for a pattern. Only a text can be
one; anything else is kept as it is shown in the complaint about it. -/
inductive Pattern where
  | text (pattern : String)
  | other (shown : String)
  deriving DecidableEq, Repr

namespace Pattern

/-- A value given for a pattern. -/
def ofValue : Value → Pattern
  | .text pattern => text pattern
  | value => other value.shown

/-- The pattern as messages show it. -/
def shown : Pattern → String
  | text pattern => pattern
  | other shown => shown

/-- Why a pattern is refused. -/
inductive Flaw where
  | empty
  | blank
  | unsupported (characters : String)
  deriving DecidableEq, Repr

/-- The wording of a flaw. -/
def Flaw.message : Flaw → String
  | empty => "pattern must be a non-empty string"
  | blank => "pattern must not contain whitespace"
  | unsupported characters =>
    "unsupported glob syntax " ++ Text.quoted characters ++ "; only '*' is allowed"

/-- The characters of other wildcard notations, in the order in which a
complaint lists them. -/
def unsupportedChars : List Char :=
  ['?', '[', ']', '{', '}']

/-- What is wrong with a pattern. Of several flaws, the first in the order of
`Flaw` is found. -/
def flaw? : Pattern → Option Flaw
  | other _ => some .empty
  | text pattern =>
    if pattern = "" then some .empty
    else if pattern.toList.any Text.isBlank then some .blank
    else
      let found := unsupportedChars.filter (· ∈ pattern.toList)
      if found = [] then none else some (.unsupported (String.ofList found))

/-- A pattern that has been refused. -/
structure Error where
  pattern : String
  flaw : Flaw
  deriving DecidableEq, Repr

/-- The wording of the refusal. -/
def Error.message (error : Error) : String :=
  "Invalid route pattern " ++ Text.quoted error.pattern ++ ": " ++ error.flaw.message

/-- The text of a pattern without flaws. -/
def check (pattern : Pattern) : Except Error String :=
  match pattern.flaw?, pattern with
  | none, text pattern => .ok pattern
  | none, other shown => .error ⟨shown, .empty⟩
  | some flaw, pattern => .error ⟨pattern.shown, flaw⟩

/-- The whole name matches. A star never runs over a line feed. -/
def admits : List Char → List Char → Bool
  | [], [] => true
  | [], _ :: _ => false
  | '*' :: rest, [] => admits rest []
  | '*' :: rest, c :: name =>
    admits rest (c :: name) || (c != '\n' && admits ('*' :: rest) name)
  | _ :: _, [] => false
  | p :: rest, c :: name => p == c && admits rest name
termination_by pattern name => pattern.length + name.length

/-- Whether a name matches a pattern. A flawed pattern is an error for any
name. -/
def matchName (pattern name : String) : Except Error Bool := do
  let checked ← (text pattern).check
  return admits checked.toList name.toList

end Pattern

end RoutePaths
