import RoutePaths.Name
import RoutePaths.Proofs.Json.Quote

/-! Expressions of generated statements, and their values. Strings, names,
calls of the escaping helper, sums, identity with the absent value, `or` and
conditional expressions are covered, with the precedence that Python gives
them. Evaluation has no result where Python would raise an error, and also
where the value depends on more than is known of an argument. -/
namespace RoutePaths

inductive Expression where
  | text (value : String)
  | absent
  | name (name : String)
  | call (function : String) (argument : Expression)
  | sum (left right : Expression)
  | same (left right : Expression)
  | either (left right : Expression)
  | choice (value condition other : Expression)
  deriving DecidableEq, Repr

/-- A value at run time. Arguments are opaque: nothing is known of them but
how they are escaped. -/
inductive Datum (α : Type) where
  | argument (value : α)
  | absent
  | text (value : String)
  | truth (value : Bool)
  deriving DecidableEq, Repr

namespace Datum

variable {α : Type}

/-- What a parameter is bound to: a value, or its default when none is
given. -/
def ofOption : Option α → Datum α
  | some value => argument value
  | none => absent

/-- Whether a value counts as true. -/
def isTrue? : Datum α → Option Bool
  | argument _ => none
  | absent => some false
  | text value => some (value != "")
  | truth value => some value

def add? : Datum α → Datum α → Option (Datum α)
  | text left, text right => some (text (left ++ right))
  | _, _ => none

/-- Identity is only decided against the absent value. -/
def same? : Datum α → Datum α → Option (Datum α)
  | absent, absent => some (truth true)
  | _, absent => some (truth false)
  | _, _ => none

end Datum

namespace Expression

/-- The function of a module that escapes a value. -/
def escapeHelper : String := "_escape"

/-- The value of an expression. The helper can only be called as long as no
parameter hides it, and only the branch that is chosen is evaluated. -/
def eval {α : Type} (escape : α → String) (scope : String → Option (Datum α)) :
    Expression → Option (Datum α)
  | text value => some (.text value)
  | absent => some .absent
  | name parameter => scope parameter
  | call function argument =>
    match function == escapeHelper && (scope function).isNone, eval escape scope argument with
    | true, some (.argument value) => some (.text (escape value))
    | _, _ => none
  | sum left right => do (← eval escape scope left).add? (← eval escape scope right)
  | same left right => do (← eval escape scope left).same? (← eval escape scope right)
  | either left right => do
    let value ← eval escape scope left
    if ← value.isTrue? then return value else eval escape scope right
  | choice value condition other => do
    if ← (← eval escape scope condition).isTrue? then eval escape scope value
    else eval escape scope other

end Expression

end RoutePaths
