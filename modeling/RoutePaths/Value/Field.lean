import RoutePaths.Value.Basic

/-! What may be wrong with a record that is to become a value of a type of
its own. A fault is a place and a cause; its wording is left to those who
report it. -/
namespace RoutePaths.Value

/-- Why the value at a place is refused. -/
inductive Cause where
  | missing
  | notText
  | brokenText
  | tooShort
  | notBool
  | notInt
  | notList
  | notMap
  | notRecord
  | noKind
  | unknownKind
  deriving DecidableEq, Repr

/-- A refused value, with the keys and numbers that lead to it. -/
structure Fault where
  path : List String
  cause : Cause
  deriving DecidableEq, Repr

/-- Everything that is wrong with a record, in the order of its fields. -/
abbrev Faults := List Fault

/-- The faults of a result. A success has none. -/
def faultsOf {α : Type} : Except Faults α → Faults
  | .ok _ => []
  | .error faults => faults

/-- A field that has to be a text. -/
def textAt (path : List String) : Value → Except Faults String
  | .text value => .ok value
  | .broken _ => .error [⟨path, .brokenText⟩]
  | _ => .error [⟨path, .notText⟩]

/-- A field that has to be a truth value. -/
def boolAt (path : List String) : Value → Except Faults Bool
  | .bool value => .ok value
  | _ => .error [⟨path, .notBool⟩]

/-- A field that has to be an integer. -/
def intAt (path : List String) : Value → Except Faults Int
  | .int value => .ok value
  | _ => .error [⟨path, .notInt⟩]

/-- A field of a record. One that may be left out has a value to fall back on. -/
def fieldAt {α : Type} (path : List String) (record : Value) (key : String)
    (read : List String → Value → Except Faults α) (fallback : Option α) :
    Except Faults α :=
  match record.get? key, fallback with
  | some value, _ => read (path ++ [key]) value
  | none, some value => .ok value
  | none, none => .error [⟨path ++ [key], .missing⟩]

end RoutePaths.Value
