import RoutePaths.Decimal.Layout

/-! Dynamic values: what a JSON or YAML document holds. Documents are the
only place where a value's shape is not known in advance; everything past
the reading of a document has a type of its own. -/
namespace RoutePaths

/-- A value of a document. Keys of a map are values as well, because YAML
allows them to be; maps keep the order of first insertion. Text that holds a
code point of the surrogate range is kept apart as `broken`, since no
sequence of characters can stand for it. -/
inductive Value where
  | null
  | bool (value : Bool)
  | int (value : Int)
  | real (value : Binary64)
  | text (value : String)
  | broken (points : List Nat)
  | list (items : List Value)
  | map (entries : List (Value × Value))
  deriving Repr, Inhabited

namespace Value

/-- Code points from the surrogate range stand for no character. -/
def isSurrogate (point : Nat) : Bool :=
  0xD800 ≤ point && point ≤ 0xDFFF

/-- The text of a list of code points. -/
def ofPoints (points : List Nat) : Value :=
  if points.any isSurrogate then broken points
  else text (String.ofList (points.map Char.ofNat))

/-- The number that a value counts as when keys are compared: a truth value
counts as zero or one, and a real as the integer that it equals. -/
def asInt? : Value → Option Int
  | bool value => some (if value then 1 else 0)
  | int value => some value
  | real value => value.toInt?
  | _ => none

/-- Two keys that a map does not tell apart. Lists and maps are no keys, so
they agree with nothing. -/
def sameKey : Value → Value → Bool
  | null, null => true
  | text first, text second => first == second
  | broken first, broken second => first == second
  | real (.finite false m e), real (.finite false m' e') => m == m' && e == e'
  | real (.finite true m e), real (.finite true m' e') => m == m' && (e == e' || m == 0)
  | real (.infinite first), real (.infinite second) => first == second
  | first, second =>
    match first.asInt?, second.asInt? with
    | some n, some k => n == k
    | _, _ => false

/-- Puts an entry into a map: a key that is there already keeps its place
and takes the new value. -/
def insert (key value : Value) : List (Value × Value) → List (Value × Value)
  | [] => [(key, value)]
  | (k, v) :: rest => if sameKey k key then (k, value) :: rest else (k, v) :: insert key value rest

/-- A map from entries in the order in which they were given. -/
def ofEntries (entries : List (Value × Value)) : Value :=
  map (entries.foldl (fun known entry => insert entry.1 entry.2 known) [])

/-- The value of a text key. Values that are no map have no entries. -/
def get? (value : Value) (key : String) : Option Value :=
  match value with
  | map entries =>
    (entries.find? fun entry => match entry.1 with
      | text name => name == key
      | _ => false).map (·.2)
  | _ => none

/-- A map with text keys, in the given order. -/
def record (fields : List (String × Value)) : Value :=
  map (fields.map fun field => (text field.1, field.2))

/-- A list of texts. -/
def texts (items : List String) : Value :=
  list (items.map text)

end Value

end RoutePaths
