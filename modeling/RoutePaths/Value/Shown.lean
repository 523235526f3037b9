import RoutePaths.Text.Quoted
import RoutePaths.Value.Json.Printer

/-! The text of a value in messages, and where a value stands in for a text.
It resembles JSON but is not meant to be read back: constants are
capitalised and texts have single quotes. -/
namespace RoutePaths.Value

/-- The text of a real. -/
def realShown : Binary64 → String
  | .finite negative mantissa exponent =>
    Binary64.Layout.standard.finiteText negative mantissa exponent
  | .infinite false => "inf"
  | .infinite true => "-inf"
  | .undefined => "nan"

/-- A code point of broken text between the given quotes. -/
def quotedPoint (quote : Char) (point : Nat) : List Char :=
  if isSurrogate point then '\\' :: 'u' :: Text.hexDigits 4 point
  else Text.quotedChar quote (Char.ofNat point)

/-- Broken text between quotes. -/
def quotedPoints (points : List Nat) : List Char :=
  let quote := Text.quoteFor (points.map Char.ofNat)
  quote :: points.flatMap (quotedPoint quote) ++ [quote]

mutual

/-- The value as it is shown inside a list or a map, where texts are
quoted. -/
def shownInside : Value → List Char
  | null => "None".toList
  | bool value => (if value then "True" else "False").toList
  | int value => Json.intText value
  | real value => (realShown value).toList
  | text value => (Text.quoted value).toList
  | broken points => quotedPoints points
  | list [] => ['[', ']']
  | list (item :: rest) => '[' :: shownInside item ++ shownItems rest ++ [']']
  | map [] => ['{', '}']
  | map ((key, value) :: rest) =>
    '{' :: shownInside key ++ ':' :: ' ' :: shownInside value ++ shownEntries rest ++ ['}']

/-- The items after the first one. -/
def shownItems : List Value → List Char
  | [] => []
  | item :: rest => ',' :: ' ' :: shownInside item ++ shownItems rest

/-- The entries after the first one. -/
def shownEntries : List (Value × Value) → List Char
  | [] => []
  | (key, value) :: rest =>
    ',' :: ' ' :: shownInside key ++ ':' :: ' ' :: shownInside value ++ shownEntries rest

end

/-- The value as it is shown on its own: a text is shown as it is. -/
def shown : Value → String
  | text value => value
  | value => String.ofList (shownInside value)

end RoutePaths.Value
