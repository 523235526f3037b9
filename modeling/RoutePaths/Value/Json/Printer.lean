import RoutePaths.Value.Basic

/-! Writing values as JSON. A style fixes the line breaks and which
characters are escaped; the value alone fixes the rest. -/
namespace RoutePaths.Json

/-- How a value is laid out. With an indentation, each item has a line of its
own; without one, there is no space at all. Characters outside ASCII are
escaped only on request. -/
structure Style where
  indent : Option Nat
  asciiOnly : Bool

/-- A digit of a hexadecimal number, lower-case. -/
def hexChar (digit : Nat) : Char :=
  Nat.digitChar (digit % 16)

/-- Four hexadecimal digits. -/
def hexFour (point : Nat) : List Char :=
  [hexChar (point / 4096), hexChar (point / 256), hexChar (point / 16), hexChar point]

/-- One code point by its number: two escapes of surrogates above the basic
plane. -/
def numericEscape (point : Nat) : List Char :=
  if point < 0x10000 then '\\' :: 'u' :: hexFour point
  else
    let offset := point - 0x10000
    '\\' :: 'u' :: hexFour (0xD800 + offset / 0x400) ++
      '\\' :: 'u' :: hexFour (0xDC00 + offset % 0x400)

/-- One character between quotes. -/
def escapeChar (asciiOnly : Bool) (c : Char) : List Char :=
  if c = '"' then ['\\', '"']
  else if c = '\\' then ['\\', '\\']
  else if c = '\n' then ['\\', 'n']
  else if c = '\r' then ['\\', 'r']
  else if c = '\t' then ['\\', 't']
  else if c = '\x08' then ['\\', 'b']
  else if c = '\x0c' then ['\\', 'f']
  else if c.toNat < 0x20 || (asciiOnly && c.toNat ≥ 0x7F) then numericEscape c.toNat
  else [c]

/-- A text between quotes. -/
def quote (asciiOnly : Bool) (text : List Char) : List Char :=
  '"' :: text.flatMap (escapeChar asciiOnly) ++ ['"']

/-- A code point of broken text. Those of the surrogate range can only be
written by their number. -/
def escapePoint (asciiOnly : Bool) (point : Nat) : List Char :=
  if Value.isSurrogate point then numericEscape point
  else escapeChar asciiOnly (Char.ofNat point)

/-- The text of a real. The last three words are no JSON, but readers of
JSON commonly take them. -/
def realText : Binary64 → String
  | .finite negative mantissa exponent =>
    Binary64.Layout.standard.finiteText negative mantissa exponent
  | .infinite false => "Infinity"
  | .infinite true => "-Infinity"
  | .undefined => "NaN"

/-- The text of an integer. -/
def intText (value : Int) : List Char :=
  if value < 0 then '-' :: Nat.toDigits 10 value.natAbs else Nat.toDigits 10 value.natAbs

/-- The line break and the indentation in front of an item. -/
def Style.lineStart (style : Style) (depth : Nat) : List Char :=
  match style.indent with
  | none => []
  | some width => '\n' :: List.replicate (width * depth) ' '

/-- What stands between a key and its value. -/
def Style.colon (style : Style) : List Char :=
  if style.indent.isSome then [':', ' '] else [':']

/-- The key of an entry as text. Keys that are no text are written as their
value would be, between quotes. -/
def keyText (asciiOnly : Bool) : Value → List Char
  | .text value => quote asciiOnly value.toList
  | .broken points => '"' :: points.flatMap (escapePoint asciiOnly) ++ ['"']
  | .null => quote asciiOnly "null".toList
  | .bool value => quote asciiOnly (if value then "true" else "false").toList
  | .int value => quote asciiOnly (intText value)
  | .real value => quote asciiOnly (realText value).toList
  | .list _ => quote asciiOnly []
  | .map _ => quote asciiOnly []

mutual

/-- A value whose first line has been indented already. Its further lines
are at the given depth. -/
def Style.chars (style : Style) (depth : Nat) : Value → List Char
  | .null => "null".toList
  | .bool value => (if value then "true" else "false").toList
  | .int value => intText value
  | .real value => (realText value).toList
  | .text value => quote style.asciiOnly value.toList
  | .broken points => '"' :: points.flatMap (escapePoint style.asciiOnly) ++ ['"']
  | .list [] => ['[', ']']
  | .list (item :: rest) =>
    '[' :: style.lineStart (depth + 1) ++ style.chars (depth + 1) item ++
      style.items (depth + 1) rest ++ style.lineStart depth ++ [']']
  | .map [] => ['{', '}']
  | .map ((key, value) :: rest) =>
    '{' :: style.lineStart (depth + 1) ++ keyText style.asciiOnly key ++ style.colon ++
      style.chars (depth + 1) value ++
      style.entries (depth + 1) rest ++ style.lineStart depth ++ ['}']

/-- The items after the first one. -/
def Style.items (style : Style) (depth : Nat) : List Value → List Char
  | [] => []
  | item :: rest =>
    ',' :: style.lineStart depth ++ style.chars depth item ++ style.items depth rest

/-- The entries after the first one. -/
def Style.entries (style : Style) (depth : Nat) : List (Value × Value) → List Char
  | [] => []
  | (key, value) :: rest =>
    ',' :: style.lineStart depth ++ keyText style.asciiOnly key ++ style.colon ++
      style.chars depth value ++ style.entries depth rest

end

/-- The value as JSON text. -/
def Style.print (style : Style) (value : Value) : String :=
  String.ofList (style.chars 0 value)

end RoutePaths.Json
