import RoutePaths.Decimal.Sum
import RoutePaths.Value.Json.Token

/-! What plain scalars stand for. Each notation of version 1.1 of the format
is looked for in turn, and a scalar in none of them is a text. Dates are
texts here. -/
namespace RoutePaths.Yaml

/-- The words for the two truth values. -/
def bool? (word : String) : Option Bool :=
  if ["yes", "Yes", "YES", "true", "True", "TRUE", "on", "On", "ON"].contains word then some true
  else if ["no", "No", "NO", "false", "False", "FALSE", "off", "Off", "OFF"].contains word then
    some false
  else none

/-- The words for the absent value. No word at all is one of them. -/
def isNull (word : String) : Bool :=
  ["", "~", "null", "Null", "NULL"].contains word

def isDigit (c : Char) : Bool :=
  '0' ≤ c && c ≤ '9'

/-- A character of the digits of a number. Underscores have no meaning. -/
def isSpacedDigit (c : Char) : Bool :=
  isDigit c || c == '_'

/-- The digits without underscores. -/
def unspaced (digits : List Char) : List Char :=
  digits.filter (· ≠ '_')

/-- The number that digits of some base denote, if there are any. -/
def inBase? (base : Nat) (digits : List Char) : Option Nat :=
  if unspaced digits = [] then none
  else (unspaced digits).foldlM (fun value digit => do
    let digit ← Json.hexDigit? digit
    if digit < base then some (base * value + digit) else none) 0

/-- One or two digits of a number below sixty. -/
def isSixtieth (part : List Char) : Bool :=
  match part with
  | [d] => isDigit d
  | [t, d] => '0' ≤ t && t ≤ '5' && isDigit d
  | _ => false

/-- The number that parts of base sixty denote. -/
def ofSixtieths (parts : List (List Char)) : Nat :=
  parts.foldl (fun value part => 60 * value + Json.decimalNumber (unspaced part)) 0

/-- Notations of integers without a sign. A leading zero means base eight. A
notation without a digit has the form of a number but no value. -/
inductive Notation where
  | none
  | valueless
  | number (value : Nat)

/-- The integer of an unsigned word. -/
def unsignedInt (word : List Char) : Notation :=
  let based (base : Nat) (digits : List Char) : Notation :=
    match inBase? base digits with
    | some value => .number value
    | Option.none => .valueless
  match word with
  | ['0'] => .number 0
  | '0' :: 'b' :: digits =>
    if digits ≠ [] && digits.all (fun c => c == '0' || c == '1' || c == '_') then based 2 digits
    else .none
  | '0' :: 'x' :: digits =>
    if digits ≠ [] && digits.all (fun c => (Json.hexDigit? c).isSome || c == '_') then
      based 16 digits
    else .none
  | '0' :: digits =>
    if digits.all (fun c => ('0' ≤ c && c ≤ '7') || c == '_') then based 8 ('0' :: digits)
    else .none
  | word =>
    if !word.head?.any isDigit then .none
    else
      match word.splitOn ':' with
      | [] => .none
      | first :: parts =>
        if first ≠ [] && first.all isSpacedDigit && parts.all isSixtieth then
          .number (ofSixtieths (first :: parts))
        else .none

/-- The exponent of a real with its mark and its sign, which has to be
written. -/
def exponent? : List Char → Option Int
  | [] => some 0
  | e :: sign :: digits =>
    if (e == 'e' || e == 'E') && (sign == '+' || sign == '-') && digits ≠ [] &&
        digits.all isDigit then
      let size : Int := Json.decimalNumber digits
      some (if sign == '-' then -size else size)
    else none
  | _ => none

/-- The real of an unsigned word in digits. Digits have to stand in front of
the point, or right behind it if a sign does not. -/
def unsignedReal? (signed : Bool) (word : List Char) : Option Binary64 :=
  let whole := word.takeWhile isSpacedDigit
  match word.dropWhile isSpacedDigit with
  | '.' :: after =>
    let fraction := after.takeWhile isSpacedDigit
    let starts :=
      if whole = [] then !signed && fraction.head?.any isDigit else whole.head?.any isDigit
    if starts then
      (exponent? (after.dropWhile isSpacedDigit)).map fun exponent =>
        .ofDecimal false (Json.decimalNumber (unspaced (whole ++ fraction)))
          (exponent - (unspaced fraction).length)
    else none
  | _ => none

/-- The real of an unsigned word in base sixty, with a decimal fraction. -/
def sixtiethReal? (word : List Char) : Option Binary64 :=
  let whole := word.takeWhile (· ≠ '.')
  match word.dropWhile (· ≠ '.'), whole.splitOn ':' with
  | '.' :: fraction, first :: parts =>
    if first.head?.any isDigit && first.all isSpacedDigit && parts ≠ [] && parts.all isSixtieth &&
        fraction.all isSpacedDigit then
      let last := parts.getLastD []
      let seconds := .ofDecimal false (Json.decimalNumber (last ++ unspaced fraction))
        (-((unspaced fraction).length : Int))
      some (Binary64.addNat seconds (60 * ofSixtieths (first :: parts.dropLast)))
    else none
  | _, _ => none

/-- The real of a word without its sign. -/
def real? (signed : Bool) (word : List Char) : Option Binary64 :=
  if [".inf", ".Inf", ".INF"].contains (String.ofList word) then some (.infinite false)
  else if !signed && [".nan", ".NaN", ".NAN"].contains (String.ofList word) then some .undefined
  else (unsignedReal? signed word).orElse fun _ => sixtiethReal? word

/-- The value of a plain scalar. The two words that only mean something as
keys have none, and neither has a number without digits. -/
def resolve? (word : List Char) : Option Value :=
  let text := String.ofList word
  let negative := word.head? = some '-'
  let signed := negative || word.head? = some '+'
  let body := if signed then word.tail else word
  if text = "<<" || text = "=" then none
  else if isNull text then some .null
  else
    match bool? text, real? signed body with
    | some value, _ => some (.bool value)
    | none, some number => some (.real (if negative then number.negate else number))
    | none, none =>
      match unsignedInt body with
      | .number value => some (.int (if negative then -value else value))
      | .valueless => none
      | .none => some (.text text)

end RoutePaths.Yaml
