import RoutePaths.Value.Basic

/-! The tokens of JSON text. Cutting text into tokens needs no look-ahead
beyond the next character, and whether the tokens form a document is decided
elsewhere. -/
namespace RoutePaths.Json

/-- A mark, or a value that is no list and no map. -/
inductive Token where
  | openList
  | closeList
  | openMap
  | closeMap
  | comma
  | colon
  | scalar (value : Value)
  deriving Repr

/-- The four characters that may stand between tokens. -/
def isSpace (c : Char) : Bool :=
  c == ' ' || c == '\t' || c == '\n' || c == '\r'

/-- The mark that a character is. -/
def mark? : Char → Option Token
  | '[' => some .openList
  | ']' => some .closeList
  | '{' => some .openMap
  | '}' => some .closeMap
  | ',' => some .comma
  | ':' => some .colon
  | _ => none

/-- Characters of numbers and of the constant words. Any character that has
no other use is taken for one, and then makes its word invalid. -/
def isWordChar (c : Char) : Bool :=
  !isSpace c && (mark? c).isNone && c != '"'

/-- The value of a hexadecimal digit. -/
def hexDigit? (c : Char) : Option Nat :=
  if '0' ≤ c ∧ c ≤ '9' then some (c.toNat - '0'.toNat)
  else if 'a' ≤ c ∧ c ≤ 'f' then some (c.toNat - 'a'.toNat + 10)
  else if 'A' ≤ c ∧ c ≤ 'F' then some (c.toNat - 'A'.toNat + 10)
  else none

/-- The number that hexadecimal digits denote, the first one being the most
significant. -/
def hexNumber? (digits : List Char) : Option Nat :=
  digits.foldlM (fun value digit => (hexDigit? digit).map (16 * value + ·)) 0

/-- The code point of a two-character escape. -/
def escaped? : Char → Option Nat
  | '"' => some 0x22
  | '\\' => some 0x5C
  | '/' => some 0x2F
  | 'b' => some 0x08
  | 'f' => some 0x0C
  | 'n' => some 0x0A
  | 'r' => some 0x0D
  | 't' => some 0x09
  | _ => none

/-- The number that decimal digits denote. -/
def decimalNumber (digits : List Char) : Nat :=
  digits.foldl (fun value digit => 10 * value + (digit.toNat - '0'.toNat)) 0

/-- The whole part of a number: a zero, or digits that do not start with
one. -/
def isWhole : List Char → Bool
  | [] => false
  | ['0'] => true
  | c :: rest => c != '0' && (c :: rest).all Char.isDigit

/-- The exponent of a number with its mark, if nothing follows it. -/
def exponent? : List Char → Option Int
  | [] => some 0
  | e :: rest =>
    let digits := match rest with
      | '+' :: digits => digits
      | '-' :: digits => digits
      | digits => digits
    if (e == 'e' || e == 'E') && digits != [] && digits.all Char.isDigit then
      let size : Int := decimalNumber digits
      some (if rest.head? = some '-' then -size else size)
    else none

/-- The value of an unsigned number. It is an integer unless a fraction or an
exponent is written. -/
def unsigned? (negative : Bool) (word : List Char) : Option Value :=
  let whole := word.takeWhile Char.isDigit
  let rest := word.dropWhile Char.isDigit
  if !isWhole whole then none
  else if rest = [] then
    let size : Int := decimalNumber whole
    some (.int (if negative then -size else size))
  else
    let fraction := match rest with
      | '.' :: digits => digits.takeWhile Char.isDigit
      | _ => []
    let power := match rest with
      | '.' :: digits => digits.dropWhile Char.isDigit
      | _ => rest
    if rest.head? = some '.' && fraction = [] then none
    else (exponent? power).map fun exponent =>
      .real (.ofDecimal negative (decimalNumber (whole ++ fraction)) (exponent - fraction.length))

/-- The value of a constant word. The three words for reals that no digits
can denote are accepted too. -/
def constant? : List Char → Option Value
  | ['n', 'u', 'l', 'l'] => some .null
  | ['t', 'r', 'u', 'e'] => some (.bool true)
  | ['f', 'a', 'l', 's', 'e'] => some (.bool false)
  | ['N', 'a', 'N'] => some (.real .undefined)
  | ['I', 'n', 'f', 'i', 'n', 'i', 't', 'y'] => some (.real (.infinite false))
  | ['-', 'I', 'n', 'f', 'i', 'n', 'i', 't', 'y'] => some (.real (.infinite true))
  | _ => none

/-- The value of a word. -/
def word? (word : List Char) : Option Value :=
  match constant? word with
  | some value => some value
  | none =>
    match word with
    | '-' :: rest => unsigned? true rest
    | _ => unsigned? false word

/-- Joins each escaped pair of surrogates into the code point that it stands
for. A surrogate without its partner stays. -/
def joinPairs : List Nat → List Nat
  | high :: low :: rest =>
    if 0xD800 ≤ high && high ≤ 0xDBFF && 0xDC00 ≤ low && low ≤ 0xDFFF then
      (0x10000 + (high - 0xD800) * 0x400 + (low - 0xDC00)) :: joinPairs rest
    else high :: joinPairs (low :: rest)
  | points => points

/-- Where a reader stands: between quotes, with the code points read so far
in reverse, or outside, with the characters of an unfinished word in
reverse. -/
inductive Place where
  | inText (points : List Nat)
  | outside (word : List Char)

/-- Cuts text into tokens. There is no answer when a word is no value, an
escape is unknown, a control character stands in a text, or a text is not
closed. -/
def tokens? : Place → List Char → Option (List Token)
  | .inText _, [] => none
  | .inText points, '"' :: rest =>
    (tokens? (.outside []) rest).map (.scalar (.ofPoints (joinPairs points.reverse)) :: ·)
  | .inText points, '\\' :: 'u' :: a :: b :: c :: d :: rest =>
    match hexNumber? [a, b, c, d] with
    | some point => tokens? (.inText (point :: points)) rest
    | none => none
  | .inText points, '\\' :: c :: rest =>
    match escaped? c with
    | some point => tokens? (.inText (point :: points)) rest
    | none => none
  | .inText points, c :: rest =>
    if c.toNat < 0x20 || c == '\\' then none else tokens? (.inText (c.toNat :: points)) rest
  | .outside _, [] => some []
  | .outside word, c :: rest =>
    if isWordChar c then
      if (rest.head?.any isWordChar) then tokens? (.outside (c :: word)) rest
      else
        match word? (c :: word).reverse with
        | some value => (tokens? (.outside []) rest).map (.scalar value :: ·)
        | none => none
    else if c = '"' then tokens? (.inText []) rest
    else
      match mark? c with
      | some mark => (tokens? (.outside []) rest).map (mark :: ·)
      | none => tokens? (.outside []) rest

end RoutePaths.Json
