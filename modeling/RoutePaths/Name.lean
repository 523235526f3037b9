import RoutePaths.Text.Identifier

/-! Names in generated code. Route names are free text; these functions turn
them into names that Python accepts. Different route names may become the
same name: that is for those who use the names to find out. -/
namespace RoutePaths.Name

/-- The words that are no identifiers in Python. -/
def keywords : List String :=
  ["False", "None", "True", "and", "as", "assert", "async", "await", "break", "class", "continue",
   "def", "del", "elif", "else", "except", "finally", "for", "from", "global", "if", "import", "in",
   "is", "lambda", "nonlocal", "not", "or", "pass", "raise", "return", "try", "while", "with",
   "yield"]

/-- The names that every generated module defines, imports or uses. -/
def reserved : List String :=
  ["annotations", "quote", "TypedDict", "NotRequired", "_escape", "__all__", "str", "int"]

/-- A letter or digit of ASCII. -/
def isWordChar (c : Char) : Bool :=
  c.isAlphanum

/-- A character that a sanitised name may hold. -/
def isSafeChar (c : Char) : Bool :=
  c.isAlphanum || c == '_'

/-- The text with an underscore for each character that is not safe. -/
def replaceUnsafe (text : List Char) : List Char :=
  text.map fun c => if isSafeChar c then c else '_'

/-- What is put in front of a name that starts with a digit. -/
def digitLead : List Char :=
  "route_".toList

/-- The text with the lead if it starts with a digit. -/
def guardDigit (lead : List Char) (text : List Char) : List Char :=
  match text with
  | c :: _ => if Text.isDigit c then lead ++ text else text
  | [] => text

/-- The name cannot be used in a generated module as it is. -/
def isTaken (name : String) : Bool :=
  keywords.contains name || reserved.contains name

/-- The identifier for a free text. An empty text stands for the fallback,
and a name that is taken gets an underscore at its end. -/
def sanitize (text : String) (fallback : String) : String :=
  let replaced := replaceUnsafe text.toList
  let chosen := if replaced = [] then fallback.toList else replaced
  let name := String.ofList (guardDigit digitLead chosen)
  if isTaken name then name ++ "_" else name

/-- The word with its first letter in upper case. -/
def capitalize : List Char → List Char
  | [] => []
  | c :: rest => c.toUpper :: rest

/-- The name of a module for a free text: its words, capitalised and joined.
A text without words has a name of its own. -/
def pascal (text : String) : String :=
  let words := (text.toList.splitOnP (!isWordChar ·)).filter (· ≠ [])
  let joined := words.flatMap capitalize
  if joined = [] then "Module" else String.ofList (guardDigit ['M'] joined)

/-- An identifier that is no keyword. -/
def isLegal (name : String) : Bool :=
  Text.isIdentifier name.toList && !keywords.contains name

/-- Legal names joined by dots, or nothing. -/
def isDotted (path : String) : Bool :=
  path = "" || (path.toList.splitOn '.').all fun part => isLegal (String.ofList part)

end RoutePaths.Name
