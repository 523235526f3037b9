import RoutePaths.Text.Blank
import RoutePaths.Text.Upper

/-! The columns of a table row. Rows are not aligned in a way that could be
relied on, so a column is told by its look: the URI is the first word that
starts like a path, and the words in front of it are the name and the verb. -/
namespace RoutePaths.Row

/-- The columns of a row. An absent one is empty. -/
structure Columns where
  name : String
  verb : String
  uri : String
  action : String
  deriving DecidableEq, Repr

/-- Why a row has no columns. Each cause carries the row without the blanks
at its ends. -/
inductive Error where
  | noUri (row : String)
  | tooManyColumns (count : Nat) (row : String)
  deriving DecidableEq, Repr

/-- The wording of a cause. -/
def Error.message : Error → String
  | noUri row => "No URI pattern found in row: " ++ row
  | tooManyColumns count row =>
    "Expected '[name] VERB URI CONTROLLER#ACTION', got " ++ toString count ++
      " columns before the URI: " ++ row

/-- A word that starts a URI: a path, or an optional group that starts with
a slash. -/
def isUri : List Char → Bool
  | '/' :: _ => true
  | '(' :: '/' :: _ => true
  | _ => false

/-- The verbs that are known in any letter case. -/
def knownVerbs : List String :=
  ["GET", "POST", "PUT", "PATCH", "DELETE", "HEAD", "OPTIONS", "TRACE", "CONNECT"]

/-- An upper-case ASCII letter. -/
def isCapital (c : Char) : Bool :=
  'A' ≤ c && c ≤ 'Z'

/-- Capitals, or several such words joined by bars. -/
def isCapitalised (word : List Char) : Bool :=
  (word.splitOn '|').all fun part => part ≠ [] && part.all isCapital

/-- A word that is taken for a verb when it stands alone in front of the
URI. -/
def looksLikeVerb (word : List Char) : Bool :=
  knownVerbs.contains (String.ofList (Text.upper word)) || isCapitalised word

/-- The name and the verb that the words in front of the URI are. -/
def leading? : List (List Char) → Option (List Char × List Char)
  | [] => some ([], [])
  | [word] => if looksLikeVerb word then some ([], Text.upper word) else some (word, [])
  | [name, verb] => some (name, Text.upper verb)
  | _ => none

/-- The columns of a row of words. The words after the URI are the action,
joined by single spaces. -/
def ofWords (row : String) (words : List (List Char)) : Except Error Columns :=
  let front := words.takeWhile (!isUri ·)
  match words.dropWhile (!isUri ·) with
  | [] => .error (.noUri row)
  | uri :: action =>
    match leading? front with
    | none => .error (.tooManyColumns front.length row)
    | some (name, verb) => .ok
        { name := String.ofList name
          verb := String.ofList verb
          uri := String.ofList uri
          action := String.ofList ([' '].intercalate action) }

/-- Reads the columns of a row. -/
def read (row : String) : Except Error Columns :=
  ofWords (String.ofList (Text.trim row.toList)) (Text.words row.toList)

end RoutePaths.Row
