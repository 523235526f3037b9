import RoutePaths.Console.Pictograph
import RoutePaths.Text.Width

/-! Text with tags in square brackets, as a styling printer takes it, and the
text that it prints where there are no styles. Text from elsewhere is
escaped before it is put between tags; escaping and printing undo each other
except for some backslashes in front of brackets and at the end. -/
namespace RoutePaths.Markup

/-- A character that the text of a tag may start with. -/
def isTagStart (c : Char) : Bool :=
  ('a' ≤ c && c ≤ 'z') || c == '#' || c == '/' || c == '@'

/-- The tag that a text starts with, with its brackets, and what follows it.
There is no opening bracket inside a tag. -/
def tagAtStart? : List Char → Option (List Char × List Char)
  | '[' :: c :: rest =>
    if isTagStart c then
      let inside := rest.takeWhile fun d => d ≠ '[' && d ≠ ']'
      match rest.dropWhile fun d => d ≠ '[' && d ≠ ']' with
      | ']' :: after => some ('[' :: c :: inside ++ [']'], after)
      | _ => none
    else none
  | _ => none

/-- A piece of text with markup: a character, or a tag with the number of
backslashes in front of it. -/
inductive Piece where
  | plain (c : Char)
  | tag (backslashes : Nat) (text : List Char)
  deriving Repr

/-- The pieces of a text. The number is that of the backslashes passed over
since the last other character, and the fuel bounds the number of
characters. -/
def pieces : Nat → Nat → List Char → List Piece
  | 0, _, _ => []
  | fuel + 1, backslashes, text =>
    match text with
    | [] => List.replicate backslashes (.plain '\\')
    | '\\' :: rest => pieces fuel (backslashes + 1) rest
    | c :: rest =>
      match tagAtStart? (c :: rest) with
      | some (tag, after) => .tag backslashes tag :: pieces fuel 0 after
      | none => List.replicate backslashes (.plain '\\') ++ .plain c :: pieces fuel 0 rest

/-- The pieces of a text. -/
def piecesOf (text : List Char) : List Piece :=
  pieces (text.length + 1) 0 text

/-- The text with its tags made plain text. A lone backslash at the end is
doubled, so that it does not join what is put behind it. -/
def escape (text : List Char) : List Char :=
  let escaped := (piecesOf text).flatMap fun
    | .plain c => [c]
    | .tag backslashes tag => List.replicate (2 * backslashes + 1) '\\' ++ tag
  match escaped.reverse with
  | '\\' :: '\\' :: _ => escaped
  | '\\' :: _ => escaped ++ ['\\']
  | _ => escaped

/-- Text between tags with a bracket for each escaped bracket. -/
def unescape : List Char → List Char
  | '\\' :: '[' :: rest => '[' :: unescape rest
  | c :: rest => c :: unescape rest
  | [] => []

/-- What is printed for text between tags. -/
def between (text : List Char) : List Char :=
  replaceCodes (unescape text)

/-- The text that is printed for pieces, given the plain text since the last
tag in reverse. Half of the backslashes in front of a tag are printed, and
with an odd number of them the tag is printed as well. -/
def printed : List Char → List Piece → List Char
  | passed, [] => between passed.reverse
  | passed, .plain c :: rest => printed (c :: passed) rest
  | passed, .tag backslashes tag :: rest =>
    between passed.reverse ++ List.replicate (backslashes / 2) '\\' ++
      (if backslashes % 2 = 1 then replaceCodes tag else []) ++ printed [] rest

/-- Control characters that are never printed. -/
def isStripped (c : Char) : Bool :=
  [0x07, 0x08, 0x0B, 0x0C, 0x0D].contains c.toNat

/-- The text with its tabs filled up to the next multiple of eight columns.
The column is that of the next character. -/
def expandTabs : Nat → List Char → List Char
  | _, [] => []
  | column, c :: rest =>
    if c = '\t' then
      let width := 8 - column % 8
      List.replicate width ' ' ++ expandTabs (column + width) rest
    else if c = '\n' then '\n' :: expandTabs 0 rest
    else c :: expandTabs (column + Text.charWidth c) rest

/-- The text that a text with markup stands for. Tabs are left in it. -/
def text (markup : List Char) : List Char :=
  (printed [] (piecesOf markup)).filter (!isStripped ·)

/-- The text that is printed for a text with markup. -/
def print (markup : List Char) : List Char :=
  expandTabs 0 (text markup)

/-- The text that an escaped text stands for. -/
def textEscaped (text : String) : String :=
  String.ofList (Markup.text (escape text.toList))

/-- The text that is printed for an escaped text. -/
def printEscaped (text : String) : String :=
  String.ofList (print (escape text.toList))

end RoutePaths.Markup
