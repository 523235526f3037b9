import RoutePaths.Text.Blank
import RoutePaths.Text.Line
import RoutePaths.Text.Width

/-! Breaking text into lines of limited width. Lines are broken between
words, and the blanks between two words stay on the line of the first. A word
that no line has room for starts a line of its own, which it may be broken
into several of. -/
namespace RoutePaths.Text

/-- The words of a text, each with the blanks behind it. The first one also
has the blanks in front of it, so nothing is lost. -/
def spacedWords (text : List Char) : List (List Char) :=
  let lead := text.takeWhile isBlank
  match (text.dropWhile isBlank).splitBy fun c d => !isBlank c || isBlank d with
  | [] => [lead]
  | word :: rest => (lead ++ word) :: rest

/-- The text without the blanks at its end. -/
def trimEnd (text : List Char) : List Char :=
  (text.reverse.dropWhile isBlank).reverse

/-- Pieces of a text that are each as long as the limit allows, given the
columns that the first one has used up. -/
def chop (limit : Nat) : Nat → List Char → List (List Char)
  | _, [] => [[]]
  | used, c :: rest =>
    if used + charWidth c > limit then [] :: consFirst c (chop limit (charWidth c) rest)
    else consFirst c (chop limit (used + charWidth c) rest)

/-- The lines of a word that no line has room for, in reverse. -/
def brokenWord (broken : Bool) (limit : Nat) (word : List Char) : List (List Char) :=
  if broken then (chop limit 0 word).reverse else [word]

/-- Puts a word behind the last of some lines. The lines are in reverse. -/
def addWord (broken : Bool) (limit : Nat) (lines : List (List Char)) (word : List Char) :
    List (List Char) :=
  let needed := width (trimEnd word)
  match lines with
  | [] => if needed ≤ limit then [word] else brokenWord broken limit word
  | line :: done =>
    if width line + needed ≤ limit then (line ++ word) :: done
    else if needed ≤ limit then word :: line :: done
    else brokenWord broken limit word ++ line :: done

/-- The lines that a text is broken into. Words that are too long are broken
only if that is asked for. -/
def wrap (broken : Bool) (limit : Nat) (text : List Char) : List (List Char) :=
  ((spacedWords text).foldl (addWord broken limit) []).reverse

/-- The line without those blanks at its end that are beyond a number of
characters. -/
def trimBeyond (limit : Nat) (line : List Char) : List Char :=
  let blanks := (line.reverse.takeWhile isBlank).length
  line.take (line.length - min blanks (line.length - limit))

/-- The start of a line that takes up the given columns. A space takes the
place of half a character. -/
def cut : Nat → List Char → List Char
  | _, [] => []
  | room, c :: rest =>
    if charWidth c ≤ room then c :: cut (room - charWidth c) rest else List.replicate room ' '

/-- The line, or as much of it as there is room for with a sign that
something is left out. -/
def shorten (limit : Nat) (line : List Char) : List Char :=
  if width line ≤ limit then line else cut (limit - 1) line ++ ['…']

end RoutePaths.Text
