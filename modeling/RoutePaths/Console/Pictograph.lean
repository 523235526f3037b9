import RoutePaths.Console.PictographTable
import RoutePaths.Text.Blank

/-! Pictographs by name. A name between two colons stands for a pictograph
where a styling printer prints it. Colons around anything else stay, but they
cannot be used again: a colon that closes one code opens no other. -/
namespace RoutePaths.Markup

/-- The names of pictographs with their characters. -/
def pictographs : List (List Char × List Char) :=
  (Text.words pictographText.toList).map fun entry =>
    (entry.takeWhile (· ≠ '='), (entry.dropWhile (· ≠ '=')).drop 1)

/-- A letter in lower case. Only letters up to the first accented ones are
changed, as no name holds any other that has two cases. -/
def lowerLatin (c : Char) : Char :=
  if 0xC0 ≤ c.toNat && c.toNat ≤ 0xDE && c.toNat ≠ 0xD7 then Char.ofNat (c.toNat + 0x20)
  else c.toLower

/-- The name in a code, and the selector for the form that the code asks
for. -/
def nameAndForm (code : List Char) : List Char × List Char :=
  let textForm := "-text".toList
  let pictureForm := "-emoji".toList
  if textForm.isSuffixOf code then (code.take (code.length - textForm.length), ['\uFE0E'])
  else if pictureForm.isSuffixOf code then
    (code.take (code.length - pictureForm.length), ['\uFE0F'])
  else (code, [])

/-- The pictograph for what stands between two colons. -/
def pictograph? (code : List Char) : Option (List Char) :=
  let (name, form) := nameAndForm code
  (pictographs.lookup (name.map lowerLatin)).map (· ++ form)

/-- What is printed for something between two colons. -/
def codeText (code : List Char) : List Char :=
  (pictograph? code).getD (':' :: code ++ [':'])

/-- The text with pictographs for their codes, given the characters since a
colon that may open a code, in reverse. A blank ends the search for the
closing colon. -/
def replaceCodesFrom : Option (List Char) → List Char → List Char
  | none, [] => []
  | none, c :: rest =>
    if c = ':' then replaceCodesFrom (some []) rest else c :: replaceCodesFrom none rest
  | some passed, [] => ':' :: passed.reverse
  | some passed, c :: rest =>
    if c = ':' then codeText passed.reverse ++ replaceCodesFrom none rest
    else if Text.isBlank c then ':' :: passed.reverse ++ c :: replaceCodesFrom none rest
    else replaceCodesFrom (some (c :: passed)) rest

/-- The text with pictographs for their codes. -/
def replaceCodes (text : List Char) : List Char :=
  replaceCodesFrom none text

end RoutePaths.Markup
