import RoutePaths.Text.IdentifierTable
import RoutePaths.Text.DigitTable
import RoutePaths.Text.Quoted

/-! Identifiers of any script, and digits of any script. These are
properties of the characters; which identifiers a language keeps for itself
is not decided here. -/
namespace RoutePaths.Text

/-- A character that an identifier may start with. -/
def isIdentifierStart (c : Char) : Bool :=
  if c.toNat < 0x80 then c.isAlpha || c == '_' else inRanges identifierStarts c.toNat

/-- A character that may follow in an identifier. -/
def isIdentifierChar (c : Char) : Bool :=
  if c.toNat < 0x80 then c.isAlphanum || c == '_'
  else inRanges identifierStarts c.toNat || inRanges identifierFollowers c.toNat

/-- The text is an identifier. -/
def isIdentifier : List Char → Bool
  | [] => false
  | c :: rest => isIdentifierStart c && rest.all isIdentifierChar

/-- The character is a digit. -/
def isDigit (c : Char) : Bool :=
  if c.toNat < 0x80 then c.isDigit else inRanges digits c.toNat

end RoutePaths.Text
