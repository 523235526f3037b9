import RoutePaths.Text.Quoted
import RoutePaths.Text.WidthTable

/-! How many columns a text takes on a terminal. Each character counts for
itself; what terminals make of several characters together is not
considered. -/
namespace RoutePaths.Text

/-- The columns of a character. -/
def charWidth (c : Char) : Nat :=
  let n := c.toNat
  if 0x20 ≤ n && n < 0x7F then 1
  else if inRanges zeroWidths n then 0
  else if inRanges doubleWidths n then 2
  else 1

/-- The columns of a text. -/
def width (text : List Char) : Nat :=
  text.foldr (fun c columns => charWidth c + columns) 0

end RoutePaths.Text
