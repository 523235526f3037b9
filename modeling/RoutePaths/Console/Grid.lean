import RoutePaths.Console.Markup
import RoutePaths.Text.Wrap
import RoutePaths.Value.Basic

/-! Tables for people. A grid has a head and rows, and as many columns as the
longest of them; cells that a row lacks are empty. It is drawn with a heavy
frame around the head and a light one around the rows. A column is as wide as
its widest cell, in which a tab counts for nothing; cells that take more room
because of their tabs are wrapped, and so is the title. -/
namespace RoutePaths

/-- A table of texts. The title may hold markup, and so may the head. -/
structure Grid where
  title : Option String
  head : List String
  rows : List (List String)
  deriving Repr

namespace Grid

/-- The lines of a text. -/
def linesOf (text : String) : List (List Char) :=
  text.toList.splitOn '\n'

/-- The text that a text with markup stands for. -/
def plain (text : String) : String :=
  String.ofList (Markup.text text.toList)

/-- How many columns there are. -/
def columnCount (grid : Grid) : Nat :=
  (grid.rows.map (·.length)).foldl max grid.head.length

/-- The row with empty cells up to the given number. -/
def fill (count : Nat) (row : List String) : List String :=
  row ++ List.replicate (count - row.length) ""

/-- The texts of the head, for all columns. -/
def fullHead (grid : Grid) : List String :=
  fill grid.columnCount (grid.head.map plain)

/-- The texts of the rows, for all columns. -/
def fullRows (grid : Grid) : List (List String) :=
  grid.rows.map fun row => fill grid.columnCount (row.map Markup.textEscaped)

/-- The width of a cell: that of its longest line. -/
def cellWidth (text : String) : Nat :=
  ((Text.lines text.toList).map Text.width).foldl max 0

/-- The widths of the columns. -/
def widths (grid : Grid) : List Nat :=
  (grid.fullHead :: grid.fullRows).foldl
    (fun known row => known.zipWith max (row.map cellWidth))
    (List.replicate grid.columnCount 0)

/-- A line with spaces up to a width. -/
def padTo (width : Nat) (line : List Char) : List Char :=
  line ++ List.replicate (width - Text.width line) ' '

/-- The escape sequences around styled text, or none on a terminal without
styles. -/
def styled (ansi : Bool) (code : String) (text : List Char) : List Char :=
  if ansi && text ≠ [] then
    '\x1b' :: '[' :: code.toList ++ 'm' :: text ++ '\x1b' :: "[0m".toList
  else text

/-- A line of the frame. -/
def frameLine (left fillChar between right : Char) (widths : List Nat) : List Char :=
  left :: [between].intercalate (widths.map fun width => List.replicate (width + 2) fillChar) ++
    [right]

/-- The lines of a cell in a column of the given width. A column without
width has no room for any. -/
def cellLines (width : Nat) (cell : String) : List (List Char) :=
  if width = 0 then []
  else (linesOf cell).flatMap fun line =>
    (Text.wrap false width (Markup.expandTabs 0 line)).map fun part =>
      Text.shorten width (Text.trimBeyond width part)

/-- The number of lines that the cells of a row have at most. -/
def heightOf (widths : List Nat) (row : List String) : Nat :=
  (widths.zipWith (fun width cell => (cellLines width cell).length) row).foldl max 0

/-- The lines of a cell of the head: empty ones first, so that the text
stands at the bottom. The text and the blanks beside it are styled
apart. -/
def headCell (style : List Char → List Char) (height width : Nat) (cell : String) :
    List (List Char) :=
  let lines := cellLines width cell
  List.replicate (height - lines.length) (style (List.replicate (width + 2) ' ')) ++
    lines.map fun line => style [' '] ++ style (padTo width line) ++ style [' ']

/-- The lines of a cell of a row: the text stands at the top. -/
def rowCell (height width : Nat) (cell : String) : List (List Char) :=
  let lines := cellLines width cell
  (lines.map fun line => ' ' :: padTo width line ++ [' ']) ++
    List.replicate (height - lines.length) (List.replicate (width + 2) ' ')

/-- Puts the lines of the cells of a row side by side. -/
def beside (side between : Char) (height : Nat) (cells : List (List (List Char))) :
    List (List Char) :=
  (List.range height).map fun index =>
    side :: [between].intercalate (cells.map fun lines => lines.getD index []) ++ [side]

/-- The lines of the head. If no cell has any, there is one line without
style. -/
def headLines (style : List Char → List Char) (widths : List Nat) (head : List String) :
    List (List Char) :=
  match heightOf widths head with
  | 0 => beside '┃' '┃' 1 (widths.map fun width => [List.replicate (width + 2) ' '])
  | height => beside '┃' '┃' height (widths.zipWith (headCell style height) head)

/-- The lines of a row. There is at least one. -/
def rowLines (widths : List Nat) (row : List String) : List (List Char) :=
  let height := max 1 (heightOf widths row)
  beside '│' '│' height (widths.zipWith (rowCell height) row)

/-- Text in the middle of a line. A column that is left over goes to the
right. -/
def centered (width : Nat) (line : List Char) : List Char :=
  let excess := width - Text.width line
  List.replicate (excess / 2) ' ' ++ line ++ List.replicate (excess - excess / 2) ' '

/-- The lines of the title above a table of the given width. -/
def titleLines (ansi : Bool) (total : Nat) (title : String) : List (List Char) :=
  ((linesOf (plain title)).flatMap (Text.wrap true total ∘ Markup.expandTabs 0)).map fun line =>
    styled ansi "3" (centered total (Text.trimEnd line))

/-- The lines of the drawn table. Colours are escape sequences too, but
styles remain without them. -/
def drawn (ansi colored : Bool) (grid : Grid) : List (List Char) :=
  let widths := grid.widths
  let style := styled ansi (if colored then "1;36" else "1")
  let total := widths.foldr (fun width columns => width + 3 + columns) 1
  let title := match grid.title.filter (· ≠ "") with
    | some title => titleLines ansi total title
    | none => []
  title ++ [frameLine '┏' '━' '┳' '┓' widths] ++ headLines style widths grid.fullHead ++
    [frameLine '┡' '━' '╇' '┩' widths] ++ grid.fullRows.flatMap (rowLines widths) ++
    [frameLine '└' '─' '┴' '┘' widths]

/-- The drawn table as text. A table without columns is an empty line. -/
def draw (ansi colored : Bool) (grid : Grid) : String :=
  if grid.columnCount = 0 then "\n"
  else String.join ((grid.drawn ansi colored).map fun line => String.ofList (line ++ ['\n']))

/-- The table with tabs between its cells, as other programs read it. The
title is left out. -/
def tabbed (grid : Grid) : String :=
  String.join ((grid.head :: grid.rows).map fun row => "\t".intercalate row ++ "\n")

/-- The rows as records whose keys are the head. Of two columns with one
head the later counts, and cells without a head are left out. -/
def records (grid : Grid) : Value :=
  .list (grid.rows.map fun row =>
    .ofEntries ((grid.head.zip row).map fun entry => (.text entry.1, .text entry.2)))

end Grid

end RoutePaths
