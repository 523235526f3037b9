import RoutePaths.Console.Outline
import RoutePaths.Value.Json.Printer

/-! What a command shows. Results are for other programs and go to the
standard output in one of three forms; messages are for people and go to the
error output. Nothing is written here: each function gives the text that is
to be written. -/
namespace RoutePaths

/-- What is known about the place that output goes to. -/
structure Terminal where
  isTerminal : Bool
  colorRefused : Bool
  kind : Option String
  deriving Repr

namespace Terminal

/-- Colours are refused by the environment, or the terminal has none. -/
def refusesColor (terminal : Terminal) : Bool :=
  terminal.colorRefused || terminal.kind = some "dumb"

/-- A terminal that knows no escape sequences. -/
def isPlain (terminal : Terminal) : Bool :=
  match terminal.kind with
  | some kind => ["dumb", "unknown"].contains (String.ofList (kind.toList.map Char.toLower))
  | none => false

end Terminal

/-- The form of results. -/
inductive Console.Format where
  | json
  | plain
  | drawn
  deriving DecidableEq, Repr

/-- How results and messages are shown. Without escape sequences there are
neither colours nor other styles. -/
structure Console where
  format : Console.Format
  colored : Bool
  ansi : Bool
  quiet : Bool
  verbose : Bool
  deriving Repr

/-- A message. Information, success and hints are left out on request;
details are only shown on request. -/
inductive Notice where
  | info (text : String)
  | success (text : String)
  | warning (text : String)
  | error (text : String)
  | hint (text : String)
  | detail (text : String)
  deriving DecidableEq, Repr

namespace Console

/-- The console for a terminal. Where no form is asked for, results are drawn
on a terminal with colours and are plain elsewhere. -/
def ofTerminal (terminal : Terminal) (requested : Option Format) (noColor quiet verbose : Bool) :
    Console :=
  let colored := !(noColor || terminal.refusesColor)
  { format := requested.getD (if terminal.isTerminal && colored then .drawn else .plain)
    colored
    ansi := !terminal.isPlain
    quiet
    verbose }

/-- The text of a line of results. -/
def line (text : String) : String :=
  text ++ "\n"

/-- How documents are laid out as results. -/
def documentStyle : Json.Style :=
  ⟨some 2, false⟩

/-- A document. -/
def document (value : Value) : String :=
  line (documentStyle.print value)

/-- A list of texts, one on a line, or as a document. -/
def list (console : Console) (items : List String) : String :=
  if console.format = .json then document (.texts items) else String.join (items.map line)

/-- A table. -/
def grid (console : Console) (grid : Grid) : String :=
  match console.format with
  | .json => document grid.records
  | .plain => grid.tabbed
  | .drawn => grid.draw console.ansi console.colored

/-- An outline, given as a record. As a document it is left as it is
given. -/
def outline (console : Console) (record : Value) : String :=
  match console.format with
  | .json => document record
  | .plain => String.join (((Outline.ofRecord record).indented 0).map line)
  | .drawn => (Outline.ofRecord record).draw

/-- The message is shown at all. -/
def shows (console : Console) : Notice → Bool
  | .info _ => !console.quiet
  | .success _ => !console.quiet
  | .hint _ => !console.quiet
  | .warning _ => true
  | .error _ => true
  | .detail _ => console.verbose

/-- The text of a message where colours are refused. -/
def plainText : Notice → String
  | .info text => text
  | .success text => text
  | .hint text => "→ " ++ text
  | .warning text => "Warning: " ++ text
  | .error text => "Error: " ++ text
  | .detail text => "[debug] " ++ text

/-- The message with its tags. Its own text is escaped. -/
def markup (notice : Notice) : List Char :=
  let escaped (text : String) := Markup.escape text.toList
  match notice with
  | .info text => escaped text
  | .success text => "[green]".toList ++ escaped text ++ "[/green]".toList
  | .hint text => "[dim]→ ".toList ++ escaped text ++ "[/dim]".toList
  | .warning text => "[yellow]Warning:[/yellow] ".toList ++ escaped text
  | .error text => "[bold red]Error:[/bold red] ".toList ++ escaped text
  | .detail text => "[dim]\\[debug] ".toList ++ escaped text ++ "[/dim]".toList

/-- The text that is written for a message. The error output is never taken
for a terminal, so no style of the markup is left in it. -/
def notice (console : Console) (notice : Notice) : String :=
  if !console.shows notice then ""
  else if console.colored then line (String.ofList (Markup.print (markup notice)))
  else line (plainText notice)

end Console

end RoutePaths
