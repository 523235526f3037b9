import RoutePaths.Text.Blank
import RoutePaths.Unexpected

/-! Where the text of a table comes from: a file, or the standard input. -/
namespace RoutePaths.Table

/-- Why there is no text. -/
inductive LoadError where
  | noInput
  | missing (source : String)
  | empty (source : String)
  deriving DecidableEq, Repr

/-- The wording of an error. -/
def LoadError.message : LoadError → String
  | noInput => "No input received from stdin"
  | missing source =>
    "I could not find the routes file '" ++ source ++
      "'. Create it with: bin/rails routes > routes"
  | empty source => "Routes file is empty: " ++ source

/-- The source that stands for the standard input. -/
def standardInput : String :=
  "-"

/-- The text that is to be read as a table. It holds something else than
blanks. -/
def load (tree : FileTree) (directory : FileTree.Place) (input : String) (source : String) :
    Except (Failing LoadError) String := do
  if source = standardInput then
    let text := String.ofList (Text.unifyBreaks input.toList)
    if Text.isAllBlank text.toList then throw (.expected .noInput) else return text
  else
    let path := Path.read source
    match ← (tree.readBytes directory path).mapError (Failing.ofObstacle path.text) with
    | none => throw (.expected (.missing source))
    | some bytes =>
      let text ← (FileTree.textOf bytes).mapError (fun fault => .unexpected (.undecodable fault))
      if Text.isAllBlank text.toList then throw (.expected (.empty source)) else return text

end RoutePaths.Table
