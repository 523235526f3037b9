import RoutePaths.Config.File
import RoutePaths.Console.Basic
import RoutePaths.Generation
import RoutePaths.Module.Emission
import RoutePaths.Table.Source

/-! What the commands have in common: the surroundings they run in and the
report they end with. A command does not depend on how its report is shown,
so that no choice of form or of messages changes what it does. -/
namespace RoutePaths

/-- What a command can see of its surroundings. -/
structure Surroundings where
  files : FileTree
  directory : FileTree.Place
  configVariable : Option String
  input : String
  terminal : Terminal

/-- A result for other programs. -/
inductive Result where
  | document (value : Value)
  | list (items : List String)
  | grid (grid : Grid)
  | outline (record : Value)
  deriving Repr

/-- The text of a result. -/
def Console.result (console : Console) : Result → String
  | .document value => Console.document value
  | .list items => console.list items
  | .grid grid => console.grid grid
  | .outline record => console.outline record

/-- How a command ended: what it has to show, its exit code, and the files
as they are then. -/
structure Report where
  results : List Result
  notices : List Notice
  exit : Nat
  files : FileTree

/-- Why a command fails. -/
inductive Failure where
  | config (error : Config.LoadError)
  | table (error : Table.LoadError)
  | generation (error : Generation.Error)
  | write (error : SourceFile.WriteError)
  | unexpected (error : Unexpected)
  deriving Repr

namespace Failure

/-- The wording of a failure. -/
def message : Failure → String
  | config error => error.message
  | table error => error.message
  | generation error => error.message
  | write error => error.message
  | unexpected error => "Unexpected error: " ++ error.message

/-- The exit code of an error in the grouping of routes: names come from the
settings, and the rest from the table. -/
def treeCode : ModuleTree.Error → Nat
  | .ambiguous _ _ _ _ => 9
  | _ => 1

/-- The exit code of a failure, which tells other programs its kind. -/
def exitCode : Failure → Nat
  | config _ => 1
  | table _ => 7
  | generation (.pattern _) => 8
  | generation (.tree error) => treeCode error
  | generation (.collision _) => 9
  | write _ => 1
  | unexpected _ => 1

/-- A failure of one part as a failure of the command. -/
def ofFailing {ε : Type} (wrap : ε → Failure) : Failing ε → Failure
  | .expected error => wrap error
  | .unexpected error => .unexpected error

end Failure

namespace Report

/-- The report of a command that has failed. The files are those at that
time. -/
def failed (files : FileTree) (notices : List Notice) (failure : Failure) : Report :=
  ⟨[], notices ++ [.error failure.message], failure.exitCode, files⟩

/-- The text of all results. -/
def out (report : Report) (console : Console) : String :=
  String.join (report.results.map console.result)

/-- The text of all messages. -/
def err (report : Report) (console : Console) : String :=
  String.join (report.notices.map console.notice)

end Report

/-- The messages about rejected lines of a table. -/
def skippedLines (diagnostics : List Diagnostic) : List Notice :=
  diagnostics.map fun diagnostic => .warning ("Skipped " ++ diagnostic.text)

end RoutePaths
