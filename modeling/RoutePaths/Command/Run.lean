import RoutePaths.Command.Line

/-! Running command lines. What a line does to files is decided by its
command; the options in front of it only decide what is shown of the
report. -/
namespace RoutePaths

/-- Runs a command. -/
def Command.run (command : Command) (around : Surroundings) : Report :=
  match command with
  | .init options => options.run around
  | .generate options => options.run around
  | .inspectRoutes options => options.showRoutes around
  | .inspectTree options => options.showTree around
  | .showConfig config => Command.showSettings config around

/-- The form of results that is asked for. Documents win over plain text. -/
def GlobalOptions.format? (options : GlobalOptions) : Option Console.Format :=
  if options.json then some .json else if options.plain then some .plain else none

/-- The console that a command line asks for. -/
def GlobalOptions.console (options : GlobalOptions) (terminal : Terminal) : Console :=
  .ofTerminal terminal options.format? options.noColor options.quiet options.verbose

/-- What a run leaves behind: its exit code, what it wrote to the two
outputs, and the files. -/
structure Outcome where
  exit : Nat
  out : String
  err : String
  files : FileTree

namespace CommandLine

/-- The version of the program. -/
def versionText : String :=
  "railpath 0.3.0"

/-- What is written about a command line that is not understood. -/
def usageText : String :=
  "Usage: railpath [OPTIONS] COMMAND [ARGS]...\n"

/-- Runs a command line. One that is not understood changes nothing. -/
def execute (words : List String) (around : Surroundings) : Outcome :=
  match read? words with
  | none => ⟨2, "", usageText, around.files⟩
  | some .version => ⟨0, Console.line versionText, "", around.files⟩
  | some (.run options command) =>
    let console := options.console around.terminal
    let report := command.run around
    ⟨report.exit, report.out console, report.err console, report.files⟩

end CommandLine

end RoutePaths
