import RoutePaths.Command.Arguments
import RoutePaths.Command.Generate
import RoutePaths.Command.Init
import RoutePaths.Command.Inspect

/-! Command lines. Options that hold for all commands come first, then the
command, then its own options. A line that is not understood has no meaning
at all: nothing is run, and nothing is said here about why. -/
namespace RoutePaths

/-- A command with its options. -/
inductive Command where
  | init (options : Command.InitOptions)
  | generate (options : Command.GenerateOptions)
  | inspectRoutes (options : Command.InspectOptions)
  | inspectTree (options : Command.InspectOptions)
  | showConfig (config : Option String)
  deriving DecidableEq, Repr

/-- The options that hold for all commands. -/
structure GlobalOptions where
  json : Bool
  plain : Bool
  noColor : Bool
  quiet : Bool
  verbose : Bool
  deriving DecidableEq, Repr

/-- What a command line asks for. -/
inductive CommandLine where
  | version
  | run (options : GlobalOptions) (command : Command)
  deriving DecidableEq, Repr

namespace CommandLine

open Arguments

/-- The options in front of the command. -/
def globalSpecs : List Spec :=
  [⟨"version", none, false⟩, ⟨"json", none, false⟩, ⟨"plain", none, false⟩,
   ⟨"no-color", none, false⟩, ⟨"quiet", some 'q', false⟩, ⟨"verbose", some 'v', false⟩]

/-- The option for the path of the settings. -/
def configSpec : Spec :=
  ⟨"config", some 'c', true⟩

/-- The option for the source of the table. -/
def routesSpec : Spec :=
  ⟨"routes", some 'r', true⟩

def initSpecs : List Spec :=
  [⟨"module-name", none, true⟩, ⟨"module-prefix", none, true⟩, ⟨"source-directory", none, true⟩,
   configSpec, ⟨"force", some 'f', false⟩]

def generateSpecs : List Spec :=
  [routesSpec, configSpec, ⟨"dry-run", some 'n', false⟩]

def inspectSpecs : List Spec :=
  [routesSpec, configSpec]

/-- The table is in this file unless another one is named. -/
def routesDefault : String :=
  "routes"

/-- The options of a command, behind which nothing else may stand. -/
def optionsOnly? (specs : List Spec) (words : List String) : Option (List Given) :=
  match read? specs true words with
  | some (given, []) => some given
  | _ => none

def initCommand? (words : List String) : Option Command :=
  (optionsOnly? initSpecs words).map fun given => .init
    { moduleName := (value? given "module-name").getD Config.default.moduleName
      packages := (value? given "module-prefix").getD Config.default.packages
      sourceDirectory := (value? given "source-directory").getD Config.default.sourceDirectory
      config := value? given "config"
      force := has given "force" }

def generateCommand? (words : List String) : Option Command :=
  (optionsOnly? generateSpecs words).map fun given => .generate
    { routes := (value? given "routes").getD routesDefault
      config := value? given "config"
      dryRun := has given "dry-run" }

def inspectOptions? (words : List String) : Option Command.InspectOptions :=
  (optionsOnly? inspectSpecs words).map fun given =>
    { routes := (value? given "routes").getD routesDefault
      config := value? given "config" }

/-- A command with a subcommand. There are no options between the two. -/
def inspectCommand? (words : List String) : Option Command :=
  match read? [] false words with
  | some (_, "routes" :: rest) => (inspectOptions? rest).map .inspectRoutes
  | some (_, "tree" :: rest) => (inspectOptions? rest).map .inspectTree
  | _ => none

def configCommand? (words : List String) : Option Command :=
  match read? [] false words with
  | some (_, "show" :: rest) =>
    (optionsOnly? [configSpec] rest).map fun given => .showConfig (value? given "config")
  | _ => none

/-- The command that words name. -/
def command? : List String → Option Command
  | "init" :: rest => initCommand? rest
  | "generate" :: rest => generateCommand? rest
  | "inspect" :: rest => inspectCommand? rest
  | "config" :: rest => configCommand? rest
  | _ => none

/-- The options that hold for all commands, from those that were given. -/
def globalOptions (given : List Given) : GlobalOptions :=
  ⟨has given "json", has given "plain", has given "no-color", has given "quiet",
    has given "verbose"⟩

/-- What the words after the options ask for when they name no command. If
they start with options, which is only possible behind two dashes, these are
looked at once more for the version. -/
def withoutCommand? (words : List String) : Option CommandLine :=
  match read? globalSpecs false words with
  | some (given, _) => if has given "version" then some .version else none
  | none => none

/-- What the words of a command line ask for. The version is shown whatever
follows, as long as the options in front of the command are understood. -/
def read? (words : List String) : Option CommandLine :=
  match Arguments.read? globalSpecs false words with
  | none => none
  | some (given, rest) =>
    if has given "version" then some .version
    else
      match command? rest with
      | some command => some (.run (globalOptions given) command)
      | none => if rest.head?.any isCommandName then none else withoutCommand? rest
where
  /-- The name of a command, whatever follows it. -/
  isCommandName (word : String) : Bool :=
    ["init", "generate", "inspect", "config"].contains word

end CommandLine

end RoutePaths
