import RoutePaths.Command.Run

/-! The places that a run can depend on, so that only these have to be looked
at beforehand. The ones it reads follow from the command line; the ones it
writes are those of a run that meets no obstacle. -/
namespace RoutePaths

/-- A place with all places above it, from the top. -/
def FileTree.withParents (place : FileTree.Place) : List FileTree.Place :=
  (List.range place.length).map fun depth => place.take (depth + 1)

/-- The places that components lead through. Two dots lead back up. -/
def FileTree.placesThrough (here : FileTree.Place) : List String → List FileTree.Place
  | [] => FileTree.withParents here
  | part :: rest =>
    FileTree.withParents here ++
      FileTree.placesThrough (if part = ".." then here.dropLast else here ++ [part]) rest

namespace Command

/-- The path of the settings that a command is given. -/
def config? : Command → Option String
  | .init options => options.config
  | .generate options => options.config
  | .inspectRoutes options => options.config
  | .inspectTree options => options.config
  | .showConfig config => config

/-- The source of the table that a command is given. -/
def routes? : Command → Option String
  | .generate options => some options.routes
  | .inspectRoutes options => some options.routes
  | .inspectTree options => some options.routes
  | _ => none

/-- A command reads its table from the standard input. -/
def readsInput (command : Command) : Bool :=
  command.routes? = some Table.standardInput

end Command

namespace CommandLine

/-- The command of a line, if it has one. -/
def commandOf? (words : List String) : Option Command :=
  match read? words with
  | some (.run _ command) => some command
  | _ => none

/-- The paths that a line may read: those that it names, the one in the
environment, and the usual names. -/
def readPaths (words : List String) (configVariable : Option String) : List String :=
  match commandOf? words with
  | some command =>
    command.config?.toList ++ command.routes?.toList ++ configVariable.toList ++ Config.fileNames
  | none => []

/-- The places that reading such paths depends on. -/
def readPlaces (words : List String) (configVariable : Option String)
    (directory : FileTree.Place) : List FileTree.Place :=
  (readPaths words configVariable).flatMap fun text =>
    let path := Path.read text
    FileTree.placesThrough (FileTree.startOf directory path) path.parts

end CommandLine

/-- The places at which something lies after a run. -/
def Outcome.places (outcome : Outcome) : List FileTree.Place :=
  outcome.files.entries.map (·.1)

end RoutePaths
