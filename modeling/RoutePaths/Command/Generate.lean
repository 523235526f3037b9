import RoutePaths.Command.Basic

/-! The command that writes modules for a table. Everything is generated
before anything is written, so a failure before the writing leaves all files
alone. -/
namespace RoutePaths.Command

/-- Where the table and the settings are, and whether files are only to be
listed. -/
structure GenerateOptions where
  routes : String
  config : Option String
  dryRun : Bool
  deriving DecidableEq, Repr

/-- The paths at which the files of a generation go. -/
def targets (config : Config) (generation : Generation) : List String :=
  generation.files.map fun file => (file.target config.sourceDirectory).text

/-- How many files and routes a generation has. -/
def counts (generation : Generation) : String :=
  toString generation.files.length ++ " file(s) for " ++ toString generation.routes.length ++
    " route(s)"

/-- Writes the files of a generation. -/
def writeFiles (around : Surroundings) (notices : List Notice) (config : Config)
    (generation : Generation) : Report :=
  match SourceFile.writeAll config.sourceDirectory around.directory around.files
    generation.files with
  | (files, .error error) => .failed files notices (.ofFailing .write error)
  | (files, .ok paths) =>
    ⟨[], notices ++ paths.map (fun path => .detail ("Wrote " ++ path.text)) ++
      [.success ("Generated " ++ counts generation ++ " in " ++ config.sourceDirectory)], 0, files⟩

/-- Ends the command once there is a generation: files are listed, or
written, and without files there is nothing to do. -/
def finish (options : GenerateOptions) (around : Surroundings) (notices : List Notice)
    (config : Config) (generation : Generation) : Report :=
  if generation.files.isEmpty then
    ⟨[], notices ++ [.warning
      "No routes selected by the include/exclude rules; nothing to generate."], 0, around.files⟩
  else if options.dryRun then
    ⟨[.list (targets config generation)],
      notices ++ [.info ("Dry run: " ++ counts generation ++ ".")], 0, around.files⟩
  else writeFiles around notices config generation

/-- Generates the modules for a table. -/
def GenerateOptions.run (options : GenerateOptions) (around : Surroundings) : Report :=
  match Config.resolve around.files around.directory options.config around.configVariable true with
  | .error error => .failed around.files [] (.ofFailing .config error)
  | .ok (path, config) =>
    let shownPath := (path.map (·.text)).getD ""
    let notices : List Notice := [.detail ("Using config: " ++ shownPath)]
    match Table.load around.files around.directory around.input options.routes with
    | .error error => .failed around.files notices (.ofFailing .table error)
    | .ok text =>
      match Generation.run text config ModuleTree.byController with
      | .error error => .failed around.files notices (.generation error)
      | .ok generation =>
        finish options around (notices ++ skippedLines generation.diagnostics) config generation

end RoutePaths.Command
