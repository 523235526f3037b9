import RoutePaths.Command.Basic

/-! The command that makes a file of settings. It replaces no file that it finds
unless it is told to, and it makes none whose names could not be used. -/
namespace RoutePaths.Command

/-- What the new settings are to be, and where they go. -/
structure InitOptions where
  moduleName : String
  packages : String
  sourceDirectory : String
  config : Option String
  force : Bool
  deriving DecidableEq, Repr

namespace InitOptions

/-- The settings to be written: every route is included. -/
def settings (options : InitOptions) : Config :=
  { Config.default with
    sourceDirectory := options.sourceDirectory
    moduleName := options.moduleName
    packages := options.packages }

/-- The path of the new file. -/
def path (options : InitOptions) (directory : FileTree.Place) : Path :=
  match options.config.filter (· ≠ "") with
  | some path => .read path
  | none => ⟨1, directory ++ [Config.fileName]⟩

/-- The full name of the root module. -/
def qualified (options : InitOptions) : String :=
  ".".intercalate ([options.packages, options.moduleName].filter (· ≠ ""))

/-- What is wrong with the names, if something is. -/
def complaint? (options : InitOptions) : Option String :=
  if !Name.isLegal options.moduleName then
    some ("--module-name " ++ Text.quoted options.moduleName ++
      " is not a valid Python module name.")
  else if !Name.isDotted options.packages then
    some ("--module-prefix " ++ Text.quoted options.packages ++
      " is not a valid dotted module path.")
  else none

end InitOptions

/-- The messages after a file has been made. -/
def madeNotices (options : InitOptions) (path : Path) : List Notice :=
  [.success "Successfully generated configuration!", .info ("Config: " ++ path.text),
   .info ("Routes module: " ++ options.qualified ++ " in " ++ options.sourceDirectory),
   .hint "Next: bin/rails routes > routes && railpath generate --routes routes"]

/-- Writes the settings. -/
def writeSettings (options : InitOptions) (around : Surroundings) (path : Path) : Report :=
  match options.settings.save around.files around.directory path with
  | (files, .ok ()) => ⟨[], madeNotices options path, 0, files⟩
  | (files, .error .nullCharacter) => .failed files [] (.unexpected .nullCharacter)
  | (files, .error _) => .failed files [] (.write ⟨path.text⟩)

/-- Makes a file of settings. -/
def InitOptions.run (options : InitOptions) (around : Surroundings) : Report :=
  let path := options.path around.directory
  match around.files.find around.directory path with
  | .error _ => .failed around.files [] (.unexpected (.nameTooLong path.text))
  | .ok found =>
    if found.isSome && !options.force then
      ⟨[], [.error ("You already have a configuration file: " ++ path.text),
        .hint "Pass --force to overwrite it."], 1, around.files⟩
    else
      match options.complaint? with
      | some complaint => ⟨[], [.error complaint], 2, around.files⟩
      | none => writeSettings options around path

end RoutePaths.Command
