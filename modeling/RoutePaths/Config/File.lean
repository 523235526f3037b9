import RoutePaths.Config.Basic
import RoutePaths.FileTree.Write
import RoutePaths.Unexpected
import RoutePaths.Value.Json.Printer
import RoutePaths.Value.Json.Reader
import RoutePaths.Value.Yaml.Reader

/-! The file that settings are kept in. A file is looked for under its usual
names unless a path is given; its suffix says which notation it has, and a
file without a telling suffix may have either. Settings are always written
in the first notation, whatever the suffix. -/
namespace RoutePaths.Config

/-- The name under which a new file is made. -/
def fileName : String :=
  "railpath.json"

/-- The names under which a file is looked for, in order. -/
def fileNames : List String :=
  [fileName, "railpath.yaml", "railpath.yml"]

/-- Why there are no settings. For a document that is invalid, nothing is
said here about why; a record that is refused has its faults. -/
inductive LoadError where
  | missing (path : String)
  | invalidJson (path : String)
  | invalidYaml (path : String)
  | notMap (path : String)
  | refused (path : String) (faults : Value.Faults)
  deriving DecidableEq, Repr

/-- The wording of an error. -/
def LoadError.message : LoadError → String
  | missing path =>
    "I could not find the configuration file " ++ path ++ ". Run: railpath init"
  | invalidJson path => "Invalid JSON in " ++ path
  | invalidYaml path => "Invalid YAML in " ++ path
  | notMap path => "Invalid configuration at " ++ path ++ ": expected a mapping"
  | refused path _ => "Invalid configuration at " ++ path

/-- The notation that a suffix stands for. -/
inductive Format where
  | json
  | yaml
  | either
  deriving DecidableEq, Repr

/-- The notation of the file at a path. -/
def Format.ofPath (path : Path) : Format :=
  if path.suffix = ".yaml" || path.suffix = ".yml" then yaml
  else if path.suffix = ".json" then json
  else either

/-- The value of a document. -/
def readDocument (path : Path) (text : String) : Except LoadError Value :=
  let asYaml := match Yaml.read? text with
    | some value => Except.ok value
    | none => .error (.invalidYaml path.text)
  match Format.ofPath path with
  | .yaml => asYaml
  | format =>
    match Json.read? text with
    | some value => .ok value
    | none => if format = .json then .error (.invalidJson path.text) else asYaml

/-- The settings in a document. -/
def ofDocument (path : Path) (text : String) : Except LoadError Config := do
  match ← readDocument path text with
  | .map entries => (ofRecord (.map entries)).mapError (.refused path.text)
  | _ => throw (.notMap path.text)

/-- Reads the settings in the file at a path. -/
def load (tree : FileTree) (directory : FileTree.Place) (path : Path) :
    Except (Failing LoadError) Config := do
  match ← (tree.readBytes directory path).mapError (Failing.ofObstacle path.text) with
  | none => throw (.expected (.missing path.text))
  | some bytes =>
    let text ← (FileTree.textOf bytes).mapError (fun fault => .unexpected (.undecodable fault))
    (ofDocument path text).mapError .expected

/-- The first of the usual names under which a file lies in a directory. -/
def findIn (tree : FileTree) (directory : FileTree.Place) : List String → Option Path
  | [] => none
  | name :: rest =>
    if (tree.contentAt? (directory ++ [name])).isSome then some ⟨1, directory ++ [name]⟩
    else findIn tree directory rest

/-- The path of the file to use: the given one, or the one that the
environment names, or the first that is found. The first two need not exist,
and an empty path counts as none. -/
def find? (tree : FileTree) (directory : FileTree.Place) (given fromEnvironment : Option String) :
    Option Path :=
  match given.filter (· ≠ ""), fromEnvironment.filter (· ≠ "") with
  | some path, _ => some (.read path)
  | none, some path => some (.read path)
  | none, none => findIn tree directory fileNames

/-- The settings to use, with the path of their file. Without a file there
are only the defaults, and those only where a file is not required. -/
def resolve (tree : FileTree) (directory : FileTree.Place)
    (given fromEnvironment : Option String) (required : Bool) :
    Except (Failing LoadError) (Option Path × Config) :=
  match find? tree directory given fromEnvironment with
  | some path => (load tree directory path).map (some path, ·)
  | none => if required then .error (.expected (.missing fileName)) else .ok (none, default)

/-- How settings are laid out in their file. -/
def style : Json.Style :=
  ⟨some 4, true⟩

/-- The document that settings are kept in. -/
def document (config : Config) : String :=
  style.print config.toRecord ++ "\n"

/-- Writes settings to a file. -/
def save (config : Config) (tree : FileTree) (directory : FileTree.Place) (path : Path) :
    FileTree × Except FileTree.Obstacle Unit :=
  tree.write directory path (Utf8.encode config.document)

end RoutePaths.Config
