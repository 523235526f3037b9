import RoutePaths.FileTree.Write
import RoutePaths.Module.File
import RoutePaths.Unexpected

/-! Writing generated files. Files are written in order, and the first one
that cannot be written ends it: what was written before stays, and nothing
after it is touched. -/
namespace RoutePaths.SourceFile

/-- A file that could not be written. Nothing is said about why. -/
structure WriteError where
  path : String
  deriving DecidableEq, Repr

/-- The wording of the error. -/
def WriteError.message (error : WriteError) : String :=
  "Could not write " ++ error.path

/-- The failure that an obstacle is to the writing of a file. -/
def failureOf (path : Path) : FileTree.Obstacle → Failing WriteError
  | .nullCharacter => .unexpected .nullCharacter
  | _ => .expected ⟨path.text⟩

/-- Writes files below a source directory. The result is the paths of the
files, in order. -/
def writeAll (sourceDirectory : String) (directory : FileTree.Place) :
    FileTree → List SourceFile → FileTree × Except (Failing WriteError) (List Path)
  | tree, [] => (tree, .ok [])
  | tree, file :: rest =>
    let path := file.target sourceDirectory
    match tree.write directory path (Utf8.encode file.content) with
    | (tree, .error obstacle) => (tree, .error (failureOf path obstacle))
    | (tree, .ok ()) =>
      match writeAll sourceDirectory directory tree rest with
      | (tree, .ok paths) => (tree, .ok (path :: paths))
      | (tree, .error error) => (tree, .error error)

end RoutePaths.SourceFile
