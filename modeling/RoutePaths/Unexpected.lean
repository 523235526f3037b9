import RoutePaths.FileTree.Basic
import RoutePaths.Text.Quoted

/-! Failures that no command looks for. They end a run like any other
failure, but their wording says that they were not expected. -/
namespace RoutePaths

/-- A failure that is not expected where it arises: bytes that are not text,
or a path that the file system refuses without looking. -/
inductive Unexpected where
  | undecodable (fault : Utf8.Fault)
  | nameTooLong (path : String)
  | nullCharacter
  deriving DecidableEq, Repr

/-- The wording of an unexpected failure. -/
def Unexpected.message : Unexpected → String
  | undecodable fault => fault.message
  | nameTooLong path => "[Errno 36] File name too long: " ++ Text.quoted path
  | nullCharacter => "embedded null byte"

/-- A failure of some expected kind, or an unexpected one. -/
inductive Failing (ε : Type) where
  | expected (error : ε)
  | unexpected (error : Unexpected)
  deriving Repr

/-- The failure that an obstacle is to a reader of a file. Readers look
whether a file is there first, so no other obstacle reaches them. -/
def Failing.ofObstacle {ε : Type} (path : String) : FileTree.Obstacle → Failing ε
  | .nullCharacter => .unexpected .nullCharacter
  | _ => .unexpected (.nameTooLong path)

end RoutePaths
