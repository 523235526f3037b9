import RoutePaths.Command.Footprint

/-! The program. It looks at the places that a command line depends on, runs
the line on what lies there, and carries out the changes. -/
namespace RoutePaths.Program

/-- The text of a place. -/
def shown (place : FileTree.Place) : String :=
  "/" ++ "/".intercalate place

/-- What lies at a place. -/
def look (place : FileTree.Place) : IO (Option Entry) := do
  let path := (← IO.currentDir) / shown place
  if ← path.isDir then return some .directory
  try return some (.file (← IO.FS.readBinFile path))
  catch _ => return none

/-- Looks at those of the places that are not in the tree yet. -/
def lookAt (tree : FileTree) (places : List FileTree.Place) : IO FileTree :=
  places.foldlM (fun tree place => do
    if (tree.get? place).isSome then return tree
    match ← look place with
    | some entry => return tree.put place entry
    | none => return tree) tree

/-- Reads a stream to its end. -/
partial def readAll (stream : IO.FS.Stream) (sofar : ByteArray) : IO ByteArray := do
  let chunk ← stream.read 65536
  if chunk.isEmpty then return sofar
  readAll stream (sofar ++ chunk)

/-- Makes a directory, or replaces a file by way of a scratch file. -/
def carryOut (path : String) : Option ByteArray → IO Unit
  | none => IO.FS.createDirAll path
  | some content => do
    let scratch := path ++ ".tmp"
    IO.FS.writeBinFile scratch content
    IO.FS.rename scratch path

/-- Carries out the changes between two trees. -/
def carryOutAll (before after : FileTree) : IO Unit :=
  (FileTree.changes [] before after).forM fun (path, content) => carryOut ("/" ++ path) content

/-- The standard input, as far as a command line needs it. -/
def readInput (words : List String) : IO String := do
  if !(CommandLine.commandOf? words).any Command.readsInput then return ""
  match Utf8.decode (← readAll (← IO.getStdin) .empty) with
  | .ok text => return text
  | .error fault => throw (IO.userError (Failure.unexpected (.undecodable fault)).message)

/-- Runs a command line. The first run, on the places that are read, shows
which places are written; the second one knows what lies there. -/
def run (words : List String) : IO UInt32 := do
  let configVariable ← IO.getEnv "RAILPATH_CONFIG"
  let directory := (Path.read (toString (← IO.currentDir))).parts
  let stdout ← IO.getStdout
  let terminal : Terminal :=
    ⟨← stdout.isTty, (← IO.getEnv "NO_COLOR").isSome, ← IO.getEnv "TERM"⟩
  let input ← readInput words
  let sources ← lookAt .empty (CommandLine.readPlaces words configVariable directory)
  let around : Surroundings := ⟨sources, directory, configVariable, input, terminal⟩
  let files ← lookAt sources (CommandLine.execute words around).places
  let outcome := CommandLine.execute words { around with files }
  carryOutAll files outcome.files
  stdout.putStr outcome.out
  (← IO.getStderr).putStr outcome.err
  return UInt32.ofNat outcome.exit

end RoutePaths.Program

/-- Runs the words of the command line. What goes wrong while places are
looked at or changed ends with its message and exit code 1. -/
def main (words : List String) : IO UInt32 := do
  try RoutePaths.Program.run words
  catch error =>
    (← IO.getStderr).putStrLn ("Error: " ++ toString error)
    return 1
