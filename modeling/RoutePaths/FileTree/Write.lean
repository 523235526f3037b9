import RoutePaths.FileTree.Basic

/-! Writing files. A file is replaced as a whole: its new content is first
put into a scratch file beside it, so that no other reader ever sees half of
it. Directories that are missing on the way are made, and they stay even if
the writing fails afterwards. -/
namespace RoutePaths.FileTree

/-- Makes the directories that components name from a directory, as far as
they are missing. The tree is the one after the last directory that could be
made. -/
def makeDirectories (tree : FileTree) (here : Place) :
    List String → FileTree × Except Obstacle Place
  | [] => (tree, .ok here)
  | part :: rest =>
    if part = ".." then tree.makeDirectories here.dropLast rest
    else if isTooLong part then (tree, .error .nameTooLong)
    else
      let place := here ++ [part]
      match tree.get? place with
      | some .directory => tree.makeDirectories place rest
      | some (.file _) => (tree, .error .notDirectory)
      | none => (tree.put place .directory).makeDirectories place rest

/-- The name of the scratch file beside a file: the name with a dot in front
of it, a dot behind it, a number of eight digits and an ending. -/
def scratchName (name : String) (number : Nat) : String :=
  let digits := Nat.toDigits 10 number
  "." ++ name ++ "." ++ String.ofList (List.replicate (8 - digits.length) '0' ++ digits) ++ ".tmp"

/-- The first of so many places for a scratch file at which nothing lies. -/
def scratchPlace? (tree : FileTree) (directory : Place) (name : String) : Nat → Nat → Option Place
  | 0, _ => none
  | attempts + 1, number =>
    let place := directory ++ [scratchName name number]
    if (tree.get? place).isNone then some place
    else tree.scratchPlace? directory name attempts (number + 1)

/-- How many scratch names are tried. -/
def scratchAttempts : Nat := 10000

/-- Moves a file to a name in a directory, in place of a file of that name.
Nothing is moved onto a directory. -/
def moveTo (tree : FileTree) (source directory : Place) (name : String) :
    Except Obstacle FileTree :=
  let target := directory ++ [name]
  if name = "" || name = ".." || tree.isDirectoryAt target then .error .isDirectory
  else
    match tree.get? source with
    | some entry => .ok ((tree.erase source).put target entry)
    | none => .error .missing

/-- Puts content into the file of the given name in a directory, by way of a
scratch file. If the scratch file cannot take the place of the file, it is
taken away again. -/
def replaceIn (tree : FileTree) (directory : Place) (name : String) (content : ByteArray) :
    FileTree × Except Obstacle Unit :=
  if '\x00' ∈ name.toList then (tree, .error .nullCharacter)
  else if isTooLong (scratchName name 0) then (tree, .error .nameTooLong)
  else
    match tree.scratchPlace? directory name scratchAttempts 0 with
    | none => (tree, .error .noScratchName)
    | some scratch =>
      let staged := tree.put scratch (.file content)
      match staged.moveTo scratch directory name with
      | .ok moved => (moved, .ok ())
      | .error obstacle => (staged.erase scratch, .error obstacle)

/-- Writes a file as a whole. -/
def write (tree : FileTree) (directory : Place) (path : Path) (content : ByteArray) :
    FileTree × Except Obstacle Unit :=
  if hasNull path.parent then (tree, .error .nullCharacter)
  else
    match tree.makeDirectories (startOf directory path) path.parent.parts with
    | (tree, .error obstacle) => (tree, .error obstacle)
    | (tree, .ok parent) => tree.replaceIn parent path.name content

end RoutePaths.FileTree
