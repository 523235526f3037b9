import RoutePaths.Path
import RoutePaths.Text.Line
import RoutePaths.Text.Utf8

/-! Files and directories. A tree says what lies at which place; a place is
the list of the components that lead to it from the top, which is always a
directory. There are no links, no owners and no times here. -/
namespace RoutePaths

/-- What lies at a place. -/
inductive Entry where
  | file (content : ByteArray)
  | directory

/-- Whether two entries are the same, byte for byte. -/
def Entry.same : Entry → Entry → Bool
  | file first, file second => first == second
  | directory, directory => true
  | _, _ => false

/-- The entries of a file system, each with its place. -/
structure FileTree where
  entries : List (List String × Entry)

namespace FileTree

/-- A place, from the top. -/
abbrev Place := List String

/-- The tree in which nothing lies anywhere. -/
def empty : FileTree :=
  ⟨[]⟩

/-- What lies at a place. -/
def get? (tree : FileTree) (place : Place) : Option Entry :=
  if place = [] then some .directory else tree.entries.lookup place

/-- Puts an entry at a place, instead of what lies there. -/
def put (tree : FileTree) (place : Place) (entry : Entry) : FileTree :=
  ⟨tree.entries.filter (·.1 ≠ place) ++ [(place, entry)]⟩

/-- Takes away what lies at a place. -/
def erase (tree : FileTree) (place : Place) : FileTree :=
  ⟨tree.entries.filter (·.1 ≠ place)⟩

/-- Leaving out the entries of one place does not change what is found at
another one. -/
theorem lookup_filter_of_ne {place other : Place} (h : other ≠ place)
    (entries : List (Place × Entry)) :
    (entries.filter (·.1 ≠ place)).lookup other = entries.lookup other := by
  induction entries with
  | nil => rfl
  | cons first rest ih =>
    obtain ⟨key, entry⟩ := first
    by_cases hKey : key = place
    · have hOther : (other == key) = false := by simpa [hKey] using h
      simp only [ne_eq, hKey, not_true_eq_false, decide_false, Bool.false_eq_true,
        not_false_eq_true, List.filter_cons_of_neg, List.lookup_cons]
      rw [← hKey, hOther, hKey]
      exact ih
    · simp only [ne_eq, hKey, not_false_eq_true, decide_true, List.filter_cons_of_pos,
        List.lookup_cons]
      split
      · rfl
      · exact ih

/-- Nothing is found at a place whose entries are left out. -/
theorem lookup_filter_self (place : Place) (entries : List (Place × Entry)) :
    (entries.filter (·.1 ≠ place)).lookup place = none := by
  simp only [List.lookup_eq_none_iff, List.mem_filter]
  rintro ⟨key, entry⟩ ⟨-, hKey⟩
  have hApart : key ≠ place := by simpa using hKey
  simpa using hApart.symm

/-- What is put at a place below the top lies there. -/
@[simp] theorem get?_put_self (tree : FileTree) {place : Place} (h : place ≠ []) (entry : Entry) :
    (tree.put place entry).get? place = some entry := by
  rw [get?, if_neg h, put, List.lookup_append, lookup_filter_self, Option.none_or,
    List.lookup_cons_self]

/-- Every other place is left as it was. -/
theorem get?_put_of_ne (tree : FileTree) {place other : Place} (h : other ≠ place)
    (entry : Entry) : (tree.put place entry).get? other = tree.get? other := by
  have hOther : (other == place) = false := by simpa using h
  simp only [get?, put, List.lookup_append, lookup_filter_of_ne h, List.lookup_cons, hOther,
    List.lookup_nil, Option.or_none]

/-- What is taken away lies there no more. -/
@[simp] theorem get?_erase_self (tree : FileTree) {place : Place} (h : place ≠ []) :
    (tree.erase place).get? place = none := by
  simp only [get?, erase, if_neg h, lookup_filter_self]

/-- Taking away at one place leaves every other place as it was. -/
theorem get?_erase_of_ne (tree : FileTree) {place other : Place} (h : other ≠ place) :
    (tree.erase place).get? other = tree.get? other := by
  simp only [get?, erase, lookup_filter_of_ne h]

/-- A directory lies at the place. -/
def isDirectoryAt (tree : FileTree) (place : Place) : Bool :=
  match tree.get? place with
  | some .directory => true
  | _ => false

/-- The content of the file at a place. -/
def contentAt? (tree : FileTree) (place : Place) : Option ByteArray :=
  match tree.get? place with
  | some (.file content) => some content
  | _ => none

/-- Why a path leads nowhere, or why something cannot be put where it leads.
The last two concern the path alone. -/
inductive Obstacle where
  | missing
  | notDirectory
  | isDirectory
  | noScratchName
  | nameTooLong
  | nullCharacter
  deriving DecidableEq, Repr

/-- The greatest number of bytes of a component. -/
def maxNameBytes : Nat := 255

def isTooLong (name : String) : Bool :=
  name.utf8ByteSize > maxNameBytes

/-- A path that holds a null character is refused as a whole. -/
def hasNull (path : Path) : Bool :=
  path.parts.any fun part => '\x00' ∈ part.toList

/-- Follows components from a place. Two dots lead back up, and every
component but the last has to lead to a directory. -/
def follow (tree : FileTree) (here : Place) : List String → Except Obstacle Place
  | [] => .ok here
  | part :: rest =>
    match tree.get? here with
    | none => .error .missing
    | some (.file _) => .error .notDirectory
    | some .directory =>
      if part = ".." then tree.follow here.dropLast rest
      else if isTooLong part then .error .nameTooLong
      else tree.follow (here ++ [part]) rest

/-- Where a path starts. -/
def startOf (directory : Place) (path : Path) : Place :=
  if path.isAbsolute then [] else directory

/-- The place that a path leads to from a directory. Nothing has to lie
there. -/
def locate (tree : FileTree) (directory : Place) (path : Path) : Except Obstacle Place :=
  if hasNull path then .error .nullCharacter
  else tree.follow (startOf directory path) path.parts

/-- What lies where a path leads to. A component that is too long is the
only obstacle that counts as more than nothing lying there. -/
def find (tree : FileTree) (directory : Place) (path : Path) : Except Obstacle (Option Entry) :=
  match tree.locate directory path with
  | .ok place => .ok (tree.get? place)
  | .error .nameTooLong => .error .nameTooLong
  | .error _ => .ok none

/-- The content of the file at a path. -/
def readBytes (tree : FileTree) (directory : Place) (path : Path) :
    Except Obstacle (Option ByteArray) :=
  (tree.find directory path).map fun
    | some (.file content) => some content
    | _ => none

/-- The text of bytes, with unified line breaks. -/
def textOf (bytes : ByteArray) : Except Utf8.Fault String :=
  (Utf8.decode bytes).map fun text => String.ofList (Text.unifyBreaks text.toList)

/-- The path of a place, as seen from a directory above it, with a slash at
the end of that of a directory. -/
def shownFrom (directory : Place) (place : Place) (entry : Entry) : String :=
  let path := "/".intercalate (place.drop directory.length)
  match entry with
  | .file _ => path
  | .directory => path ++ "/"

/-- What lies below a directory in the second tree and does not in the
first, sorted by path. A directory is listed without content. -/
def changes (directory : Place) (before after : FileTree) : List (String × Option ByteArray) :=
  let fresh := after.entries.filter fun (place, entry) =>
    directory.isPrefixOf place && place ≠ directory &&
      !(before.get? place).any (Entry.same entry)
  let listed := fresh.map fun (place, entry) =>
    (shownFrom directory place entry, match entry with
      | .file content => some content
      | .directory => none)
  listed.mergeSort fun first second => first.1 ≤ second.1

end FileTree

end RoutePaths
