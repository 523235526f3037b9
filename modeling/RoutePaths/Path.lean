/-! File paths as texts name them. A path is brought into a normal form when
it is read: empty components and lone dots are dropped, and nothing else is
resolved, so two dots stay where they are. Whether anything lies at a path is
not decided here. -/
namespace RoutePaths

/-- A path: the slashes that make it absolute, and its components. Exactly
two slashes at the start are kept apart from one; more count as one. -/
structure Path where
  slashes : Nat
  parts : List String
  deriving DecidableEq, Repr, Inhabited

namespace Path

/-- The components that a text names. -/
def partsOf (text : List Char) : List String :=
  ((text.splitOn '/').filter fun part => part ≠ [] && part ≠ ['.']).map String.ofList

/-- The number of slashes that a path with so many slashes at its start
keeps. -/
def keptSlashes (count : Nat) : Nat :=
  if count = 2 then 2 else min count 1

/-- The path that a text names. -/
def read (text : String) : Path :=
  ⟨keptSlashes (text.toList.takeWhile (· = '/')).length, partsOf text.toList⟩

/-- A path that does not depend on the place where it is used. -/
def isAbsolute (path : Path) : Bool :=
  path.slashes ≠ 0

/-- The text of a path. The empty path is a dot. -/
def text (path : Path) : String :=
  let shown := String.ofList (List.replicate path.slashes '/') ++ "/".intercalate path.parts
  if shown = "" then "." else shown

/-- A path seen from another one. An absolute path is seen the same from
everywhere. -/
def join (first second : Path) : Path :=
  if second.isAbsolute then second else ⟨first.slashes, first.parts ++ second.parts⟩

/-- The path of a list of texts, each seen from those in front of it. -/
def joinTexts (first : Path) (texts : List String) : Path :=
  texts.foldl (fun path text => path.join (read text)) first

/-- The last component, or nothing for a path without components. -/
def name (path : Path) : String :=
  path.parts.getLastD ""

/-- The path without its last component. -/
def parent (path : Path) : Path :=
  { path with parts := path.parts.dropLast }

/-- The part of a name from its last dot on. A dot at either end of the name
does not count. -/
def suffixOf (name : List Char) : List Char :=
  let extension := (name.reverse.takeWhile (· ≠ '.')).reverse
  let stem := name.take (name.length - extension.length - 1)
  if extension = [] || stem = [] || extension.length = name.length then [] else '.' :: extension

/-- The suffix of the last component, in lower case as far as ASCII letters
go. Beyond these only the Kelvin sign has an ASCII letter in lower case, and
no suffix with a meaning holds a `k`. -/
def suffix (path : Path) : String :=
  String.ofList ((suffixOf path.name.toList).map Char.toLower)

end Path

end RoutePaths
