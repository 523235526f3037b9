import RoutePaths.Text.Identifier
import RoutePaths.Name

/-! Reading the signature of a function, and the fields of a class. The text is cut into words
and marks first; a line may only end inside brackets. Types are unions of words, and only what
is needed for signatures and fields of this form is read. Names are read as they are written,
and a keyword is a word like any other, until it is asked whether the signature is legal. -/
namespace RoutePaths

namespace Signature

/-- A parameter that a signature declares. -/
structure Declaration where
  name : String
  types : List String
  default? : Option String
  deriving DecidableEq, Repr

/-- What stands between the commas of a signature. The parameters behind a star have to be given
by name. -/
inductive Item where
  | star
  | parameter (declaration : Declaration)
  deriving DecidableEq, Repr

def Item.declaration? : Item → Option Declaration
  | star => none
  | parameter declaration => some declaration

end Signature

/-- A signature as it is read. -/
structure Signature where
  name : String
  items : List Signature.Item
  result : String
  deriving DecidableEq, Repr

/-- A field of a class. A field that is not required may be left out. -/
structure Field where
  name : String
  types : List String
  required : Bool
  deriving DecidableEq, Repr

namespace Signature

inductive Token where
  | word (text : String)
  | mark (c : Char)
  | arrow
  deriving DecidableEq, Repr

/-- A word that has ended, if there is one. -/
def endWord (word : List Char) : List Token :=
  if word = [] then [] else [.word (String.ofList word.reverse)]

/-- The marks that open no bracket and close none. -/
def marks : List Char :=
  [':', ',', '*', '|', '=']

/-- The token of a character outside words, if it is one, and the number of brackets that are
open behind it. -/
def between? (depth : Nat) (c : Char) : Option (List Token × Nat) :=
  if c = ' ' then some ([], depth)
  else if c = '\n' then if depth = 0 then none else some ([], depth)
  else if c = '(' ∨ c = '[' then some ([.mark c], depth + 1)
  else if c = ')' ∨ c = ']' then if depth = 0 then none else some ([.mark c], depth - 1)
  else if c ∈ marks then some ([.mark c], depth)
  else none

/-- The tokens of a text that is read inside brackets, after a part of a word in reverse. All
brackets have to be closed at its end. -/
def tokens? (depth : Nat) (word : List Char) : List Char → Option (List Token)
  | [] => if depth = 0 then some (endWord word) else none
  | '-' :: '>' :: rest => (tokens? depth [] rest).map (endWord word ++ .arrow :: ·)
  | c :: rest =>
    if Text.isIdentifierChar c then tokens? depth (c :: word) rest
    else
      match between? depth c with
      | some (found, inner) => (tokens? inner [] rest).map (endWord word ++ found ++ ·)
      | none => none

/-- A union of types, and what stands behind it. -/
def types? : List Token → Option (List String × List Token)
  | .word type :: .mark '|' :: rest =>
    (types? rest).map fun found => (type :: found.1, found.2)
  | .word type :: rest => some ([type], rest)
  | _ => none

/-- The item that stands between two commas. -/
def item? : List Token → Option Item
  | [.mark '*'] => some .star
  | .word name :: .mark ':' :: rest =>
    if Text.isIdentifier name.toList then
      match types? rest with
      | some (types, []) => some (.parameter ⟨name, types, none⟩)
      | some (types, [.mark '=', .word value]) => some (.parameter ⟨name, types, some value⟩)
      | _ => none
    else none
  | _ => none

/-- The items of a list. A comma may stand behind the last one. -/
def items? (tokens : List Token) : Option (List Item) :=
  let parts := tokens.splitOn (.mark ',')
  (if parts.getLast? = some [] then parts.dropLast else parts).mapM item?

def header? : List Token → Option Signature
  | .word "def" :: .word name :: .mark '(' :: rest =>
    match rest.splitOn (.mark ')') with
    | [inner, [.arrow, .word result, .mark ':']] =>
      if Text.isIdentifier name.toList then (items? inner).map (⟨name, ·, result⟩) else none
    | _ => none
  | _ => none

/-- Reads a signature. -/
def read? (text : String) : Option Signature :=
  (tokens? 0 [] text.toList).bind header?

def field? : List Token → Option Field
  | .word name :: .mark ':' :: .word "NotRequired" :: .mark '[' :: rest =>
    match types? rest with
    | some (types, [.mark ']']) => some ⟨name, types, false⟩
    | _ => none
  | .word name :: .mark ':' :: rest =>
    match types? rest with
    | some (types, []) => some ⟨name, types, true⟩
    | _ => none
  | _ => none

/-- Reads the line of a field. Other lines are none. -/
def readField? (line : String) : Option Field :=
  (tokens? 0 [] line.toList).bind field?

/-- The declared parameters. -/
def declarations (signature : Signature) : List Declaration :=
  signature.items.filterMap Item.declaration?

/-- The parameters that may be given by position: those in front of a star. -/
def positional (signature : Signature) : List Declaration :=
  (signature.items.takeWhile (· ≠ .star)).filterMap Item.declaration?

/-- What a signature needs besides its names: they differ, a star stands once at most and has
parameters behind it, and a parameter with a default has none without behind it, as far as they
are given by position. -/
structure IsOrdered (signature : Signature) : Prop where
  distinct : (signature.declarations.map (·.name)).Nodup
  star : ∀ front back, signature.items = front ++ .star :: back →
    .star ∉ front ∧ .star ∉ back ∧ back ≠ []
  defaults : signature.positional.Pairwise fun earlier later =>
    earlier.default?.isSome = true → later.default?.isSome = true

/-- An ordered signature without keywords among its names. -/
structure IsLegal (signature : Signature) : Prop where
  ordered : signature.IsOrdered
  name : Name.isLegal signature.name = true
  names : ∀ declaration ∈ signature.declarations, Name.isLegal declaration.name = true

end Signature

end RoutePaths
