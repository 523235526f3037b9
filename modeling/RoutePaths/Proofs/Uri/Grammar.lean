import RoutePaths.Uri.Template
import Mathlib.Data.List.Basic

/-! The grammar of URI templates, as trees. A derivation says of what a
template consists, and its text and its segments are read off it. Nothing
here refers to how a template is cut into its parts. -/
namespace RoutePaths.Template

/-- A character of fixed text: no slash, and none of the four special
characters. -/
def isPlainChar (c : Char) : Bool :=
  c != '/' && !isSpecial c

/-- What stands between two slashes of a path. -/
inductive Token where
  | required (sigil : Char) (name : List Char)
  | literal (text : List Char)
  deriving DecidableEq, Repr

namespace Token

def text : Token → List Char
  | required sigil name => sigil :: name
  | literal text => text

def segment : Token → Segment
  | required _ name => .dynamic (String.ofList name) false "/"
  | literal text => .literal (String.ofList text)

def IsValid : Token → Prop
  | required sigil name => isSigil sigil = true ∧ isName name = true
  | literal text => ∀ c ∈ text, isPlainChar c = true

instance : DecidablePred IsValid
  | required sigil name => inferInstanceAs (Decidable (isSigil sigil = true ∧ isName name = true))
  | literal text => decidable_of_iff (text.all isPlainChar = true) List.all_eq_true

end Token

/-- A path: its tokens, each behind a slash. -/
def pathText (tokens : List Token) : List Char :=
  tokens.flatMap fun token => '/' :: token.text

/-- An optional group: a slash or none, fixed texts each closed by a slash,
and a name. -/
structure Clause where
  slashed : Bool
  chunks : List (List Char)
  sigil : Char
  name : List Char
  deriving DecidableEq, Repr

namespace Clause

/-- The fixed texts with their slashes. -/
def chunkText (clause : Clause) : List Char :=
  clause.chunks.flatMap (· ++ ['/'])

/-- What stands in front of the name. -/
def fixed (clause : Clause) : List Char :=
  (if clause.slashed then ['/'] else []) ++ clause.chunkText

def text (clause : Clause) : List Char :=
  '(' :: clause.fixed ++ clause.sigil :: clause.name ++ [')']

/-- The segment of a group. Its separator starts with a slash, whether the
slash is the group's own or the one in front of it. -/
def segment (clause : Clause) : Segment :=
  .dynamic (String.ofList clause.name) true (String.ofList ('/' :: clause.chunkText))

structure IsValid (clause : Clause) : Prop where
  chunks : ∀ chunk ∈ clause.chunks, chunk ≠ [] ∧ ∀ c ∈ chunk, isPlainChar c = true
  sigil : isSigil clause.sigil = true
  name : isName clause.name = true

instance : DecidablePred IsValid := fun clause =>
  decidable_of_iff
    ((∀ chunk ∈ clause.chunks, chunk ≠ [] ∧ chunk.all isPlainChar = true) ∧
      isSigil clause.sigil = true ∧ isName clause.name = true)
    ⟨fun h => ⟨by simpa only [List.all_eq_true] using h.1, h.2.1, h.2.2⟩,
      fun h => ⟨by simpa only [List.all_eq_true] using h.chunks, h.sigil, h.name⟩⟩

end Clause

/-- A path and the optional group behind it. -/
structure Part where
  path : List Token
  clause : Clause
  deriving DecidableEq, Repr

namespace Part

def text (part : Part) : List Char :=
  pathText part.path ++ part.clause.text

/-- A group without a slash of its own takes over the last one of the path,
and with it the empty token behind that slash. -/
def segments (part : Part) : List Segment :=
  (if part.clause.slashed then part.path else part.path.dropLast).map Token.segment ++
    [part.clause.segment]

structure IsValid (part : Part) : Prop where
  path : ∀ token ∈ part.path, token.IsValid
  clause : part.clause.IsValid
  slash : part.clause.slashed = false → (pathText part.path).getLast? = some '/'

instance : DecidablePred IsValid := fun part =>
  decidable_of_iff
    ((∀ token ∈ part.path, token.IsValid) ∧ part.clause.IsValid ∧
      (part.clause.slashed = false → (pathText part.path).getLast? = some '/'))
    ⟨fun h => ⟨h.1, h.2.1, h.2.2⟩, fun h => ⟨h.path, h.clause, h.slash⟩⟩

end Part

/-- The body of a template: the lone slash, or paths with optional groups
between them. -/
inductive Shape where
  | root
  | sequence (parts : List Part) (last : List Token)
  deriving DecidableEq, Repr

namespace Shape

def text : Shape → List Char
  | root => ['/']
  | sequence parts last => parts.flatMap Part.text ++ pathText last

def segments : Shape → List Segment
  | root => []
  | sequence parts last => parts.flatMap Part.segments ++ last.map Token.segment

/-- A sequence is not empty, and it is not the lone slash, which has a rule of
its own. -/
def IsValid : Shape → Prop
  | root => True
  | sequence parts last =>
    (∀ part ∈ parts, part.IsValid) ∧ (∀ token ∈ last, token.IsValid) ∧
      (sequence parts last).text ≠ [] ∧ (sequence parts last).text ≠ ['/']

instance : DecidablePred IsValid
  | root => .isTrue trivial
  | sequence parts last =>
    inferInstanceAs (Decidable ((∀ part ∈ parts, part.IsValid) ∧ (∀ token ∈ last, token.IsValid) ∧
      (sequence parts last).text ≠ [] ∧ (sequence parts last).text ≠ ['/']))

end Shape

/-- A template: a body, and the format suffix or none. -/
structure Derivation where
  body : Shape
  hasFormat : Bool
  deriving DecidableEq, Repr

namespace Derivation

def text (derivation : Derivation) : List Char :=
  derivation.body.text ++ if derivation.hasFormat then formatSuffix else []

def segments (derivation : Derivation) : List Segment :=
  derivation.body.segments ++ if derivation.hasFormat then [formatSegment] else []

/-- The derivation is one of the given text. No dynamic name occurs twice, and
the one of the format counts. -/
structure Derives (derivation : Derivation) (text : List Char) : Prop where
  body : derivation.body.IsValid
  text : derivation.text = text
  names : (Segment.names derivation.segments).Nodup

instance (derivation : Derivation) (text : List Char) : Decidable (derivation.Derives text) :=
  decidable_of_iff
    (derivation.body.IsValid ∧ derivation.text = text ∧
      (Segment.names derivation.segments).Nodup)
    ⟨fun h => ⟨h.1, h.2.1, h.2.2⟩, fun h => ⟨h.body, h.text, h.names⟩⟩

end Derivation

end RoutePaths.Template
