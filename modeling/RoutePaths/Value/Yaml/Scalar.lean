import RoutePaths.Value.Json.Token
import RoutePaths.Value.Yaml.Character

/-! The texts of scalars. A scalar may run over several lines, and then its
line breaks are folded: one break counts as a space, and of several the
first is dropped. -/
namespace RoutePaths.Yaml

/-- What has been passed over since the last proper character of a scalar:
nothing, blanks on its line, or line breaks. With line breaks, the first
part is what a lone break counts as. -/
inductive Fold where
  | nothing
  | blanks (seen : List Nat)
  | breaks (alone : List Nat) (more : List Nat)
  deriving Repr

namespace Fold

/-- The code points that stand for what has been passed over. -/
def points : Fold → List Nat
  | nothing => []
  | blanks seen => seen
  | breaks alone more => if alone = [0x20] && more ≠ [] then more else alone ++ more

/-- Passes over a blank. After a line break blanks do not count. -/
def addBlank (c : Char) : Fold → Fold
  | nothing => blanks [c.toNat]
  | blanks seen => blanks (seen ++ [c.toNat])
  | breaks alone more => breaks alone more

/-- Passes over a line break. Blanks in front of it do not count. -/
def addBreak (c : Char) : Fold → Fold
  | breaks alone more => breaks alone (more ++ [breakPoint c])
  | _ => breaks (if breakPoint c = 0x0A then [0x20] else [breakPoint c]) []

end Fold

/-- The code point of a two-character escape. -/
def escaped? : Char → Option Nat
  | '0' => some 0x00
  | 'a' => some 0x07
  | 'b' => some 0x08
  | 't' => some 0x09
  | '\t' => some 0x09
  | 'n' => some 0x0A
  | 'v' => some 0x0B
  | 'f' => some 0x0C
  | 'r' => some 0x0D
  | 'e' => some 0x1B
  | ' ' => some 0x20
  | '"' => some 0x22
  | '\\' => some 0x5C
  | '/' => some 0x2F
  | 'N' => some 0x85
  | '_' => some 0xA0
  | 'L' => some 0x2028
  | 'P' => some 0x2029
  | _ => none

/-- A code point given by hexadecimal digits. -/
def numbered? (digits : List Char) : Option Nat :=
  (Json.hexNumber? digits).filter (· ≤ 0x10FFFF)

/-- Puts code points in front of a scalar that has been read. -/
def ahead (points : List Nat) : Option (List Nat × List Char) → Option (List Nat × List Char) :=
  Option.map fun (more, rest) => (points ++ more, rest)

/-- The scalar between double quotes, the first of which has been read, and
what follows it. Each escape stands for one code point, whatever stands next
to it. -/
def doubleQuoted? : Fold → List Char → Option (List Nat × List Char)
  | _, [] => none
  | fold, '"' :: rest => some (fold.points, rest)
  | fold, '\\' :: 'x' :: a :: b :: rest =>
    match numbered? [a, b] with
    | some point => ahead (fold.points ++ [point]) (doubleQuoted? .nothing rest)
    | none => none
  | fold, '\\' :: 'u' :: a :: b :: c :: d :: rest =>
    match numbered? [a, b, c, d] with
    | some point => ahead (fold.points ++ [point]) (doubleQuoted? .nothing rest)
    | none => none
  | fold, '\\' :: 'U' :: a :: b :: c :: d :: e :: f :: g :: h :: rest =>
    match numbered? [a, b, c, d, e, f, g, h] with
    | some point => ahead (fold.points ++ [point]) (doubleQuoted? .nothing rest)
    | none => none
  | fold, '\\' :: c :: rest =>
    if isBreak c then
      if atDocumentMark rest then none
      else ahead fold.points (doubleQuoted? (.breaks [] []) rest)
    else
      match escaped? c with
      | some point => ahead (fold.points ++ [point]) (doubleQuoted? .nothing rest)
      | none => none
  | fold, c :: rest =>
    if isBlank c then doubleQuoted? (fold.addBlank c) rest
    else if isBreak c then
      if atDocumentMark rest then none else doubleQuoted? (fold.addBreak c) rest
    else if c = '\\' then none
    else ahead (fold.points ++ [c.toNat]) (doubleQuoted? .nothing rest)

/-- The scalar between single quotes, the first of which has been read, and
what follows it. A quote inside it is written twice. -/
def singleQuoted? : Fold → List Char → Option (List Nat × List Char)
  | _, [] => none
  | fold, '\'' :: '\'' :: rest => ahead (fold.points ++ [0x27]) (singleQuoted? .nothing rest)
  | fold, '\'' :: rest => some (fold.points, rest)
  | fold, c :: rest =>
    if isBlank c then singleQuoted? (fold.addBlank c) rest
    else if isBreak c then
      if atDocumentMark rest then none else singleQuoted? (fold.addBreak c) rest
    else ahead (fold.points ++ [c.toNat]) (singleQuoted? .nothing rest)

/-- A text that ends a plain scalar: a mark of a flow collection inside one,
or a colon with nothing right behind it that could belong to the scalar. -/
def endsPlain (inFlow : Bool) : List Char → Bool
  | [] => true
  | ':' :: rest => atGap rest || (inFlow && rest.head?.any isFlowMark)
  | c :: _ => inFlow && (isFlowMark c || c == '?')

/-- A plain scalar: its text, what follows it, and whether a line break was
passed over behind its last character. -/
structure PlainScalar where
  points : List Nat
  rest : List Char
  brokeLine : Bool
  deriving Repr

/-- A line break has been passed over. -/
def Fold.isBreaks : Fold → Bool
  | breaks _ _ => true
  | _ => false

/-- Puts code points in front of a plain scalar. -/
def PlainScalar.ahead (points : List Nat) (scalar : PlainScalar) : PlainScalar :=
  { scalar with points := points ++ scalar.points }

/-- A plain scalar. Further lines belong to it if they are indented by at
least the given number of columns, which only counts outside flow
collections; the column is that of the next character since the last line
break. -/
def plainScalar (inFlow : Bool) (indent : Int) : Fold → Nat → List Char → PlainScalar
  | fold, _, [] => ⟨[], [], fold.isBreaks⟩
  | fold, column, c :: rest =>
    if c = ' ' then plainScalar inFlow indent (fold.addBlank c) (column + 1) rest
    else if isBreak c then
      if atDocumentMark rest then ⟨[], rest, true⟩
      else plainScalar inFlow indent (fold.addBreak c) 0 rest
    else
      let stops := match fold with
        | .nothing => false
        | .blanks _ => c == '#'
        | .breaks _ _ => c == '#' || (!inFlow && column < indent)
      if stops || c = '\t' || endsPlain inFlow (c :: rest) then ⟨[], c :: rest, fold.isBreaks⟩
      else
        (plainScalar inFlow indent .nothing (column + 1) rest).ahead (fold.points ++ [c.toNat])

/-- What becomes of the line breaks at the end of a block scalar. -/
inductive Chomping where
  | strip
  | clip
  | keep
  deriving DecidableEq, Repr

/-- The head of a block scalar: its chomping and how far it says that it is
indented. The two stand in either order. -/
def blockHead? (text : List Char) : Option (Chomping × Option Nat × List Char) :=
  let chomping? (c : Char) : Option Chomping :=
    if c = '+' then some .keep else if c = '-' then some .strip else none
  let digit? (c : Char) : Option Nat :=
    if '1' ≤ c ∧ c ≤ '9' then some (c.toNat - '0'.toNat) else none
  let found : Chomping × Option Nat × List Char := match text with
    | [] => (.clip, none, [])
    | c :: rest =>
      match chomping? c, digit? c with
      | some chomping, _ =>
        match rest with
        | d :: after => match digit? d with
          | some width => (chomping, some width, after)
          | none => (chomping, none, rest)
        | [] => (chomping, none, rest)
      | none, some width =>
        match rest with
        | d :: after => match chomping? d with
          | some chomping => (chomping, some width, after)
          | none => (.clip, some width, rest)
        | [] => (.clip, some width, rest)
      | none, none => (.clip, none, text)
  if found.2.2.head?.any (fun c => c != ' ' && !isBreak c) then none else some found

/-- The rest of the head line of a block scalar, which may hold a comment
only. -/
def afterHeadLine? (text : List Char) : Option (List Char) :=
  let text := text.dropWhile (· = ' ')
  let text := if text.head? = some '#' then text.dropWhile (!isBreak ·) else text
  match text with
  | [] => some []
  | c :: rest => if isBreak c then some rest else none

/-- The empty lines in front of the first line of a block scalar that says
nothing about its indentation: their breaks, the widest indentation so far,
the column, and what follows. -/
def blockLead (widest column : Nat) : List Char → List Nat × Nat × Nat × List Char
  | [] => ([], widest, column, [])
  | c :: rest =>
    if c = ' ' then blockLead (max widest (column + 1)) (column + 1) rest
    else if isBreak c then
      let (breaks, found) := blockLead widest 0 rest
      (breakPoint c :: breaks, found)
    else ([], widest, column, c :: rest)

/-- The empty lines between two lines of a block scalar, with the
indentation of the second one. -/
def blockGap (indent column : Nat) : List Char → List Nat × Nat × List Char
  | [] => ([], column, [])
  | c :: rest =>
    if c = ' ' && column < indent then blockGap indent (column + 1) rest
    else if isBreak c then
      let (breaks, found) := blockGap indent 0 rest
      (breakPoint c :: breaks, found)
    else ([], column, c :: rest)

/-- The lines of a block scalar whose first character is at hand, after the
given empty lines. The result ends with the break of the last line and with
the breaks of the empty lines after it, which chomping decides about. -/
def blockLines (folded : Bool) (indent : Nat) :
    Nat → List Nat → Nat → List Char → List Nat × List Nat × List Nat × List Char
  | 0, breaks, _, text => ([], [], breaks, text)
  | fuel + 1, breaks, column, text =>
    if column ≠ indent || text = [] then ([], [], breaks, text)
    else
      let line := text.takeWhile (!isBreak ·)
      let after := text.dropWhile (!isBreak ·)
      let lineBreak := after.head?.toList.map breakPoint
      let (gap, nextColumn, next) := blockGap indent 0 after.tail
      let content := breaks ++ line.map Char.toNat
      if nextColumn ≠ indent || next = [] then (content, lineBreak, gap, next)
      else
        let joins := folded && lineBreak = [0x0A] && !line.head?.any isBlank &&
          !next.head?.any isBlank
        let between := if joins then (if gap = [] then [0x20] else []) else lineBreak
        let (more, last, trailing, rest) := blockLines folded indent fuel gap nextColumn next
        (content ++ between ++ more, last, trailing, rest)

/-- A block scalar behind its mark, in a collection with the given
indentation. -/
def blockScalar? (folded : Bool) (outer : Int) (text : List Char) :
    Option (List Nat × List Char) := do
  let (chomping, width, text) ← blockHead? text
  let text ← afterHeadLine? text
  let least := max (outer + 1) 1
  let (indent, breaks, column, text) := match width with
    | some width =>
      let indent := (least + width - 1).toNat
      let (breaks, column, text) := blockGap indent 0 text
      (indent, breaks, column, text)
    | none =>
      let (breaks, widest, column, text) := blockLead 0 0 text
      (max least.toNat widest, breaks, column, text)
  let (content, last, trailing, rest) :=
    blockLines folded indent (text.length + 1) breaks column text
  return (content ++ (match chomping with
    | .strip => []
    | .clip => last
    | .keep => last ++ trailing), rest)

end RoutePaths.Yaml
