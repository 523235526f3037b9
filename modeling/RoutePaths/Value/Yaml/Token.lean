import RoutePaths.Value.Yaml.Scalar

/-! The tokens of YAML text. Indentation becomes tokens of its own, and a
key that is only known for one when its colon is reached gets its token put
in front of it then. Tags and directives are not understood: a text that
holds one has no tokens. -/
namespace RoutePaths.Yaml

/-- A token. Block collections are closed by indentation alone; plain scalars
are kept apart, because only they may stand for something else than
text. -/
inductive Token where
  | documentStart
  | documentEnd
  | blockList
  | blockMap
  | blockEnd
  | openList
  | closeList
  | openMap
  | closeMap
  | item
  | comma
  | key
  | value
  | anchor (name : List Char)
  | alias (name : List Char)
  | plain (points : List Nat)
  | quoted (points : List Nat)
  deriving DecidableEq, Repr

/-- A place in a text. -/
structure Cursor where
  rest : List Char
  index : Nat
  line : Nat
  column : Nat
  deriving Repr

namespace Cursor

/-- The place after the next character. -/
def advance (cursor : Cursor) : Cursor :=
  match cursor.rest with
  | [] => cursor
  | c :: rest =>
    if isBreak c then ⟨rest, cursor.index + 1, cursor.line + 1, 0⟩
    else if c.toNat = 0xFEFF then ⟨rest, cursor.index + 1, cursor.line, cursor.column⟩
    else ⟨rest, cursor.index + 1, cursor.line, cursor.column + 1⟩

/-- The place after so many characters. -/
def advanceBy (cursor : Cursor) : Nat → Cursor
  | 0 => cursor
  | count + 1 => cursor.advance.advanceBy count

/-- The place at which the given end of the text starts. -/
def advanceTo (cursor : Cursor) (rest : List Char) : Cursor :=
  cursor.advanceBy (cursor.rest.length - rest.length)

end Cursor

/-- A place at which a key may have started. The key is required if nothing
else can stand there. -/
structure KeyStart where
  tokensBefore : Nat
  required : Bool
  index : Nat
  line : Nat
  column : Nat
  deriving Repr

/-- How far a text has been cut into tokens. There is at most one place for
a key at each depth of flow collections. -/
structure Scan where
  cursor : Cursor
  tokens : List Token
  depth : Nat
  indent : Int
  outer : List Int
  keyAllowed : Bool
  keys : List (Nat × KeyStart)
  deriving Repr

namespace Scan

/-- The start of a text. -/
def start (text : List Char) : Scan :=
  ⟨⟨text, 0, 0, 0⟩, [], 0, -1, [], true, []⟩

def push (scan : Scan) (token : Token) : Scan :=
  { scan with tokens := scan.tokens ++ [token] }

/-- Passes over the next characters. -/
def skip (scan : Scan) (count : Nat) : Scan :=
  { scan with cursor := scan.cursor.advanceBy count }

/-- Puts tokens at a place that was passed before. -/
def insertAt (scan : Scan) (place : Nat) (tokens : List Token) : Scan :=
  { scan with tokens := scan.tokens.take place ++ tokens ++ scan.tokens.drop place }

/-- Gives up the places for keys that are out of reach: on an earlier line,
or more than 1024 characters back. -/
def dropStaleKeys? (scan : Scan) : Option Scan :=
  let stale (entry : Nat × KeyStart) : Bool :=
    entry.2.line ≠ scan.cursor.line || scan.cursor.index - entry.2.index > 1024
  if scan.keys.any (fun entry => stale entry && entry.2.required) then none
  else some { scan with keys := scan.keys.filter (!stale ·) }

/-- Gives up the place for a key at the present depth. -/
def dropKey? (scan : Scan) : Option Scan :=
  match scan.keys.lookup scan.depth with
  | some key =>
    if key.required then none
    else some { scan with keys := scan.keys.filter (·.1 ≠ scan.depth) }
  | none => some scan

/-- Notes that a key may start here. -/
def saveKey? (scan : Scan) : Option Scan :=
  if scan.keyAllowed then do
    let required := scan.depth = 0 && scan.indent = scan.cursor.column
    let cleared ← scan.dropKey?
    let key : KeyStart :=
      ⟨scan.tokens.length, required, scan.cursor.index, scan.cursor.line, scan.cursor.column⟩
    return { cleared with keys := (scan.depth, key) :: cleared.keys }
  else some scan

/-- Closes the block collections that are indented further than the
column. -/
def unwind (scan : Scan) (column : Int) : Scan :=
  if scan.depth ≠ 0 then scan
  else
    let closed := (scan.indent :: scan.outer).takeWhile (· > column)
    match (scan.indent :: scan.outer).dropWhile (· > column) with
    | indent :: outer =>
      { scan with
        indent
        outer
        tokens := scan.tokens ++ closed.map fun _ => .blockEnd }
    | [] => scan

/-- Opens a block collection at a column, if it is indented further than the
one around it. -/
def addIndent (scan : Scan) (column : Int) : Scan × Bool :=
  if scan.indent < column then
    ({ scan with indent := column, outer := scan.indent :: scan.outer }, true)
  else (scan, false)

/-- Opens a block collection with a token of its own. -/
def openBlock (scan : Scan) (token : Token) : Scan :=
  let (scan, opened) := scan.addIndent scan.cursor.column
  if opened then scan.push token else scan

/-- Passes over spaces, comments and line breaks. A line break makes room
for a key outside flow collections. -/
def skipGap : Bool → List Char → Bool × List Char
  | broke, [] => (broke, [])
  | broke, c :: rest =>
    if c = ' ' then skipGap broke rest
    else if isBreak c then skipGap true rest
    else if c = '#' then skipComment broke rest
    else (broke, c :: rest)
where
  /-- Passes over the rest of a comment, and what comes after it. -/
  skipComment : Bool → List Char → Bool × List Char
    | broke, [] => (broke, [])
    | broke, c :: rest => if isBreak c then skipGap true rest else skipComment broke rest

/-- Goes to the next token. -/
def toToken (scan : Scan) : Scan :=
  let text := match scan.cursor.index, scan.cursor.rest with
    | 0, c :: rest => if c.toNat = 0xFEFF then rest else c :: rest
    | _, text => text
  let (broke, rest) := skipGap false text
  { scan with
    cursor := scan.cursor.advanceTo rest
    keyAllowed := scan.keyAllowed || (broke && scan.depth = 0) }

/-- A mark that starts or ends a document. -/
def documentMark? (scan : Scan) (token : Token) : Option Scan := do
  let scan ← (scan.unwind (-1)).dropKey?
  return ({ scan with keyAllowed := false }.skip 3).push token

/-- The start of a flow collection. -/
def openFlow? (scan : Scan) (token : Token) : Option Scan := do
  let scan ← scan.saveKey?
  return ({ scan with depth := scan.depth + 1, keyAllowed := true }.skip 1).push token

/-- The end of a flow collection. -/
def closeFlow? (scan : Scan) (token : Token) : Option Scan := do
  if scan.depth = 0 then none
  else
    let scan ← scan.dropKey?
    return ({ scan with depth := scan.depth - 1, keyAllowed := false }.skip 1).push token

/-- The mark between two items of a flow collection. -/
def comma? (scan : Scan) : Option Scan := do
  let scan ← scan.dropKey?
  return ({ scan with keyAllowed := true }.skip 1).push .comma

/-- The mark of an item of a block list. -/
def item? (scan : Scan) : Option Scan := do
  if scan.depth = 0 && !scan.keyAllowed then none
  else
    let scan := if scan.depth = 0 then scan.openBlock .blockList else scan
    let scan ← scan.dropKey?
    return ({ scan with keyAllowed := true }.skip 1).push .item

/-- The mark of a key that is announced. -/
def key? (scan : Scan) : Option Scan := do
  if scan.depth = 0 && !scan.keyAllowed then none
  else
    let scan := if scan.depth = 0 then scan.openBlock .blockMap else scan
    let scan ← scan.dropKey?
    return ({ scan with keyAllowed := scan.depth = 0 }.skip 1).push .key

/-- The mark of a value. If a key may have started before, it has. -/
def value? (scan : Scan) : Option Scan :=
  match scan.keys.lookup scan.depth with
  | some key =>
    let scan := { scan with keys := scan.keys.filter (·.1 ≠ scan.depth) }
    let (scan, opened) := if scan.depth = 0 then scan.addIndent key.column else (scan, false)
    let scan := scan.insertAt key.tokensBefore (if opened then [.blockMap, .key] else [.key])
    some (({ scan with keyAllowed := false }.skip 1).push .value)
  | none =>
    if scan.depth = 0 && !scan.keyAllowed then none
    else do
      let scan := if scan.depth = 0 then scan.openBlock .blockMap else scan
      let scan ← { scan with keyAllowed := scan.depth = 0 }.dropKey?
      return (scan.skip 1).push .value

/-- A character of the name of an anchor. -/
def isAnchorChar (c : Char) : Bool :=
  c.isAlphanum || c == '-' || c == '_'

/-- A character other than a blank that may follow the name of an anchor. -/
def endsAnchor (c : Char) : Bool :=
  ['?', ':', ',', ']', '}', '%', '@', '\x60'].contains c

/-- The mark of an anchor or an alias with its name. -/
def anchor? (scan : Scan) (token : List Char → Token) : Option Scan := do
  let scan ← scan.saveKey?
  let text := scan.cursor.rest.tail
  let name := text.takeWhile isAnchorChar
  let rest := text.dropWhile isAnchorChar
  if name = [] || !(atGap rest || rest.head?.any endsAnchor) then none
  else
    let after := { scan with keyAllowed := false, cursor := scan.cursor.advanceTo rest }
    return after.push (token name)

/-- A scalar between quotes. -/
def quoted? (scan : Scan) (read : List Char → Option (List Nat × List Char)) : Option Scan := do
  let scan ← scan.saveKey?
  let (points, rest) ← read scan.cursor.rest.tail
  let after := { scan with keyAllowed := false, cursor := scan.cursor.advanceTo rest }
  return after.push (.quoted points)

/-- A block scalar. -/
def block? (scan : Scan) (folded : Bool) : Option Scan := do
  let scan ← { scan with keyAllowed := true }.dropKey?
  let (points, rest) ← blockScalar? folded scan.indent scan.cursor.rest.tail
  return { scan with cursor := scan.cursor.advanceTo rest }.push (.quoted points)

/-- A plain scalar. -/
def plain? (scan : Scan) : Option Scan := do
  let scan ← scan.saveKey?
  let scalar := plainScalar (scan.depth ≠ 0) (scan.indent + 1) .nothing scan.cursor.column
    scan.cursor.rest
  return { scan with
    keyAllowed := scalar.brokeLine
    cursor := scan.cursor.advanceTo scalar.rest }.push (.plain scalar.points)

/-- The next token. Which one it is depends on the next character, and for
some on the one behind it. -/
def next? (scan : Scan) : Option Scan :=
  let inFlow := scan.depth ≠ 0
  match scan.cursor.rest with
  | [] => none
  | c :: rest =>
    if scan.cursor.column = 0 && c = '%' then none
    else if scan.cursor.column = 0 && c = '-' && atDocumentMark (c :: rest) then
      scan.documentMark? .documentStart
    else if scan.cursor.column = 0 && c = '.' && atDocumentMark (c :: rest) then
      scan.documentMark? .documentEnd
    else if c = '[' then scan.openFlow? .openList
    else if c = '{' then scan.openFlow? .openMap
    else if c = ']' then scan.closeFlow? .closeList
    else if c = '}' then scan.closeFlow? .closeMap
    else if c = ',' then scan.comma?
    else if c = '-' && atGap rest then scan.item?
    else if c = '?' && (inFlow || atGap rest) then scan.key?
    else if c = ':' && (inFlow || atGap rest) then scan.value?
    else if c = '*' then scan.anchor? .alias
    else if c = '&' then scan.anchor? .anchor
    else if c = '!' then none
    else if c = '|' && !inFlow then scan.block? false
    else if c = '>' && !inFlow then scan.block? true
    else if c = '\'' then scan.quoted? (singleQuoted? .nothing)
    else if c = '"' then scan.quoted? (doubleQuoted? .nothing)
    else if !isBlank c && (!isIndicator c ||
        (!atGap rest && (c = '-' || (!inFlow && (c = '?' || c = ':'))))) then scan.plain?
    else none

/-- All tokens, the present place being the one after a token. -/
def run : Nat → Scan → Option (List Token)
  | 0, _ => none
  | fuel + 1, scan => do
    let scan ← scan.toToken.dropStaleKeys?
    let scan := scan.unwind scan.cursor.column
    match scan.cursor.rest with
    | [] =>
      let scan ← (scan.unwind (-1)).dropKey?
      return scan.tokens
    | _ => do
      let scan ← scan.next?
      run fuel scan

end Scan

/-- The tokens of a text. Every token takes a character at least, so one
step for each character and one for the end suffice. -/
def tokens? (text : List Char) : Option (List Token) :=
  if text.all isReadable then Scan.run (text.length + 1) (.start text) else none

end RoutePaths.Yaml
