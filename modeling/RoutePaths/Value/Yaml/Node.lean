import RoutePaths.Value.Yaml.Token

/-! The nodes that tokens form. A node is a scalar, a list or a map; an alias
is the node that its anchor stood at. A document is one node, and a text is
one document. -/
namespace RoutePaths.Yaml

/-- A node of a document. -/
inductive Node where
  | plain (points : List Nat)
  | quoted (points : List Nat)
  | list (items : List Node)
  | map (entries : List (Node × Node))
  deriving Repr, Inhabited

namespace Node

/-- The node of a place where nothing is written. -/
def empty : Node := plain []

/-- The tokens that are left, and the anchors that have been seen. -/
structure Source where
  tokens : List Token
  anchors : List (List Char × Node)
  deriving Repr

/-- The source without its first token. -/
def Source.tail (source : Source) : Source :=
  { source with tokens := source.tokens.tail }

/-- One of the given tokens is next. The end of the text counts as none of
them. -/
def Source.at (source : Source) (expected : List Token) : Bool :=
  source.tokens.head?.any expected.contains

/-- How a node may be written at a place: in flow form only, in block form
too, or also as a list that is not indented. -/
inductive Form where
  | flow
  | block
  | value
  deriving DecidableEq, Repr

/-- A node without an anchor starts here, whether or not it can be read to
its end. -/
def startsContent (form : Form) (source : Source) : Bool :=
  match source.tokens with
  | .plain _ :: _ => true
  | .quoted _ :: _ => true
  | .openList :: _ => true
  | .openMap :: _ => true
  | .item :: _ => form = .value
  | .blockList :: _ => form ≠ .flow
  | .blockMap :: _ => form ≠ .flow
  | _ => false

mutual

/-- Reads a node, which may have an anchor. With an anchor, it may also be
empty. -/
def read : Nat → Form → Source → Option (Node × Source)
  | 0, _, _ => none
  | fuel + 1, form, source =>
    match source.tokens with
    | .alias name :: _ => (source.anchors.lookup name).map (·, source.tail)
    | .anchor name :: _ => do
      let (node, rest) ←
        if startsContent form source.tail then readContent fuel form source.tail
        else some (empty, source.tail)
      if (rest.anchors.lookup name).isSome then none
      else return (node, { rest with anchors := (name, node) :: rest.anchors })
    | _ => readContent fuel form source

/-- Reads a node without an anchor. -/
def readContent : Nat → Form → Source → Option (Node × Source)
  | 0, _, _ => none
  | fuel + 1, form, source =>
    match source.tokens with
    | .plain points :: _ => some (plain points, source.tail)
    | .quoted points :: _ => some (quoted points, source.tail)
    | .openList :: _ =>
      (readItems fuel true source.tail).map fun (items, rest) => (list items, rest)
    | .openMap :: _ =>
      (readEntries fuel true source.tail).map fun (entries, rest) => (map entries, rest)
    | .item :: _ =>
      if form = .value then
        (readLooseItems fuel source).map fun (items, rest) => (list items, rest)
      else none
    | .blockList :: _ =>
      if form = .flow then none
      else (readBlockItems fuel source.tail).map fun (items, rest) => (list items, rest)
    | .blockMap :: _ =>
      if form = .flow then none
      else (readBlockEntries fuel source.tail).map fun (entries, rest) => (map entries, rest)
    | _ => none

/-- Reads a node unless one of the given tokens is next, which means that
nothing is written. -/
def readUnless : Nat → List Token → Form → Source → Option (Node × Source)
  | 0, _, _, _ => none
  | fuel + 1, ends, form, source =>
    if source.at ends then some (empty, source) else read fuel form source

/-- Reads the items of an indented list and its end. -/
def readBlockItems : Nat → Source → Option (List Node × Source)
  | 0, _ => none
  | fuel + 1, source =>
    match source.tokens with
    | .item :: _ => do
      let (item, rest) ← readUnless fuel [.item, .blockEnd] .block source.tail
      let (items, rest) ← readBlockItems fuel rest
      return (item :: items, rest)
    | .blockEnd :: _ => some ([], source.tail)
    | _ => none

/-- Reads the items of a list that is not indented. It ends where there is no
further item. -/
def readLooseItems : Nat → Source → Option (List Node × Source)
  | 0, _ => none
  | fuel + 1, source =>
    match source.tokens with
    | .item :: _ => do
      let (item, rest) ← readUnless fuel [.item, .key, .value, .blockEnd] .block source.tail
      let (items, rest) ← readLooseItems fuel rest
      return (item :: items, rest)
    | _ => some ([], source)

/-- Reads the entries of an indented map and its end. A key without a value
and a value without a key have an empty partner. -/
def readBlockEntries : Nat → Source → Option (List (Node × Node) × Source)
  | 0, _ => none
  | fuel + 1, source =>
    match source.tokens with
    | .blockEnd :: _ => some ([], source.tail)
    | .key :: _ => do
      let (key, rest) ← readUnless fuel [.key, .value, .blockEnd] .value source.tail
      let (value, rest) ← readBlockValue fuel rest
      let (entries, rest) ← readBlockEntries fuel rest
      return ((key, value) :: entries, rest)
    | _ => none

/-- Reads the value of an entry of an indented map. -/
def readBlockValue : Nat → Source → Option (Node × Source)
  | 0, _ => none
  | fuel + 1, source =>
    match source.tokens with
    | .value :: _ => readUnless fuel [.key, .value, .blockEnd] .value source.tail
    | _ => some (empty, source)

/-- Reads the items of a list in flow form and its end. An item with a key
is a map of one entry. -/
def readItems : Nat → Bool → Source → Option (List Node × Source)
  | 0, _, _ => none
  | fuel + 1, first, source =>
    match source.tokens with
    | .closeList :: _ => some ([], source.tail)
    | tokens => do
      let source ← match first, tokens with
        | true, _ => some source
        | false, .comma :: _ => some source.tail
        | false, _ => none
      match source.tokens with
      | .closeList :: _ => some ([], source.tail)
      | .key :: _ => do
        let (key, rest) ← readUnless fuel [.value, .comma, .closeList] .flow source.tail
        let (value, rest) ← readFlowValue fuel [.comma, .closeList] rest
        let (items, rest) ← readItems fuel false rest
        return (map [(key, value)] :: items, rest)
      | _ => do
        let (item, rest) ← read fuel .flow source
        let (items, rest) ← readItems fuel false rest
        return (item :: items, rest)

/-- Reads the entries of a map in flow form and its end. -/
def readEntries : Nat → Bool → Source → Option (List (Node × Node) × Source)
  | 0, _, _ => none
  | fuel + 1, first, source =>
    match source.tokens with
    | .closeMap :: _ => some ([], source.tail)
    | tokens => do
      let source ← match first, tokens with
        | true, _ => some source
        | false, .comma :: _ => some source.tail
        | false, _ => none
      match source.tokens with
      | .closeMap :: _ => some ([], source.tail)
      | .key :: _ => do
        let (key, rest) ← readUnless fuel [.value, .comma, .closeMap] .flow source.tail
        let (value, rest) ← readFlowValue fuel [.comma, .closeMap] rest
        let (entries, rest) ← readEntries fuel false rest
        return ((key, value) :: entries, rest)
      | _ => do
        let (key, rest) ← read fuel .flow source
        let (entries, rest) ← readEntries fuel false rest
        return ((key, empty) :: entries, rest)

/-- Reads the value of an entry in flow form. -/
def readFlowValue : Nat → List Token → Source → Option (Node × Source)
  | 0, _, _ => none
  | fuel + 1, ends, source =>
    match source.tokens with
    | .value :: _ => readUnless fuel ends .flow source.tail
    | _ => some (empty, source)

end

/-- Marks of the end of a document are passed over, and then there has to be
nothing left: a second document is refused. -/
def endsDocument (tokens : List Token) : Bool :=
  (tokens.dropWhile (· = .documentEnd)).isEmpty

/-- The node of a text whose tokens are given. Each token opens a bounded
number of calls, so that the tokens bound the depth of the recursion. -/
def ofTokens? (tokens : List Token) : Option Node :=
  let fuel := 4 * tokens.length + 4
  match tokens with
  | [] => some empty
  | .documentStart :: rest =>
    if rest.isEmpty || rest.head? = some .documentStart || rest.head? = some .documentEnd then
      if endsDocument rest then some empty else none
    else
      match read fuel .block ⟨rest, []⟩ with
      | some (node, source) => if endsDocument source.tokens then some node else none
      | none => none
  | tokens =>
    match read fuel .block ⟨tokens, []⟩ with
    | some (node, source) => if endsDocument source.tokens then some node else none
    | none => none

end Node

end RoutePaths.Yaml
