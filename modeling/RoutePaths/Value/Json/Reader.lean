import RoutePaths.Value.Json.Token

/-! Reading JSON documents. The tokens drive a machine whose only store is
the stack of containers that are still open, so that reading a document is
one pass over its tokens. -/
namespace RoutePaths.Json

/-- A container that is still open, with what it holds so far in reverse. A
map also has the key whose value is being read. -/
inductive Open where
  | list (items : List Value)
  | map (entries : List (Value × Value)) (key : Value)
  deriving Repr

/-- What the next token may be. -/
inductive Awaiting where
  | value
  | firstItem
  | firstKey (entries : List (Value × Value))
  | key (entries : List (Value × Value))
  | colon (entries : List (Value × Value)) (key : Value)
  | separator
  | nothing (document : Value)
  deriving Repr

/-- The containers that are open around the place of reading, innermost
first, and what may come next. -/
structure Progress where
  around : List Open
  awaiting : Awaiting
  deriving Repr

/-- Puts a finished value into the innermost open container, or ends the
document with it. -/
def place (value : Value) : List Open → Progress
  | [] => ⟨[], .nothing value⟩
  | .list items :: outer => ⟨.list (value :: items) :: outer, .separator⟩
  | .map entries key :: outer => ⟨.map ((key, value) :: entries) key :: outer, .separator⟩

/-- The start of a value. -/
def startValue (around : List Open) : Token → Option Progress
  | .scalar value => some (place value around)
  | .openList => some ⟨around, .firstItem⟩
  | .openMap => some ⟨around, .firstKey []⟩
  | _ => none

/-- A key of a map, which has to be a text. -/
def startEntry (around : List Open) (entries : List (Value × Value)) : Token → Option Progress
  | .scalar (.text key) => some ⟨around, .colon entries (.text key)⟩
  | .scalar (.broken key) => some ⟨around, .colon entries (.broken key)⟩
  | _ => none

/-- One token. -/
def step (progress : Progress) (token : Token) : Option Progress :=
  match progress.awaiting, token with
  | .value, _ => startValue progress.around token
  | .firstItem, .closeList => some (place (.list []) progress.around)
  | .firstItem, _ => startValue (.list [] :: progress.around) token
  | .firstKey _, .closeMap => some (place (.map []) progress.around)
  | .firstKey entries, _ => startEntry progress.around entries token
  | .key entries, _ => startEntry progress.around entries token
  | .colon entries key, .colon => some ⟨.map entries key :: progress.around, .value⟩
  | .separator, _ =>
    match progress.around, token with
    | .list _ :: _, .comma => some ⟨progress.around, .value⟩
    | .list items :: outer, .closeList => some (place (.list items.reverse) outer)
    | .map entries _ :: outer, .comma => some ⟨outer, .key entries⟩
    | .map entries _ :: outer, .closeMap => some (place (.ofEntries entries.reverse) outer)
    | _, _ => none
  | _, _ => none

/-- The document that a list of tokens forms. -/
def document? (tokens : List Token) : Option Value :=
  match tokens.foldlM step ⟨[], .value⟩ with
  | some ⟨[], .nothing value⟩ => some value
  | _ => none

/-- The value of a JSON text. A text has one value or none: nothing is said
about why it has none. -/
def read? (text : String) : Option Value :=
  (tokens? (.outside []) text.toList).bind document?

end RoutePaths.Json
