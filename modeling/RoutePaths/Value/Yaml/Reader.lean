import RoutePaths.Text.Line
import RoutePaths.Value.Yaml.Node
import RoutePaths.Value.Yaml.Resolve

/-! Reading YAML documents. Nodes become values: plain scalars are resolved,
merge keys are replaced by the entries that they bring in, and of two
entries with one key the later counts. -/
namespace RoutePaths.Yaml

/-- The key that brings in the entries of other maps. -/
def mergeKey : List Char := "<<".toList

/-- The key that means itself, though it means nothing elsewhere. -/
def selfKey : List Char := "=".toList

/-- The characters of a plain scalar. -/
def plainChars (points : List Nat) : List Char :=
  points.map Char.ofNat

/-- The entries that the value of a merge key brings in. Of several maps the
first one wins, so it comes last. -/
def merged? : Value → Option (List (Value × Value))
  | .map entries => some entries
  | .list maps => do
    let parts ← maps.mapM fun item => match item with
      | .map entries => some entries
      | _ => none
    return parts.reverse.flatten
  | _ => none

/-- A value that can be a key. -/
def isKey : Value → Bool
  | .list _ => false
  | .map _ => false
  | _ => true

mutual

/-- The value of a node. -/
def Node.value? : Node → Option Value
  | .plain points => resolve? (plainChars points)
  | .quoted points => some (.ofPoints points)
  | .list items => (values? items).map .list
  | .map entries => do
    let (brought, own) ← entries? entries
    return .ofEntries (brought ++ own)

/-- The values of several nodes. -/
def values? : List Node → Option (List Value)
  | [] => some []
  | item :: rest => do
    let value ← item.value?
    let values ← values? rest
    return value :: values

/-- The entries of a map: those that merge keys bring in, and its own. -/
def entries? : List (Node × Node) → Option (List (Value × Value) × List (Value × Value))
  | [] => some ([], [])
  | (key, node) :: rest => do
    let value ← node.value?
    let (brought, own) ← entries? rest
    match key with
    | .plain points =>
      if plainChars points = mergeKey then
        let more ← merged? value
        return (more ++ brought, own)
      else if plainChars points = selfKey then
        return (brought, (.text "=", value) :: own)
      else
        let key ← resolve? (plainChars points)
        return (brought, (key, value) :: own)
    | key =>
      let key ← key.value?
      if isKey key then return (brought, (key, value) :: own) else none

end

/-- The value of a YAML text, which has one or none: nothing is said about
why it has none. An empty text is the absent value. -/
def read? (text : String) : Option Value := do
  let tokens ← tokens? (Text.unifyBreaks text.toList)
  let node ← Node.ofTokens? tokens
  node.value?

end RoutePaths.Yaml
