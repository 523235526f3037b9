import RoutePaths.Console.Grid

/-! Nested labels for people. An outline is given as a record with a label
and a list of further outlines, and it is drawn with guide lines or with
indentation. -/
namespace RoutePaths

/-- A label with the outlines below it. -/
inductive Outline where
  | node (label : String) (children : List Outline)
  deriving Repr, Inhabited

namespace Outline

def label : Outline → String
  | node label _ => label

mutual

/-- The outline as a record. -/
def toRecord : Outline → Value
  | node label children =>
    .record [("label", .text label), ("children", .list (toRecords children))]

/-- Several outlines as records. -/
def toRecords : List Outline → List Value
  | [] => []
  | child :: rest => child.toRecord :: toRecords rest

end

/-- The label of a record. -/
def labelOf (entries : List (Value × Value)) : String :=
  match (Value.map entries).get? "label" with
  | some (.text label) => label
  | _ => ""

mutual

/-- The outline that a record gives. A record without children has none,
and other values count as empty records. -/
def ofRecord : Value → Outline
  | .map entries => node (labelOf entries) (childrenOf entries)
  | _ => node "" []

/-- The outlines that the entries of a record list. -/
def childrenOf : List (Value × Value) → List Outline
  | [] => []
  | (.text "children", .list records) :: _ => ofRecords records
  | (_, _) :: rest => childrenOf rest

/-- The outlines of several records. -/
def ofRecords : List Value → List Outline
  | [] => []
  | record :: rest => ofRecord record :: ofRecords rest

end

mutual

/-- The labels, each indented by two spaces for each label above it. -/
def indented (depth : Nat) : Outline → List String
  | node label children =>
    (String.ofList (List.replicate (2 * depth) ' ') ++ label) :: indentedAll (depth + 1) children

/-- The labels of several outlines. -/
def indentedAll (depth : Nat) : List Outline → List String
  | [] => []
  | child :: rest => indented depth child ++ indentedAll depth rest

end

/-- The lines of a label. -/
def labelLines (label : String) : List (List Char) :=
  Grid.linesOf (Markup.printEscaped label)

/-- Lines with a guide in front of each: one for the first line and another
for the rest. -/
def guided (first others : List Char) : List (List Char) → List (List Char)
  | [] => []
  | line :: rest => (first ++ line) :: rest.map (others ++ ·)

mutual

/-- The lines of an outline without the guides around it. -/
def drawnLines : Outline → List (List Char)
  | node label children => labelLines label ++ drawnChildren children

/-- The lines of the outlines below a label, each with its guide. The last
one has no guide line beside what is below it. -/
def drawnChildren : List Outline → List (List Char)
  | [] => []
  | child :: rest =>
    let last := rest.isEmpty
    let first := if last then "└── ".toList else "├── ".toList
    let others := if last then "    ".toList else "│   ".toList
    guided first others (drawnLines child) ++ drawnChildren rest

end

/-- The outline drawn with guide lines. -/
def draw (outline : Outline) : String :=
  String.join (outline.drawnLines.map fun line => String.ofList (line ++ ['\n']))

end Outline

end RoutePaths
