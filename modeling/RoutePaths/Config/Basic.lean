import RoutePaths.Selection.Basic
import RoutePaths.Value.Field

/-! The settings of a project: where modules go, how they are named, and
which routes are selected. Settings are kept in a document, so they can be
read from a record and written as one; reading checks every field and
reports all faults together. -/
namespace RoutePaths

/-- The settings. The values that come with the exclude patterns are kept,
but they have no effect. -/
structure Config where
  sourceDirectory : String
  moduleName : String
  packages : String
  included : Inclusion String
  excluded : List (String × Value)
  deriving Repr

namespace Config

/-- The settings of a project that has chosen nothing. -/
def default : Config :=
  ⟨"./src", "Routes", "", .one Inclusion.wildcard, []⟩

/-- The selection that the settings ask for. -/
def selection (config : Config) : Selection :=
  ⟨config.included.ofTexts, config.excluded.map (.text ·.1)⟩

/-- The value of a setting. Both spellings of its name are understood, and
the one with hyphens wins. -/
def setting? (record : Value) (name : String) : Option Value :=
  let other := String.ofList (name.toList.map fun c => if c = '-' then '_' else c)
  record.get? name <|> record.get? other

/-- A setting that is a text. -/
def textAt (record : Value) (name : String) (fallback : String) : Except Value.Faults String :=
  match setting? record name with
  | none => .ok fallback
  | some value => value.textAt [name]

/-- The place of a fault in the setting for inclusion, taken for a text. -/
def includeText : List String :=
  ["include", "str"]

/-- The place of a fault in the setting for inclusion, taken for a list. -/
def includeList : List String :=
  ["include", "list[str]"]

/-- The texts of a list, or the faults of all items that are none. -/
def textsAt (path : List String) (number : Nat) : List Value → Except Value.Faults (List String)
  | [] => .ok []
  | item :: rest =>
    match item.textAt (path ++ [toString number]), textsAt path (number + 1) rest with
    | .ok text, .ok texts => .ok (text :: texts)
    | first, others => .error (Value.faultsOf first ++ Value.faultsOf others)

/-- The setting for inclusion. A value that is neither a text nor a list of
texts is refused both as the one and as the other. -/
def includeAt (record : Value) : Except Value.Faults (Inclusion String) :=
  match setting? record "include" with
  | none => .ok (.one Inclusion.wildcard)
  | some value =>
    match value.textAt includeText with
    | .ok pattern => .ok (.one pattern)
    | .error asText =>
      match value with
      | .list items =>
        match textsAt includeList 0 items with
        | .ok patterns => .ok (.many patterns)
        | .error asList => .error (asText ++ asList)
      | _ => .error (asText ++ [⟨includeList, .notList⟩])

/-- The key of an entry as it stands in the place of a fault. -/
def keyShown : Value → String
  | .bool value => if value then "1" else "0"
  | key => key.shown

/-- A key of the setting for exclusion. -/
def excludeKey (key : Value) : Except Value.Faults String :=
  key.textAt ["exclude", keyShown key, "[key]"]

/-- The entries of the setting for exclusion, or the faults of all keys that
are no text. -/
def excludeEntries : List (Value × Value) → Except Value.Faults (List (String × Value))
  | [] => .ok []
  | (key, value) :: rest =>
    match excludeKey key, excludeEntries rest with
    | .ok pattern, .ok entries => .ok ((pattern, value) :: entries)
    | first, others => .error (Value.faultsOf first ++ Value.faultsOf others)

/-- The key that an item of a list of patterns becomes. -/
def itemKey : Value → Value
  | .broken points => .broken points
  | item => .text item.shown

/-- A list of patterns as a map in which each pattern is set. -/
def setAll (items : List Value) : Value :=
  .ofEntries (items.map fun item => (itemKey item, .bool true))

/-- The setting for exclusion: a map, a list of patterns, or nothing. -/
def excludeAt (record : Value) : Except Value.Faults (List (String × Value)) :=
  match setting? record "exclude" with
  | none => .ok []
  | some .null => .ok []
  | some (.map entries) => excludeEntries entries
  | some (.list items) =>
    match setAll items with
    | .map entries => excludeEntries entries
    | _ => .ok []
  | some _ => .error [⟨["exclude"], .notMap⟩]

/-- Reads settings from a record. Settings that are not given have their
defaults, and other entries of the record are passed over. -/
def ofRecord (record : Value) : Except Value.Faults Config :=
  let sourceDirectory := textAt record "source-directory" default.sourceDirectory
  let moduleName := textAt record "module-name" default.moduleName
  let packages := textAt record "module-prefix" default.packages
  let included := includeAt record
  let excluded := excludeAt record
  match sourceDirectory, moduleName, packages, included, excluded with
  | .ok sourceDirectory, .ok moduleName, .ok packages, .ok included, .ok excluded =>
    .ok ⟨sourceDirectory, moduleName, packages, included, excluded⟩
  | _, _, _, _, _ =>
    .error (Value.faultsOf sourceDirectory ++ Value.faultsOf moduleName ++
      Value.faultsOf packages ++ Value.faultsOf included ++ Value.faultsOf excluded)

/-- The setting for inclusion as a value. -/
def includeValue : Inclusion String → Value
  | .one pattern => .text pattern
  | .many patterns => .texts patterns

/-- The key of an entry as a document that only knows text keys has it. -/
def plainKey : Value → Value
  | .text key => .text key
  | .broken points => .broken points
  | .bool value => .text (if value then "true" else "false")
  | key => .text key.shown

mutual

/-- A value as it is kept in a document. Reals that no digits can denote are
dropped, and every key is a text. -/
def plain : Value → Value
  | .real (.infinite _) => .null
  | .real .undefined => .null
  | .list items => .list (plainItems items)
  | .map entries => .ofEntries (plainEntries entries)
  | value => value

/-- The items of a list, kept in a document. -/
def plainItems : List Value → List Value
  | [] => []
  | item :: rest => plain item :: plainItems rest

/-- The entries of a map, kept in a document. -/
def plainEntries : List (Value × Value) → List (Value × Value)
  | [] => []
  | (key, value) :: rest => (plainKey key, plain value) :: plainEntries rest

end

/-- The settings as a record, in the order and the spelling of the
document. -/
def toRecord (config : Config) : Value :=
  .record
    [("source-directory", .text config.sourceDirectory), ("module-name", .text config.moduleName),
     ("module-prefix", .text config.packages), ("include", includeValue config.included),
     ("exclude", .record (config.excluded.map fun entry => (entry.1, plain entry.2)))]

end Config

end RoutePaths
