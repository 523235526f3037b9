import RoutePaths.Config.File
import RoutePaths.Proofs.FileTree.Writing
import RoutePaths.Proofs.Json.Document
import RoutePaths.Proofs.Text.Lines

/-! Settings that have been saved are loaded as they were. Everything in them is kept in the
document: the record has a field for each setting, the document has the text of the record,
and the file has the bytes of the document. -/
namespace RoutePaths
open Result

namespace Config

/-- What documents can hold of the exclude patterns: different texts, with values that JSON
text can hold. -/
structure IsJson (config : Config) : Prop where
  distinct : (config.excluded.map Prod.fst).Nodup
  values : ∀ entry ∈ config.excluded, entry.2.IsJson

theorem plainItems_eq_map (items : List Value) : plainItems items = items.map plain := by
  induction items with
  | nil => rfl
  | cons item rest ih => rw [plainItems, List.map_cons, ih]

theorem plainEntries_fieldEntry (fields : List (String × Value)) :
    plainEntries (fields.map Value.fieldEntry) =
      (fields.map fun field => (field.1, plain field.2)).map Value.fieldEntry := by
  induction fields with
  | nil => rfl
  | cons field rest ih =>
      rw [List.map_cons, Value.fieldEntry, plainEntries, ih]
      rfl

/-- Nothing is changed in a value that JSON text can hold. -/
theorem plain_of_isJson {value : Value} (h : value.IsJson) : plain value = value := by
  induction h with
  | null => rfl
  | bool value => rfl
  | int value => rfl
  | text value => rfl
  | @list items below ih =>
      rw [plain, plainItems_eq_map, List.map_congr_left ih, List.map_id']
  | @record fields distinct below ih =>
      have hFields : (fields.map fun field => (field.1, plain field.2)) = fields := by
        refine (List.map_congr_left fun field hField => ?_).trans (List.map_id fields)
        rw [ih field hField]
        rfl
      show plain (.map (fields.map Value.fieldEntry)) = _
      rw [plain, plainEntries_fieldEntry, hFields, Value.ofEntries_map_fieldEntry distinct]

variable {config : Config}

theorem IsJson.map_plain (h : config.IsJson) :
    (config.excluded.map fun entry => (entry.1, plain entry.2)) = config.excluded := by
  refine (List.map_congr_left fun entry hEntry => ?_).trans (List.map_id config.excluded)
  rw [plain_of_isJson (h.values entry hEntry)]
  rfl

theorem isJson_includeValue (included : Inclusion String) : (includeValue included).IsJson := by
  cases included with
  | one pattern => exact .text pattern
  | many patterns =>
      refine .list ?_
      simp only [List.forall_mem_map]
      exact fun pattern _ => .text pattern

theorem IsJson.toRecord (h : config.IsJson) : config.toRecord.IsJson := by
  refine .record (by simp) ?_
  simp only [List.forall_mem_cons, h.map_plain]
  exact ⟨.text _, .text _, .text _, isJson_includeValue _, .record h.distinct h.values, by simp⟩

theorem setting?_of_get? {record value : Value} {name : String} (h : record.get? name = some value) :
    setting? record name = some value := by
  rw [setting?, h]
  rfl

theorem textsAt_texts (path : List String) (number : Nat) (patterns : List String) :
    textsAt path number (patterns.map .text) = .ok patterns := by
  induction patterns generalizing number with
  | nil => rfl
  | cons pattern rest ih =>
      rw [List.map_cons, textsAt, ih]
      rfl

theorem excludeEntries_fieldEntry (fields : List (String × Value)) :
    excludeEntries (fields.map Value.fieldEntry) = .ok fields := by
  induction fields with
  | nil => rfl
  | cons field rest ih =>
      rw [List.map_cons, Value.fieldEntry, excludeEntries, ih]
      rfl

theorem includeAt_toRecord (config : Config) : includeAt config.toRecord = .ok config.included := by
  have hSetting : setting? config.toRecord "include" = some (includeValue config.included) :=
    setting?_of_get? rfl
  rw [includeAt, hSetting]
  cases config.included with
  | one pattern => rfl
  | many patterns =>
      simp only [includeValue, Value.texts, Value.textAt, textsAt_texts]

theorem excludeAt_toRecord (h : config.IsJson) :
    excludeAt config.toRecord = .ok config.excluded := by
  have hSetting : setting? config.toRecord "exclude" =
      some (.record (config.excluded.map fun entry => (entry.1, plain entry.2))) :=
    setting?_of_get? rfl
  rw [excludeAt, hSetting, h.map_plain]
  exact excludeEntries_fieldEntry config.excluded

theorem textAt_of_get? {record : Value} {name text : String} (h : record.get? name = some (.text text))
    (fallback : String) : textAt record name fallback = .ok text := by
  rw [textAt, setting?_of_get? h]
  rfl

/-- The record of settings reads back. -/
theorem ofRecord_toRecord (h : config.IsJson) : ofRecord config.toRecord = .ok config := by
  have hSource : config.toRecord.get? "source-directory" = some (.text config.sourceDirectory) := rfl
  have hModule : config.toRecord.get? "module-name" = some (.text config.moduleName) := rfl
  have hPackages : config.toRecord.get? "module-prefix" = some (.text config.packages) := rfl
  rw [ofRecord, textAt_of_get? hSource, textAt_of_get? hModule, textAt_of_get? hPackages,
    includeAt_toRecord, excludeAt_toRecord h]

theorem read?_document (h : config.IsJson) : Json.read? config.document = some config.toRecord :=
  Json.read?_print h.toRecord style (by simp [Json.isSpace] : ∀ c ∈ ['\n'], Json.isSpace c = true)

/-- A document is the same text whatever line breaks it is read with. -/
theorem return_not_mem_document (h : config.IsJson) : '\r' ∉ config.document.toList := by
  rw [document, Json.Style.print, String.toList_append, String.toList_ofList, List.mem_append]
  rintro (hMem | hMem)
  · exact Json.return_not_mem_chars h.toRecord style 0 hMem
  · revert hMem
    decide

variable {tree : FileTree} {directory : FileTree.Place} {path : Path}

theorem ofPath_eq_yaml_iff :
    Format.ofPath path = .yaml ↔ path.suffix = ".yaml" ∨ path.suffix = ".yml" := by
  rw [Format.ofPath]
  split
  · rename_i hSuffix
    simpa using hSuffix
  · rename_i hOther
    split <;> simpa using hOther

/-- Unless its suffix says otherwise, a document that can be read in the first notation is read
in that one. -/
theorem readDocument_eq_ok {text : String} {value : Value} (hYaml : path.suffix ≠ ".yaml")
    (hYml : path.suffix ≠ ".yml") (hRead : Json.read? text = some value) :
    readDocument path text = .ok value := by
  have hFormat : Format.ofPath path ≠ .yaml := by
    simp [ofPath_eq_yaml_iff, hYaml, hYml]
  delta readDocument
  rw [hRead]
  cases hPath : Format.ofPath path with
  | yaml => exact absurd hPath hFormat
  | json => rfl
  | either => rfl

theorem ofDocument_document (h : config.IsJson) (hYaml : path.suffix ≠ ".yaml")
    (hYml : path.suffix ≠ ".yml") : ofDocument path config.document = .ok config := by
  have hRecord : (ofRecord config.toRecord).mapError (LoadError.refused path.text) = .ok config := by
    rw [ofRecord_toRecord h]
    rfl
  rw [ofDocument, readDocument_eq_ok hYaml hYml (read?_document h)]
  exact hRecord

theorem load_eq_ofDocument {bytes : ByteArray} {text : String}
    (hBytes : tree.readBytes directory path = .ok (some bytes))
    (hText : FileTree.textOf bytes = .ok text) :
    load tree directory path = (ofDocument path text).mapError .expected := by
  simp only [load, hBytes, Except.mapError, bind, Except.bind, hText]

theorem load_eq_ok {bytes : ByteArray} {text : String}
    (hBytes : tree.readBytes directory path = .ok (some bytes))
    (hText : FileTree.textOf bytes = .ok text) (hDocument : ofDocument path text = .ok config) :
    load tree directory path = .ok config := by
  rw [load_eq_ofDocument hBytes hText, hDocument, Except.mapError]

/-- Settings that have been saved are loaded as they were, with the exclude patterns in their
order. The working directory has to be there, and the suffix of the file must not stand for
the other notation. -/
theorem load_save (hConfig : config.IsJson) (hDirectory : tree.IsOpen directory)
    (hYaml : path.suffix ≠ ".yaml") (hYml : path.suffix ≠ ".yml")
    (hSave : (config.save tree directory path).2 = .ok ()) :
    load (config.save tree directory path).1 directory path = .ok config := by
  obtain ⟨after, hWrite⟩ : ∃ after, config.save tree directory path = (after, .ok ()) :=
    ⟨_, Prod.ext rfl hSave⟩
  rw [hWrite]
  exact load_eq_ok (FileTree.readBytes_of_write hWrite hDirectory)
    (FileTree.textOf_encode (return_not_mem_document hConfig)) (ofDocument_document hConfig hYaml hYml)

/-- Settings with characters that are escaped, and with exclude patterns that bring values of
several kinds. -/
def nestedSettings : Config :=
  ⟨"./src", "é😀\"\\\n\x01", "", .many ["reports", "*_path"],
    [("z_*", .bool true), ("a_*", .null),
      ("m_*", .list [.int (-3), .record [("key", .text "value"), ("none", .list [])]])]⟩

/-- A tree in which the working directory is all there is. -/
def workTree : FileTree :=
  ⟨[(["work"], .directory)]⟩

theorem load_save_nestedSettings :
    nestedSettings.IsJson ∧ workTree.IsOpen ["work"] ∧
      (nestedSettings.save workTree ["work"] (.read "conf/../railpath.json")).2 = .ok () ∧
      load (nestedSettings.save workTree ["work"] (.read "conf/../railpath.json")).1 ["work"]
        (.read "conf/../railpath.json") = .ok nestedSettings := by
  have hConfig : nestedSettings.IsJson := by
    refine ⟨by decide, ?_⟩
    simp only [nestedSettings, List.forall_mem_cons]
    refine ⟨.bool true, .null, .list ?_, by simp⟩
    simp only [List.forall_mem_cons]
    refine ⟨.int (-3), .record (by decide) ?_, by simp⟩
    simp only [List.forall_mem_cons]
    exact ⟨.text "value", .list (by simp), by simp⟩
  have hWork : workTree.isDirectoryAt ([] ++ ["work"]) = true := rfl
  have hDirectory : workTree.IsOpen ["work"] := (FileTree.isOpen_top workTree).concat hWork
  have hSave : (nestedSettings.save workTree ["work"] (.read "conf/../railpath.json")).2 = .ok () := by
    rfl
  exact ⟨hConfig, hDirectory, hSave, load_save hConfig hDirectory (by decide) (by decide) hSave⟩

end Config

end RoutePaths
