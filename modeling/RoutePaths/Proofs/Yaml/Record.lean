import RoutePaths.Proofs.Text.Lines
import RoutePaths.Proofs.Yaml.Document

/-! A record that is written as JSON, read as YAML to its end. Its tokens form a map, and every
text in it is read as the units that it was written with. -/
namespace RoutePaths.Yaml
open Json (Style units)

/-- The nodes of a field. -/
def fieldNode (field : FlatField) : Node × Node :=
  (.quoted (field.1.toList.flatMap (units true)), field.2.node)

namespace Node

variable {rest : List Token} {anchors : List (List Char × Node)} {first field : FlatField}
  {fields : List FlatField} {fuel : Nat}

theorem readUnless_key (fuel : Nat) (points : List Nat) :
    readUnless (fuel + 3) [.value, .comma, .closeMap] .flow ⟨.quoted points :: rest, anchors⟩ =
      some (.quoted points, ⟨rest, anchors⟩) :=
  rfl

theorem readFlowValue_content (fuel : Nat) (content : Content) :
    readFlowValue (fuel + 5) [.comma, .closeMap] ⟨.value :: (content.tokens ++ rest), anchors⟩ =
      some (content.node, ⟨rest, anchors⟩) := by
  cases content <;> rfl

/-- A field is read, at the start of a map or behind a comma. -/
theorem readEntries_field (field : FlatField) {lead : List Token} {atFirst : Bool} {source : Source}
    {entries : List (Node × Node)}
    (hLead : lead = [] ∧ atFirst = true ∨ lead = [.comma] ∧ atFirst = false)
    (hRest : readEntries (fuel + 5) false ⟨rest, anchors⟩ = some (entries, source)) :
    readEntries (fuel + 6) atFirst ⟨lead ++ (fieldTokens field ++ rest), anchors⟩ =
      some (fieldNode field :: entries, source) := by
  have hNext : readEntries (fuel + 6) atFirst ⟨lead ++ (fieldTokens field ++ rest), anchors⟩ =
      (readUnless (fuel + 5) [.value, .comma, .closeMap] .flow
        ⟨.quoted (field.1.toList.flatMap (units true)) :: .value :: (field.2.tokens ++ rest),
          anchors⟩).bind fun key =>
        (readFlowValue (fuel + 5) [.comma, .closeMap] key.2).bind fun value =>
          (readEntries (fuel + 5) false value.2).bind fun more =>
            some ((key.1, value.1) :: more.1, more.2) := by
    rcases hLead with ⟨rfl, rfl⟩ | ⟨rfl, rfl⟩ <;> rfl
  rw [hNext, readUnless_key (fuel + 2), Option.bind_some]
  dsimp only
  rw [readFlowValue_content, Option.bind_some]
  dsimp only
  rw [hRest]
  rfl

theorem readEntries_fields (rest : List Token) (anchors : List (List Char × Node))
    (hFuel : fields.length + 5 ≤ fuel) :
    readEntries fuel false
        ⟨fields.flatMap (.comma :: fieldTokens ·) ++ .closeMap :: rest, anchors⟩ =
      some (fields.map fieldNode, ⟨rest, anchors⟩) := by
  induction fields generalizing fuel with
  | nil =>
      obtain ⟨fuel, rfl⟩ := Nat.exists_eq_add_of_le' (Nat.le_of_add_left_le hFuel)
      rfl
  | cons field fields ih =>
      rw [List.length_cons] at hFuel
      obtain ⟨fuel, rfl⟩ := Nat.exists_eq_add_of_le' (show 6 ≤ fuel by omega)
      have hRest : fields.length + 5 ≤ fuel + 5 := by omega
      have hField := readEntries_field field (Or.inr ⟨rfl, rfl⟩) (ih hRest)
      simpa using hField

theorem length_lt_recordTokens (first : FlatField) (fields : List FlatField) :
    fields.length < (recordTokens first fields).length := by
  have hFields : fields.length ≤ (fields.flatMap (.comma :: fieldTokens ·)).length := by
    induction fields with
    | nil => exact Nat.le_refl _
    | cons field fields ih =>
        rw [List.flatMap_cons, List.length_append, List.length_cons, List.length_cons]
        omega
  rw [recordTokens, List.length_append, List.cons_append, List.length_cons, List.length_append]
  omega

/-- A document that starts with the brace of a map is read to its end. -/
theorem ofTokens?_eq_some {tokens : List Token} {node : Node} (hStart : tokens.head? = some .openMap)
    (hRead : read (4 * tokens.length + 4) .block ⟨tokens, []⟩ = some (node, ⟨[], anchors⟩)) :
    ofTokens? tokens = some node := by
  obtain ⟨rest, rfl⟩ := List.head?_eq_some_iff.mp hStart
  unfold ofTokens?
  dsimp only
  rw [hRead]
  rfl

/-- The tokens of a record form a map with all fields. -/
theorem ofTokens?_record :
    ofTokens? (recordTokens first fields) = some (.map ((first :: fields).map fieldNode)) := by
  have hLength := length_lt_recordTokens first fields
  obtain ⟨fuel, hFuel⟩ : ∃ fuel, 4 * (recordTokens first fields).length + 4 = fuel + 8 :=
    Nat.exists_eq_add_of_le' (by omega)
  have hEnough : fields.length + 5 ≤ fuel + 5 := by omega
  have hEntries := readEntries_field first (Or.inl ⟨rfl, rfl⟩) (readEntries_fields [] [] hEnough)
  have hRead : read (fuel + 8) .block ⟨recordTokens first fields, []⟩ =
      (readEntries (fuel + 6) true
        ⟨fieldTokens first ++ (fields.flatMap (.comma :: fieldTokens ·) ++ [.closeMap]), []⟩).map
          fun found => (map found.1, found.2) := by
    rw [recordTokens, List.cons_append, List.cons_append, List.append_assoc]
    rfl
  rw [List.nil_append] at hEntries
  rw [hEntries, ← hFuel] at hRead
  exact ofTokens?_eq_some rfl hRead

end Node

/-- No character of the text lies above the basic plane. -/
def IsBasic (text : String) : Prop :=
  ∀ c ∈ text.toList, c.toNat < 0x10000

instance : DecidablePred IsBasic := fun text =>
  List.decidableBAll (fun c : Char => c.toNat < 0x10000) text.toList

/-- A field as it is read. -/
def heardField (field : FlatField) : String × Value :=
  (field.1, field.2.heard)

variable {text : String} {style : Style} {blanks : List Char} {first : FlatField}
  {fields : List FlatField}

theorem ofPoints_of_isBasic (h : IsBasic text) :
    Value.ofPoints (text.toList.flatMap (units true)) = .text text := by
  rw [Literal.flatMap_units_eq_iff.mpr h, Json.ofPoints_map_toNat, String.ofList_toList]

/-- A character above the basic plane is read as two surrogates, which no text holds. -/
theorem ofPoints_of_not_isBasic (h : ¬ IsBasic text) :
    Value.ofPoints (text.toList.flatMap (units true)) =
      .broken (text.toList.flatMap (units true)) := by
  obtain ⟨c, hMem, hHigh⟩ : ∃ c ∈ text.toList, 0x10000 ≤ c.toNat := by simpa [IsBasic] using h
  have hBounds := Json.toNat_bounds c
  have hAny : (text.toList.flatMap (units true)).any Value.isSurrogate = true := by
    refine List.any_eq_true.mpr ⟨0xD800 + (c.toNat - 0x10000) / 0x400, ?_, ?_⟩
    · refine List.mem_flatMap.mpr ⟨c, hMem, ?_⟩
      rw [Json.units_of_le hHigh]
      exact List.mem_cons_self ..
    · simp only [Value.isSurrogate, Bool.and_eq_true, decide_eq_true_eq]
      omega
  rw [Value.ofPoints, if_pos hAny]

theorem value?_content (content : Content) : content.node.value? = some content.heard := by
  cases content <;> rfl

theorem entries?_fields (hBasic : ∀ field ∈ fields, IsBasic field.1) :
    entries? (fields.map fieldNode) =
      some ([], (fields.map heardField).map Value.fieldEntry) := by
  induction fields with
  | nil => rfl
  | cons field fields ih =>
      rw [List.forall_mem_cons] at hBasic
      have hKey : (Node.quoted (field.1.toList.flatMap (units true))).value? =
          some (.text field.1) := by
        rw [Node.value?, ofPoints_of_isBasic hBasic.1]
      rw [List.map_cons, fieldNode, entries?, value?_content, ih hBasic.2]
      dsimp only [bind, Option.bind]
      rw [hKey]
      rfl

/-- A printed record is read with its keys in their order, and with what its texts have become. -/
theorem read?_record (hKeys : ∀ field ∈ first :: fields, HasShortKey field ∧ IsBasic field.1)
    (hDistinct : ((first :: fields).map Prod.fst).Nodup) (hStyle : style.asciiOnly = true)
    (hBlanks : ∀ c ∈ blanks, IsGap c) :
    read? (String.ofList (style.chars 0 (.record ((first :: fields).map toField)) ++ blanks)) =
      some (.record ((first :: fields).map heardField)) := by
  have hReturn : '\r' ∉ style.chars 0 (.record ((first :: fields).map toField)) ++ blanks := by
    rw [List.mem_append]
    rintro (hMem | hMem)
    · exact absurd (isShown_of_mem_record hStyle _ hMem) (by decide)
    · exact absurd (isShown_of_isGap (hBlanks _ hMem)) (by decide)
  have hNames : (((first :: fields).map heardField).map Prod.fst).Nodup := by
    rwa [List.map_map]
  rw [read?, String.toList_ofList, Text.unifyBreaks_of_not_mem hReturn,
    tokens?_record (fun field hField => (hKeys field hField).1) hStyle hBlanks]
  dsimp only [bind, Option.bind]
  rw [Node.ofTokens?_record]
  dsimp only
  rw [Node.value?, entries?_fields fun field hField => (hKeys field hField).2]
  exact congrArg some (Value.ofEntries_map_fieldEntry hNames)

end RoutePaths.Yaml
