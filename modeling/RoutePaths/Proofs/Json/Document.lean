import RoutePaths.Proofs.Json.Quote
import RoutePaths.Proofs.Json.Word
import Mathlib.Data.List.Nodup

/-! Documents read back. The reader is a machine over tokens, so the statement about one
value has the rest of the text and the containers around the value as variables: the
machine ends up where the value is put into the innermost of them. -/
namespace RoutePaths

/-- A value that JSON text can hold: there are no reals and no broken texts in it, and the
keys of its maps are different texts. -/
inductive Value.IsJson : Value → Prop
  | null : IsJson .null
  | bool (value : Bool) : IsJson (.bool value)
  | int (value : Int) : IsJson (.int value)
  | text (value : String) : IsJson (.text value)
  | list {items : List Value} (below : ∀ item ∈ items, IsJson item) : IsJson (.list items)
  | record {fields : List (String × Value)} (distinct : (fields.map Prod.fst).Nodup)
    (below : ∀ field ∈ fields, IsJson field.2) : IsJson (.record fields)

namespace Value

/-- The entry of a field of a record. -/
def fieldEntry (field : String × Value) : Value × Value :=
  (.text field.1, field.2)

theorem insert_of_not_mem {fields : List (String × Value)} {key : String} (value : Value)
    (h : key ∉ fields.map Prod.fst) :
    insert (.text key) value (fields.map fieldEntry) =
      (fields ++ [(key, value)]).map fieldEntry := by
  induction fields with
  | nil => rfl
  | cons field rest ih =>
      rw [List.map_cons, List.mem_cons, not_or] at h
      have hOther : sameKey (.text field.1) (.text key) = false :=
        beq_eq_false_iff_ne.mpr (Ne.symm h.1)
      rw [List.map_cons, fieldEntry, insert, hOther, if_neg Bool.false_ne_true, ih h.2]
      rfl

/-- Entries whose keys are different texts are a record as they stand. -/
theorem ofEntries_map_fieldEntry {fields : List (String × Value)}
    (h : (fields.map Prod.fst).Nodup) : ofEntries (fields.map fieldEntry) = .record fields := by
  have hFold (known more : List (String × Value)) (hAll : ((known ++ more).map Prod.fst).Nodup) :
      (more.map fieldEntry).foldl (fun known entry => insert entry.1 entry.2 known)
        (known.map fieldEntry) = (known ++ more).map fieldEntry := by
    induction more generalizing known with
    | nil => rw [List.append_nil, List.map_nil, List.foldl_nil]
    | cons field rest ih =>
        have hNew : field.1 ∉ known.map Prod.fst := by
          rw [List.map_append, List.nodup_append'] at hAll
          exact fun hMem => hAll.2.2 hMem (List.mem_cons_self ..)
        rw [List.append_cons] at hAll
        have hStep : insert (fieldEntry field).1 (fieldEntry field).2 (known.map fieldEntry) =
            (known ++ [field]).map fieldEntry := insert_of_not_mem field.2 hNew
        rw [List.map_cons, List.foldl_cons, hStep, ih _ hAll, List.append_assoc,
          List.singleton_append]
  have hEntries := hFold [] fields h
  rw [List.nil_append, List.map_nil] at hEntries
  rw [ofEntries, hEntries]
  rfl

end Value

namespace Json

variable {style : Style} {depth : Nat} {progress : Progress} {around : List Open}
  {text rest : List Char}

/-- Where the machine ends up after the tokens of a text. -/
def scan (progress : Progress) (text : List Char) : Option Progress :=
  (tokens? (.outside []) text).bind (·.foldlM step progress)

theorem scan_of_token {token : Token}
    (h : tokens? (.outside []) text = (tokens? (.outside []) rest).map (token :: ·))
    (progress : Progress) :
    scan progress text = (step progress token).bind fun next => scan next rest := by
  rw [scan, h]
  cases hRest : tokens? (.outside []) rest with
  | none =>
      cases hStep : step progress token with
      | none => rfl
      | some next => simp [scan, hRest]
  | some tokens =>
      cases hStep : step progress token with
      | none => simp [hStep]
      | some next => simp [scan, hRest, hStep]

theorem scan_mark {c : Char} {mark : Token} (h : mark? c = some mark) (progress : Progress)
    (rest : List Char) :
    scan progress (c :: rest) = (step progress mark).bind fun next => scan next rest := by
  have hQuote : c ≠ '"' := by
    rintro rfl
    cases h
  refine scan_of_token ?_ progress
  rw [tokens?, if_neg (by simp [isWordChar, h]), if_neg hQuote, h]

theorem scan_quote (asciiOnly : Bool) (text : String) (progress : Progress) (rest : List Char) :
    scan progress (quote asciiOnly text.toList ++ rest) =
      (step progress (.scalar (.text text))).bind fun next => scan next rest := by
  refine scan_of_token ?_ progress
  rw [tokens?_quote, String.ofList_toList]

/-- Blanks between tokens say nothing. -/
theorem scan_blanks {blanks : List Char} (h : ∀ c ∈ blanks, isSpace c = true)
    (progress : Progress) (rest : List Char) : scan progress (blanks ++ rest) = scan progress rest := by
  have hSpaces (c : Char) (hSpace : isSpace c = true) :
      isWordChar c = false ∧ c ≠ '"' ∧ mark? c = none := by
    have hWord : isWordChar c = false := by simp [isWordChar, hSpace]
    simp only [isSpace, Bool.or_eq_true, beq_iff_eq, or_assoc] at hSpace
    refine ⟨hWord, ?_⟩
    rcases hSpace with rfl | rfl | rfl | rfl <;> decide
  induction blanks with
  | nil => rfl
  | cons c more ih =>
      rw [List.forall_mem_cons] at h
      obtain ⟨hWord, hQuote, hMark⟩ := hSpaces c h.1
      rw [← ih h.2, scan, scan, List.cons_append, tokens?, if_neg (by simp [hWord]), if_neg hQuote,
        hMark]

theorem isSpace_of_mem_lineStart {c : Char} (h : c ∈ style.lineStart depth) : isSpace c = true := by
  rw [Style.lineStart] at h
  split at h
  · cases h
  · rcases List.mem_cons.mp h with rfl | h
    · rfl
    · rw [List.eq_of_mem_replicate h]
      rfl

theorem scan_lineStart (style : Style) (depth : Nat) (progress : Progress) (rest : List Char) :
    scan progress (style.lineStart depth ++ rest) = scan progress rest :=
  scan_blanks (fun _ => isSpace_of_mem_lineStart) progress rest

theorem scan_colon (style : Style) (entries : List (Value × Value)) (key : Value)
    (rest : List Char) :
    scan ⟨around, .colon entries key⟩ (style.colon ++ rest) =
      scan ⟨.map entries key :: around, .value⟩ rest := by
  rw [Style.colon]
  split
  · rw [List.cons_append, scan_mark rfl]
    exact scan_blanks (by simp [isSpace]) _ rest
  · rw [List.cons_append, scan_mark rfl]
    rfl

/-- The next value goes into the given containers. -/
def Expects (progress : Progress) (around : List Open) : Prop :=
  ∀ token, token ≠ .closeList → step progress token = startValue around token

theorem expects_value (around : List Open) : Expects ⟨around, .value⟩ around :=
  fun _ _ => rfl

theorem expects_firstItem (around : List Open) :
    Expects ⟨around, .firstItem⟩ (.list [] :: around) := by
  intro token hToken
  cases token with
  | closeList => exact absurd rfl hToken
  | _ => rfl

/-- The text of a value is read as that value, wherever one is expected. -/
def Reads (style : Style) (value : Value) : Prop :=
  ∀ depth progress around rest, Expects progress around → Ends rest →
    scan progress (style.chars depth value ++ rest) = scan (place value around) rest

theorem scan_word {word rest : List Char} {value : Value} (hChars : ∀ c ∈ word, isWordChar c = true)
    (hNe : word ≠ []) (hRest : Ends rest) (hValue : word? word = some value)
    (hProgress : Expects progress around) :
    scan progress (word ++ rest) = scan (place value around) rest := by
  rw [scan_of_token (tokens?_word hChars hNe hRest hValue), hProgress _ (by simp)]
  rfl

theorem reads_text (style : Style) (text : String) : Reads style (.text text) := by
  intro depth progress around rest hProgress _
  rw [Style.chars, scan_quote, hProgress _ (by simp)]
  rfl

theorem reads_int (style : Style) (n : Int) : Reads style (.int n) := by
  intro depth progress around rest hProgress hRest
  refine scan_word ?_ ?_ hRest (word?_intText n) hProgress
  · exact fun _ => isWordChar_of_mem_intText
  · exact intText_ne_nil n

theorem ends_lineStart (style : Style) (depth : Nat) (h : Ends rest) :
    Ends (style.lineStart depth ++ rest) := by
  rw [Style.lineStart]
  split
  · exact h
  · exact ends_cons rfl _

theorem ends_items (style : Style) (depth : Nat) (items : List Value) (h : Ends rest) :
    Ends (style.items depth items ++ rest) := by
  cases items with
  | nil => exact h
  | cons item more => exact ends_cons rfl _

theorem ends_entries (style : Style) (depth : Nat) (entries : List (Value × Value)) (h : Ends rest) :
    Ends (style.entries depth entries ++ rest) := by
  cases entries with
  | nil => exact h
  | cons entry more => exact ends_cons rfl _

/-- The items of a list are read one after the other. -/
theorem scan_items {items : List Value} (hItems : ∀ item ∈ items, Reads style item)
    (known : List Value) (hRest : Ends rest) :
    scan ⟨.list known :: around, .separator⟩ (style.items depth items ++ rest) =
      scan ⟨.list (items.reverse ++ known) :: around, .separator⟩ rest := by
  induction items generalizing known with
  | nil => rfl
  | cons item more ih =>
      rw [List.forall_mem_cons] at hItems
      have hMore := ends_items style depth more hRest
      rw [Style.items, List.append_assoc, List.append_assoc, List.cons_append, scan_mark rfl]
      show scan ⟨.list known :: around, .value⟩ _ = _
      rw [scan_lineStart, hItems.1 _ _ _ _ (expects_value _) hMore]
      show scan ⟨.list (item :: known) :: around, .separator⟩ _ = _
      rw [ih hItems.2, List.reverse_cons, List.append_assoc, List.singleton_append]

/-- One entry of a map is read where a key is expected. -/
theorem scan_entry {key : String} {value : Value} (hValue : Reads style value)
    {entries : List (Value × Value)}
    (hKey : step progress (.scalar (.text key)) = some ⟨around, .colon entries (.text key)⟩)
    (hRest : Ends rest) :
    scan progress (keyText style.asciiOnly (.text key) ++ (style.colon ++
        (style.chars depth value ++ rest))) =
      scan ⟨.map ((.text key, value) :: entries) (.text key) :: around, .separator⟩ rest := by
  rw [keyText, scan_quote, hKey]
  show scan ⟨around, .colon entries (.text key)⟩ _ = _
  rw [scan_colon, hValue _ _ _ _ (expects_value _) hRest]
  rfl

theorem entries_fieldEntry (field : String × Value) (more : List (Value × Value)) :
    style.entries depth (Value.fieldEntry field :: more) =
      ',' :: (style.lineStart depth ++ (keyText style.asciiOnly (.text field.1) ++ (style.colon ++
        (style.chars depth field.2 ++ style.entries depth more)))) := by
  rw [Value.fieldEntry, Style.entries]
  simp only [List.append_assoc, List.cons_append]

/-- The entries of a map are read one after the other. -/
theorem scan_entries (depth : Nat) (around : List Open) {fields : List (String × Value)}
    (hFields : ∀ field ∈ fields, Reads style field.2) (known : List (Value × Value)) (key : Value)
    (hRest : Ends rest) :
    ∃ last, scan ⟨.map known key :: around, .separator⟩
        (style.entries depth (fields.map Value.fieldEntry) ++ rest) =
      scan ⟨.map ((fields.map Value.fieldEntry).reverse ++ known) last :: around, .separator⟩
        rest := by
  induction fields generalizing known key with
  | nil => exact ⟨key, rfl⟩
  | cons field more ih =>
      rw [List.forall_mem_cons] at hFields
      have hMore := ends_entries style depth (more.map Value.fieldEntry) hRest
      obtain ⟨last, hLast⟩ := ih hFields.2 (Value.fieldEntry field :: known) (.text field.1)
      refine ⟨last, ?_⟩
      rw [List.map_cons, entries_fieldEntry]
      simp only [List.append_assoc, List.cons_append]
      rw [scan_mark rfl]
      show scan ⟨around, .key known⟩ _ = _
      rw [scan_lineStart, scan_entry hFields.1 rfl hMore]
      show scan ⟨.map (Value.fieldEntry field :: known) (.text field.1) :: around, .separator⟩ _ = _
      rw [hLast, List.reverse_cons, List.append_assoc, List.singleton_append]

theorem reads_list {items : List Value} (hItems : ∀ item ∈ items, Reads style item) :
    Reads style (.list items) := by
  intro depth progress around rest hProgress hRest
  cases items with
  | nil =>
      rw [Style.chars, List.cons_append, scan_mark rfl, hProgress _ (by simp)]
      show scan ⟨around, .firstItem⟩ (']' :: rest) = _
      rw [scan_mark rfl]
      rfl
  | cons item more =>
      rw [List.forall_mem_cons] at hItems
      have hClose : Ends (style.lineStart depth ++ (']' :: rest)) :=
        ends_lineStart style depth (ends_cons rfl rest)
      have hMore := ends_items style (depth + 1) more hClose
      rw [Style.chars]
      simp only [List.append_assoc, List.cons_append, List.nil_append]
      rw [scan_mark rfl, hProgress _ (by simp)]
      show scan ⟨around, .firstItem⟩ _ = _
      rw [scan_lineStart, hItems.1 _ _ _ _ (expects_firstItem around) hMore]
      show scan ⟨.list [item] :: around, .separator⟩ _ = _
      rw [scan_items hItems.2 _ hClose, scan_lineStart, scan_mark rfl, ← List.reverse_cons]
      show scan (place (.list (item :: more).reverse.reverse) around) _ = _
      rw [List.reverse_reverse]

theorem reads_record {fields : List (String × Value)} (hDistinct : (fields.map Prod.fst).Nodup)
    (hFields : ∀ field ∈ fields, Reads style field.2) : Reads style (.record fields) := by
  intro depth progress around rest hProgress hRest
  have hEntries := Value.ofEntries_map_fieldEntry hDistinct
  show scan progress (style.chars depth (.map (fields.map Value.fieldEntry)) ++ rest) = _
  cases fields with
  | nil =>
      rw [List.map_nil, Style.chars, List.cons_append, scan_mark rfl, hProgress _ (by simp)]
      show scan ⟨around, .firstKey []⟩ ('}' :: rest) = _
      rw [scan_mark rfl]
      rfl
  | cons field more =>
      rw [List.forall_mem_cons] at hFields
      have hClose : Ends (style.lineStart depth ++ ('}' :: rest)) :=
        ends_lineStart style depth (ends_cons rfl rest)
      have hMore := ends_entries style (depth + 1) (more.map Value.fieldEntry) hClose
      obtain ⟨last, hLast⟩ := scan_entries (depth + 1) around hFields.2
        [Value.fieldEntry field] (.text field.1) hClose
      rw [List.map_cons, Value.fieldEntry, Style.chars]
      simp only [List.append_assoc, List.cons_append, List.nil_append]
      rw [scan_mark rfl, hProgress _ (by simp)]
      show scan ⟨around, .firstKey []⟩ _ = _
      rw [scan_lineStart, scan_entry hFields.1 rfl hMore]
      show scan ⟨.map [Value.fieldEntry field] (.text field.1) :: around, .separator⟩ _ = _
      rw [hLast, scan_lineStart, scan_mark rfl, ← List.reverse_cons]
      show scan (place (.ofEntries ((field :: more).map Value.fieldEntry).reverse.reverse) around) _
        = _
      rw [List.reverse_reverse, hEntries]

theorem reads_of_isJson {value : Value} (h : value.IsJson) : Reads style value := by
  induction h with
  | null =>
      intro depth progress around rest hProgress hRest
      rw [Style.chars]
      exact scan_word (List.all_eq_true.mp rfl) (List.cons_ne_nil _ _) hRest rfl hProgress
  | bool value =>
      intro depth progress around rest hProgress hRest
      rw [Style.chars]
      cases value with
      | false =>
          exact scan_word (List.all_eq_true.mp rfl) (List.cons_ne_nil _ _) hRest rfl hProgress
      | true =>
          exact scan_word (List.all_eq_true.mp rfl) (List.cons_ne_nil _ _) hRest rfl hProgress
  | int value => exact reads_int style value
  | text value => exact reads_text style value
  | list below ih => exact reads_list ih
  | record distinct below ih => exact reads_record distinct ih

/-- The printed form of a value reads back, whatever blanks follow it. -/
theorem read?_print {value : Value} (h : value.IsJson) (style : Style) {blanks : List Char}
    (hBlanks : ∀ c ∈ blanks, isSpace c = true) :
    read? (style.print value ++ String.ofList blanks) = some value := by
  have hEnds : Ends blanks := by
    cases blanks with
    | nil => rfl
    | cons c more =>
        refine ends_cons ?_ more
        simp [isWordChar, hBlanks c (List.mem_cons_self ..)]
  have hScan : scan ⟨[], .value⟩ (style.chars 0 value ++ blanks) = some ⟨[], .nothing value⟩ := by
    rw [reads_of_isJson h _ _ _ _ (expects_value []) hEnds]
    have hRest := scan_blanks hBlanks (place value []) []
    rwa [List.append_nil] at hRest
  rw [read?, Style.print, String.toList_append, String.toList_ofList, String.toList_ofList]
  rw [scan] at hScan
  cases hTokens : tokens? (.outside []) (style.chars 0 value ++ blanks) with
  | none =>
      rw [hTokens] at hScan
      cases hScan
  | some tokens =>
      rw [hTokens, Option.bind_some] at hScan
      rw [Option.bind_some, document?, hScan]

theorem return_not_mem_hexFour (point : Nat) : '\r' ∉ hexFour point := by
  have hDigit (n : Nat) : hexChar n ≠ '\r' := by
    have hAll : ∀ digit : Fin 16, Nat.digitChar digit ≠ '\r' := by decide
    exact hAll ⟨n % 16, Nat.mod_lt n (by decide)⟩
  simp [hexFour, Ne.symm (hDigit _)]

theorem return_not_mem_numericEscape (point : Nat) : '\r' ∉ numericEscape point := by
  rw [numericEscape]
  split
  · simp [return_not_mem_hexFour]
  · simp [return_not_mem_hexFour]

theorem return_not_mem_escapeChar (asciiOnly : Bool) (c : Char) :
    '\r' ∉ escapeChar asciiOnly c := by
  rcases escapeChar_cases asciiOnly c with
    ⟨letter, hOwn, hChars⟩ | ⟨-, hChars⟩ | ⟨⟨-, -, hLow, -⟩, hChars⟩
  · have hAll : ∀ pair ∈ ownEscapes, '\r' ∉ ['\\', pair.2] := by simp [ownEscapes]
    exact hChars ▸ hAll _ hOwn
  · exact hChars ▸ return_not_mem_numericEscape c.toNat
  · rw [hChars, List.mem_singleton]
    rintro rfl
    exact absurd hLow (by decide)

theorem return_not_mem_quote (asciiOnly : Bool) (text : List Char) :
    '\r' ∉ quote asciiOnly text := by
  simp [quote, return_not_mem_escapeChar]

theorem return_not_mem_intText (n : Int) : '\r' ∉ intText n := by
  intro hMem
  cases isWordChar_of_mem_intText hMem

theorem return_not_mem_lineStart (style : Style) (depth : Nat) :
    '\r' ∉ style.lineStart depth := by
  rw [Style.lineStart]
  split
  · exact List.not_mem_nil
  · simp [List.mem_replicate]

theorem return_not_mem_colon (style : Style) : '\r' ∉ style.colon := by
  rw [Style.colon]
  split <;> decide

theorem return_not_mem_items {items : List Value}
    (h : ∀ item ∈ items, ∀ depth, '\r' ∉ style.chars depth item) (depth : Nat) :
    '\r' ∉ style.items depth items := by
  induction items with
  | nil => exact List.not_mem_nil
  | cons item more ih =>
      rw [List.forall_mem_cons] at h
      simp [Style.items, return_not_mem_lineStart, h.1, ih h.2]

theorem return_not_mem_entries {fields : List (String × Value)}
    (h : ∀ field ∈ fields, ∀ depth, '\r' ∉ style.chars depth field.2) (depth : Nat) :
    '\r' ∉ style.entries depth (fields.map Value.fieldEntry) := by
  induction fields with
  | nil => exact List.not_mem_nil
  | cons field more ih =>
      rw [List.forall_mem_cons] at h
      rw [List.map_cons, entries_fieldEntry]
      simp [keyText, return_not_mem_lineStart, return_not_mem_quote, return_not_mem_colon, h.1,
        ih h.2]

/-- No printed value has a carriage return in it, so that it is the same text whatever line
breaks a file is read with. -/
theorem return_not_mem_chars {value : Value} (h : value.IsJson) (style : Style) (depth : Nat) :
    '\r' ∉ style.chars depth value := by
  induction h generalizing depth with
  | null =>
      rw [Style.chars]
      decide
  | bool value =>
      rw [Style.chars]
      cases value <;> decide
  | int value =>
      rw [Style.chars]
      exact return_not_mem_intText value
  | text value =>
      rw [Style.chars]
      exact return_not_mem_quote _ _
  | @list items below ih =>
      cases items with
      | nil =>
          rw [Style.chars]
          decide
      | cons item more =>
          rw [List.forall_mem_cons] at ih
          rw [Style.chars]
          simp [return_not_mem_lineStart, ih.1, return_not_mem_items ih.2]
  | @record fields distinct below ih =>
      show '\r' ∉ style.chars depth (.map (fields.map Value.fieldEntry))
      cases fields with
      | nil =>
          rw [List.map_nil, Style.chars]
          decide
      | cons field more =>
          rw [List.forall_mem_cons] at ih
          rw [List.map_cons, Value.fieldEntry, Style.chars]
          simp [keyText, return_not_mem_lineStart, return_not_mem_quote, return_not_mem_colon,
            ih.1, return_not_mem_entries ih.2]

end Json

end RoutePaths
