import RoutePaths.Proofs.Json.Document
import RoutePaths.Proofs.Yaml.Scan
import RoutePaths.Value.Yaml.Reader

/-! A record that is written as JSON, read as YAML. A JSON record is a flow map of YAML, whose
keys and texts are in double quotes. -/
namespace RoutePaths.Yaml
open Json (Style quote units)

/-- What a field of a flat record holds: a text, or a record without fields. -/
inductive Content where
  | text (value : String)
  | noFields

namespace Content

def toValue : Content → Value
  | text value => .text value
  | noFields => .record []

def tokens : Content → List Token
  | text value => [.quoted (value.toList.flatMap (units true))]
  | noFields => [.openMap, .closeMap]

def node : Content → Node
  | text value => .quoted (value.toList.flatMap (units true))
  | noFields => .map []

/-- What is read for it. -/
def heard : Content → Value
  | text value => .ofPoints (value.toList.flatMap (units true))
  | noFields => .record []

end Content

/-- A field with its key. -/
abbrev FlatField := String × Content

/-- A field as it is printed. -/
def toField (field : FlatField) : String × Value :=
  (field.1, field.2.toValue)

/-- A key that is printed in so few characters that its colon is within reach. -/
def HasShortKey (field : FlatField) : Prop :=
  (quote true field.1.toList).length ≤ 1024

/-- The tokens of a field. -/
def fieldTokens (field : FlatField) : List Token :=
  .key :: .quoted (field.1.toList.flatMap (units true)) :: .value :: field.2.tokens

/-- The tokens of a flat record. -/
def recordTokens (first : FlatField) (fields : List FlatField) : List Token :=
  .openMap :: fieldTokens first ++ fields.flatMap (.comma :: fieldTokens ·) ++ [.closeMap]

theorem chars_record {style : Style} {first : FlatField} {fields : List FlatField}
    (hStyle : style.asciiOnly = true) :
    style.chars 0 (.record ((first :: fields).map toField)) =
      '{' :: (style.lineStart 1 ++ (quote true first.1.toList ++ (style.colon ++
        (style.chars 1 first.2.toValue ++ (style.entries 1 ((fields.map toField).map
          Value.fieldEntry) ++ (style.lineStart 0 ++ ['}'])))))) := by
  rw [Value.record, List.map_cons, List.map_cons, Style.chars]
  simp only [List.cons_append, List.append_assoc, Json.keyText, toField, hStyle]
  rfl

namespace Scan

variable {scan : Scan} {style : Style} {depth level : Nat} {tokens : List Token}
  {blanks rest text : List Char} {field : FlatField} {allowed : Bool}

theorem isGap_of_mem_lineStart {c : Char} (h : c ∈ style.lineStart level) : IsGap c := by
  rw [Style.lineStart] at h
  split at h
  · cases h
  · rcases List.mem_cons.mp h with rfl | h
    · exact Or.inr rfl
    · exact Or.inl (List.eq_of_mem_replicate h)

theorem opens_quote (text rest : List Char) : Opens (quote true text ++ rest) := by
  rintro _ ⟨⟩
  decide

/-- A token that is found behind blanks. -/
theorem Stands.leads_of_next? (blanks rest : List Char)
    (h : scan.Stands depth allowed tokens (blanks ++ text))
    (hBlanks : ∀ c ∈ blanks, IsGap c) (hText : Opens text)
    (hInside : depth ≠ 0 ∨ blanks = []) {deeper : Nat} {after : Bool} {more : List Token}
    (hNext : ∀ ready : Scan, ready.Stands depth allowed tokens text →
      ∃ next, ready.next? = some next ∧ next.Stands deeper after more rest)
    (hRest : rest.length < text.length) :
    ∃ next, scan.Leads next ∧ next.Stands deeper after more rest := by
  obtain ⟨ready, _, hSettle, hReady, hSame⟩ := h.settle? hBlanks hText
  rw [hSame hInside] at hReady
  obtain ⟨next, hStep, hStands⟩ := hNext ready hReady
  refine ⟨next, Scan.leads_of_next? hSettle hStep ?_, hStands⟩
  rw [hStands.rest, h.rest, List.length_append]
  omega

theorem leads_content (content : Content) (hStyle : style.asciiOnly = true) (hInside : depth ≠ 0)
    (hBlanks : ∀ c ∈ blanks, IsGap c)
    (h : scan.Stands depth false tokens (blanks ++ (style.chars level content.toValue ++ rest))) :
    ∃ next, scan.Leads next ∧ next.Stands depth false (tokens ++ content.tokens) rest := by
  cases content with
  | text value =>
      rw [Content.toValue, Style.chars, hStyle] at h
      refine h.leads_of_next? _ _ hBlanks (opens_quote _ _) (Or.inl hInside)
        (fun ready hReady => hReady.next?_text) ?_
      simp [quote]
      omega
  | noFields =>
      have hChars : style.chars level (Content.noFields).toValue = ['{', '}'] := by
        rw [Content.toValue, Value.record, List.map_nil, Style.chars]
      rw [hChars] at h
      obtain ⟨opened, hOpened, hStands⟩ := h.leads_of_next? blanks ('}' :: rest) hBlanks
        (by rintro _ ⟨⟩; decide) (Or.inl hInside) (fun ready hReady => hReady.next?_openMap)
        (by simp)
      obtain ⟨closed, hClosed, hLast⟩ := Stands.leads_of_next? [] rest hStands
        (by simp) (by rintro _ ⟨⟩; decide) (Or.inr rfl) (fun ready hReady => hReady.next?_closeMap)
        (by simp)
      exact ⟨closed, hOpened.trans hClosed, by simpa [Content.tokens] using hLast⟩

/-- A key with its value, where a key may start. -/
theorem leads_field (field : FlatField) (hKey : HasShortKey field) (hStyle : style.asciiOnly = true)
    (hInside : depth ≠ 0) (hBlanks : ∀ c ∈ blanks, IsGap c)
    (h : scan.Stands depth true tokens (blanks ++ (quote true field.1.toList ++
      (style.colon ++ (style.chars level field.2.toValue ++ rest))))) :
    ∃ next, scan.Leads next ∧ next.Stands depth false (tokens ++ fieldTokens field) rest := by
  obtain ⟨gap, hColon, hGap⟩ : ∃ gap, style.colon = ':' :: gap ∧ ∀ c ∈ gap, IsGap c := by
    rw [Style.colon]
    split
    · exact ⟨[' '], rfl, by simp [IsGap]⟩
    · exact ⟨[], rfl, by simp⟩
  rw [hColon, List.cons_append] at h
  obtain ⟨ready, _, hSettle, hReady, hSame⟩ := h.settle? hBlanks (opens_quote _ _)
  rw [hSame (Or.inl hInside)] at hReady
  obtain ⟨named, keyed, hNamed, hColonLeft, hKeyed, hStands⟩ := hReady.next?_key hInside hKey
  have hFirst : scan.Leads named := by
    refine Scan.leads_of_next? hSettle hNamed ?_
    rw [hColonLeft, h.rest]
    simp [quote]
    omega
  obtain ⟨next, hNext, hLast⟩ := leads_content field.2 hStyle hInside hGap hStands
  exact ⟨next, (hFirst.trans hKeyed).trans hNext, by simpa [fieldTokens] using hLast⟩

/-- The fields behind the first one, each with a comma in front of it. -/
theorem leads_fields {fields : List FlatField} (hKeys : ∀ field ∈ fields, HasShortKey field)
    (hStyle : style.asciiOnly = true) (hInside : depth ≠ 0)
    (h : scan.Stands depth false tokens
      (style.entries level ((fields.map toField).map Value.fieldEntry) ++ rest)) :
    ∃ next, scan.Leads next ∧
      next.Stands depth false (tokens ++ fields.flatMap (.comma :: fieldTokens ·)) rest := by
  induction fields generalizing scan tokens with
  | nil => exact ⟨scan, Leads.refl scan, by simpa [Style.entries] using h⟩
  | cons field fields ih =>
      rw [List.forall_mem_cons] at hKeys
      rw [List.map_cons, List.map_cons, Json.entries_fieldEntry] at h
      simp only [List.cons_append, List.append_assoc, Json.keyText, toField, hStyle] at h
      obtain ⟨parted, hParted, hComma⟩ := Stands.leads_of_next? [] _ h (by simp)
        (by rintro _ ⟨⟩; decide) (Or.inr rfl) (fun ready hReady => hReady.next?_comma) (by simp)
      obtain ⟨passed, hPassed, hField⟩ := leads_field field hKeys.1 hStyle hInside
        (fun _ => isGap_of_mem_lineStart) hComma
      obtain ⟨next, hNext, hLast⟩ := ih hKeys.2 hField
      exact ⟨next, (hParted.trans hPassed).trans hNext, by simpa using hLast⟩

theorem leads_record {first : FlatField} {fields : List FlatField}
    (hKeys : ∀ field ∈ first :: fields, HasShortKey field) (hStyle : style.asciiOnly = true)
    (h : scan.Stands 0 allowed []
      (style.chars 0 (.record ((first :: fields).map toField)) ++ rest)) :
    ∃ next, scan.Leads next ∧ next.Stands 0 false (recordTokens first fields) rest := by
  rw [List.forall_mem_cons] at hKeys
  rw [chars_record hStyle] at h
  simp only [List.cons_append, List.append_assoc, List.nil_append] at h
  obtain ⟨opened, hOpened, hOpen⟩ := Stands.leads_of_next? [] _ h (by simp)
    (by rintro _ ⟨⟩; decide) (Or.inr rfl) (fun ready hReady => hReady.next?_openMap) (by simp)
  obtain ⟨passed, hPassed, hFirst⟩ := leads_field first hKeys.1 hStyle (by decide)
    (fun _ => isGap_of_mem_lineStart) hOpen
  obtain ⟨listed, hListed, hFields⟩ := leads_fields hKeys.2 hStyle (by decide) hFirst
  obtain ⟨next, hNext, hClose⟩ := hFields.leads_of_next? _ _ (fun _ => isGap_of_mem_lineStart)
    (by rintro _ ⟨⟩; decide) (Or.inl (by decide)) (fun ready hReady => hReady.next?_closeMap)
    (by simp)
  refine ⟨next, ((hOpened.trans hPassed).trans hListed).trans hNext, ?_⟩
  simpa [recordTokens] using hClose

/-- Nothing but blanks is left. -/
theorem run_of_end (h : scan.Stands 0 allowed tokens blanks)
    (hBlanks : ∀ c ∈ blanks, IsGap c) (fuel : Nat) :
    run (fuel + 1) scan = some tokens := by
  rw [← List.append_nil blanks] at h
  obtain ⟨ready, _, hSettle, hReady, -⟩ := h.settle? hBlanks (by rintro _ ⟨⟩)
  obtain ⟨keys, hDrop, -⟩ := hReady.dropKey?
  rw [run_eq hSettle, hReady.rest]
  dsimp only
  rw [hReady.unwind (Int.le_refl _), hDrop]
  exact congrArg some hReady.tokens

theorem run_of_leads {next : Scan} (h : scan.Leads next) (hNext : next.Stands 0 allowed tokens blanks)
    (hBlanks : ∀ c ∈ blanks, IsGap c) :
    run (scan.cursor.rest.length + 1) scan = some tokens := by
  obtain ⟨steps, hSteps, hRun⟩ := h
  have hFuel : scan.cursor.rest.length + 1 = scan.cursor.rest.length - steps + 1 + steps := by omega
  rw [hFuel, hRun, run_of_end hNext hBlanks]

end Scan

variable {style : Style} {blanks : List Char} {first : FlatField} {fields : List FlatField}

/-- A character of a printed record. -/
def IsShown (c : Char) : Prop :=
  Literal.IsPrintable c ∨ c = '\n'

instance : DecidablePred IsShown := fun c =>
  inferInstanceAs (Decidable (Literal.IsPrintable c ∨ c = '\n'))

theorem isReadable_of_isShown {c : Char} (h : IsShown c) : isReadable c = true := by
  rcases h with ⟨hLow, hHigh⟩ | rfl
  · simp [isReadable]
    omega
  · rfl

theorem isShown_of_isGap {c : Char} (h : IsGap c) : IsShown c := by
  rcases h with rfl | rfl
  · exact Or.inl (by decide)
  · exact Or.inr rfl

theorem isShown_of_mem_quote {text : List Char} : ∀ c ∈ quote true text, IsShown c :=
  fun _ hc => Or.inl (Literal.isPrintable_of_mem_quote hc)

theorem isShown_of_mem_lineStart (level : Nat) : ∀ c ∈ style.lineStart level, IsShown c :=
  fun _ hc => isShown_of_isGap (Scan.isGap_of_mem_lineStart hc)

/-- What stands between a key and the value is shown, and so is the value. -/
theorem isShown_of_mem_content (content : Content) (hStyle : style.asciiOnly = true) (level : Nat) :
    ∀ c ∈ style.colon ++ style.chars level content.toValue, IsShown c := by
  have hColon : IsShown ':' := Or.inl (by decide)
  have hSpace : IsShown ' ' := Or.inl (by decide)
  have hOpen : IsShown '{' := Or.inl (by decide)
  have hClose : IsShown '}' := Or.inl (by decide)
  rw [List.forall_mem_append]
  constructor
  · rw [Style.colon]
    split
    · rw [List.forall_mem_cons, List.forall_mem_singleton]
      exact ⟨hColon, hSpace⟩
    · exact List.forall_mem_singleton.mpr hColon
  · cases content with
    | text value =>
        rw [Content.toValue, Style.chars, hStyle]
        exact isShown_of_mem_quote
    | noFields =>
        rw [Content.toValue, Value.record, List.map_nil, Style.chars]
        rw [List.forall_mem_cons, List.forall_mem_singleton]
        exact ⟨hOpen, hClose⟩

theorem isShown_of_mem_entries (hStyle : style.asciiOnly = true) (level : Nat) :
    ∀ c ∈ style.entries level ((fields.map toField).map Value.fieldEntry), IsShown c := by
  induction fields with
  | nil => simp [Style.entries]
  | cons field fields ih =>
      have hComma : IsShown ',' := Or.inl (by decide)
      rw [List.map_cons, List.map_cons, Json.entries_fieldEntry, List.forall_mem_cons]
      simp only [List.forall_mem_append, Json.keyText, toField, hStyle]
      have hContent := isShown_of_mem_content field.2 hStyle level
      rw [List.forall_mem_append] at hContent
      exact ⟨hComma, isShown_of_mem_lineStart level, isShown_of_mem_quote, hContent.1, hContent.2, ih⟩

theorem isShown_of_mem_record (hStyle : style.asciiOnly = true) :
    ∀ c ∈ style.chars 0 (.record ((first :: fields).map toField)), IsShown c := by
  have hOpen : IsShown '{' := Or.inl (by decide)
  have hClose : IsShown '}' := Or.inl (by decide)
  have hContent := isShown_of_mem_content first.2 hStyle 1
  rw [List.forall_mem_append] at hContent
  rw [chars_record hStyle, List.forall_mem_cons]
  simp only [List.forall_mem_append, List.forall_mem_singleton]
  exact ⟨hOpen, isShown_of_mem_lineStart 1, isShown_of_mem_quote, hContent.1, hContent.2,
    isShown_of_mem_entries hStyle 1, isShown_of_mem_lineStart 0, hClose⟩

theorem tokens?_record (hKeys : ∀ field ∈ first :: fields, HasShortKey field)
    (hStyle : style.asciiOnly = true) (hBlanks : ∀ c ∈ blanks, IsGap c) :
    tokens? (style.chars 0 (.record ((first :: fields).map toField)) ++ blanks) =
      some (recordTokens first fields) := by
  have hReadable : (style.chars 0 (.record ((first :: fields).map toField)) ++ blanks).all
      isReadable = true := by
    rw [List.all_eq_true]
    intro c hc
    rcases List.mem_append.mp hc with hc | hc
    · exact isReadable_of_isShown (isShown_of_mem_record hStyle c hc)
    · exact isReadable_of_isShown (isShown_of_isGap (hBlanks c hc))
  have hStart (text : List Char) : (Scan.start text).Stands 0 true [] text :=
    ⟨rfl, rfl, rfl, rfl, rfl, rfl, fun _ h => absurd h List.not_mem_nil⟩
  obtain ⟨next, hLeads, hStands⟩ := Scan.leads_record hKeys hStyle (hStart _)
  rw [tokens?, if_pos hReadable]
  exact Scan.run_of_leads hLeads hStands hBlanks

end RoutePaths.Yaml
