import RoutePaths.Module.Printer
import RoutePaths.Proofs.Text.Lines
import Mathlib.Data.List.Infix

/-! The docstring of a function. Names, URIs and actions are made harmless before
they are put into it, and verbs are put into it as they are: whether the docstring
ends where it is meant to end depends on the verbs alone. -/
namespace RoutePaths.Docstring
open Text

/-- What closes a docstring. -/
def closing : List Char :=
  ['"', '"', '"']

/-- The text neither closes a docstring nor escapes anything in it. -/
def IsInert (text : List Char) : Prop :=
  ¬ closing <:+: text ∧ '\\' ∉ text

instance : DecidablePred IsInert := fun text =>
  inferInstanceAs (Decidable (¬ closing <:+: text ∧ '\\' ∉ text))

/-- The text without quotes and backslashes. -/
def IsPlain (text : List Char) : Prop :=
  ∀ c ∈ text, c ≠ '"' ∧ c ≠ '\\'

instance : DecidablePred IsPlain := fun text =>
  decidable_of_iff (text.all (fun c => c ≠ '"' && c ≠ '\\') = true) (by simp [IsPlain])

/-- Text in quotes as Python reads it: up to the first closing quotes, where a
backslash takes the next character with it. The result is the text and what
follows the quotes. -/
def closeQuotes : List Char → Option (List Char × List Char)
  | [] => none
  | '"' :: '"' :: '"' :: rest => some ([], rest)
  | '\\' :: c :: rest => (closeQuotes rest).map fun found => ('\\' :: c :: found.1, found.2)
  | c :: rest => (closeQuotes rest).map fun found => (c :: found.1, found.2)

variable {c : Char} {text first second separator : List Char}

theorem closing_infix_cons (hc : c ≠ '"') : closing <:+: c :: text ↔ closing <:+: text := by
  rw [List.infix_cons_iff, closing, List.cons_prefix_cons]
  simp [hc.symm]

/-- Quotes do not reach over another character. -/
theorem closing_prefix_append (hc : c ≠ '"') :
    closing <+: first ++ c :: second ↔ closing <+: first := by
  rcases first with _ | ⟨x, _ | ⟨y, _ | ⟨z, first⟩⟩⟩
  all_goals simp [closing, List.cons_prefix_cons, hc.symm]

theorem closing_infix_append (hc : c ≠ '"') :
    closing <:+: first ++ c :: second ↔ closing <:+: first ∨ closing <:+: second := by
  induction first with
  | nil =>
      rw [List.nil_append, closing_infix_cons hc]
      simp [closing]
  | cons d first ih =>
      rw [List.cons_append, List.infix_cons_iff, List.infix_cons_iff, ih, ← List.cons_append,
        closing_prefix_append hc, or_assoc]

theorem isInert_cons (hc : c ≠ '"' ∧ c ≠ '\\') : IsInert (c :: text) ↔ IsInert text := by
  rw [IsInert, IsInert, closing_infix_cons hc.1]
  simp [hc.2.symm]

/-- A text that is put behind a plain one stays what it is. -/
theorem IsPlain.isInert_append (h : IsPlain first) : IsInert (first ++ text) ↔ IsInert text := by
  induction first with
  | nil => rfl
  | cons c first ih =>
      rw [IsPlain, List.forall_mem_cons] at h
      rw [List.cons_append, isInert_cons h.1, ih h.2]

theorem IsPlain.isInert (h : IsPlain text) : IsInert text := by
  have hNil : IsInert [] := by decide
  rwa [← h.isInert_append, List.append_nil] at hNil

/-- Texts are kept apart by plain text between them. -/
theorem isInert_separated (hPlain : IsPlain separator) (hSome : separator ≠ []) :
    IsInert (first ++ separator ++ second) ↔ IsInert first ∧ IsInert second := by
  cases separator with
  | nil => exact absurd rfl hSome
  | cons c separator =>
      rw [IsPlain, List.forall_mem_cons] at hPlain
      have hRest : IsInert (separator ++ second) ↔ IsInert second :=
        IsPlain.isInert_append hPlain.2
      rw [← hRest, List.append_assoc, List.cons_append, IsInert, IsInert, IsInert,
        closing_infix_append hPlain.1.1]
      simp only [List.mem_append, List.mem_cons, hPlain.1.2.symm, false_or, not_or]
      tauto

theorem IsInert.tail (h : IsInert (c :: text)) : IsInert text :=
  ⟨fun hIn => h.1 (List.infix_cons hIn), fun hMem => h.2 (List.mem_cons_of_mem _ hMem)⟩

/-- Inert text that ends with another character than a quote is closed by the
quotes behind it, and not before. -/
theorem IsInert.closeQuotes_append (h : IsInert text) (hLast : text.getLast? ≠ some '"')
    (rest : List Char) : closeQuotes (text ++ closing ++ rest) = some (text, rest) := by
  induction text with
  | nil => rfl
  | cons c text ih =>
      have hRest : text.getLast? ≠ some '"' := by
        cases text with
        | nil => simp
        | cons d text => rwa [List.getLast?_cons_cons] at hLast
      rw [List.cons_append, List.cons_append, closeQuotes, ih h.tail hRest]
      · rfl
      · intro more hc hMore
        subst hc
        rcases text with _ | ⟨d, _ | ⟨e, text⟩⟩
        · exact hLast rfl
        · cases hMore
          exact hLast rfl
        · cases hMore
          exact h.1 ⟨[], text, rfl⟩
      · intro d more hc
        exact absurd (hc ▸ List.mem_cons_self ..) h.2

/-- Double quotes at the start of a text that has been replaced were there
before. -/
theorem quote_prefix_of_replaceTripleQuotes (h : ['"'] <+: replaceTripleQuotes text) :
    ['"'] <+: text := by
  unfold replaceTripleQuotes at h
  split at h
  · simp [List.cons_prefix_cons] at h
  · simpa [List.cons_prefix_cons] using h
  · exact h

theorem quotes_prefix_of_replaceTripleQuotes (h : ['"', '"'] <+: replaceTripleQuotes text) :
    ['"', '"'] <+: text := by
  unfold replaceTripleQuotes at h
  split at h
  · simp [List.cons_prefix_cons] at h
  · rw [List.cons_prefix_cons] at h ⊢
    exact ⟨h.1, quote_prefix_of_replaceTripleQuotes h.2⟩
  · exact h

theorem not_closing_infix_replaceTripleQuotes (text : List Char) :
    ¬ closing <:+: replaceTripleQuotes text := by
  induction text using replaceTripleQuotes.induct with
  | case1 rest ih =>
      rw [replaceTripleQuotes, closing_infix_cons (by decide), closing_infix_cons (by decide),
        closing_infix_cons (by decide)]
      exact ih
  | case2 c rest hNot ih =>
      rw [replaceTripleQuotes, List.infix_cons_iff, not_or]
      · refine ⟨fun hStart => ?_, ih⟩
        rw [closing, List.cons_prefix_cons] at hStart
        obtain ⟨more, hMore⟩ := quotes_prefix_of_replaceTripleQuotes hStart.2
        exact hNot more hStart.1.symm hMore.symm
      · exact hNot
  | case3 => decide

theorem mem_replaceTripleQuotes (h : c ∈ replaceTripleQuotes text) : c ∈ text ∨ c = '\'' := by
  induction text using replaceTripleQuotes.induct with
  | case1 rest ih =>
      simp only [replaceTripleQuotes, List.mem_cons] at h ⊢
      tauto
  | case2 d rest hNot ih =>
      rw [replaceTripleQuotes] at h
      · simp only [List.mem_cons] at h ⊢
        tauto
      · exact hNot
  | case3 => cases h

theorem isInert_docText (text : String) : IsInert (docText text).toList := by
  rw [docText, String.toList_ofList]
  refine ⟨not_closing_infix_replaceTripleQuotes _, fun hMem => ?_⟩
  rcases mem_replaceTripleQuotes hMem with hMem | hQuote
  · obtain ⟨c, -, hc⟩ := List.mem_map.mp hMem
    split at hc
    · cases hc
    · exact absurd hc ‹_›
  · cases hQuote

theorem isOneLine_docText {text : String} (h : IsOneLine text.toList) :
    IsOneLine (docText text).toList := by
  rw [docText, String.toList_ofList]
  intro c hMem
  rcases mem_replaceTripleQuotes hMem with hMem | rfl
  · obtain ⟨d, hd, rfl⟩ := List.mem_map.mp hMem
    split
    · decide
    · exact h d hd
  · decide

/-- The text between the quotes of the docstring of a function. -/
def between (function : Function) : String :=
  Function.summary function.route ++ "\n\n" ++
    String.join (function.routes.map fun route => "    " ++ Function.docLine route ++ "\n") ++
    "    "

/-- The lines of a docstring are this text in quotes. -/
theorem join_docLines (function : Function) :
    String.join (function.docLines.map (· ++ "\n")) =
      "    " ++ Function.docQuote ++ between function ++ Function.docQuote ++ "\n" := by
  have hLines :
      (function.routes.map fun route => "    " ++ Function.docLine route).map (· ++ "\n") =
        function.routes.map fun route => "    " ++ Function.docLine route ++ "\n" := by
    rw [List.map_map]
    rfl
  rw [Function.docLines, List.map_append, List.map_append, hLines, String.join_append,
    String.join_append, between]
  simp [String.append_assoc]

/-- It stands in the module of the function. -/
theorem exists_print {module : Module} {function : Function} (h : function ∈ module.functions) :
    ∃ before after, module.print =
      before ++ Function.docQuote ++ between function ++ Function.docQuote ++ after := by
  have hFunction : function.lines <:+: module.functions.flatMap (·.lines) :=
    List.infix_of_mem_flatten (List.mem_map_of_mem h)
  have hInfix : function.docLines <:+: module.lines :=
    ((List.infix_append _ _ _).trans hFunction).trans (List.suffix_append _ _).isInfix
  obtain ⟨front, back, hLines⟩ := hInfix
  refine ⟨String.join (front.map (· ++ "\n")) ++ "    ",
    "\n" ++ String.join (back.map (· ++ "\n")), ?_⟩
  rw [Module.print, ← hLines, List.map_append, List.map_append, String.join_append,
    String.join_append, join_docLines]
  simp only [String.append_assoc]

/-- Text between the marks for code is kept apart from what follows. -/
theorem isInert_code_append {text : String} {rest : List Char} :
    IsInert ((code text).toList ++ rest) ↔ IsInert text.toList ∧ IsInert rest := by
  simp only [code, String.toList_append, List.append_assoc]
  rw [IsPlain.isInert_append (by decide), ← List.append_assoc,
    isInert_separated (by decide) (by decide)]

theorem isInert_summary (route : Route) : IsInert (Function.summary route).toList := by
  simp only [Function.summary, String.toList_append, List.append_assoc]
  rw [IsPlain.isInert_append (by decide), isInert_code_append]
  exact ⟨isInert_docText route.name, by decide⟩

/-- In the line of a route, nothing but the verb can do harm. -/
theorem isInert_docLine_iff (route : Route) :
    IsInert (Function.docLine route).toList ↔ IsInert route.verb.toList := by
  have hAction : IsInert (if route.action = "" then ""
      else " -> " ++ code (docText route.action)).toList := by
    split
    · decide
    · rw [String.toList_append, IsPlain.isInert_append (by decide),
        ← List.append_nil (code _).toList, isInert_code_append]
      exact ⟨isInert_docText route.action, by decide⟩
  have hVerb : IsInert (if route.verb = "" then "ANY" else route.verb).toList ↔
      IsInert route.verb.toList := by
    split
    · rename_i hNone
      rw [hNone]
      exact iff_of_true (by decide) (by decide)
    · rfl
  rw [Function.docLine, String.toList_append, isInert_code_append, String.toList_append,
    String.toList_append, isInert_separated (by decide) (by decide), hVerb]
  simp only [isInert_docText, hAction, and_true]

/-- Between the lines of a docstring there is only plain text. -/
theorem isInert_between_iff (function : Function) :
    IsInert (between function).toList ↔ ∀ route ∈ function.routes, IsInert route.verb.toList := by
  have hRows (routes : List Route) :
      IsInert ((String.join (routes.map fun route =>
          "    " ++ Function.docLine route ++ "\n")).toList ++ "    ".toList) ↔
        ∀ route ∈ routes, IsInert route.verb.toList := by
    induction routes with
    | nil => simpa using IsPlain.isInert (by decide)
    | cons route rest ih =>
        rw [List.map_cons, String.join_cons, List.forall_mem_cons, ← ih, ← isInert_docLine_iff]
        simp only [String.toList_append, List.append_assoc]
        rw [IsPlain.isInert_append (by decide), ← List.append_assoc,
          isInert_separated (by decide) (by decide)]
  rw [between, String.toList_append, String.toList_append, String.toList_append, List.append_assoc,
    isInert_separated (by decide) (by decide), hRows]
  simp [isInert_summary]

/-- With inert verbs, the docstring ends where its own quotes close it. -/
theorem closeQuotes_between {function : Function}
    (h : ∀ route ∈ function.routes, IsInert route.verb.toList) (rest : List Char) :
    closeQuotes ((between function).toList ++ closing ++ rest) =
      some ((between function).toList, rest) := by
  apply IsInert.closeQuotes_append ((isInert_between_iff function).mpr h)
  rw [between, String.toList_append, List.getLast?_append]
  simp

theorem isOneLine_code {text : String} (h : IsOneLine text.toList) :
    IsOneLine (code text).toList := by
  rw [code, String.toList_append, String.toList_append]
  exact (IsOneLine.append (by decide) h).append (by decide)

theorem isOneLine_summary {route : Route} (hName : IsOneLine route.name.toList) :
    IsOneLine (Function.summary route).toList := by
  rw [Function.summary, String.toList_append, String.toList_append]
  exact (IsOneLine.append (by decide) (isOneLine_code (isOneLine_docText hName))).append (by decide)

theorem isOneLine_docLine {route : Route} (hVerb : IsOneLine route.verb.toList)
    (hUri : IsOneLine route.uri.toList) (hAction : IsOneLine route.action.toList) :
    IsOneLine (Function.docLine route).toList := by
  rw [Function.docLine, String.toList_append]
  refine IsOneLine.append (isOneLine_code ?_) ?_
  · rw [String.toList_append, String.toList_append]
    refine (IsOneLine.append ?_ (by decide)).append (isOneLine_docText hUri)
    split
    · decide
    · exact hVerb
  · split
    · decide
    · rw [String.toList_append]
      exact IsOneLine.append (by decide) (isOneLine_code (isOneLine_docText hAction))

end RoutePaths.Docstring
