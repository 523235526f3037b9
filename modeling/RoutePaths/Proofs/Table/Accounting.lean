import RoutePaths.Proofs.Table.Layout
import RoutePaths.Proofs.Table.Routes

/-! What a table records for each of its lines. Nothing is recorded for a line that is
no row, and for any other line there is one record: a route, or a diagnostic that
carries the line. Records stand in the order of their lines. -/
namespace RoutePaths.Table
open Text

/-- The lines of a text, which are numbered from one on. -/
def linesOf (text : String) : List String :=
  (Text.lines text.toList).map String.ofList

/-- The routes that stand on the line of the given number. -/
def routesAt (table : Table) (number : Nat) : List Route :=
  table.routes.filter (·.line = number)

/-- The diagnostics for the line of the given number. -/
def diagnosticsAt (table : Table) (number : Nat) : List Diagnostic :=
  table.diagnostics.filter (·.number = number)

/-- What is recorded for a line, which is one of three things. -/
inductive Accounts (table : Table) (number : Nat) (line : String) : Prop
  | skipped (hLayout : LayoutLine line.toList) (hRoutes : table.routesAt number = [])
      (hDiagnostics : table.diagnosticsAt number = [])
  | accepted (hRow : ¬ LayoutLine line.toList) (route : Route)
      (hRoutes : table.routesAt number = [route]) (hDiagnostics : table.diagnosticsAt number = [])
  | rejected (hRow : ¬ LayoutLine line.toList) (diagnostic : Diagnostic)
      (hLine : diagnostic.line = line) (hRoutes : table.routesAt number = [])
      (hDiagnostics : table.diagnosticsAt number = [diagnostic])

theorem outcomes_append (lastName : Option String) (number : Nat) (first second : List String) :
    outcomes lastName number (first ++ second) =
      outcomes lastName number first ++
        outcomes (first.foldl nextName lastName) (number + first.length) second := by
  induction first generalizing lastName number with
  | nil => rfl
  | cons line rest ih =>
      rw [List.cons_append, outcomes, outcomes, ih, List.foldl_cons, List.length_cons,
        List.cons_append, Nat.add_assoc, Nat.add_comm 1]

/-- What an outcome says of its line. -/
inductive Outcome.Reports (number : Nat) (line : String) : Outcome → Prop
  | skipped (hLayout : LayoutLine line.toList) : Reports number line .skipped
  | accepted (hRow : ¬ LayoutLine line.toList) {route : Route} (hNumber : route.line = number) :
      Reports number line (.accepted route)
  | rejected (hRow : ¬ LayoutLine line.toList) {diagnostic : Diagnostic}
      (hNumber : diagnostic.number = number) (hLine : diagnostic.line = line) :
      Reports number line (.rejected diagnostic)

theorem reports_ofColumns {lastName : Option String} {number : Nat} {line : String}
    {columns : Row.Columns} (hRow : ¬ LayoutLine line.toList) :
    (ofColumns lastName number line columns).Reports number line := by
  unfold ofColumns
  split
  · exact .rejected hRow rfl rfl
  · split
    · exact .rejected hRow rfl rfl
    · exact .accepted hRow rfl

/-- Each line is reported with its own number. -/
theorem reports_readLine (lastName : Option String) (number : Nat) (line : String) :
    (readLine lastName number line).Reports number line := by
  unfold readLine
  split
  · rename_i hLayout
    exact .skipped (isLayout_iff.mp hLayout)
  · rename_i hRow
    rw [isLayout_iff] at hRow
    split
    · exact reports_ofColumns hRow
    · exact .rejected hRow rfl rfl

section Numbered

variable {α : Type} {record? : Outcome → Option α} {numberOf : α → Int}

/-- The records of outcomes tell the number of their line. -/
def Numbered (record? : Outcome → Option α) (numberOf : α → Int) : Prop :=
  ∀ number line outcome record, Outcome.Reports number line outcome →
    record? outcome = some record → numberOf record = number

theorem numbered_route? : Numbered Outcome.route? Route.line := by
  intro number line outcome route hReports hRoute
  cases hReports with
  | skipped => cases hRoute
  | rejected => cases hRoute
  | accepted _ hNumber =>
      cases hRoute
      exact hNumber

theorem numbered_diagnostic? : Numbered Outcome.diagnostic? (fun diagnostic => diagnostic.number) := by
  intro number line outcome diagnostic hReports hDiagnostic
  cases hReports with
  | skipped => cases hDiagnostic
  | accepted => cases hDiagnostic
  | rejected _ hNumber =>
      cases hDiagnostic
      exact congrArg Int.ofNat hNumber

variable {lastName : Option String} {number : Nat} {lines : List String}

/-- Consecutive lines have no records for other lines. -/
theorem Numbered.bounds (h : Numbered record? numberOf) :
    ∀ record ∈ (outcomes lastName number lines).filterMap record?,
      (number : Int) ≤ numberOf record ∧ numberOf record < number + lines.length := by
  induction lines generalizing lastName number with
  | nil => simp [outcomes]
  | cons line rest ih =>
      intro record hRecord
      obtain ⟨outcome, hOutcome, hSome⟩ := List.mem_filterMap.mp hRecord
      rw [outcomes] at hOutcome
      rw [List.length_cons]
      rcases List.mem_cons.mp hOutcome with rfl | hRest
      · have hNumber := h number line _ record (reports_readLine lastName number line) hSome
        omega
      · have hLater := ih record (List.mem_filterMap.mpr ⟨outcome, hRest, hSome⟩)
        omega

/-- Their records stand in the order of the lines. -/
theorem Numbered.pairwise (h : Numbered record? numberOf) :
    ((outcomes lastName number lines).filterMap record?).Pairwise
      fun earlier later => numberOf earlier < numberOf later := by
  induction lines generalizing lastName number with
  | nil => exact List.Pairwise.nil
  | cons line rest ih =>
      rw [outcomes, List.filterMap_cons]
      split
      · exact ih
      · rename_i record hRecord
        refine List.pairwise_cons.mpr ⟨fun later hLater => ?_, ih⟩
        have hNumber := h number line _ record (reports_readLine lastName number line) hRecord
        have hBounds := h.bounds later hLater
        omega

/-- The records for one line are those of its outcome. -/
theorem Numbered.filter_eq (h : Numbered record? numberOf) (before : List String) (line : String)
    (after : List String) :
    ((outcomes lastName number (before ++ line :: after)).filterMap record?).filter
        (numberOf · = (number + before.length : Nat)) =
      (record? (readLine (before.foldl nextName lastName) (number + before.length) line)).toList := by
  have hBefore : ((outcomes lastName number before).filterMap record?).filter
      (numberOf · = (number + before.length : Nat)) = [] := by
    rw [List.filter_eq_nil_iff]
    intro record hRecord
    have hBounds := h.bounds record hRecord
    rw [decide_eq_true_eq]
    omega
  have hAfter (lastName : Option String) :
      ((outcomes lastName (number + before.length + 1) after).filterMap record?).filter
        (numberOf · = (number + before.length : Nat)) = [] := by
    rw [List.filter_eq_nil_iff]
    intro record hRecord
    have hBounds := h.bounds record hRecord
    rw [decide_eq_true_eq]
    omega
  rw [outcomes_append, outcomes, List.filterMap_append, List.filter_append, hBefore,
    List.nil_append, List.filterMap_cons]
  split
  · rename_i hNone
    rw [hAfter, hNone]
    rfl
  · rename_i record hRecord
    have hNumber := h _ line _ record (reports_readLine _ _ line) hRecord
    rw [List.filter_cons_of_pos (by rw [hNumber, decide_eq_true_eq]), hAfter, hRecord]
    rfl

end Numbered

/-- The form of the routes of a table: a name, a URI without blanks that the segments
are read from, and an action that is empty or starts with no blank. -/
structure WellFormed (route : Route) : Prop where
  name : route.name ≠ ""
  uri : IsSolid route.uri.toList
  segments : Template.read route.uri = .ok route.segments
  action : route.action = "" ∨ ∃ c rest, route.action.toList = c :: rest ∧ isBlank c = false

theorem wellFormed_of_isTabular {route : Route} (h : route.IsTabular) : WellFormed route := by
  refine ⟨h.named, h.uri, h.segments, ?_⟩
  obtain ⟨words, hWords, hAction⟩ := h.action
  cases words with
  | nil => exact Or.inl (String.toList_eq_nil_iff.mp hAction)
  | cons word others =>
      obtain ⟨hSome, hSolid⟩ := hWords word (List.mem_cons_self ..)
      obtain ⟨c, rest, rfl⟩ := List.exists_cons_of_ne_nil hSome
      refine Or.inr ⟨c, ?_, ?_, hSolid c (List.mem_cons_self ..)⟩
      · exact [' '].intercalate (rest :: others)
      · rw [hAction]
        cases others <;> simp

variable {text : String}

/-- A line behind the first one stands at its number among the lines that are read. -/
theorem exists_tail_eq {number : Nat} {line : String} (hNumber : 2 ≤ number)
    (hLine : (linesOf text)[number - 1]? = some line) :
    ∃ before after, (linesOf text).tail = before ++ line :: after ∧ 2 + before.length = number := by
  have hTail : (linesOf text).tail[number - 2]? = some line := by
    rw [List.getElem?_tail, ← hLine]
    congr 1
    omega
  obtain ⟨hIndex, hGet⟩ := List.getElem?_eq_some_iff.mp hTail
  refine ⟨(linesOf text).tail.take (number - 2), (linesOf text).tail.drop (number - 2 + 1), ?_, ?_⟩
  · rw [← hGet, List.getElem_cons_drop, List.take_append_drop]
  · rw [List.length_take_of_le (Nat.le_of_lt hIndex)]
    omega

/-- A line behind the first one has the record of its outcome. -/
theorem accounts_of_getElem? {number : Nat} {line : String} (hNumber : 2 ≤ number)
    (hLine : (linesOf text)[number - 1]? = some line) : Accounts (read text) number line := by
  obtain ⟨before, after, hTail, hPlace⟩ := exists_tail_eq hNumber hLine
  have hRoutes := @Numbered.filter_eq _ _ _ none 2 numbered_route? before line after
  have hDiagnostics := @Numbered.filter_eq _ _ _ none 2 numbered_diagnostic? before line after
  rw [← hTail, hPlace] at hRoutes hDiagnostics
  simp only [Int.natCast_inj] at hDiagnostics
  have hReports := reports_readLine (before.foldl nextName none) number line
  generalize before.foldl nextName none = lastName at hRoutes hDiagnostics hReports
  generalize readLine lastName number line = outcome at hRoutes hDiagnostics hReports
  cases hReports with
  | skipped hLayout => exact .skipped hLayout hRoutes hDiagnostics
  | accepted hRow => exact .accepted hRow _ hRoutes hDiagnostics
  | rejected hRow _ hSame => exact .rejected hRow _ hSame hRoutes hDiagnostics

/-- Every line behind the first one is accounted for, and nothing else is recorded.
Routes and diagnostics stand in the order of the lines, and all routes have the form
that a row gives them. -/
theorem accounts_read (text : String) :
    (∀ number line, 2 ≤ number → (linesOf text)[number - 1]? = some line →
      Accounts (read text) number line) ∧
    (∀ route ∈ (read text).routes, 2 ≤ route.line ∧ route.line ≤ (linesOf text).length) ∧
    (∀ diagnostic ∈ (read text).diagnostics,
      2 ≤ diagnostic.number ∧ diagnostic.number ≤ (linesOf text).length) ∧
    (read text).routes.Pairwise (fun earlier later => earlier.line < later.line) ∧
    (read text).diagnostics.Pairwise (fun earlier later => earlier.number < later.number) ∧
    ∀ route ∈ (read text).routes, WellFormed route := by
  refine ⟨fun number line => accounts_of_getElem?, ?_, ?_, ?_, ?_, ?_⟩
  · intro route hRoute
    have hBounds := numbered_route?.bounds route hRoute
    have hLength : (linesOf text).tail.length = (linesOf text).length - 1 := List.length_tail
    rw [linesOf] at hLength ⊢
    omega
  · intro diagnostic hDiagnostic
    have hBounds := numbered_diagnostic?.bounds diagnostic hDiagnostic
    have hLength : (linesOf text).tail.length = (linesOf text).length - 1 := List.length_tail
    rw [linesOf] at hLength ⊢
    omega
  · exact numbered_route?.pairwise
  · exact numbered_diagnostic?.pairwise.imp Int.ofNat_lt.mp
  · exact fun route hRoute => wellFormed_of_isTabular (isTabular_of_mem_routes hRoute)

/-- A table with a banner, a row, and a line that has no URI. -/
def bannerText : String :=
  "Prefix Verb URI Pattern\nRoutes for Blog::Engine:\n posts GET /posts posts#index\r\n posts POST"

/-- The second line is passed over, and each of the others has one record. -/
theorem accounts_read_bannerText :
    linesOf bannerText = ["Prefix Verb URI Pattern", "Routes for Blog::Engine:",
        " posts GET /posts posts#index", " posts POST"] ∧
      (read bannerText).routesAt 2 = [] ∧ (read bannerText).diagnosticsAt 2 = [] ∧
      Accounts (read bannerText) 3 " posts GET /posts posts#index" ∧
      Accounts (read bannerText) 4 " posts POST" := by
  have hLines : linesOf bannerText = ["Prefix Verb URI Pattern", "Routes for Blog::Engine:",
      " posts GET /posts posts#index", " posts POST"] := by
    decide
  have hLine (number : Nat) (line : String) (hNumber : 2 ≤ number)
      (hLine : ["Prefix Verb URI Pattern", "Routes for Blog::Engine:",
        " posts GET /posts posts#index", " posts POST"][number - 1]? = some line) :
      Accounts (read bannerText) number line :=
    (accounts_read bannerText).1 number line hNumber (by rw [hLines, hLine])
  have hBanner : isLayout "Routes for Blog::Engine:".toList = true := by decide
  obtain ⟨hRoutes, hDiagnostics⟩ : (read bannerText).routesAt 2 = [] ∧
      (read bannerText).diagnosticsAt 2 = [] := by
    cases hLine 2 _ (by decide) rfl with
    | skipped _ hRoutes hDiagnostics => exact ⟨hRoutes, hDiagnostics⟩
    | accepted hRow => exact absurd (isLayout_iff.mp hBanner) hRow
    | rejected hRow => exact absurd (isLayout_iff.mp hBanner) hRow
  exact ⟨hLines, hRoutes, hDiagnostics, hLine 3 _ (by decide) rfl, hLine 4 _ (by decide) rfl⟩

end RoutePaths.Table
