import RoutePaths.Proofs.Table.Accounting

/-! Lines that are no rows, put between the lines of a table. What the table records
stays the same, but for the numbers of the lines: the inherited name passes over such
lines, and their number goes into nothing else. -/
namespace RoutePaths

/-- The route with its line in another numbering. -/
def Route.renumber (numbering : Nat → Nat) (route : Route) : Route :=
  { route with line := numbering route.line.toNat }

namespace Route

variable (numbering : Nat → Nat) (route : Route)

@[simp] theorem renumber_segments : (route.renumber numbering).segments = route.segments := rfl

end Route

/-- The diagnostic with its line in another numbering. -/
def Diagnostic.renumber (numbering : Nat → Nat) (diagnostic : Diagnostic) : Diagnostic :=
  { diagnostic with number := numbering diagnostic.number }

namespace Table

/-- Lines to be put in front of the lines of a table, by the numbers of these. Those
for the number behind the last line are put at the end. -/
abbrev Padding := Nat → List String

namespace Padding

/-- The lines from the given number on, with the padding between them. -/
def apply (padding : Padding) (number : Nat) : List String → List String
  | [] => padding number
  | line :: rest => padding number ++ line :: padding.apply (number + 1) rest

/-- How many lines are put in front of a line. The first line stays the first. -/
def before (padding : Padding) : Nat → Nat
  | 0 => 0
  | 1 => 0
  | number + 2 => padding.before (number + 1) + (padding (number + 2)).length

/-- The number that a line has with the padding. -/
def numbering (padding : Padding) (number : Nat) : Nat :=
  number + padding.before number

/-- All lines that are put in are blank, a header or a banner. -/
def IsLayout (padding : Padding) : Prop :=
  ∀ number, ∀ line ∈ padding number, LayoutLine line.toList

end Padding

/-- The outcome of the same line in another numbering. -/
def Outcome.renumber (numbering : Nat → Nat) : Outcome → Outcome
  | skipped => skipped
  | accepted route => accepted (route.renumber numbering)
  | rejected diagnostic => rejected (diagnostic.renumber numbering)

variable {lastName : Option String} {number : Nat} {line : String}

theorem ofColumns_renumber (numbering : Nat → Nat) (columns : Row.Columns) :
    ofColumns lastName (numbering number) line columns =
      (ofColumns lastName number line columns).renumber numbering := by
  unfold ofColumns
  split
  · rfl
  · split <;> rfl

/-- The number of a line decides nothing about its outcome. -/
theorem readLine_renumber (numbering : Nat → Nat) (lastName : Option String) (number : Nat)
    (line : String) :
    readLine lastName (numbering number) line =
      (readLine lastName number line).renumber numbering := by
  unfold readLine
  split
  · rfl
  · split
    · exact ofColumns_renumber numbering _
    · rfl

/-- A line that is no row leaves no record, and no name for later rows. -/
theorem readLine_of_layoutLine (lastName : Option String) (number : Nat)
    (h : LayoutLine line.toList) :
    readLine lastName number line = .skipped ∧ nextName lastName line = lastName := by
  rw [readLine, nextName, if_pos (isLayout_iff.mpr h), if_pos (isLayout_iff.mpr h)]
  exact ⟨rfl, rfl⟩

section Records

variable {α : Type} {record? : Outcome → Option α}

theorem outcomes_layout_append (lastName : Option String) (number : Nat) {layout : List String}
    (hLayout : ∀ line ∈ layout, LayoutLine line.toList) (hSkipped : record? .skipped = none)
    (lines : List String) :
    (outcomes lastName number (layout ++ lines)).filterMap record? =
      (outcomes lastName (number + layout.length) lines).filterMap record? := by
  induction layout generalizing number with
  | nil => rfl
  | cons line rest ih =>
      rw [List.forall_mem_cons] at hLayout
      obtain ⟨hLine, hName⟩ := readLine_of_layoutLine lastName number hLayout.1
      rw [List.cons_append, outcomes, hLine, hName, List.filterMap_cons_none hSkipped,
        ih _ hLayout.2, List.length_cons, Nat.add_right_comm, Nat.add_assoc number]

/-- The records of padded lines are those of the lines, in the new numbering. -/
theorem filterMap_outcomes_apply {padding : Padding} (hLayout : padding.IsLayout)
    (hSkipped : record? .skipped = none) {renumber : α → α}
    (hRecord : ∀ outcome : Outcome,
      record? (outcome.renumber padding.numbering) = (record? outcome).map renumber)
    (lastName : Option String) (number : Nat) (lines : List String) :
    (outcomes lastName (number + 2 + padding.before (number + 1))
        (padding.apply (number + 2) lines)).filterMap record? =
      ((outcomes lastName (number + 2) lines).filterMap record?).map renumber := by
  induction lines generalizing lastName number with
  | nil =>
      have hEnd := outcomes_layout_append lastName (number + 2 + padding.before (number + 1))
        (hLayout (number + 2)) hSkipped []
      rw [List.append_nil] at hEnd
      rw [Padding.apply, hEnd]
      rfl
  | cons line rest ih =>
      have hNumber : number + 2 + padding.before (number + 1) + (padding (number + 2)).length =
          padding.numbering (number + 2) := by
        rw [Padding.numbering, Padding.before, Nat.add_assoc]
      have hNext : padding.numbering (number + 2) + 1 =
          number + 1 + 2 + padding.before (number + 1 + 1) := by
        rw [Padding.numbering, Nat.add_right_comm, Nat.add_right_comm number 2]
      have hRest := ih (nextName lastName line) (number + 1)
      rw [← hNext] at hRest
      rw [Padding.apply, outcomes_layout_append _ _ (hLayout (number + 2)) hSkipped, hNumber,
        outcomes, outcomes, readLine_renumber, List.filterMap_cons, List.filterMap_cons, hRecord,
        hRest]
      cases record? (readLine lastName (number + 2) line) <;> rfl

end Records

/-- A padded table records what the table records, in the new numbering. -/
theorem read_padded {text padded first : String} {rest : List String} {padding : Padding}
    (hLayout : padding.IsLayout) (hText : linesOf text = first :: rest)
    (hPadded : linesOf padded = first :: padding.apply 2 rest) :
    read padded = ⟨(read text).routes.map (·.renumber padding.numbering),
      (read text).diagnostics.map (·.renumber padding.numbering)⟩ := by
  have hRoute (outcome : Outcome) : (outcome.renumber padding.numbering).route? =
      outcome.route?.map (·.renumber padding.numbering) := by
    cases outcome <;> rfl
  have hDiagnostic (outcome : Outcome) : (outcome.renumber padding.numbering).diagnostic? =
      outcome.diagnostic?.map (·.renumber padding.numbering) := by
    cases outcome <;> rfl
  have hRoutes := filterMap_outcomes_apply hLayout rfl hRoute none 0 rest
  have hDiagnostics := filterMap_outcomes_apply hLayout rfl hDiagnostic none 0 rest
  rw [linesOf] at hText hPadded
  rw [read, read, hText, hPadded]
  exact congr (congrArg Table.mk hRoutes) hDiagnostics

end Table

end RoutePaths
