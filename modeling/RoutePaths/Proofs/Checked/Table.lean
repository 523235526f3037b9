import RoutePaths.Proofs.Checked.Name
import RoutePaths.Proofs.Table.Routes

/-! Reading a table with all of its steps checked. Errors of rows and templates
are caught where they arise, and each of them rejects one line. -/
namespace RoutePaths.Checked
open Result

/-- What the errors of reading the columns of a row become. -/
def rowFault? : Stop → Option Fault
  | .row error => some (.columns error)
  | _ => none

/-- What the errors of reading a template become. -/
def templateFault? : Stop → Option Fault
  | .template error => some (.template error)
  | _ => none

/-- Goes on with the value of a step. An error that the handler knows rejects
the line, and every other error escapes. -/
def attempt {α : Type} (fault? : Stop → Option Fault) (number : Nat) (line : String)
    (step : Except Stop α) (next : α → Except Stop Table.Outcome) : Except Stop Table.Outcome :=
  match step with
  | .ok value => next value
  | .error stop =>
    match fault? stop with
    | some fault => .ok (.rejected ⟨number, line, fault⟩)
    | none => .error stop

/-- A route as it is made, which takes a name. -/
def make (route : Route) : Except Stop Route :=
  if route.name = "" then .error .namelessRoute else .ok route

/-- `Table.ofColumns`. -/
def ofColumns (lastName : Option String) (number : Nat) (line : String) (columns : Row.Columns) :
    Except Stop Table.Outcome :=
  match (if columns.name = "" then lastName else some columns.name) with
  | none => .ok (.rejected ⟨number, line, .nameless columns.uri⟩)
  | some name =>
    attempt templateFault? number line ((Template.read columns.uri).mapError .template)
      fun segments => do
        let route ← make
          { name
            verb := columns.verb
            uri := columns.uri
            segments
            action := columns.action
            line := number
            inherited := columns.name = "" }
        return .accepted route

/-- `Table.readLine`. -/
def readLine (lastName : Option String) (number : Nat) (line : String) :
    Except Stop Table.Outcome :=
  if Table.isLayout line.toList then .ok .skipped
  else
    attempt rowFault? number line ((Row.read line).mapError .row) (ofColumns lastName number line)

/-- `Table.outcomes`. -/
def outcomes (lastName : Option String) (number : Nat) :
    List String → Except Stop (List Table.Outcome)
  | [] => .ok []
  | line :: rest => do
    let outcome ← readLine lastName number line
    let others ← outcomes (Table.nextName lastName line) (number + 1) rest
    return outcome :: others

/-- `Table.read`. -/
def read (text : String) : Except Stop Table := do
  let lines := (Text.lines text.toList).map String.ofList
  let results ← outcomes none 2 lines.tail
  return ⟨results.filterMap (·.route?), results.filterMap (·.diagnostic?)⟩

variable {lastName : Option String} {number : Nat} {line : String}

/-- Names of rows that can be inherited are never empty, so every route can be
made. -/
theorem ofColumns_eq {columns : Row.Columns} (hColumns : columns.IsTabular)
    (hLast : Table.Inheritable lastName) :
    ofColumns lastName number line columns =
      .ok (Table.ofColumns lastName number line columns) := by
  unfold ofColumns Table.ofColumns
  cases hName : (if columns.name = "" then lastName else some columns.name) with
  | none => rfl
  | some name =>
      obtain ⟨hNamed, -⟩ := Table.inheritable_of_columns hColumns hLast name hName
      cases hSegments : Template.read columns.uri with
      | error error => rfl
      | ok segments =>
          simp only [Except.mapError, attempt, make, if_neg hNamed]
          rfl

theorem readLine_eq (hLast : Table.Inheritable lastName) :
    readLine lastName number line = .ok (Table.readLine lastName number line) := by
  unfold readLine Table.readLine
  split
  · rfl
  · cases hRead : Row.read line with
    | error error => rfl
    | ok columns => exact ofColumns_eq (Row.isTabular_of_read hRead) hLast

theorem outcomes_eq {lines : List String} (hLast : Table.Inheritable lastName) :
    outcomes lastName number lines = .ok (Table.outcomes lastName number lines) := by
  induction lines generalizing lastName number with
  | nil => rfl
  | cons line rest ih =>
      rw [outcomes, readLine_eq hLast, Table.outcomes]
      simp only [ih (hLast.nextName line)]
      rfl

/-- A table is read whatever its text is. -/
theorem read_eq (text : String) : read text = .ok (Table.read text) := by
  rw [read, outcomes_eq (by rintro name ⟨⟩)]
  rfl

end RoutePaths.Checked
