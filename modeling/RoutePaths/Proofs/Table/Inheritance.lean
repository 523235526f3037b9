import RoutePaths.Proofs.Table.Accounting
import RoutePaths.Proofs.Uri.Derivation
import Mathlib.Data.List.Induction

/-! The names of rows. A row that leaves its name blank has the name of the nearest row above
it that has one of its own. That row passes its name on as soon as its columns can be told,
whatever its URI is; lines whose columns cannot be told and lines that are no rows pass on
nothing. -/
namespace RoutePaths.Table

/-- The line is a row, and these are its columns. -/
structure IsRow (line : String) (columns : Row.Columns) : Prop where
  noLayout : ¬ LayoutLine line.toList
  read : Row.read line = .ok columns

/-- The line is a row with a name of its own. -/
def HasName (line name : String) : Prop :=
  ∃ columns, IsRow line columns ∧ columns.name = name ∧ name ≠ ""

/-- The last of the lines with a name of its own has the given one. -/
def LastNamed (lines : List String) (name : String) : Prop :=
  ∃ before line after, lines = before ++ line :: after ∧ HasName line name ∧
    ∀ later ∈ after, ∀ other, ¬ HasName later other

/-- What is recorded for a row with a name: a route of that name, or a diagnostic if its URI is
no template. -/
inductive RecordsRow (table : Table) (number : Nat) (line : String) (columns : Row.Columns)
    (name : String) (inherited : Bool) : Prop
  | accepted {segments : List Segment} (hRead : Template.read columns.uri = .ok segments)
      (hRoutes : table.routesAt number =
        [⟨name, columns.verb, columns.uri, segments, columns.action, number, inherited⟩])
      (hDiagnostics : table.diagnosticsAt number = [])
  | rejected {error : Template.Error} (hRead : Template.read columns.uri = .error error)
      (hRoutes : table.routesAt number = [])
      (hDiagnostics : table.diagnosticsAt number = [⟨number, line, .template error⟩])

variable {line name text first : String}
  {columns : Row.Columns} {lines before after : List String}

theorem IsRow.isLayout_eq (h : IsRow line columns) : isLayout line.toList = false := by
  rw [← Bool.not_eq_true, isLayout_iff]
  exact h.noLayout

theorem IsRow.nextName_eq (h : IsRow line columns) (lastName : Option String) :
    nextName lastName line = if columns.name = "" then lastName else some columns.name := by
  rw [nextName, h.isLayout_eq, if_neg Bool.false_ne_true, h.read]

theorem IsRow.readLine_eq (h : IsRow line columns) (lastName : Option String) (number : Nat) :
    readLine lastName number line = ofColumns lastName number line columns := by
  rw [readLine, h.isLayout_eq, if_neg Bool.false_ne_true, h.read]

theorem nextName_of_hasName (h : HasName line name) (lastName : Option String) :
    nextName lastName line = some name := by
  obtain ⟨columns, hRow, rfl, hName⟩ := h
  rw [hRow.nextName_eq, if_neg hName]

/-- A line without a name of its own leaves the inherited name as it is. -/
theorem nextName_of_not_hasName (h : ∀ name, ¬ HasName line name) (lastName : Option String) :
    nextName lastName line = lastName := by
  by_cases hRow : ∃ columns, IsRow line columns
  · obtain ⟨columns, hColumns⟩ := hRow
    have hName : columns.name = "" := by
      by_contra hName
      exact h columns.name ⟨columns, hColumns, rfl, hName⟩
    rw [hColumns.nextName_eq, if_pos hName]
  · rw [nextName]
    split
    · rfl
    · rename_i hLayout
      rw [isLayout_iff] at hLayout
      split
      · rename_i columns hRead
        exact absurd ⟨columns, hLayout, hRead⟩ hRow
      · rfl

theorem foldl_nextName_of_not_hasName (h : ∀ line ∈ lines, ∀ name, ¬ HasName line name)
    (lastName : Option String) : lines.foldl nextName lastName = lastName := by
  induction lines with
  | nil => rfl
  | cons line rest ih =>
      rw [List.forall_mem_cons] at h
      rw [List.foldl_cons, nextName_of_not_hasName h.1, ih h.2]

/-- The name that is inherited behind lines is that of the last one with a name of its own. -/
theorem LastNamed.foldl_nextName_eq (h : LastNamed lines name) (lastName : Option String) :
    lines.foldl nextName lastName = some name := by
  obtain ⟨before, line, after, rfl, hName, hAfter⟩ := h
  rw [List.foldl_append, List.foldl_cons, nextName_of_hasName hName,
    foldl_nextName_of_not_hasName hAfter]

theorem LastNamed.unique {other : String} (h : LastNamed lines name) (hOther : LastNamed lines other) :
    name = other :=
  Option.some.inj ((h.foldl_nextName_eq none).symm.trans (hOther.foldl_nextName_eq none))

/-- Of lines of which one has a name, one is the last. -/
theorem exists_lastNamed (h : ∃ line ∈ lines, ∃ name, HasName line name) :
    ∃ name, LastNamed lines name := by
  induction lines using List.reverseRecOn with
  | nil => simp at h
  | append_singleton front line ih =>
      by_cases hLine : ∃ name, HasName line name
      · obtain ⟨name, hName⟩ := hLine
        exact ⟨name, front, line, [], rfl, hName, by simp⟩
      · have hFront : ∃ other ∈ front, ∃ name, HasName other name := by
          obtain ⟨other, hOther, hName⟩ := h
          rcases List.mem_append.mp hOther with hFront | hLast
          · exact ⟨other, hFront, hName⟩
          · exact absurd (List.mem_singleton.mp hLast ▸ hName) hLine
        obtain ⟨name, before, named, after, rfl, hName, hAfter⟩ := ih hFront
        refine ⟨name, before, named, after ++ [line], by simp, hName, ?_⟩
        rw [List.forall_mem_append, List.forall_mem_singleton]
        exact ⟨hAfter, not_exists.mp hLine⟩

/-- The records for a line are those of its outcome under the name that it may inherit. -/
theorem records_of_lines (hLines : linesOf text = first :: (before ++ line :: after)) :
    (read text).routesAt (before.length + 2) =
        (readLine (before.foldl nextName none) (before.length + 2) line).route?.toList ∧
      (read text).diagnosticsAt (before.length + 2) =
        (readLine (before.foldl nextName none) (before.length + 2) line).diagnostic?.toList := by
  have hRoutes := @Numbered.filter_eq _ _ _ none 2 numbered_route? before line after
  have hDiagnostics := @Numbered.filter_eq _ _ _ none 2 numbered_diagnostic? before line after
  simp only [Int.natCast_inj] at hDiagnostics
  have hTail : (linesOf text).tail = before ++ line :: after := by rw [hLines, List.tail_cons]
  rw [← hTail, Nat.add_comm 2] at hRoutes hDiagnostics
  exact ⟨hRoutes, hDiagnostics⟩

/-- The name that the columns of a row come to have, if any. -/
theorem recordsRow_of_name (hLines : linesOf text = first :: (before ++ line :: after))
    (hRow : IsRow line columns)
    (hName : (if columns.name = "" then before.foldl nextName none else some columns.name) =
      some name) :
    RecordsRow (read text) (before.length + 2) line columns name (decide (columns.name = "")) := by
  obtain ⟨hRoutes, hDiagnostics⟩ := records_of_lines hLines
  rw [hRow.readLine_eq, ofColumns, hName] at hRoutes hDiagnostics
  dsimp only at hRoutes hDiagnostics
  cases hRead : Template.read columns.uri with
  | ok segments =>
      rw [hRead] at hRoutes hDiagnostics
      exact .accepted hRead hRoutes hDiagnostics
  | error error =>
      rw [hRead] at hRoutes hDiagnostics
      exact .rejected hRead hRoutes hDiagnostics

/-- The name of a row. One of its own is kept; otherwise the row has the name of the nearest
row above that has one, whatever became of that row and of the lines between; and without such a
row it is rejected, whether or not its URI is a template. -/
theorem name_of_row (hLines : linesOf text = first :: (before ++ line :: after))
    (hRow : IsRow line columns) :
    (columns.name ≠ "" →
      RecordsRow (read text) (before.length + 2) line columns columns.name false) ∧
    (columns.name = "" → (∃ other ∈ before, ∃ name, HasName other name) →
      ∃ name, LastNamed before name ∧
        RecordsRow (read text) (before.length + 2) line columns name true) ∧
    (columns.name = "" → (∀ other ∈ before, ∀ name, ¬ HasName other name) →
      (read text).routesAt (before.length + 2) = [] ∧
        (read text).diagnosticsAt (before.length + 2) =
          [⟨before.length + 2, line, .nameless columns.uri⟩]) := by
  refine ⟨fun hName => ?_, fun hName hNamed => ?_, fun hName hNone => ?_⟩
  · have hRecords := recordsRow_of_name hLines hRow (if_neg hName)
    rwa [decide_eq_false hName] at hRecords
  · obtain ⟨name, hLast⟩ := exists_lastNamed hNamed
    have hRecords := recordsRow_of_name hLines hRow
      ((if_pos hName).trans (hLast.foldl_nextName_eq none))
    rw [decide_eq_true hName] at hRecords
    exact ⟨name, hLast, hRecords⟩
  · obtain ⟨hRoutes, hDiagnostics⟩ := records_of_lines hLines
    rw [hRow.readLine_eq, ofColumns, if_pos hName, foldl_nextName_of_not_hasName hNone]
      at hRoutes hDiagnostics
    exact ⟨hRoutes, hDiagnostics⟩

/-- A table in which a row is dropped for its URI, and another one for its columns. -/
def itemText : String :=
  "Prefix Verb URI Pattern\nusers GET /users users#index\nitem GET /items/:id-:slug items#show\n" ++
    "users GET PUT /users\n\n POST /items items#create"

/-- The dropped row passes its name on, over a row that has no columns and a blank line. -/
theorem name_of_row_itemText :
    linesOf itemText = ["Prefix Verb URI Pattern", "users GET /users users#index",
        "item GET /items/:id-:slug items#show", "users GET PUT /users", "",
        " POST /items items#create"] ∧
      IsRow " POST /items items#create" ⟨"", "POST", "/items", "items#create"⟩ ∧
      (read itemText).diagnosticsAt 6 = [] ∧
      (read itemText).routesAt 6 =
        [⟨"item", "POST", "/items", [.literal "items"], "items#create", 6, true⟩] := by
  have hLines : linesOf itemText = ["Prefix Verb URI Pattern", "users GET /users users#index",
      "item GET /items/:id-:slug items#show", "users GET PUT /users", "",
      " POST /items items#create"] := by
    decide +kernel
  have hRow : IsRow " POST /items items#create" ⟨"", "POST", "/items", "items#create"⟩ :=
    ⟨fun hLayout => absurd (isLayout_iff.mpr hLayout) (by decide), by decide⟩
  have hItem : HasName "item GET /items/:id-:slug items#show" "item" :=
    ⟨⟨"item", "GET", "/items/:id-:slug", "items#show"⟩,
      ⟨fun hLayout => absurd (isLayout_iff.mpr hLayout) (by decide), by decide⟩, rfl, by decide⟩
  have hBetween : ∀ line ∈ ["users GET PUT /users", ""], ∀ name, ¬ HasName line name := by
    rw [List.forall_mem_cons, List.forall_mem_singleton]
    constructor
    · rintro name ⟨columns, hColumns, -⟩
      have hError : Row.read "users GET PUT /users" =
          .error (.tooManyColumns 3 "users GET PUT /users") := by decide
      cases hColumns.read.symm.trans hError
    · rintro name ⟨columns, hColumns, -⟩
      exact hColumns.noLayout (.blank (by simp [IsGap]))
  have hSplit : linesOf itemText = "Prefix Verb URI Pattern" ::
      ((["users GET /users users#index"] ++ "item GET /items/:id-:slug items#show" ::
        ["users GET PUT /users", ""]) ++ " POST /items items#create" :: []) := hLines
  obtain ⟨name, hLast, hRecords⟩ := (name_of_row hSplit hRow).2.1 rfl ⟨_, by simp, _, hItem⟩
  have hName : name = "item" := hLast.unique ⟨_, _, _, rfl, hItem, hBetween⟩
  have hDerives : Template.Derivation.Derives ⟨.sequence [] [.literal "items".toList], false⟩
      "/items".toList := by
    decide
  have hUri : Template.read "/items" = .ok [.literal "items"] := hDerives.read
  subst hName
  cases hRecords with
  | accepted hRead hRoutes hDiagnostics =>
      cases hRead.symm.trans hUri
      exact ⟨hLines, hRow, hDiagnostics, hRoutes⟩
  | rejected hRead => cases hRead.symm.trans hUri

end RoutePaths.Table
