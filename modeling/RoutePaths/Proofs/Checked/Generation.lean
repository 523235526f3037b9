import RoutePaths.Generation
import RoutePaths.Proofs.Checked.Module
import RoutePaths.Proofs.Checked.Tree

/-! Generation ends as it is documented to end. No step presupposes what its
values do not have, whatever the text of the table is. -/
namespace RoutePaths.Checked
open Result

/-- The errors of generation that are documented. An action without a first
word is not one of them. -/
inductive Documented : Generation.Error → Prop
  | pattern (error : Pattern.Error) : Documented (.pattern error)
  | rootName (name : String) : Documented (.tree (.badRootName name))
  | packages (path : String) : Documented (.tree (.badPackages path))
  | ambiguous (name verb : String) (first second : Int) :
      Documented (.tree (.ambiguous name verb first second))
  | collision (clash : Collision) : Documented (.collision clash)

/-- A flawed pattern, which the user is told. -/
def selecting (error : Pattern.Error) : Stop :=
  .known (.pattern error)

/-- The text of a pattern. -/
def textOf : Pattern → Except Stop String
  | .text pattern => .ok pattern
  | .other _ => .error .patternNoText

/-- `Pattern.check`. -/
def checkPattern (pattern : Pattern) : Except Stop String :=
  match pattern.flaw? with
  | some flaw => .error (selecting ⟨pattern.shown, flaw⟩)
  | none => textOf pattern

/-- `Selection.check`. -/
def check (selection : Selection) : Except Stop Selection.Checked := do
  let includes ← selection.included.patterns.mapM checkPattern
  let excludes ← selection.excluded.mapM checkPattern
  return ⟨selection.included.isAll, includes, excludes⟩

/-- `Generation.run`. -/
def run (text : String) (config : Config) (rule : Rule) : Except Stop Generation := do
  let table ← read text
  let checked ← check config.selection
  let routes := table.routes.filter (checked.selects ·.name)
  let tree ← build config.packages config.moduleName rule routes
  let files ← files tree
  return ⟨table.diagnostics, routes, tree, files⟩

/-- A run and the same run with all of its steps checked have one end: a result,
or a documented error. -/
def EndsAsDocumented (checked : Except Stop Generation)
    (generation : Except Generation.Error Generation) : Prop :=
  (∃ result, checked = .ok result ∧ generation = .ok result) ∨
    ∃ error, Documented error ∧ checked = .error (.known error) ∧ generation = .error error

/-- A pattern without flaws is a text. -/
theorem checkPattern_eq (pattern : Pattern) :
    checkPattern pattern = (Pattern.check pattern).mapError selecting := by
  cases pattern with
  | other shown => rfl
  | text pattern =>
      unfold checkPattern Pattern.check
      cases (Pattern.text pattern).flaw? <;> rfl

theorem check_eq (selection : Selection) :
    check selection = selection.check.mapError selecting := by
  simp only [check, Selection.check, mapError_bind, mapError_mapM, ← checkPattern_eq]
  rfl

variable {checked : Rule} {rule : ModuleTree.NamespaceRule}

/-- A rule that both kinds of run follow gives one result. -/
theorem run_eq (text : String) (config : Config)
    (h : ∀ route : Route, route.IsTabular → Agrees checked rule route) :
    run text config checked = (Generation.run text config rule).mapError .known := by
  rw [run, read_eq, check_eq, Generation.run, Selection.apply]
  cases config.selection.check with
  | error error => rfl
  | ok checks =>
      have hTable : ∀ route ∈ (Table.read text).routes.filter (checks.selects ·.name),
          Agrees checked rule route := fun route hRoute =>
        h route (Table.isTabular_of_mem_routes (List.mem_of_mem_filter hRoute))
      show (build config.packages config.moduleName checked
        ((Table.read text).routes.filter (checks.selects ·.name)) >>= _) = _
      rw [build_eq hTable]
      simp only [Except.mapError, bind, Except.bind, pure, Except.pure]
      cases ModuleTree.build config.packages config.moduleName rule
        ((Table.read text).routes.filter (checks.selects ·.name)) with
      | error error => rfl
      | ok tree =>
          simp only [files_eq]
          cases tree.files <;> rfl

/-- If a rule has an answer for each route, grouping fails in one way only. -/
theorem documented_of_grow {routes seen : List Route} {root : Branch} {error : ModuleTree.Error}
    (h : ∀ route ∈ routes, Agrees checked rule route)
    (hGrow : ModuleTree.grow rule seen root routes = .error error) : Documented (.tree error) := by
  induction routes generalizing seen root with
  | nil => cases hGrow
  | cons route rest ih =>
      rw [List.forall_mem_cons] at h
      obtain ⟨parts, -, hRule⟩ := h.1
      rw [ModuleTree.grow] at hGrow
      cases hSeen : seen.find? (ModuleTree.sameEntry route) with
      | some first =>
          rw [hSeen] at hGrow
          cases hGrow
          exact .ambiguous ..
      | none =>
          simp only [hSeen, hRule] at hGrow
          exact ih h.2 hGrow

theorem documented_of_layout? {packages rootName : String} {error : ModuleTree.Error}
    (hLayout : ModuleTree.layout? packages rootName = .error error) :
    Documented (.tree error) := by
  unfold ModuleTree.layout? at hLayout
  split at hLayout
  · cases hLayout
    exact .rootName _
  · split at hLayout
    · cases hLayout
      exact .packages _
    · cases hLayout

theorem documented_of_build {packages rootName : String} {routes : List Route}
    {error : ModuleTree.Error} (h : ∀ route ∈ routes, Agrees checked rule route)
    (hBuild : ModuleTree.build packages rootName rule routes = .error error) :
    Documented (.tree error) := by
  simp only [ModuleTree.build, bind_eq_error_iff, pure, Except.pure, reduceCtorEq, and_false,
    exists_false, or_false] at hBuild
  rcases hBuild with hLayout | ⟨layout, -, hGrow⟩
  · exact documented_of_layout? hLayout
  · exact documented_of_grow h hGrow

/-- All errors of generation are documented ones. -/
theorem documented_of_run {text : String} {config : Config} {error : Generation.Error}
    (h : ∀ route : Route, route.IsTabular → Agrees checked rule route)
    (hRun : Generation.run text config rule = .error error) : Documented error := by
  simp only [Generation.run, bind_eq_error_iff, mapError_eq_error_iff, mapError_eq_ok_iff, pure,
    Except.pure, reduceCtorEq, and_false, exists_false, or_false] at hRun
  rcases hRun with ⟨flawed, -, rfl⟩ | ⟨routes, hRoutes, ⟨cause, hBuild, rfl⟩ |
    ⟨tree, -, collision, -, rfl⟩⟩
  · exact .pattern flawed
  · refine documented_of_build (fun route hRoute => h route ?_) hBuild
    simp only [Selection.apply, bind_eq_ok_iff, pure, Except.pure, Except.ok.injEq] at hRoutes
    obtain ⟨checks, -, rfl⟩ := hRoutes
    exact Table.isTabular_of_mem_routes (List.mem_of_mem_filter hRoute)
  · exact .collision collision

/-- A run ends with a result or with an error that is documented, whatever the
text of the table and the settings are. None of its steps ever presupposes
anything in vain: neither the first character or the first word of a text, nor
the name of a route or a module, nor the parameter of a segment, nor a row or a
template that can be read. -/
theorem run_ends_as_documented (text : String) (config : Config) :
    EndsAsDocumented (run text config byController)
        (Generation.run text config ModuleTree.byController) ∧
      EndsAsDocumented (run text config flat) (Generation.run text config ModuleTree.flat) := by
  have hEnds {checked : Rule} {rule : ModuleTree.NamespaceRule}
      (h : ∀ route : Route, route.IsTabular → Agrees checked rule route) :
      EndsAsDocumented (run text config checked) (Generation.run text config rule) := by
    rw [run_eq text config h]
    cases hRun : Generation.run text config rule with
    | error error => exact Or.inr ⟨error, documented_of_run h hRun, rfl, rfl⟩
    | ok result => exact Or.inl ⟨result, rfl, rfl⟩
  exact ⟨hEnds fun route => agrees_byController, hEnds fun route _ => agrees_flat route⟩

end RoutePaths.Checked
