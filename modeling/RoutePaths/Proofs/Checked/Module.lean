import RoutePaths.Proofs.Checked.Name
import RoutePaths.Proofs.Module.Claims

/-! The content of a module and its file with all steps checked. A body refers
to a parameter through a table by segment names, in which every dynamic segment
has to be found. -/
namespace RoutePaths.Checked
open Association Result

/-- A collision, which the user is told. -/
def clashing (collision : Collision) : Stop :=
  .known (.collision collision)

/-- `Layout.name`, the last component of the full name. -/
def lastName (layout : Layout) (branch : Branch) : Except Stop String :=
  match (layout.qualified branch).getLast? with
  | some name => .ok name
  | none => .error .noLastName

/-- `Function.parameters?`. -/
def parameters (module label : String) (known : List (String × String)) :
    List Segment → Except Stop (List Parameter)
  | [] => .ok []
  | .literal _ :: rest => parameters module label known rest
  | .dynamic name optional _ :: rest => do
    let parameter ← sanitize name "param"
    match known.lookup parameter with
    | some earlier =>
      .error (clashing ⟨module, parameter, .segmentOf earlier label, .segment name⟩)
    | none =>
      let others ← parameters module label ((parameter, name) :: known) rest
      return ⟨parameter, optional⟩ :: others

/-- The parameters by the names of their segments. -/
abbrev ParameterTable := List (String × String)

/-- The parameter for a segment name. -/
def parameterFor (table : ParameterTable) (name : String) : Except Stop String :=
  match table.lookup name with
  | some parameter => .ok parameter
  | none => .error (.noParameter name)

/-- `Function.pieces`, which looks the parameters up. -/
def pieces (table : ParameterTable) (pending : String) : List Segment → Except Stop (List Piece)
  | [] => .ok (Function.flush pending)
  | .literal text :: rest => pieces table (pending ++ "/" ++ text) rest
  | .dynamic name false separator :: rest => do
    let parameter ← parameterFor table name
    let others ← pieces table "" rest
    return .text (pending ++ separator) :: .value parameter :: others
  | .dynamic name true separator :: rest => do
    let parameter ← parameterFor table name
    let others ← pieces table "" rest
    return Function.flush pending ++ .optional parameter separator :: others

/-- `Function.ofGroup`. -/
def functionOf (module : String) (group : RouteGroup) : Except Stop Function := do
  let segments := group.first.segments
  let parameters ← parameters module group.first.label [] segments
  let table := (Segment.names segments).zip (parameters.map (·.name))
  let pieces ← pieces table "" segments
  return ⟨group.name, parameters, group.first, group.others, pieces,
    Function.isAllOptional segments⟩

/-- `Function.paramsClass?`. -/
def paramsClass? (function : Function) : Except Stop (Option String) :=
  if function.parameters.isEmpty then .ok none
  else do
    let name ← pascal function.name
    return some (name ++ "Params")

/-- `Claims.add`. -/
def add (claims : Claims) (module name : String) (owner : Owner) : Except Stop Claims :=
  (claims.add module name owner).mapError clashing

/-- `Function.claim`. -/
def claim (module : String) (claims : Claims) (function : Function) : Except Stop Claims := do
  let label := function.route.label
  let claims ← match ← paramsClass? function with
    | some name => add claims module name (.parameters label)
    | none => pure claims
  add claims module function.name (.route label)

/-- `Module.functionsOf`. -/
def functionsOf (module : String) (claims : Claims) :
    List RouteGroup → Except Stop (List Function)
  | [] => .ok []
  | group :: rest => do
    let function ← functionOf module group
    let claims ← claim module claims function
    let others ← functionsOf module claims rest
    return function :: others

/-- `RouteGroup.ofRoutes`. -/
def groupsOf (module : String) (parts : List String) (routes : List Route) :
    Except Stop (List RouteGroup) :=
  routes.foldlM (fun groups route => do
    let name ← nameFor parts route.name
    (RouteGroup.add module name route groups).mapError clashing) []

/-- `Module.claimChildren`. -/
def claimChildren (layout : Layout) (parent : Branch) (claims : Claims) :
    List Branch → Except Stop Claims
  | [] => .ok claims
  | child :: rest => do
    let module := layout.dotted parent
    let name ← lastName layout child
    let parentName ← lastName layout parent
    if parent.isRoot && name = parentName then
      .error (clashing ⟨module, name, .rootModule module, .childModule (layout.dotted child)⟩)
    else
      let claims ← add claims module name (.childModule (layout.dotted child))
      claimChildren layout parent claims rest

/-- `Module.importOf`. -/
def importOf (layout : Layout) (child : Branch) : Except Stop Import := do
  let name ← lastName layout child
  return ⟨(layout.qualified child).dropLast, name⟩

/-- `Module.ofBranch`. -/
def moduleOf (layout : Layout) (branch : Branch) : Except Stop Module := do
  let dotted := layout.dotted branch
  let claims ← claimChildren layout branch .helpers branch.emitting
  let groups ← groupsOf dotted branch.namespaceOf branch.routes
  let functions ← functionsOf dotted claims groups
  let imports ← branch.emitting.mapM (importOf layout)
  return ⟨dotted, imports, functions⟩

/-- `Layout.filename`. -/
def filename (layout : Layout) (branch : Branch) : Except Stop String := do
  let name ← lastName layout branch
  return if branch.isRoot then name ++ ".py" else "__init__.py"

/-- `SourceFile.ofBranch`. -/
def fileOf (layout : Layout) (branch : Branch) : Except Stop SourceFile := do
  let module ← moduleOf layout branch
  let filename ← filename layout branch
  return ⟨Layout.directories branch, filename, module.print⟩

/-- `ModuleTree.files`. -/
def files (tree : ModuleTree) : Except Stop (List SourceFile) :=
  (tree.modules.filter (·.hasContent)).mapM (fileOf tree.layout)

/-- Full names are never empty: the root module has its name, and every other
module has a path. -/
theorem lastName_eq (layout : Layout) (branch : Branch) :
    lastName layout branch = .ok (layout.name branch) := by
  have hSome : layout.qualified branch ≠ [] := by
    rw [Layout.qualified]
    split
    · simp
    · rename_i hBranch
      rw [Branch.isRoot, decide_eq_true_eq] at hBranch
      simp [Branch.path, hBranch]
  rw [lastName, Layout.name, List.getLastD_eq_getLast?, List.getLast?_eq_some_getLast hSome]
  rfl

theorem parameters_eq {module label : String} {known : List (String × String)}
    (segments : List Segment) :
    parameters module label known segments =
      (Function.parameters? module label known segments).mapError clashing := by
  induction segments generalizing known with
  | nil => rfl
  | cons segment rest ih =>
      cases segment with
      | literal text => exact ih
      | dynamic name optional separator =>
          rw [parameters, sanitize_eq _ (by decide), Function.parameters?]
          show (match known.lookup (Function.parameterName name) with | some _ => _ | none => _) = _
          cases known.lookup (Function.parameterName name) with
          | some earlier => rfl
          | none =>
              show (parameters module label ((Function.parameterName name, name) :: known) rest >>=
                _) = _
              rw [ih]
              cases Function.parameters? module label
                ((Function.parameterName name, name) :: known) rest <;> rfl

/-- Pieces can be made if every dynamic segment is found. -/
theorem pieces_eq {table : ParameterTable} {pending : String} {segments : List Segment}
    (h : ∀ name ∈ Segment.names segments,
      parameterFor table name = .ok (Function.parameterName name)) :
    pieces table pending segments = .ok (Function.pieces pending segments) := by
  induction segments generalizing pending with
  | nil => rfl
  | cons segment rest ih =>
      cases segment with
      | literal text => exact ih h
      | dynamic name optional separator =>
          rw [Segment.names_dynamic, List.forall_mem_cons] at h
          cases optional with
          | false =>
              rw [pieces, h.1, ih h.2]
              rfl
          | true =>
              rw [pieces, h.1, ih h.2]
              rfl

/-- Different parameter names belong to different segment names, so each segment
finds its own parameter. -/
theorem parameterFor_eq {segments : List Segment}
    (hNodup : (Function.parameterNames segments).Nodup) {name : String}
    (hName : name ∈ Segment.names segments) :
    parameterFor ((Segment.names segments).zip (Function.parameterNames segments)) name =
      .ok (Function.parameterName name) := by
  have hNames : ((Segment.names segments).map id).Nodup := by
    rw [List.map_id]
    exact List.Nodup.of_map _ hNodup
  have hLookup := lookup_map_of_nodup id Function.parameterName hNames hName
  have hTable : (Segment.names segments).map (fun name => (id name, Function.parameterName name)) =
      (Segment.names segments).zip (Function.parameterNames segments) :=
    List.map_prod_left_eq_zip ..
  rw [hTable, id_eq] at hLookup
  rw [parameterFor, hLookup]

theorem functionOf_eq (module : String) (group : RouteGroup) :
    functionOf module group = (Function.ofGroup module group).mapError clashing := by
  rw [functionOf, Function.ofGroup, mapError_bind]
  simp only [parameters_eq]
  cases hParameters : Function.parameters? module group.first.label [] group.first.segments with
  | error collision => rfl
  | ok parameters =>
      obtain ⟨⟨hNodup, -⟩, rfl⟩ := Function.parameters?_eq_ok_iff.mp hParameters
      have hFound : ∀ name ∈ Segment.names group.first.segments,
          parameterFor ((Segment.names group.first.segments).zip
            (Function.parameterNames group.first.segments)) name =
              .ok (Function.parameterName name) := fun name hName => parameterFor_eq hNodup hName
      simp only [Function.map_name_parametersOf, Except.mapError, bind, Except.bind,
        pieces_eq hFound]
      rfl

theorem paramsClass?_eq (function : Function) :
    paramsClass? function = .ok function.paramsClass? := by
  rw [paramsClass?, Function.paramsClass?]
  split
  · rfl
  · rw [pascal_eq]
    rfl

theorem claim_eq (module : String) (claims : Claims) (function : Function) :
    claim module claims function = (Function.claim module claims function).mapError clashing := by
  rw [claim, Function.claim, paramsClass?_eq]
  cases function.paramsClass? with
  | none => rfl
  | some name =>
      simp only [mapError_bind]
      rfl

theorem functionsOf_eq (module : String) (claims : Claims) (groups : List RouteGroup) :
    functionsOf module claims groups =
      (Module.functionsOf module claims groups).mapError clashing := by
  induction groups generalizing claims with
  | nil => rfl
  | cons group rest ih =>
      simp only [functionsOf, Module.functionsOf, mapError_bind, functionOf_eq, claim_eq, ih]
      rfl

theorem groupsOf_eq (module : String) (parts : List String) (routes : List Route) :
    groupsOf module parts routes =
      (RouteGroup.ofRoutes module parts routes).mapError clashing := by
  rw [groupsOf, RouteGroup.ofRoutes, mapError_foldlM]
  simp only [nameFor_eq]
  rfl

theorem claimChildren_eq {layout : Layout} {parent : Branch} (claims : Claims)
    (children : List Branch) :
    claimChildren layout parent claims children =
      (Module.claimChildren layout parent claims children).mapError clashing := by
  induction children generalizing claims with
  | nil => rfl
  | cons child rest ih =>
      rw [claimChildren, Module.claimChildren]
      simp only [lastName_eq, ih]
      show (if _ then _ else _) = _
      split
      · rfl
      · rw [mapError_bind]
        rfl

theorem mapM_importOf_eq (layout : Layout) (children : List Branch) :
    children.mapM (importOf layout) = .ok (children.map (Module.importOf layout)) := by
  apply mapM_eq_ok_map
  intro child _
  rw [importOf, lastName_eq]
  rfl

theorem moduleOf_eq (layout : Layout) (branch : Branch) :
    moduleOf layout branch = (Module.ofBranch layout branch).mapError clashing := by
  simp only [moduleOf, Module.ofBranch, mapError_bind, claimChildren_eq, groupsOf_eq,
    functionsOf_eq, mapM_importOf_eq]
  rfl

theorem filename_eq (layout : Layout) (branch : Branch) :
    filename layout branch = .ok (layout.filename branch) := by
  rw [filename, lastName_eq, Layout.filename]
  cases hRoot : branch.isRoot with
  | false => rfl
  | true => simp [Layout.name, Layout.qualified, hRoot, bind, Except.bind, pure, Except.pure]

theorem fileOf_eq (layout : Layout) (branch : Branch) :
    fileOf layout branch = (SourceFile.ofBranch layout branch).mapError clashing := by
  simp only [fileOf, SourceFile.ofBranch, mapError_bind, moduleOf_eq, filename_eq]
  rfl

/-- The files of a tree can be made up to collisions. -/
theorem files_eq (tree : ModuleTree) : files tree = tree.files.mapError clashing := by
  rw [files, ModuleTree.files, mapError_mapM, funext (fileOf_eq tree.layout)]

end RoutePaths.Checked
