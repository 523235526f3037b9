import RoutePaths.Module.Basic
import RoutePaths.Proofs.Association
import RoutePaths.Proofs.Name.Sanitize
import RoutePaths.Proofs.Result

/-! The parameters of a function. There is one for each dynamic segment, in
path order, and the only thing that can go wrong is that two segments need
parameters of one name. -/
namespace RoutePaths.Function
open Association Result

/-- The parameter for a segment. A literal has none. -/
def parameterFor? : Segment → Option Parameter
  | .literal _ => none
  | .dynamic name optional _ => some ⟨parameterName name, optional⟩

/-- The parameters for dynamic segments, whether or not their names clash. -/
def parametersOf (segments : List Segment) : List Parameter :=
  segments.filterMap parameterFor?

/-- The names of the parameters, one for each dynamic segment. -/
def parameterNames (segments : List Segment) : List String :=
  (Segment.names segments).map parameterName

@[simp] theorem parameterNames_nil : parameterNames [] = [] := rfl

@[simp] theorem parameterNames_literal (text : String) (rest : List Segment) :
    parameterNames (.literal text :: rest) = parameterNames rest := rfl

@[simp] theorem parameterNames_dynamic (name : String) (optional : Bool) (separator : String)
    (rest : List Segment) :
    parameterNames (.dynamic name optional separator :: rest) =
      parameterName name :: parameterNames rest := rfl

theorem map_name_parametersOf (segments : List Segment) :
    (parametersOf segments).map (·.name) = parameterNames segments := by
  induction segments with
  | nil => rfl
  | cons segment rest ih =>
      cases segment with
      | literal text => exact ih
      | dynamic name optional separator => exact congrArg (parameterName name :: ·) ih

theorem exists_parameterName {segments : List Segment} {parameter : Parameter}
    (h : parameter ∈ parametersOf segments) : ∃ name, parameterName name = parameter.name := by
  have hName : parameter.name ∈ parameterNames segments := by
    rw [← map_name_parametersOf]
    exact List.mem_map_of_mem h
  obtain ⟨name, -, hName⟩ := List.mem_map.mp hName
  exact ⟨name, hName⟩

theorem parametersOf_eq_nil_iff {segments : List Segment} :
    parametersOf segments = [] ↔ Segment.names segments = [] := by
  rw [← List.map_eq_nil_iff, map_name_parametersOf, parameterNames, List.map_eq_nil_iff]

/-- Parameters are found exactly if no two of them share a name, and none has
a name that is known already. -/
theorem parameters?_eq_ok_iff {module label : String} {known : List (String × String)}
    {segments : List Segment} {parameters : List Parameter} :
    parameters? module label known segments = .ok parameters ↔
      ((parameterNames segments).Nodup ∧
        ∀ name ∈ parameterNames segments, name ∉ known.map Prod.fst) ∧
      parametersOf segments = parameters := by
  induction segments generalizing known parameters with
  | nil => simp [parameters?, parametersOf]
  | cons segment rest ih =>
      cases segment with
      | literal text => exact ih
      | dynamic name optional separator =>
          rw [parameterNames_dynamic, List.nodup_cons, List.forall_mem_cons]
          cases hKnown : known.lookup (parameterName name) with
          | some earlier =>
              have hMem : ¬parameterName name ∉ known.map Prod.fst := fun hNot => by
                rw [lookup_eq_none_iff_not_mem.mpr hNot] at hKnown
                cases hKnown
              simp only [parameters?, hKnown, reduceCtorEq, hMem, false_and, and_false]
          | none =>
              have hFresh := lookup_eq_none_iff_not_mem.mp hKnown
              simp only [parameters?, hKnown, map_eq_ok_iff, ih, List.map_cons, List.mem_cons,
                not_or]
              constructor
              · rintro ⟨others, ⟨⟨hNodup, hRest⟩, rfl⟩, rfl⟩
                refine ⟨⟨⟨fun hMem => (hRest _ hMem).1 rfl, hNodup⟩, hFresh, ?_⟩, rfl⟩
                exact fun other hOther => (hRest other hOther).2
              · rintro ⟨⟨⟨hName, hNodup⟩, -, hRest⟩, rfl⟩
                refine ⟨_, ⟨⟨hNodup, fun other hOther => ⟨?_, hRest other hOther⟩⟩, rfl⟩, rfl⟩
                rintro rfl
                exact hName hOther

/-- Parameter names are identifiers of ASCII. -/
theorem isPlain_parameterName (name : String) : Name.IsPlain (parameterName name).toList :=
  Name.isPlain_sanitize name (by decide)

theorem isTaken_parameterName (name : String) : Name.isTaken (parameterName name) = false :=
  Name.isTaken_sanitize name "param"

end RoutePaths.Function
