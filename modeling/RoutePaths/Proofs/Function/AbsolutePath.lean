import RoutePaths.Proofs.Function.ReturnedPath
import RoutePaths.Proofs.Uri.Writing

/-! Where the paths of generated functions start. All text that a template can leave out
starts with a slash, except for the format: a path that consists of nothing else starts
with a dot. -/
namespace RoutePaths
open Template

/-- The path starts at the root. -/
def IsAbsolute (path : String) : Prop :=
  path.toList.head? = some '/'

instance : DecidablePred IsAbsolute := fun path =>
  inferInstanceAs (Decidable (path.toList.head? = some '/'))

theorem IsAbsolute.append {path : String} (h : IsAbsolute path) (more : String) :
    IsAbsolute (path ++ more) := by
  rw [IsAbsolute, String.toList_append, List.head?_append, h]
  rfl

theorem IsAbsolute.ne_empty {path : String} (h : IsAbsolute path) : path ≠ "" := by
  rintro rfl
  cases h

theorem isAbsolute_slash_append (text : String) : IsAbsolute ("/" ++ text) :=
  IsAbsolute.append (by decide) text

namespace Segment

variable {α : Type} (given : String → Option α)

/-- The segment can be left out, and it is. -/
def IsOmitted : Segment → Prop
  | dynamic name true _ => given name = none
  | _ => False

/-- Of all segments only the format is there. -/
structure OnlyFormat (segments : List Segment) : Prop where
  front : ∀ segment ∈ segments.dropLast, IsOmitted given segment
  last : segments.getLast? = some formatSegment
  value : (given "format").isSome = true

variable {given} {escape : α → String}

theorem rendered_of_isOmitted {segment : Segment} (h : IsOmitted given segment) :
    rendered escape given segment = "" := by
  match segment, h with
  | dynamic name true separator, hName =>
      rw [IsOmitted] at hName
      rw [rendered, hName]

theorem renderedAll_of_isOmitted {path : List Segment} (h : ∀ segment ∈ path, IsOmitted given segment) :
    renderedAll escape given path = "" := by
  induction path with
  | nil => rfl
  | cons segment rest ih =>
      rw [List.forall_mem_cons] at h
      rw [renderedAll_cons, rendered_of_isOmitted h.1, ih h.2, String.append_empty]

variable (escape) in
/-- A segment of a body brings a slash with it, unless it is left out. -/
theorem isAbsolute_rendered {segment : Segment} (h : IsBodySegment segment)
    (hGiven : Supplies given [segment]) (hThere : ¬ IsOmitted given segment) :
    IsAbsolute (rendered escape given segment) := by
  cases segment with
  | literal text => exact isAbsolute_slash_append text
  | dynamic name optional separator =>
      have hAbsolute : IsAbsolute separator := by
        cases optional with
        | false => exact h.2 ▸ by decide
        | true =>
            obtain ⟨-, chunks, -, hSeparator⟩ := h
            rw [IsAbsolute, hSeparator]
            rfl
      cases hName : given name with
      | some value => simpa [rendered, hName] using hAbsolute.append (escape value)
      | none =>
          cases optional with
          | true => exact absurd hName hThere
          | false =>
              have hSome := hGiven name separator (List.mem_singleton_self _)
              rw [hName] at hSome
              cases hSome

variable (escape) in
/-- The first segment of a body that is there decides where the path starts. -/
theorem isAbsolute_renderedAll {path : List Segment} (h : ∀ segment ∈ path, IsBodySegment segment)
    (hGiven : Supplies given path) (hThere : ¬ ∀ segment ∈ path, IsOmitted given segment) :
    IsAbsolute (renderedAll escape given path) := by
  induction path with
  | nil => exact absurd (by simp) hThere
  | cons segment rest ih =>
      rw [List.forall_mem_cons] at h hThere
      rw [renderedAll_cons]
      by_cases hOmitted : IsOmitted given segment
      · rw [rendered_of_isOmitted hOmitted, String.empty_append]
        exact ih h.2 hGiven.tail fun hRest => hThere ⟨hOmitted, hRest⟩
      · have hFirst : Supplies given [segment] := fun name separator hMem =>
          hGiven name separator (List.mem_singleton.mp hMem ▸ List.mem_cons_self ..)
        exact (isAbsolute_rendered escape h.1 hFirst hOmitted).append _

theorem renderedAll_append (front back : List Segment) :
    renderedAll escape given (front ++ back) =
      renderedAll escape given front ++ renderedAll escape given back := by
  simp [renderedAll]

variable (escape) in
/-- Where only the format is there, the path is the format behind a dot. -/
theorem OnlyFormat.exists_path_eq {segments : List Segment} (h : OnlyFormat given segments) :
    ∃ value, given "format" = some value ∧ path escape given segments = "." ++ escape value := by
  obtain ⟨value, hValue⟩ := Option.isSome_iff_exists.mp h.value
  have hSegments : segments.dropLast ++ [formatSegment] = segments :=
    List.dropLast_append_getLast? _ h.last
  have hAll : renderedAll escape given segments = "." ++ escape value := by
    rw [← hSegments, renderedAll_append, renderedAll_of_isOmitted h.front]
    simp [formatSegment, rendered, hValue]
  refine ⟨value, hValue, ?_⟩
  rw [path, hAll, if_neg]
  intro hEmpty
  have hText := congrArg String.toList hEmpty
  simp at hText

/-- A path starts with a slash exactly if more than the format is there. -/
theorem isAbsolute_path_iff {segments : List Segment} {uri : String}
    (hRead : read uri = .ok segments) (hGiven : Supplies given segments) :
    IsAbsolute (path escape given segments) ↔ ¬ OnlyFormat given segments := by
  constructor
  · intro hAbsolute hOnly
    obtain ⟨value, -, hPath⟩ := hOnly.exists_path_eq escape
    rw [hPath, IsAbsolute, String.toList_append] at hAbsolute
    exact absurd (Option.some.inj hAbsolute) (by decide)
  · intro hMore
    obtain ⟨front, hasFormat, hFront, -, rfl⟩ := exists_path_of_read hRead
    have hBody : Supplies given front := fun name separator hMem =>
      hGiven name separator (List.mem_append_left _ hMem)
    by_cases hOmitted : ∀ segment ∈ front, IsOmitted given segment
    -- Nothing of the body is there, so the format is not either and the path is the root.
    · have hFormat : renderedAll escape given (formatSegments hasFormat) = "" := by
        cases hasFormat with
        | false => rfl
        | true =>
            cases hName : given "format" with
            | none => simp [formatSegments, formatSegment, rendered, hName]
            | some value =>
                refine absurd ⟨?_, ?_, by rw [hName]; rfl⟩ hMore
                · rwa [formatSegments, if_pos rfl, List.dropLast_concat]
                · rw [formatSegments, if_pos rfl, List.getLast?_concat]
      rw [path, renderedAll_append, renderedAll_of_isOmitted hOmitted, hFormat]
      decide
    · have hSlash := isAbsolute_renderedAll escape hFront hBody hOmitted
      have hWhole := hSlash.append (renderedAll escape given (formatSegments hasFormat))
      rw [← renderedAll_append] at hWhole
      rwa [path, if_neg hWhole.ne_empty]

end Segment

namespace Function
open Statement

variable {α : Type}

/-- The path that a function returns starts with a slash, unless the only text of its template
that is not left out is the format. In that case it is the format behind a dot. -/
theorem returned_isAbsolute_iff (escape : α → String) {uri : String} {segments : List Segment}
    (hRead : read uri = .ok segments) (hDistinct : (parameterNames segments).Nodup)
    (given : String → Option α) (hGiven : Segment.Supplies given segments) (module label : String) :
    ∃ parameters path, parameters? module label [] segments = .ok parameters ∧
      (returned? (bodyLines (bodyOf segments))).bind (Expression.eval escape
        (scopeOf parameters ((Segment.names segments).map given))) = some (.text path) ∧
      (IsAbsolute path ↔ ¬ Segment.OnlyFormat given segments) ∧
      (Segment.OnlyFormat given segments →
        ∃ value, given "format" = some value ∧ path = "." ++ escape value) := by
  refine ⟨parametersOf segments, Segment.path escape given segments,
    parameters?_eq_ok_iff.mpr ⟨⟨hDistinct, by simp⟩, rfl⟩, ?_,
    Segment.isAbsolute_path_iff hRead hGiven, fun hOnly => hOnly.exists_path_eq escape⟩
  have hSeparator : ∀ name separator, .dynamic name false separator ∈ segments → separator = "/" :=
    fun _ _ hSegment => separator_of_read hRead hSegment
  rw [returned?_bodyOf, Option.bind_some]
  exact eval_bodyExpression (binds_scopeOf hDistinct given) hGiven hSeparator

/-- The segments of the root path with an optional scope in front of the format. -/
def scopedSegments : List Segment :=
  [.dynamic "locale" true "/", formatSegment]

/-- Values for the scope and the format. -/
def scopedValues (name : String) : Option String :=
  [("locale", "de"), ("format", "json")].lookup name

theorem returned_isAbsolute_iff_scoped :
    read "(/:locale)(.:format)" = .ok scopedSegments ∧ (parameterNames scopedSegments).Nodup ∧
    Segment.Supplies scopedValues scopedSegments ∧
    ∃ parameters path, parameters? "Routes" "'home' (GET, line 2)" [] scopedSegments = .ok parameters ∧
      (returned? (bodyLines (bodyOf scopedSegments))).bind (Expression.eval id
        (scopeOf parameters ((Segment.names scopedSegments).map scopedValues))) =
        some (.text path) ∧
      IsAbsolute path := by
  have hRead : read "(/:locale)(.:format)" = .ok scopedSegments := by cbv
  have hDistinct : (parameterNames scopedSegments).Nodup := by decide
  have hGiven : Segment.Supplies scopedValues scopedSegments := by
    intro name separator hSegment
    simp [scopedSegments, formatSegment] at hSegment
  obtain ⟨parameters, path, hParameters, hPath, hAbsolute, -⟩ :=
    returned_isAbsolute_iff id hRead hDistinct scopedValues hGiven "Routes" "'home' (GET, line 2)"
  have hMore : ¬ Segment.OnlyFormat scopedValues scopedSegments := fun hOnly => by
    have hLocale : scopedValues "locale" = none := hOnly.front _ (List.mem_cons_self ..)
    exact absurd hLocale (by decide)
  exact ⟨hRead, hDistinct, hGiven, parameters, path, hParameters, hPath, hAbsolute.mpr hMore⟩

/-- A value for the format alone. -/
def jsonValue (name : String) : Option String :=
  [("format", "json")].lookup name

/-- The root path loses its slash when it is given a format. -/
theorem returned_root_not_isAbsolute :
    read "/(.:format)" = .ok [formatSegment] ∧ Segment.Supplies jsonValue [formatSegment] ∧
    ∃ parameters, parameters? "Routes" "'root' (GET, line 2)" [] [formatSegment] = .ok parameters ∧
      (returned? (bodyLines (bodyOf [formatSegment]))).bind (Expression.eval id
        (scopeOf parameters ((Segment.names [formatSegment]).map jsonValue))) =
        some (.text ".json") ∧
      ¬ IsAbsolute ".json" := by
  have hRead : read "/(.:format)" = .ok [formatSegment] := by cbv
  have hDistinct : (parameterNames [formatSegment]).Nodup := by decide
  have hGiven : Segment.Supplies jsonValue [formatSegment] := by
    intro name separator hSegment
    simp [formatSegment] at hSegment
  have hPath : Segment.path id jsonValue [formatSegment] = ".json" := by decide
  refine ⟨hRead, hGiven, _, parameters?_eq_ok_iff.mpr ⟨⟨hDistinct, by simp⟩, rfl⟩, ?_, by decide⟩
  rw [returned?_bodyOf, Option.bind_some, ← hPath]
  exact eval_bodyExpression (binds_scopeOf hDistinct jsonValue) hGiven fun _ _ hSegment =>
    separator_of_read hRead hSegment

end Function

end RoutePaths
