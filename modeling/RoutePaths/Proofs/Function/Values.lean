import RoutePaths.Proofs.Function.AbsolutePath
import RoutePaths.Proofs.Splitting
import RoutePaths.Proofs.Text.Percent

/-! What a path tells of the values in it. Behind every value there is a slash or nothing at all,
so values that are escaped without slashes can neither move a slash nor make up for each other:
all of them can be read off the path again. -/
namespace RoutePaths
open Template

namespace Segment

variable {α : Type} {escape : α → String} {first second : String → Option α} {path : List Segment}

/-- Two assignments for the segments of a body. They leave out the same ones, and none that is
required. -/
structure LeavesOutAlike (first second : String → Option α) (path : List Segment) : Prop where
  body : ∀ segment ∈ path, IsBodySegment segment
  firstSupplies : Supplies first path
  secondSupplies : Supplies second path
  optional : ∀ name separator, .dynamic name true separator ∈ path →
    (first name).isSome = (second name).isSome

namespace LeavesOutAlike

theorem tail {segment : Segment} (h : LeavesOutAlike first second (segment :: path)) :
    LeavesOutAlike first second path where
  body := (List.forall_mem_cons.mp h.body).2
  firstSupplies := h.firstSupplies.tail
  secondSupplies := h.secondSupplies.tail
  optional name separator hSegment := h.optional name separator (List.mem_cons_of_mem _ hSegment)

/-- A name is given two values, or none. -/
theorem cases {name separator : String} {optional : Bool}
    (h : LeavesOutAlike first second (.dynamic name optional separator :: path)) :
    (first name = none ∧ second name = none) ∨
      ∃ value other, first name = some value ∧ second name = some other := by
  have hSame : (first name).isSome = (second name).isSome := by
    cases optional with
    | false =>
        rw [h.firstSupplies name separator List.mem_cons_self,
          h.secondSupplies name separator List.mem_cons_self]
    | true => exact h.optional name separator List.mem_cons_self
  cases hFirst : first name with
  | none =>
      rw [hFirst, Option.isSome_none] at hSame
      exact Or.inl ⟨rfl, by simpa using hSame.symm⟩
  | some value =>
      rw [hFirst, Option.isSome_some] at hSame
      obtain ⟨other, hOther⟩ := Option.isSome_iff_exists.mp hSame.symm
      exact Or.inr ⟨value, other, rfl, hOther⟩

/-- Values without slashes add none. -/
theorem count_renderedAll (h : LeavesOutAlike first second path)
    (hSlash : ∀ value, '/' ∉ (escape value).toList) :
    (renderedAll escape first path).toList.count '/' =
      (renderedAll escape second path).toList.count '/' := by
  induction path with
  | nil => rfl
  | cons segment rest ih =>
      rw [renderedAll_cons, renderedAll_cons, String.toList_append, String.toList_append,
        List.count_append, List.count_append, ih h.tail]
      congr 1
      cases segment with
      | literal text => rfl
      | dynamic name optional separator =>
          rcases h.cases with ⟨hFirst, hSecond⟩ | ⟨value, other, hFirst, hSecond⟩
          · rw [rendered, rendered, hFirst, hSecond]
          · simp only [rendered, hFirst, hSecond, String.toList_append, List.count_append,
              List.count_eq_zero_of_not_mem (hSlash value),
              List.count_eq_zero_of_not_mem (hSlash other)]

end LeavesOutAlike

variable (escape) in
/-- What stands behind a value starts with a slash, if anything stands there. -/
theorem eq_slash_of_mem_head? (h : ∀ segment ∈ path, IsBodySegment segment)
    (hGiven : Supplies first path) :
    ∀ c ∈ (renderedAll escape first path).toList.head?, c = '/' := by
  by_cases hOmitted : ∀ segment ∈ path, IsOmitted first segment
  · rw [renderedAll_of_isOmitted hOmitted]
    simp
  · have hAbsolute : _ = some '/' := isAbsolute_renderedAll escape h hGiven hOmitted
    rw [hAbsolute]
    simp

/-- Text of a body is there as soon as there are slashes. -/
theorem renderedAll_eq_empty_iff (hBody : ∀ segment ∈ path, IsBodySegment segment)
    (hGiven : Supplies first path) :
    renderedAll escape first path = "" ↔ (renderedAll escape first path).toList.count '/' = 0 := by
  have hSlash := eq_slash_of_mem_head? escape hBody hGiven
  rw [← String.toList_eq_nil_iff]
  cases hText : (renderedAll escape first path).toList with
  | nil => simp
  | cons c rest =>
      rw [hText] at hSlash
      rw [hSlash c rfl]
      simp

namespace LeavesOutAlike

/-- From equal paths the escaped values can be told one by one, from the left. -/
theorem escaped_eq_of_renderedAll_eq (h : LeavesOutAlike first second path)
    (hSlash : ∀ value, '/' ∉ (escape value).toList)
    (hPath : (renderedAll escape first path).toList = (renderedAll escape second path).toList) :
    ∀ name ∈ names path, (first name).map escape = (second name).map escape := by
  induction path with
  | nil => simp
  | cons segment rest ih =>
      have hRest := ih h.tail
      rw [renderedAll_cons, renderedAll_cons, String.toList_append, String.toList_append] at hPath
      cases segment with
      | literal text => exact hRest (List.append_cancel_left hPath)
      | dynamic name optional separator =>
          rw [names_dynamic, List.forall_mem_cons]
          rcases h.cases with ⟨hNone, hOther⟩ | ⟨value, other, hSome, hOther⟩
          · simp only [rendered, hNone, hOther, String.toList_empty, List.nil_append] at hPath
            exact ⟨by rw [hNone, hOther], hRest hPath⟩
          · simp only [rendered, hSome, hOther, String.toList_append, List.append_assoc] at hPath
            obtain ⟨hValue, hBehind⟩ := Splitting.append_inj_of_head? (List.append_cancel_left hPath)
              (hSlash value) (hSlash other)
              (eq_slash_of_mem_head? escape h.tail.body h.tail.firstSupplies)
              (eq_slash_of_mem_head? escape h.tail.body h.tail.secondSupplies)
            exact ⟨by rw [hSome, hOther, Option.map_some, Option.map_some,
              String.toList_inj.mp hValue], hRest hBehind⟩

/-- The path is the root under both assignments, or under none. -/
theorem renderedAll_eq_empty_iff (h : LeavesOutAlike first second path)
    (hSlash : ∀ value, '/' ∉ (escape value).toList) :
    renderedAll escape first path = "" ↔ renderedAll escape second path = "" := by
  rw [Segment.renderedAll_eq_empty_iff h.body h.firstSupplies,
    Segment.renderedAll_eq_empty_iff h.body h.secondSupplies, h.count_renderedAll hSlash]

theorem count_path (h : LeavesOutAlike first second path)
    (hSlash : ∀ value, '/' ∉ (escape value).toList) :
    (Segment.path escape first path).toList.count '/' =
      (Segment.path escape second path).toList.count '/' := by
  have hRoot := h.renderedAll_eq_empty_iff hSlash
  by_cases hEmpty : renderedAll escape first path = ""
  · rw [Segment.path, Segment.path, if_pos hEmpty, if_pos (hRoot.mp hEmpty)]
  · rw [Segment.path, Segment.path, if_neg hEmpty, if_neg (mt hRoot.mpr hEmpty),
      h.count_renderedAll hSlash]

theorem renderedAll_eq_of_path_eq (h : LeavesOutAlike first second path)
    (hSlash : ∀ value, '/' ∉ (escape value).toList)
    (hPath : Segment.path escape first path = Segment.path escape second path) :
    renderedAll escape first path = renderedAll escape second path := by
  have hRoot := h.renderedAll_eq_empty_iff hSlash
  by_cases hEmpty : renderedAll escape first path = ""
  · rw [hEmpty, hRoot.mp hEmpty]
  · rwa [Segment.path, Segment.path, if_neg hEmpty, if_neg (mt hRoot.mpr hEmpty)] at hPath

end LeavesOutAlike

end Segment

namespace Function
open Statement

/-- Arguments cannot change the shape of a path. Let values be converted to texts, and texts be
quoted so that different ones stay different and none has a slash. Then two calls of a function
of a template without the format that leave out the same arguments give paths with the same
number of slashes, and equal paths only if the texts of all arguments are the same. -/
theorem returned_texts {α : Type} {quote : String → String} (textOf : α → String)
    (hQuote : Function.Injective quote) (hSlash : ∀ text, '/' ∉ (quote text).toList)
    {uri module label : String} {segments : List Segment} {parameters : List Parameter}
    (hRead : read uri = .ok segments) (hSuffix : ¬ formatSuffix <:+ uri.toList)
    (hParameters : parameters? module label [] segments = .ok parameters)
    {first second : String → Option α} (hFirst : Segment.Supplies first segments)
    (hSecond : Segment.Supplies second segments)
    (hSame : ∀ name separator, .dynamic name true separator ∈ segments →
      (first name).isSome = (second name).isSome) :
    ∃ path other : String,
      (returned? (bodyLines (bodyOf segments))).bind (Expression.eval (fun value => quote (textOf value))
        (scopeOf parameters ((Segment.names segments).map first))) = some (.text path) ∧
      (returned? (bodyLines (bodyOf segments))).bind (Expression.eval (fun value => quote (textOf value))
        (scopeOf parameters ((Segment.names segments).map second))) = some (.text other) ∧
      path.toList.count '/' = other.toList.count '/' ∧
      (path = other → ∀ name ∈ Segment.names segments,
        (first name).map textOf = (second name).map textOf) := by
  obtain ⟨⟨hDistinct, -⟩, rfl⟩ := parameters?_eq_ok_iff.mp hParameters
  have hAlike : Segment.LeavesOutAlike first second segments :=
    ⟨isBodySegment_of_read hRead hSuffix, hFirst, hSecond, hSame⟩
  have hPlain : ∀ value, '/' ∉ (quote (textOf value)).toList := fun value => hSlash (textOf value)
  have hReturned {given : String → Option α} (hGiven : Segment.Supplies given segments) :
      (returned? (bodyLines (bodyOf segments))).bind (Expression.eval (fun value => quote (textOf value))
        (scopeOf (parametersOf segments) ((Segment.names segments).map given))) =
      some (.text (Segment.path (fun value => quote (textOf value)) given segments)) := by
    rw [returned?_bodyOf, Option.bind_some]
    exact eval_bodyExpression (binds_scopeOf hDistinct given) hGiven fun _ _ hSegment =>
      separator_of_read hRead hSegment
  refine ⟨_, _, hReturned hFirst, hReturned hSecond, hAlike.count_path hPlain,
    fun hPath name hName => ?_⟩
  have hAll := hAlike.renderedAll_eq_of_path_eq hPlain hPath
  have hEscaped := hAlike.escaped_eq_of_renderedAll_eq hPlain (congrArg String.toList hAll) name hName
  rw [← Function.comp_def, ← Option.map_map, ← Option.map_map] at hEscaped
  exact Option.map_injective hQuote hEscaped

/-- A template with a required name and an optional one. -/
def pagedSegments : List Segment :=
  [.literal "reports", .dynamic "class" false "/", .dynamic "page" true "/page/"]

/-- Texts and numbers as arguments. -/
def pagedValues (report : String) (page : String ⊕ Int) (name : String) : Option (String ⊕ Int) :=
  [("class", .inl report), ("page", page)].lookup name

/-- A value that looks like the quoted form of another one gives another path. -/
theorem returned_texts_paged :
    read "/reports/:class(/page/:page)" = .ok pagedSegments ∧
    ∃ parameters path other,
      parameters? "Routes" "'report' (GET, line 2)" [] pagedSegments = .ok parameters ∧
      (returned? (bodyLines (bodyOf pagedSegments))).bind (Expression.eval
        (fun value => Percent.encode (Sum.elim id Int.repr value))
        (scopeOf parameters ((Segment.names pagedSegments).map (pagedValues "a/b" (.inr 7))))) =
          some (.text path) ∧
      (returned? (bodyLines (bodyOf pagedSegments))).bind (Expression.eval
        (fun value => Percent.encode (Sum.elim id Int.repr value))
        (scopeOf parameters ((Segment.names pagedSegments).map (pagedValues "a%2Fb" (.inl "7"))))) =
          some (.text other) ∧
      path.toList.count '/' = other.toList.count '/' ∧ path ≠ other := by
  have hDerives : Template.Derivation.Derives
      ⟨.sequence [⟨[.literal "reports".toList, .required ':' "class".toList],
        true, ["page".toList], ':', "page".toList⟩] [], false⟩
      "/reports/:class(/page/:page)".toList := by
    decide
  have hRead : read "/reports/:class(/page/:page)" = .ok pagedSegments := hDerives.read
  have hSuffix : ¬ formatSuffix <:+ "/reports/:class(/page/:page)".toList := by decide
  have hParameters : parameters? "Routes" "'report' (GET, line 2)" [] pagedSegments =
      .ok (parametersOf pagedSegments) :=
    parameters?_eq_ok_iff.mpr ⟨⟨by decide, by simp⟩, rfl⟩
  have hGiven (report : String) (page : String ⊕ Int) :
      Segment.Supplies (pagedValues report page) pagedSegments := by
    intro name separator hSegment
    simp only [pagedSegments, List.mem_cons, Segment.dynamic.injEq, reduceCtorEq, Bool.false_eq_true,
      false_and, and_false, or_false, false_or, List.not_mem_nil] at hSegment
    rw [hSegment.1]
    rfl
  have hSame : ∀ name separator, .dynamic name true separator ∈ pagedSegments →
      (pagedValues "a/b" (.inr 7) name).isSome = (pagedValues "a%2Fb" (.inl "7") name).isSome := by
    intro name separator hSegment
    simp only [pagedSegments, List.mem_cons, Segment.dynamic.injEq, reduceCtorEq, Bool.true_eq_false,
      false_and, and_false, or_false, false_or, List.not_mem_nil, true_and] at hSegment
    rw [hSegment.1]
    rfl
  obtain ⟨path, other, hPath, hOther, hCount, hTexts⟩ :=
    returned_texts (Sum.elim id Int.repr) Percent.encode_injective Percent.slash_not_mem_encode
      hRead hSuffix hParameters (hGiven "a/b" (.inr 7)) (hGiven "a%2Fb" (.inl "7")) hSame
  refine ⟨hRead, _, path, other, hParameters, hPath, hOther, hCount, fun hEqual => ?_⟩
  have hClass := hTexts hEqual "class" (by decide)
  exact absurd (Option.some.inj hClass) (by decide)

end Function

end RoutePaths
