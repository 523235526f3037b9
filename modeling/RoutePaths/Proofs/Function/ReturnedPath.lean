import RoutePaths.Proofs.Function.Scope
import RoutePaths.Proofs.Uri.Path
import RoutePaths.Proofs.Uri.Reading
import Mathlib

/-! The function of a route returns the path of its template. The pieces of a
body are not the segments of the template: fixed texts are joined across
segments, and a required separator goes into the text in front of it. What
the pieces have in common with the segments is the text that they make up
together, with what is still pending in front. -/
namespace RoutePaths.Function
open Association Statement

variable {α : Type}

/-- The names that a call binds, when the values are given in the order of the
parameters. -/
def scopeOf (parameters : List Parameter) (values : List (Option α)) : String → Option (Datum α) :=
  fun name => ((parameters.map (·.name)).zip (values.map Datum.ofOption)).lookup name

/-- The pieces evaluate to texts that make up the given text. -/
def MakesUp (escape : α → String) (scope : String → Option (Datum α)) (pieces : List Piece)
    (whole : String) : Prop :=
  ∃ texts, List.Forall₂ (fun piece text => (expressionOf piece).eval escape scope = some (.text text))
    pieces texts ∧ String.join texts = whole

section

variable {escape : α → String} {scope : String → Option (Datum α)}

theorem MakesUp.nil : MakesUp escape scope [] "" :=
  ⟨[], List.Forall₂.nil, rfl⟩

theorem MakesUp.cons {piece : Piece} {rest : List Piece} {text whole : String}
    (hPiece : (expressionOf piece).eval escape scope = some (.text text))
    (hRest : MakesUp escape scope rest whole) :
    MakesUp escape scope (piece :: rest) (text ++ whole) := by
  obtain ⟨texts, hTexts, rfl⟩ := hRest
  exact ⟨text :: texts, List.Forall₂.cons hPiece hTexts, by simp⟩

/-- Text that is still to be written counts, whether or not it is a piece. -/
theorem MakesUp.flush {pieces : List Piece} {whole : String} (pending : String)
    (h : MakesUp escape scope pieces whole) :
    MakesUp escape scope (flush pending ++ pieces) (pending ++ whole) := by
  unfold Function.flush
  split
  · rename_i hEmpty
    simpa [hEmpty] using h
  · exact MakesUp.cons rfl h

/-- A sum evaluates to the text that its operands make up. -/
theorem eval_sumOf {first : Expression} {text : String} {rest : List Piece} {whole : String}
    (hFirst : first.eval escape scope = some (.text text)) (hRest : MakesUp escape scope rest whole) :
    (sumOf first rest).eval escape scope = some (.text (text ++ whole)) := by
  obtain ⟨texts, hTexts, rfl⟩ := hRest
  induction hTexts generalizing first text with
  | nil => simpa [sumOf] using hFirst
  | @cons piece pieceText rest texts hPiece _ ih =>
      have hSum : (Expression.sum first (expressionOf piece)).eval escape scope =
          some (.text (text ++ pieceText)) := by
        simp [Expression.eval, hFirst, hPiece, Datum.add?]
      have hAll := ih hSum
      simpa [sumOf, String.append_assoc] using hAll

/-- The helper can be called and the parameters are bound as given. -/
structure Binds (scope : String → Option (Datum α)) (given : String → Option α)
    (names : List String) : Prop where
  helper : scope Expression.escapeHelper = none
  parameter : ∀ name ∈ names, scope (parameterName name) = some (.ofOption (given name))

variable {given : String → Option α}

variable (escape) in
theorem eval_callOf (hHelper : scope Expression.escapeHelper = none) {name : String} {value : α}
    (hName : scope (parameterName name) = some (.argument value)) :
    (callOf (parameterName name)).eval escape scope = some (.text (escape value)) := by
  simp [callOf, Expression.eval, hHelper, hName]

/-- An optional piece evaluates to the text of its segment. -/
theorem eval_optional {names : List String} (hBinds : Binds scope given names) {name : String}
    (hName : name ∈ names) (separator : String) :
    (expressionOf (.optional (parameterName name) separator)).eval escape scope =
      some (.text (Segment.rendered escape given (.dynamic name true separator))) := by
  have hScope := hBinds.parameter name hName
  cases hGiven : given name with
  | none =>
      rw [hGiven] at hScope
      simp [expressionOf, Expression.eval, hScope, Datum.ofOption, Datum.same?, Datum.isTrue?,
        Segment.rendered, hGiven]
  | some value =>
      rw [hGiven] at hScope
      have hCall := eval_callOf escape hBinds.helper hScope
      simp [expressionOf, Expression.eval, hScope, Datum.ofOption, Datum.same?, Datum.isTrue?,
        Segment.rendered, hGiven, hCall, Datum.add?]

variable (escape) in
/-- The pieces of segments make up what is pending and then the texts of the
segments. -/
theorem makesUp_pieces {segments : List Segment} (pending : String)
    (hBinds : Binds scope given (Segment.names segments)) (hGiven : Segment.Supplies given segments) :
    MakesUp escape scope (pieces pending segments)
      (pending ++ Segment.renderedAll escape given segments) := by
  induction segments generalizing pending with
  | nil =>
      have hNil : MakesUp escape scope [] "" := MakesUp.nil
      simpa [pieces] using hNil.flush pending
  | cons segment rest ih =>
      have hRest := fun pending hBinds => ih pending hBinds hGiven.tail
      rw [Segment.renderedAll_cons]
      cases segment with
      | literal text =>
          have hAll := hRest (pending ++ "/" ++ text) hBinds
          simpa [pieces, Segment.rendered, String.append_assoc] using hAll
      | dynamic name optional separator =>
          rw [Segment.names_dynamic] at hBinds
          have hName : name ∈ name :: Segment.names rest := List.mem_cons_self ..
          have hAll := hRest "" ⟨hBinds.helper,
            fun other hOther => hBinds.parameter other (List.mem_cons_of_mem _ hOther)⟩
          rw [String.empty_append] at hAll
          cases optional with
          | true =>
              exact (MakesUp.cons (eval_optional hBinds hName separator) hAll).flush pending
          | false =>
              obtain ⟨value, hValue⟩ := Option.isSome_iff_exists.mp
                (hGiven name separator (List.mem_cons_self ..))
              have hScope := hBinds.parameter name hName
              rw [hValue] at hScope
              have hCall := eval_callOf escape hBinds.helper hScope
              have hText : (expressionOf (.text (pending ++ separator))).eval escape scope =
                  some (.text (pending ++ separator)) := rfl
              have hValueText : (expressionOf (.value (parameterName name))).eval escape scope =
                  some (.text (escape value)) := hCall
              have hWhole := MakesUp.cons hText (MakesUp.cons hValueText hAll)
              simpa [pieces, Segment.rendered, hValue, String.append_assoc] using hWhole

variable (escape) in
/-- A path with a segment that cannot be left out is not empty. -/
theorem renderedAll_ne_empty {segments : List Segment} (hGiven : Segment.Supplies given segments)
    (hSeparator : ∀ name separator, .dynamic name false separator ∈ segments → separator = "/")
    (hFixed : isAllOptional segments = false) : Segment.renderedAll escape given segments ≠ "" := by
  obtain ⟨segment, hSegment, hKind⟩ := List.all_eq_false.mp hFixed
  obtain ⟨front, back, rfl⟩ := List.append_of_mem hSegment
  have hStart : ∃ tail, Segment.rendered escape given segment = "/" ++ tail := by
    cases segment with
    | literal text => exact ⟨text, rfl⟩
    | dynamic name optional separator =>
        cases optional with
        | true => simp at hKind
        | false =>
            obtain ⟨value, hValue⟩ := Option.isSome_iff_exists.mp (hGiven name separator hSegment)
            refine ⟨escape value, ?_⟩
            simp [Segment.rendered, hValue, hSeparator name separator hSegment]
  obtain ⟨tail, hTail⟩ := hStart
  intro hEmpty
  have hText := congrArg String.toList hEmpty
  simp [Segment.renderedAll, hTail] at hText

/-- The value of a body is the path of its segments. -/
theorem eval_bodyExpression {segments : List Segment}
    (hBinds : Binds scope given (Segment.names segments)) (hGiven : Segment.Supplies given segments)
    (hSeparator : ∀ name separator, .dynamic name false separator ∈ segments → separator = "/") :
    (bodyExpression (bodyOf segments)).eval escape scope =
      some (.text (Segment.path escape given segments)) := by
  have hPieces := makesUp_pieces escape "" hBinds hGiven
  have hFixed := renderedAll_ne_empty escape hGiven hSeparator
  rw [String.empty_append] at hPieces
  unfold bodyExpression bodyOf Segment.path
  generalize Segment.renderedAll escape given segments = whole at hPieces hFixed ⊢
  generalize pieces "" segments = pieces at hPieces ⊢
  obtain ⟨texts, hTexts, rfl⟩ := hPieces
  cases hTexts with
  | nil => rfl
  | @cons first text rest texts hFirst hRest =>
      have hSum := eval_sumOf hFirst ⟨texts, hRest, rfl⟩
      rw [String.join_cons] at hFixed ⊢
      cases hOptional : isAllOptional segments with
      | false => simpa [hFixed hOptional] using hSum
      | true =>
          by_cases hEmpty : text ++ String.join texts = ""
          · simp [Expression.eval, hSum, hEmpty, Datum.isTrue?]
          · simp [Expression.eval, hSum, hEmpty, Datum.isTrue?]

end

/-- A call binds each parameter to the value given to its name, if no two
names share a parameter. The helper keeps its own name, because no parameter
can have it. -/
theorem binds_scopeOf {segments : List Segment} (hDistinct : (parameterNames segments).Nodup)
    (given : String → Option α) :
    Binds (scopeOf (parametersOf segments) ((Segment.names segments).map given)) given
      (Segment.names segments) := by
  have hPairs : ((parametersOf segments).map (·.name)).zip
        (((Segment.names segments).map given).map Datum.ofOption) =
      (Segment.names segments).map fun name => (parameterName name, Datum.ofOption (given name)) := by
    rw [map_name_parametersOf, parameterNames, List.map_map, List.zip_map']
    rfl
  constructor
  · rw [scopeOf, hPairs, lookup_eq_none_iff_not_mem]
    intro hMem
    simp only [List.map_map, List.mem_map, Function.comp_apply] at hMem
    obtain ⟨name, -, hName⟩ := hMem
    have hFree := isTaken_parameterName name
    rw [hName] at hFree
    exact absurd hFree (by decide)
  · intro name hName
    rw [scopeOf, hPairs]
    exact lookup_map_of_nodup parameterName _ hDistinct hName

theorem parameter_of_mem_pieces {segments : List Segment} {pending : String} {piece : Piece}
    (hPiece : piece ∈ pieces pending segments) :
    ∀ parameter ∈ parameterOf? piece, ∃ name, parameter = parameterName name := by
  intro parameter hParameter
  obtain ⟨name, -, hName⟩ :=
    List.mem_map.mp (mem_parameterNames_of_mem_pieces hPiece parameter hParameter)
  exact ⟨name, hName.symm⟩

/-- The lines of a function body are read as the expression that they were written for. -/
theorem returned?_bodyOf (segments : List Segment) :
    returned? (bodyLines (bodyOf segments)) = some (bodyExpression (bodyOf segments)) := by
  apply returned?_bodyLines
  intro piece hPiece parameter hParameter
  obtain ⟨name, rfl⟩ := parameter_of_mem_pieces hPiece parameter hParameter
  exact ⟨isPlain_parameterName name, isTaken_parameterName name⟩

/-- Running the lines of a function body on arguments for the parameters that
the function declares gives the path of the template. The lines are read as
text, so this is about what is written down. The values may be of any type,
and nothing is assumed of how they are escaped. -/
theorem returned_path (escape : α → String) {uri : String} {segments : List Segment}
    (hRead : Template.read uri = .ok segments) (hDistinct : (parameterNames segments).Nodup)
    (given : String → Option α) (hGiven : Segment.Supplies given segments) (module label : String) :
    ∃ parameters, parameters? module label [] segments = .ok parameters ∧
      (returned? (bodyLines (bodyOf segments))).bind (Expression.eval escape
        (scopeOf parameters ((Segment.names segments).map given))) =
      some (.text (Segment.path escape given segments)) := by
  refine ⟨parametersOf segments, parameters?_eq_ok_iff.mpr ⟨⟨hDistinct, by simp⟩, rfl⟩, ?_⟩
  have hLines : returned? (bodyLines (bodyOf segments)) = some (bodyExpression (bodyOf segments)) := by
    apply returned?_bodyLines
    intro piece hPiece parameter hParameter
    obtain ⟨name, rfl⟩ := parameter_of_mem_pieces hPiece parameter hParameter
    exact ⟨isPlain_parameterName name, isTaken_parameterName name⟩
  rw [hLines, Option.bind_some]
  exact eval_bodyExpression (binds_scopeOf hDistinct given) hGiven fun _ _ hSegment =>
    Template.separator_of_read hRead hSegment

/-- A template with segments of each kind. One of its names is a keyword, so
its parameter has another name. -/
def reportSegments : List Segment :=
  [.literal "reports", .dynamic "class" false "/", .dynamic "page" true "/page/",
    .dynamic "format" true "."]

/-- Values that leave out the optional segment in the middle. -/
def reportValues (name : String) : Option String :=
  [("class", "7"), ("format", "csv")].lookup name

theorem returned_path_report :
    Template.read "/reports/:class(/page/:page)(.:format)" = .ok reportSegments ∧
    (parameterNames reportSegments).Nodup ∧ Segment.Supplies reportValues reportSegments ∧
    ∃ parameters, parameters? "Routes" "'report' (GET, line 2)" [] reportSegments = .ok parameters ∧
      (returned? (bodyLines (bodyOf reportSegments))).bind (Expression.eval id
        (scopeOf parameters ((Segment.names reportSegments).map reportValues))) =
      some (.text "/reports/7.csv") := by
  have hRead : Template.read "/reports/:class(/page/:page)(.:format)" = .ok reportSegments := by cbv
  have hDistinct : (parameterNames reportSegments).Nodup := by decide
  have hGiven : Segment.Supplies reportValues reportSegments := by
    intro name separator hSegment
    simp only [reportSegments, List.mem_cons, Segment.dynamic.injEq, reduceCtorEq, Bool.false_eq_true,
      false_and, and_false, or_false, false_or, List.not_mem_nil] at hSegment
    rw [hSegment.1]
    decide
  exact ⟨hRead, hDistinct, hGiven,
    returned_path id hRead hDistinct reportValues hGiven "Routes" "'report' (GET, line 2)"⟩

end RoutePaths.Function
