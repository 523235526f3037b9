import RoutePaths.Proofs.Function.Parameters
import RoutePaths.Proofs.Function.StatementReading

/-! The names that the body of a function evaluates. They are read off the statement
that the body is printed as, and there are none but the helper and the parameters of
the function itself. -/
namespace RoutePaths

/-- The names that an expression can evaluate, whichever branches it takes. -/
def Expression.names : Expression → List String
  | text _ => []
  | absent => []
  | name parameter => [parameter]
  | call function argument => function :: argument.names
  | sum left right => left.names ++ right.names
  | same left right => left.names ++ right.names
  | either left right => left.names ++ right.names
  | choice value condition other => value.names ++ condition.names ++ other.names

namespace Statement

theorem mem_names_expressionOf {piece : Piece} {name : String}
    (hName : name ∈ (expressionOf piece).names) :
    name = Expression.escapeHelper ∨ name ∈ parameterOf? piece := by
  cases piece with
  | text text => simp [expressionOf, Expression.names] at hName
  | value parameter =>
      simpa [expressionOf, callOf, Expression.names, parameterOf?, eq_comm] using hName
  | optional parameter separator =>
      simp only [expressionOf, callOf, Expression.names, List.nil_append, List.append_nil,
        List.mem_append, List.mem_cons, List.not_mem_nil, or_false] at hName
      rw [parameterOf?, Option.mem_some_iff]
      rcases hName with hName | hName | hName
      · exact Or.inr hName.symm
      · exact Or.inl hName
      · exact Or.inr hName.symm

/-- A sum evaluates what its operands evaluate. -/
theorem mem_names_sumOf {first : Expression} {pieces : List Piece} {name : String}
    (hName : name ∈ (sumOf first pieces).names) :
    name ∈ first.names ∨ ∃ piece ∈ pieces, name ∈ (expressionOf piece).names := by
  induction pieces generalizing first with
  | nil => exact Or.inl hName
  | cons piece rest ih =>
      rcases ih hName with hFirst | ⟨other, hOther, hMem⟩
      · rw [Expression.names, List.mem_append] at hFirst
        exact hFirst.imp_right fun hMem => ⟨piece, List.mem_cons_self .., hMem⟩
      · exact Or.inr ⟨other, List.mem_cons_of_mem _ hOther, hMem⟩

theorem mem_names_bodyExpression {body : Body} {name : String}
    (hName : name ∈ (bodyExpression body).names) :
    name = Expression.escapeHelper ∨ ∃ piece ∈ body.pieces, name ∈ parameterOf? piece := by
  obtain ⟨pieces, orRoot⟩ := body
  cases pieces with
  | nil => exact absurd hName List.not_mem_nil
  | cons first rest =>
      have hSum : name ∈ (sumOf (expressionOf first) rest).names := by
        cases orRoot with
        | false => exact hName
        | true =>
            rcases List.mem_append.mp hName with hSum | hRoot
            · exact hSum
            · exact absurd hRoot List.not_mem_nil
      rcases mem_names_sumOf hSum with hFirst | ⟨piece, hPiece, hMem⟩
      · exact (mem_names_expressionOf hFirst).imp_right fun hMem =>
          ⟨first, List.mem_cons_self .., hMem⟩
      · exact (mem_names_expressionOf hMem).imp_right fun hMem =>
          ⟨piece, List.mem_cons_of_mem _ hPiece, hMem⟩

end Statement

namespace Function
open Statement

theorem parameter_of_mem_flush {pending : String} {piece : Piece} (hPiece : piece ∈ flush pending) :
    parameterOf? piece = none := by
  unfold flush at hPiece
  split at hPiece
  · simp at hPiece
  · rw [List.mem_singleton.mp hPiece, parameterOf?]

/-- Pieces only read parameters of the path that they are made from. -/
theorem mem_parameterNames_of_mem_pieces {segments : List Segment} {pending : String}
    {piece : Piece} (hPiece : piece ∈ pieces pending segments) :
    ∀ parameter ∈ parameterOf? piece, parameter ∈ parameterNames segments := by
  fun_induction pieces pending segments with
  | case1 pending =>
      rw [parameter_of_mem_flush hPiece]
      simp
  | case2 pending text rest ih => exact ih hPiece
  | case3 pending name separator rest ih =>
      rw [parameterNames_dynamic]
      simp only [List.mem_cons] at hPiece
      rcases hPiece with rfl | rfl | hPiece
      · simp [parameterOf?]
      · simp [parameterOf?]
      · exact fun parameter hParameter => List.mem_cons_of_mem _ (ih hPiece parameter hParameter)
  | case4 pending name separator rest ih =>
      rw [parameterNames_dynamic]
      rcases List.mem_append.mp hPiece with hPiece | hPiece
      · rw [parameter_of_mem_flush hPiece]
        simp
      · rcases List.mem_cons.mp hPiece with rfl | hPiece
        · simp [parameterOf?]
        · exact fun parameter hParameter => List.mem_cons_of_mem _ (ih hPiece parameter hParameter)

/-- The body of a function can be read, and evaluates nothing but the helper and the
parameters of the function. -/
theorem exists_returned (segments : List Segment) :
    ∃ expression, returned? (bodyLines (bodyOf segments)) = some expression ∧
      ∀ name ∈ expression.names, name = Expression.escapeHelper ∨
        name ∈ parameterNames segments := by
  refine ⟨bodyExpression (bodyOf segments), returned?_bodyLines _ ?_, ?_⟩
  · intro piece hPiece parameter hParameter
    obtain ⟨name, -, rfl⟩ :=
      List.mem_map.mp (mem_parameterNames_of_mem_pieces hPiece parameter hParameter)
    exact ⟨isPlain_parameterName name, isTaken_parameterName name⟩
  · intro name hName
    refine (mem_names_bodyExpression hName).imp_right ?_
    rintro ⟨piece, hPiece, hParameter⟩
    exact mem_parameterNames_of_mem_pieces hPiece name hParameter

end Function

end RoutePaths
