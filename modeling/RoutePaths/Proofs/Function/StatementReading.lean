import RoutePaths.Proofs.Function.StatementTokens
import RoutePaths.Proofs.Result

/-! The statement of a function body is read as the expression that the body
stands for. Each piece is one operand, whatever frames and brackets are open
around it, so the pieces become a sum from the left. -/
namespace RoutePaths.Statement
open Result

/-- The call that escapes a parameter. -/
def callOf (parameter : String) : Expression :=
  .call Expression.escapeHelper (.name parameter)

/-- The expression of a piece. -/
def expressionOf : Piece → Expression
  | .text text => .text text
  | .value parameter => callOf parameter
  | .optional parameter separator =>
    .choice (.text "") (.same (.name parameter) .absent) (.sum (.text separator) (callOf parameter))

/-- Pieces added to an expression, from the left. -/
def sumOf (first : Expression) (pieces : List Piece) : Expression :=
  pieces.foldl (fun total piece => .sum total (expressionOf piece)) first

/-- The expression that a body returns. -/
def bodyExpression (body : Body) : Expression :=
  match body.pieces with
  | [] => .text "/"
  | first :: rest =>
    let total := sumOf (expressionOf first) rest
    if body.orRoot then .either total (.text "/") else total

theorem run_append (reader : Reader) (first second : List Token) :
    reader.run (first ++ second) = (reader.run first).bind (·.run second) := by
  simp [Reader.run, List.foldlM_append]

/-- A legal name is an operand, because no word with another meaning is
one. -/
theorem word_of_isLegal (reader : Reader) {name : String} (h : Name.isLegal name = true) :
    reader.word name = reader.give (.name name) := by
  have hKeyword (word : String) (hWord : word ∈ Name.keywords) : name ≠ word := by
    rintro rfl
    simp [Name.isLegal, hWord] at h
  rw [Reader.word, if_neg (hKeyword _ (by decide)), if_neg (hKeyword _ (by decide)),
    if_neg (hKeyword _ (by decide)), if_neg (hKeyword _ (by decide)),
    if_neg (hKeyword _ (by decide)), if_pos h]

theorem run_call {parameter : String} (h : Name.isLegal parameter = true) (frames : List Frame)
    (around : List (Option String × List Frame)) :
    Reader.run ⟨none, frames, around⟩ (callTokens parameter) =
      some ⟨some (callOf parameter), frames, around⟩ := by
  have hHelper : Name.isLegal Expression.escapeHelper = true := by decide
  simp only [Reader.run, callTokens, List.foldlM_cons, List.foldlM_nil, Reader.step,
    word_of_isLegal _ hHelper, word_of_isLegal _ h]
  rfl

/-- The test of an optional parameter leaves a frame that waits for the value
of a given one. -/
theorem run_test {parameter : String} (h : Name.isLegal parameter = true)
    (around : List (Option String × List Frame)) :
    Reader.run ⟨some (.text ""), [], around⟩
        [.word "if", .word parameter, .word "is", .word "None", .word "else"] =
      some ⟨none, [.other (.text "") (.same (.name parameter) .absent)], around⟩ := by
  simp only [Reader.run, List.foldlM_cons, List.foldlM_nil, Reader.step, word_of_isLegal _ h]
  rfl

/-- A piece is one operand. -/
theorem run_piece (piece : Piece)
    (h : ∀ parameter ∈ parameterOf? piece, Name.isLegal parameter = true) (frames : List Frame)
    (around : List (Option String × List Frame)) :
    Reader.run ⟨none, frames, around⟩ (pieceTokens piece) =
      some ⟨some (expressionOf piece), frames, around⟩ := by
  cases piece with
  | text text => rfl
  | value parameter => exact run_call (h parameter rfl) frames around
  | optional parameter separator =>
      have hTokens : pieceTokens (.optional parameter separator) =
          ([.opening, .text ""] : List Token) ++
            (([.word "if", .word parameter, .word "is", .word "None", .word "else"] : List Token) ++
              (([.text separator, .plus] : List Token) ++
                (callTokens parameter ++ ([.closing] : List Token)))) := rfl
      have hStart : Reader.run ⟨none, frames, around⟩ [.opening, .text ""] =
          some ⟨some (.text ""), [], (none, frames) :: around⟩ := rfl
      have hSeparator (frame : Frame) (hWeak : frame.strength = 0) :
          Reader.run ⟨none, [frame], (none, frames) :: around⟩ [.text separator, .plus] =
            some ⟨none, [.sum (.text separator), frame], (none, frames) :: around⟩ := by
        simp [Reader.run, Reader.step, Reader.give, Reader.operator, settle, hWeak]
      rw [hTokens, run_append, hStart, Option.bind_some, run_append, run_test (h parameter rfl),
        Option.bind_some, run_append, hSeparator _ rfl, Option.bind_some, run_append,
        run_call (h parameter rfl), Option.bind_some]
      rfl

/-- The machine has read a sum, in brackets that are still open. -/
def HasRead (reader : Reader) (total : Expression) (around : List (Option String × List Frame)) :
    Prop :=
  reader.around = around ∧ ∃ operand, reader.operand = some operand ∧
    ∀ strength ≤ 3, settle strength operand reader.frames = (total, [])

/-- A further piece on a line of its own is added to the sum. -/
theorem run_more {reader : Reader} {total : Expression}
    {around : List (Option String × List Frame)} (hRead : HasRead reader total around)
    (hOpen : around ≠ []) (piece : Piece)
    (h : ∀ parameter ∈ parameterOf? piece, Name.isLegal parameter = true) :
    ∃ next, reader.run (.lineEnd :: .plus :: pieceTokens piece) = some next ∧
      HasRead next (.sum total (expressionOf piece)) around := by
  obtain ⟨hAround, operand, hOperand, hSettle⟩ := hRead
  have hPlus : reader.run [.lineEnd, .plus] = some ⟨none, [.sum total], around⟩ := by
    simp [Reader.run, Reader.step, Reader.operator, hAround, hOpen, hOperand,
      hSettle 3 (Nat.le_refl 3)]
  refine ⟨⟨some (expressionOf piece), [.sum total], around⟩, ?_, rfl, _, rfl, ?_⟩
  · have hRun := run_append reader [.lineEnd, .plus] (pieceTokens piece)
    rw [hPlus, Option.bind_some, run_piece piece h] at hRun
    exact hRun
  · intro strength hStrength
    simp [settle, Frame.strength, Frame.complete?, hStrength]

theorem run_pieces {reader : Reader} {total : Expression}
    {around : List (Option String × List Frame)} (hRead : HasRead reader total around)
    (hOpen : around ≠ []) (pieces : List Piece)
    (h : ∀ piece ∈ pieces, ∀ parameter ∈ parameterOf? piece, Name.isLegal parameter = true) :
    ∃ next, reader.run (pieces.flatMap fun piece => .lineEnd :: .plus :: pieceTokens piece) =
        some next ∧ HasRead next (sumOf total pieces) around := by
  induction pieces generalizing reader total with
  | nil => exact ⟨reader, rfl, hRead⟩
  | cons piece rest ih =>
      obtain ⟨middle, hMiddle, hMiddleRead⟩ :=
        run_more hRead hOpen piece (h piece (List.mem_cons_self ..))
      obtain ⟨next, hNext, hNextRead⟩ :=
        ih hMiddleRead fun other hOther => h other (List.mem_cons_of_mem _ hOther)
      refine ⟨next, ?_, hNextRead⟩
      rw [List.flatMap_cons, run_append, hMiddle, Option.bind_some, hNext]

/-- The end of a statement in brackets, with the fallback if there is one. -/
def endTokens (orRoot : Bool) : List Token :=
  [.lineEnd, .closing] ++ if orRoot then [.word "or", .text "/"] else []

theorem finish_pieces {reader : Reader} {total : Expression}
    (hRead : HasRead reader total [(none, [])]) (orRoot : Bool) :
    (reader.run (endTokens orRoot)).bind Reader.finish? =
      some (if orRoot then .either total (.text "/") else total) := by
  obtain ⟨hAround, operand, hOperand, hSettle⟩ := hRead
  have hClose : reader.run [.lineEnd, .closing] = some ⟨some total, [], []⟩ := by
    simp [Reader.run, Reader.step, Reader.close?, Reader.whole?, hAround, hOperand,
      hSettle 0 (Nat.zero_le 3)]
  rw [endTokens, run_append, hClose, Option.bind_some]
  cases orRoot <;> rfl

theorem lineTokens?_first (piece : Piece)
    (h : ∀ parameter ∈ parameterOf? piece, Name.IsPlain parameter.toList) :
    lineTokens? ("    " ++ Function.pieceText piece) = some (pieceTokens piece) := by
  have hText : ("    " ++ Function.pieceText piece).toList =
      ' ' :: ' ' :: ' ' :: ' ' :: (Function.pieceText piece).toList := by
    rw [String.toList_append]
    rfl
  rw [lineTokens?, hText, tokens?_blank, tokens?_blank, tokens?_blank, tokens?_blank,
    tokens?_piece piece h]

theorem lineTokens?_more (piece : Piece)
    (h : ∀ parameter ∈ parameterOf? piece, Name.IsPlain parameter.toList) :
    lineTokens? ("    + " ++ Function.pieceText piece) = some (.plus :: pieceTokens piece) := by
  have hText : ("    + " ++ Function.pieceText piece).toList =
      ' ' :: ' ' :: ' ' :: ' ' :: '+' :: ' ' :: (Function.pieceText piece).toList := by
    rw [String.toList_append]
    rfl
  rw [lineTokens?, hText, tokens?_blank, tokens?_blank, tokens?_blank, tokens?_blank, tokens?_plus,
    tokens?_blank, tokens?_piece piece h]
  rfl

theorem lineTokens?_single (piece : Piece)
    (h : ∀ parameter ∈ parameterOf? piece, Name.IsPlain parameter.toList) :
    lineTokens? ("return " ++ Function.pieceText piece) =
      some (.word "return" :: pieceTokens piece) := by
  have hText : ("return " ++ Function.pieceText piece).toList =
      "return".toList ++ ' ' :: (Function.pieceText piece).toList := by
    rw [String.toList_append]
    rfl
  rw [lineTokens?, hText, tokens?_word_blank (by decide), tokens?_piece piece h]
  rfl

theorem lineTokens?_open : lineTokens? "return (" = some [.word "return", .opening] := by
  decide

theorem lineTokens?_close (orRoot : Bool) :
    lineTokens? (if orRoot then ") or \"/\"" else ")") = some (endTokens orRoot).tail := by
  cases orRoot with
  | false => decide
  | true =>
      have hText : ") or \"/\"".toList =
          ')' :: ' ' :: ("or".toList ++ ' ' :: ((literal "/").toList ++ [])) := by decide
      rw [if_pos rfl, lineTokens?, hText, tokens?_closing, tokens?_blank,
        tokens?_word_blank (by decide), tokens?_literal]
      rfl

/-- The tokens of a sum that is written over several lines. -/
theorem allTokens?_sum (first : Piece) (rest : List Piece) (orRoot : Bool)
    (h : ∀ piece ∈ first :: rest, ∀ parameter ∈ parameterOf? piece, Name.IsPlain parameter.toList) :
    allTokens? (["return (", "    " ++ Function.pieceText first] ++
        rest.map (fun piece => "    + " ++ Function.pieceText piece) ++
        [if orRoot then ") or \"/\"" else ")"]) =
      some (.word "return" :: .opening :: .lineEnd :: (pieceTokens first ++
        (rest.flatMap (fun piece => .lineEnd :: .plus :: pieceTokens piece) ++ endTokens orRoot))) := by
  have hFirst := lineTokens?_first first (h first (List.mem_cons_self ..))
  have hRest : (rest.map fun piece => "    + " ++ Function.pieceText piece).mapM lineTokens? =
      some (rest.map fun piece => .plus :: pieceTokens piece) := by
    rw [List.mapM_map]
    exact mapM_eq_some_map fun piece hPiece =>
      lineTokens?_more piece (h piece (List.mem_cons_of_mem _ hPiece))
  have hEnd : Token.lineEnd :: (endTokens orRoot).tail = endTokens orRoot := rfl
  simp only [List.cons_append, List.nil_append, allTokens?, lineTokens?_open, List.mapM_cons,
    List.mapM_append, List.mapM_nil, hFirst, hRest, lineTokens?_close, Option.bind_eq_bind,
    Option.bind_some, Option.pure_def, List.flatMap_cons, List.flatMap_append, List.flatMap_map,
    List.flatMap_nil, List.append_nil, hEnd]

/-- A statement on one line returns its only piece. -/
theorem returned?_single (piece : Piece)
    (h : ∀ parameter ∈ parameterOf? piece,
      Name.IsPlain parameter.toList ∧ Name.isTaken parameter = false) :
    returned? ["return " ++ Function.pieceText piece] = some (expressionOf piece) := by
  have hLine := lineTokens?_single piece fun parameter hParameter => (h parameter hParameter).1
  have hRun := run_piece piece (fun parameter hParameter =>
    Name.isLegal_of_isPlain (h parameter hParameter).1 (h parameter hParameter).2) [] []
  have hTokens : allTokens? ["return " ++ Function.pieceText piece] =
      some (.word "return" :: pieceTokens piece) := by
    rw [allTokens?, hLine]
    simp
  rw [returned?, hTokens]
  simp only [Option.bind_eq_bind, Option.bind_some]
  rw [Reader.start, hRun]
  rfl

/-- A statement in brackets returns the sum of its pieces, or the root if
that is asked for. -/
theorem returned?_sum (first : Piece) (rest : List Piece) (orRoot : Bool)
    (h : ∀ piece ∈ first :: rest, ∀ parameter ∈ parameterOf? piece,
      Name.IsPlain parameter.toList ∧ Name.isTaken parameter = false) :
    returned? (["return (", "    " ++ Function.pieceText first] ++
        rest.map (fun piece => "    + " ++ Function.pieceText piece) ++
        [if orRoot then ") or \"/\"" else ")"]) =
      some (if orRoot then .either (sumOf (expressionOf first) rest) (.text "/")
        else sumOf (expressionOf first) rest) := by
  have hLegal (piece : Piece) (hPiece : piece ∈ first :: rest) (parameter : String)
      (hParameter : parameter ∈ parameterOf? piece) : Name.isLegal parameter = true :=
    Name.isLegal_of_isPlain (h piece hPiece parameter hParameter).1
      (h piece hPiece parameter hParameter).2
  have hTokens := allTokens?_sum first rest orRoot fun piece hPiece parameter hParameter =>
    (h piece hPiece parameter hParameter).1
  have hOpen : Reader.start.run [.opening, .lineEnd] = some ⟨none, [], [(none, [])]⟩ := rfl
  have hFirst := run_piece first (hLegal first (List.mem_cons_self ..)) [] [(none, [])]
  have hRead : HasRead ⟨some (expressionOf first), [], [(none, [])]⟩ (expressionOf first)
      [(none, [])] := ⟨rfl, _, rfl, fun _ _ => rfl⟩
  obtain ⟨last, hLast, hLastRead⟩ := run_pieces hRead (List.cons_ne_nil _ _) rest
    fun piece hPiece => hLegal piece (List.mem_cons_of_mem _ hPiece)
  have hRun : Reader.start.run (([.opening, .lineEnd] : List Token) ++ (pieceTokens first ++
      (rest.flatMap (fun piece => .lineEnd :: .plus :: pieceTokens piece) ++ endTokens orRoot))) =
      last.run (endTokens orRoot) := by
    rw [run_append, hOpen, Option.bind_some, run_append, hFirst, Option.bind_some, run_append, hLast,
      Option.bind_some]
  rw [returned?, hTokens]
  simp only [Option.bind_eq_bind, Option.bind_some]
  rw [← finish_pieces hLastRead orRoot, ← hRun]
  rfl

/-- Reading the lines of a body gives the expression of the body, if its
parameters are identifiers that are not taken. -/
theorem returned?_bodyLines (body : Body)
    (h : ∀ piece ∈ body.pieces, ∀ parameter ∈ parameterOf? piece,
      Name.IsPlain parameter.toList ∧ Name.isTaken parameter = false) :
    returned? (Function.bodyLines body) = some (bodyExpression body) := by
  obtain ⟨pieces, orRoot⟩ := body
  cases pieces with
  | nil => exact returned?_single (.text "/") (by simp [parameterOf?])
  | cons first rest =>
      have hSum := returned?_sum first rest orRoot h
      cases rest with
      | cons second others => exact hSum
      | nil =>
          cases orRoot with
          | true => exact hSum
          | false => exact returned?_single first (h first (List.mem_cons_self ..))

end RoutePaths.Statement
