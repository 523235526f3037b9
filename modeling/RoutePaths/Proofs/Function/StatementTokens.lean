import RoutePaths.Module.Printer
import RoutePaths.Proofs.Function.Statement
import RoutePaths.Proofs.Name.Sanitize

/-! The tokens of the lines that a function body is written as. Parameters
are identifiers, so a word ends where its parameter does, and a string
literal ends at its own closing quote whatever its text is. -/
namespace RoutePaths.Statement

theorem tokens?_outside_cons (word : List Char) (c : Char) (rest : List Char) :
    tokens? (.outside word) (c :: rest) =
      if Name.isSafeChar c then tokens? (.outside (c :: word)) rest
      else if c = '"' then if word = [] then tokens? (.inText []) rest else none
      else do return endWord word ++ (← mark? c) ++ (← tokens? (.outside []) rest) := by
  rw [tokens?]

theorem tokens?_inText_pair (written : List Char) (c : Char) (rest : List Char) :
    tokens? (.inText written) ('\\' :: c :: rest) = tokens? (.inText (c :: '\\' :: written)) rest := by
  rw [tokens?]

theorem tokens?_inText_quote (written rest : List Char) :
    tokens? (.inText written) ('"' :: rest) = do
      let value ← literalText? ('"' :: (written.reverse ++ ['"']))
      return .text value :: (← tokens? (.outside []) rest) := by
  rw [tokens?]

theorem tokens?_blank (rest : List Char) :
    tokens? (.outside []) (' ' :: rest) = tokens? (.outside []) rest := by
  have hBlank : Name.isSafeChar ' ' = false := by decide
  simp [tokens?_outside_cons, hBlank, mark?, endWord]

theorem tokens?_mark {c : Char} {token : Token} (hMark : mark? c = some [token])
    (hSafe : Name.isSafeChar c = false) (hQuote : c ≠ '"') (rest : List Char) :
    tokens? (.outside []) (c :: rest) = (tokens? (.outside []) rest).map (token :: ·) := by
  cases hRest : tokens? (.outside []) rest <;>
    simp [tokens?_outside_cons, hSafe, hQuote, hMark, endWord, hRest]

theorem tokens?_safe (word text rest : List Char) (hText : ∀ c ∈ text, Name.isSafeChar c = true) :
    tokens? (.outside word) (text ++ rest) = tokens? (.outside (text.reverse ++ word)) rest := by
  induction text generalizing word with
  | nil => rfl
  | cons c text ih =>
      have hc := hText c (List.mem_cons_self ..)
      rw [List.cons_append, tokens?_outside_cons, if_pos hc,
        ih _ fun d hd => hText d (List.mem_cons_of_mem _ hd), List.reverse_cons, List.append_assoc,
        List.singleton_append]

/-- A word that a mark or a blank ends. -/
theorem tokens?_word {text : String} (hText : Name.IsPlain text.toList) {c : Char}
    (hSafe : Name.isSafeChar c = false) (hQuote : c ≠ '"') (rest : List Char) :
    tokens? (.outside []) (text.toList ++ c :: rest) =
      (tokens? (.outside []) (c :: rest)).map (.word text :: ·) := by
  rw [tokens?_safe [] text.toList _ hText.safe, List.append_nil]
  cases hMark : mark? c with
  | none => simp [tokens?_outside_cons, hSafe, hQuote, hMark]
  | some marks =>
      have hEnd : endWord text.toList.reverse = [.word text] := by
        rw [endWord, if_neg (by simpa using hText.ne_nil), List.reverse_reverse, String.ofList_toList]
      have hNone : endWord [] = [] := rfl
      cases hRest : tokens? (.outside []) rest <;>
        simp [tokens?_outside_cons, hSafe, hQuote, hMark, hRest, hEnd, hNone]

/-- The characters of a literal that cannot end it: pairs that a backslash
starts, and everything but quotes, backslashes and line breaks. -/
theorem tokens?_inText {c : Char} (hQuote : c ≠ '"') (hSlash : c ≠ '\\') (hFeed : c ≠ '\n')
    (hReturn : c ≠ '\r') (written rest : List Char) :
    tokens? (.inText written) (c :: rest) = tokens? (.inText (c :: written)) rest := by
  rw [tokens?, if_neg (by simp [hFeed, hReturn])]
  · intro _ _ hEq _
    exact hSlash hEq
  · exact hQuote

theorem hexChar_plain (n : Nat) :
    Json.hexChar n ≠ '"' ∧ Json.hexChar n ≠ '\\' ∧ Json.hexChar n ≠ '\n' ∧ Json.hexChar n ≠ '\r' := by
  have hAll : ∀ digit : Fin 16, Nat.digitChar digit ≠ '"' ∧ Nat.digitChar digit ≠ '\\' ∧
      Nat.digitChar digit ≠ '\n' ∧ Nat.digitChar digit ≠ '\r' := by decide
  exact hAll ⟨n % 16, Nat.mod_lt n (by decide)⟩

theorem tokens?_hexChar (n : Nat) (written rest : List Char) :
    tokens? (.inText written) (Json.hexChar n :: rest) =
      tokens? (.inText (Json.hexChar n :: written)) rest :=
  have h := hexChar_plain n
  tokens?_inText h.1 h.2.1 h.2.2.1 h.2.2.2 written rest

theorem tokens?_numericEscape (point : Nat) (written rest : List Char) :
    tokens? (.inText written) (Json.numericEscape point ++ rest) =
      tokens? (.inText ((Json.numericEscape point).reverse ++ written)) rest := by
  unfold Json.numericEscape
  split <;>
    simp [Json.hexFour, tokens?_inText_pair, tokens?_hexChar]

theorem tokens?_escapeChar (c : Char) (written rest : List Char) :
    tokens? (.inText written) (Json.escapeChar true c ++ rest) =
      tokens? (.inText ((Json.escapeChar true c).reverse ++ written)) rest := by
  rcases Json.escapeChar_cases true c with
    ⟨letter, -, hChars⟩ | ⟨-, hChars⟩ | ⟨⟨hQuote, hSlash, hLow, -⟩, hChars⟩
  · rw [hChars]
    exact tokens?_inText_pair written letter rest
  · rw [hChars]
    exact tokens?_numericEscape c.toNat written rest
  · have hFeed : c ≠ '\n' := by
      rintro rfl
      exact absurd hLow (by decide)
    have hReturn : c ≠ '\r' := by
      rintro rfl
      exact absurd hLow (by decide)
    rw [hChars]
    exact tokens?_inText hQuote hSlash hFeed hReturn written rest

theorem tokens?_flatMap_escapeChar (text written rest : List Char) :
    tokens? (.inText written) (text.flatMap (Json.escapeChar true) ++ rest) =
      tokens? (.inText ((text.flatMap (Json.escapeChar true)).reverse ++ written)) rest := by
  induction text generalizing written with
  | nil => rfl
  | cons c text ih =>
      rw [List.flatMap_cons, List.append_assoc, tokens?_escapeChar, ih, List.reverse_append,
        List.append_assoc]

/-- A string literal is read as the text that it was written for. -/
theorem tokens?_literal (text : String) (rest : List Char) :
    tokens? (.outside []) ((literal text).toList ++ rest) =
      (tokens? (.outside []) rest).map (.text text :: ·) := by
  have hOpen (tail : List Char) : tokens? (.outside []) ('"' :: tail) = tokens? (.inText []) tail := by
    have hQuote : Name.isSafeChar '"' = false := by decide
    simp [tokens?_outside_cons, hQuote]
  have hText : literalText? (Json.quote true text.toList) = some text := by
    rw [literalText?, Json.read?_quote, String.ofList_toList]
  rw [literal, String.toList_ofList, Json.quote, List.cons_append, List.cons_append, hOpen,
    List.append_assoc, tokens?_flatMap_escapeChar, List.append_nil, List.singleton_append,
    tokens?_inText_quote, List.reverse_reverse]
  rw [Json.quote, List.cons_append] at hText
  rw [hText]
  cases tokens? (.outside []) rest <;> rfl

/-- The parameter that a piece reads. -/
def parameterOf? : Piece → Option String
  | .text _ => none
  | .value parameter => some parameter
  | .optional parameter _ => some parameter

/-- The tokens of the call that escapes a parameter. -/
def callTokens (parameter : String) : List Token :=
  [.word Expression.escapeHelper, .opening, .word parameter, .closing]

/-- The tokens of a piece. -/
def pieceTokens : Piece → List Token
  | .text text => [.text text]
  | .value parameter => callTokens parameter
  | .optional parameter separator =>
    [.opening, .text "", .word "if", .word parameter, .word "is", .word "None", .word "else",
      .text separator, .plus] ++ callTokens parameter ++ [.closing]

theorem tokens?_closing (rest : List Char) :
    tokens? (.outside []) (')' :: rest) = (tokens? (.outside []) rest).map (.closing :: ·) :=
  tokens?_mark rfl rfl (by decide) rest

theorem tokens?_opening (rest : List Char) :
    tokens? (.outside []) ('(' :: rest) = (tokens? (.outside []) rest).map (.opening :: ·) :=
  tokens?_mark rfl rfl (by decide) rest

theorem tokens?_plus (rest : List Char) :
    tokens? (.outside []) ('+' :: rest) = (tokens? (.outside []) rest).map (.plus :: ·) :=
  tokens?_mark rfl rfl (by decide) rest

/-- A word that a blank ends. -/
theorem tokens?_word_blank {text : String} (hText : Name.IsPlain text.toList)
    (rest : List Char) :
    tokens? (.outside []) (text.toList ++ ' ' :: rest) =
      (tokens? (.outside []) rest).map (.word text :: ·) := by
  rw [tokens?_word hText rfl (by decide), tokens?_blank]

theorem tokens?_call {parameter : String} (h : Name.IsPlain parameter.toList) (rest : List Char) :
    tokens? (.outside []) ("_escape".toList ++ '(' :: (parameter.toList ++ ')' :: rest)) =
      (tokens? (.outside []) rest).map (callTokens parameter ++ ·) := by
  rw [tokens?_word (by decide) rfl (by decide), tokens?_opening,
    tokens?_word h rfl (by decide), tokens?_closing]
  cases tokens? (.outside []) rest <;> rfl

/-- The test of an optional parameter, up to its `else`. -/
theorem tokens?_test {parameter : String} (h : Name.IsPlain parameter.toList) (rest : List Char) :
    tokens? (.outside []) ("if".toList ++ ' ' :: (parameter.toList ++ ' ' :: ("is".toList ++
      ' ' :: ("None".toList ++ ' ' :: ("else".toList ++ ' ' :: rest))))) =
      (tokens? (.outside []) rest).map
        ([.word "if", .word parameter, .word "is", .word "None", .word "else"] ++ ·) := by
  rw [tokens?_word_blank (by decide), tokens?_word_blank h,
    tokens?_word_blank (by decide), tokens?_word_blank (by decide),
    tokens?_word_blank (by decide)]
  cases tokens? (.outside []) rest <;> rfl

/-- A piece is read as its tokens. -/
theorem tokens?_piece (piece : Piece)
    (h : ∀ parameter ∈ parameterOf? piece, Name.IsPlain parameter.toList) :
    tokens? (.outside []) (Function.pieceText piece).toList = some (pieceTokens piece) := by
  cases piece with
  | text text =>
      have hRead := tokens?_literal text []
      rw [List.append_nil] at hRead
      exact hRead
  | value parameter =>
      have hRead := tokens?_call (h parameter rfl) []
      have hText : (Function.pieceText (.value parameter)).toList =
          "_escape".toList ++ '(' :: (parameter.toList ++ [')']) := by
        simp [Function.pieceText]
      rw [hText, hRead]
      rfl
  | optional parameter separator =>
      have hText : (Function.pieceText (.optional parameter separator)).toList =
          '(' :: ((literal "").toList ++ ' ' :: ("if".toList ++ ' ' :: (parameter.toList ++
            ' ' :: ("is".toList ++ ' ' :: ("None".toList ++ ' ' :: ("else".toList ++
            ' ' :: ((literal separator).toList ++ ' ' :: '+' :: ' ' ::
              ("_escape".toList ++ '(' :: (parameter.toList ++ ')' :: [')']))))))))) := by
        have hEmpty : (literal "").toList = ['"', '"'] := by decide
        simp [Function.pieceText, hEmpty]
      rw [hText, tokens?_opening, tokens?_literal, tokens?_blank, tokens?_test (h parameter rfl),
        tokens?_literal, tokens?_blank, tokens?_plus, tokens?_blank, tokens?_call (h parameter rfl),
        tokens?_closing]
      rfl

end RoutePaths.Statement
