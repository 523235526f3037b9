import RoutePaths.Proofs.Splitting
import RoutePaths.Proofs.Uri.Grammar
import RoutePaths.Proofs.Uri.Reading

/-! Paths of the grammar are what `readPath` reads. The only text that is read
without being a path of the grammar has a line break behind a name. -/
namespace RoutePaths.Template
open Result Splitting

variable {uri : String}

theorem isPlainChar_iff {c : Char} :
    isPlainChar c = true ↔ c ≠ '/' ∧ isSpecial c = false := by
  simp [isPlainChar]

theorem isPlainChar_of_isNameChar {c : Char} (h : isNameChar c = true) : isPlainChar c = true := by
  have hNot (d : Char) (hd : isNameChar d = false) : c ≠ d := by
    rintro rfl
    rw [hd] at h
    cases h
  simp [isPlainChar, isSpecial, hNot '/' (by decide), hNot ':' (by decide), hNot '*' (by decide),
    hNot '(' (by decide), hNot ')' (by decide)]

theorem isNameChar_of_isName {name : List Char} (h : isName name = true) :
    ∀ c ∈ name, isNameChar c = true := by
  cases name with
  | nil => simp
  | cons first rest =>
      simp only [isName, Bool.and_eq_true, List.all_eq_true] at h
      intro c hc
      rcases List.mem_cons.mp hc with rfl | hc
      · have hStart := h.1
        simp only [isNameStart, Bool.or_eq_true] at hStart
        rcases hStart with hAlpha | hLine
        · simp [isNameChar, Char.isAlphanum, hAlpha]
        · simp [isNameChar, hLine]
      · exact h.2 c hc

/-- A sigil is special, and it is none of the other characters that the
grammar gives a meaning. -/
theorem isSigil_iff {c : Char} : isSigil c = true ↔ c = ':' ∨ c = '*' := by
  simp [isSigil]

theorem isSigil_of_isPlainChar {c : Char} (h : isPlainChar c = true) : isSigil c = false := by
  have hSpecial := (isPlainChar_iff.mp h).2
  simp only [isSpecial, Bool.or_eq_false_iff] at hSpecial
  simp [isSigil, hSpecial.1.1.1, hSpecial.1.1.2]

namespace Token

/-- The text of a token holds no slash and no parenthesis. -/
theorem IsValid.mem_text {token : Token} (h : token.IsValid) {c : Char} (hc : c ∈ token.text) :
    c ≠ '/' ∧ c ≠ '(' ∧ c ≠ ')' := by
  have hPlain (h : isPlainChar c = true) : c ≠ '/' ∧ c ≠ '(' ∧ c ≠ ')' := by
    have hParts := isPlainChar_iff.mp h
    simp only [isSpecial, Bool.or_eq_false_iff, beq_eq_false_iff_ne] at hParts
    exact ⟨hParts.1, hParts.2.1.2, hParts.2.2⟩
  cases token with
  | literal text => exact hPlain (h c hc)
  | required sigil name =>
      rcases List.mem_cons.mp hc with rfl | hc
      · rcases isSigil_iff.mp h.1 with rfl | rfl <;> decide
      · exact hPlain (isPlainChar_of_isNameChar (isNameChar_of_isName h.2 c hc))

theorem withoutFinalBreak_of_not_mem {text : List Char} (h : '\n' ∉ text) :
    withoutFinalBreak text = text := by
  rw [withoutFinalBreak, if_neg]
  exact fun hLast => h (List.mem_of_getLast? hLast)

theorem requiredName?_required {sigil : Char} {name : List Char}
    (h : (required sigil name).IsValid) : requiredName? (sigil :: name) = some name := by
  have hBreak : '\n' ∉ name := fun hMem =>
    absurd (isNameChar_of_isName h.2 _ hMem) (by decide)
  rw [requiredName?, withoutFinalBreak_of_not_mem hBreak, h.1, h.2]
  rfl

theorem requiredName?_literal {text : List Char} (h : (literal text).IsValid) :
    requiredName? text = none := by
  cases text with
  | nil => rfl
  | cons c rest =>
      rw [requiredName?, isSigil_of_isPlainChar (h c (List.mem_cons_self ..))]
      rfl

/-- A token of the grammar is read as its segment. -/
theorem IsValid.readToken_text {token : Token} (h : token.IsValid) :
    readToken uri token.text = .ok token.segment := by
  cases token with
  | required sigil name =>
      simp only [readToken, text, requiredName?_required h]
      rfl
  | literal text =>
      have hSpecial : text.any isSpecial = false := by
        rw [List.any_eq_false]
        intro c hc
        simp [(isPlainChar_iff.mp (h c hc)).2]
      simp only [readToken, Token.text, requiredName?_literal h, hSpecial]
      rfl

/-- What is read between slashes is a token of the grammar, if it holds no line
break. -/
theorem exists_of_readToken {text : List Char} {segment : Segment}
    (hRead : readToken uri text = .ok segment) (hSlash : '/' ∉ text) (hBreak : '\n' ∉ text) :
    ∃ token : Token, token.IsValid ∧ token.text = text ∧ token.segment = segment := by
  unfold readToken at hRead
  split at hRead
  · rename_i name hName
    cases hRead
    cases text with
    | nil => cases hName
    | cons sigil rest =>
        have hRest := withoutFinalBreak_of_not_mem (List.not_mem_of_not_mem_cons hBreak)
        rw [requiredName?, hRest] at hName
        split at hName
        · rename_i hValid
          cases hName
          rw [Bool.and_eq_true] at hValid
          exact ⟨required sigil _, hValid, rfl, rfl⟩
        · cases hName
  · split at hRead
    · cases hRead
    · rename_i hSpecial
      cases hRead
      refine ⟨literal text, ?_, rfl, rfl⟩
      intro c hc
      rw [isPlainChar_iff]
      refine ⟨fun hEq => hSlash (hEq ▸ hc), ?_⟩
      simp only [List.any_eq_true, not_exists, not_and, Bool.not_eq_true] at hSpecial
      exact hSpecial c hc

end Token

theorem pathText_cons (token : Token) (rest : List Token) :
    pathText (token :: rest) = '/' :: (token.text ++ pathText rest) := by
  simp [pathText]

theorem pathText_eq_map (tokens : List Token) :
    pathText tokens = (tokens.map Token.text).flatMap ('/' :: ·) := by
  rw [pathText, List.flatMap_map]

theorem splitOn_pathText {token : Token} {rest : List Token}
    (h : ∀ other ∈ token :: rest, other.IsValid) :
    (token.text ++ pathText rest).splitOn '/' = (token :: rest).map Token.text := by
  rw [pathText_eq_map, List.map_cons]
  apply splitOn_append_flatMap_cons
  rw [← List.map_cons]
  intro piece hPiece hSlash
  obtain ⟨other, hOther, rfl⟩ := List.mem_map.mp hPiece
  exact ((h other hOther).mem_text hSlash).1 rfl

/-- A path of the grammar is read as the segments of its tokens. -/
theorem readPath_pathText {tokens : List Token} (h : ∀ token ∈ tokens, token.IsValid) :
    readPath uri (pathText tokens) = .ok (tokens.map Token.segment) := by
  rw [readPath_eq_ok_iff]
  cases tokens with
  | nil => exact Or.inl ⟨rfl, rfl⟩
  | cons token rest =>
      refine Or.inr ⟨token.text ++ pathText rest, pathText_cons token rest, ?_⟩
      rw [splitOn_pathText h, List.forall₂_map_left_iff, List.forall₂_map_right_iff,
        List.forall₂_same]
      exact fun other hOther => (h other hOther).readToken_text

/-- Text that is read without groups is a path of the grammar, if it holds no
line break. -/
theorem exists_of_readPath {text : List Char} {segments : List Segment}
    (hRead : readPath uri text = .ok segments) (hBreak : '\n' ∉ text) :
    ∃ tokens : List Token, (∀ token ∈ tokens, token.IsValid) ∧ pathText tokens = text ∧
      tokens.map Token.segment = segments := by
  rcases readPath_eq_ok_iff.mp hRead with ⟨rfl, rfl⟩ | ⟨rest, rfl, hTokens⟩
  · exact ⟨[], by simp, rfl, rfl⟩
  · have hAll : ∃ tokens : List Token, (∀ token ∈ tokens, token.IsValid) ∧
        tokens.map Token.text = rest.splitOn '/' ∧ tokens.map Token.segment = segments := by
      apply exists_map_of_forall₂ hTokens
      intro piece hPiece segment hSegment
      have hBreakPiece : '\n' ∉ piece := fun hMem => hBreak <| by
        rw [← flatMap_cons_splitOn rest]
        exact List.mem_flatMap.mpr ⟨piece, hPiece, List.mem_cons_of_mem _ hMem⟩
      exact Token.exists_of_readToken hSegment (not_mem_of_mem_splitOn hPiece) hBreakPiece
    obtain ⟨tokens, hValid, hTexts, hSegments⟩ := hAll
    exact ⟨tokens, hValid, by rw [pathText_eq_map, hTexts, flatMap_cons_splitOn], hSegments⟩

end RoutePaths.Template
