import RoutePaths.Proofs.Function.Literal
import RoutePaths.Value.Yaml.Scalar

/-! Text that is written for JSON, read between the double quotes of YAML. Every escape that is
written is one of both notations, but here each of them is a code point of its own: the two
surrogates of a character above the basic plane are not joined. -/
namespace RoutePaths.Yaml
open Json (escapeChar units hexFour numericEscape)

variable {fold : Fold} {c : Char} {point : Nat}

/-- Blanks within a line are kept. -/
theorem Fold.addBlank_spec (h : fold.isBreaks = false) (c : Char) :
    (fold.addBlank c).isBreaks = false ∧ (fold.addBlank c).points = fold.points ++ [c.toNat] := by
  cases fold with
  | nothing => exact ⟨rfl, rfl⟩
  | blanks seen => exact ⟨rfl, rfl⟩
  | breaks alone more => cases h

theorem ahead_ahead (first second : List Nat) (found : Option (List Nat × List Char)) :
    ahead first (ahead second found) = ahead (first ++ second) found := by
  cases found with
  | none => rfl
  | some found => simp [ahead]

theorem doubleQuoted?_escaped (hEscape : escaped? c = some point) (hBreak : isBreak c = false)
    (fold : Fold) (rest : List Char) :
    doubleQuoted? fold ('\\' :: c :: rest) =
      ahead (fold.points ++ [point]) (doubleQuoted? .nothing rest) := by
  rw [doubleQuoted?, hBreak, hEscape]
  · rfl
  all_goals
    rintro _ _ _
    intros
    subst_vars
    cases hEscape

theorem doubleQuoted?_hexFour (h : point < 0x10000) (fold : Fold) (rest : List Char) :
    doubleQuoted? fold ('\\' :: 'u' :: (hexFour point ++ rest)) =
      ahead (fold.points ++ [point]) (doubleQuoted? .nothing rest) := by
  have hNumber : numbered? (hexFour point) = some point := by
    rw [numbered?, Json.hexNumber?_hexFour h, Option.filter_some, if_pos (by simp; omega)]
  simp only [hexFour] at hNumber ⊢
  simp only [List.cons_append, List.nil_append]
  rw [doubleQuoted?, hNumber]

theorem doubleQuoted?_numericEscape (c : Char) (fold : Fold) (rest : List Char) :
    doubleQuoted? fold (numericEscape c.toNat ++ rest) =
      ahead (fold.points ++ units true c) (doubleQuoted? .nothing rest) := by
  have hBounds := Json.toNat_bounds c
  by_cases hBasic : c.toNat < 0x10000
  · simp only [numericEscape, hBasic, ↓reduceIte, List.cons_append, Json.units_of_lt]
    exact doubleQuoted?_hexFour hBasic fold rest
  · simp only [numericEscape, hBasic, ↓reduceIte, List.cons_append, List.append_assoc,
      Json.units_of_le (Nat.le_of_not_lt hBasic)]
    rw [doubleQuoted?_hexFour (by omega), doubleQuoted?_hexFour (by omega), ahead_ahead]
    simp [Fold.points]

theorem doubleQuoted?_plain (hQuote : c ≠ '"') (hSlash : c ≠ '\\') (hBlank : isBlank c = false)
    (hBreak : isBreak c = false) (fold : Fold) (rest : List Char) :
    doubleQuoted? fold (c :: rest) =
      ahead (fold.points ++ [c.toNat]) (doubleQuoted? .nothing rest) := by
  rw [doubleQuoted?, hBlank, hBreak, if_neg Bool.false_ne_true, if_neg Bool.false_ne_true,
    if_neg hSlash]
  · exact hQuote
  all_goals
    intros
    contradiction

theorem doubleQuoted?_space (fold : Fold) (rest : List Char) :
    doubleQuoted? fold (' ' :: rest) = doubleQuoted? (fold.addBlank ' ') rest := by
  have hBlank : isBlank ' ' = true := rfl
  rw [doubleQuoted?, if_pos hBlank]
  all_goals simp

theorem isBreak_of_isPrintable (h : Literal.IsPrintable c) : isBreak c = false := by
  obtain ⟨hLow, hHigh⟩ := h
  have hFeed : c ≠ '\n' := by
    rintro rfl
    exact absurd hLow (by decide)
  simp [isBreak, hFeed]
  omega

theorem isBlank_of_isPrintable (h : Literal.IsPrintable c) (hSpace : c ≠ ' ') :
    isBlank c = false := by
  have hTab : c ≠ '\t' := by
    rintro rfl
    exact absurd h.1 (by decide)
  simp [isBlank, hSpace, hTab]

/-- One character in front of a text that is read, whatever blanks stand in front of it. -/
theorem doubleQuoted?_escapeChar {rest after : List Char} {points : List Nat}
    (hRest : ∀ fold, fold.isBreaks = false →
      doubleQuoted? fold rest = some (fold.points ++ points, after))
    (c : Char) (hFold : fold.isBreaks = false) :
    doubleQuoted? fold (escapeChar true c ++ rest) =
      some (fold.points ++ units true c ++ points, after) := by
  have hAhead (points' : List Nat) : ahead points' (doubleQuoted? .nothing rest) =
      some (points' ++ points, after) := by
    rw [hRest .nothing rfl]
    rfl
  rcases Json.escapeChar_cases true c with
    ⟨letter, hOwn, hChars⟩ | ⟨-, hChars⟩ | ⟨⟨hQuote, hSlash, hLow, hHigh⟩, hChars⟩
  · have hAll : ∀ pair ∈ Json.ownEscapes,
        escaped? pair.2 = some pair.1.toNat ∧ isBreak pair.2 = false := by
      simp [Json.ownEscapes, escaped?, isBreak]
    obtain ⟨hEscape, hBreak⟩ := hAll _ hOwn
    rw [hChars, Json.units_of_mem_ownEscapes hOwn]
    exact (doubleQuoted?_escaped hEscape hBreak fold rest).trans (hAhead _)
  · rw [hChars, doubleQuoted?_numericEscape, hAhead]
  · have hPrintable : Literal.IsPrintable c := ⟨hLow, hHigh rfl⟩
    rw [hChars, List.singleton_append, Json.units_of_lt true (by have := hPrintable.2; omega)]
    by_cases hSpace : c = ' '
    · subst hSpace
      obtain ⟨hBlanks, hPoints⟩ := Fold.addBlank_spec hFold ' '
      rw [doubleQuoted?_space, hRest _ hBlanks, hPoints]
    · rw [doubleQuoted?_plain hQuote hSlash (isBlank_of_isPrintable hPrintable hSpace)
        (isBreak_of_isPrintable hPrintable), hAhead]

/-- The text between the quotes is read up to the closing one, as the code points that it is
written by. -/
theorem doubleQuoted?_flatMap_escapeChar (text rest : List Char) (hFold : fold.isBreaks = false) :
    doubleQuoted? fold (text.flatMap (escapeChar true) ++ '"' :: rest) =
      some (fold.points ++ text.flatMap (units true), rest) := by
  induction text generalizing fold with
  | nil => rw [List.flatMap_nil, List.nil_append, doubleQuoted?, List.flatMap_nil, List.append_nil]
  | cons c text ih =>
      rw [List.flatMap_cons, List.append_assoc, doubleQuoted?_escapeChar (fun _ => ih) c hFold,
        List.flatMap_cons, List.append_assoc]

end RoutePaths.Yaml
