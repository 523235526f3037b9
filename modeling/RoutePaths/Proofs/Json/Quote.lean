import RoutePaths.Value.Json.Printer
import RoutePaths.Value.Json.Reader
import Mathlib.Data.List.Basic

/-! Text between quotes reads back. A character above the basic plane is
written as two surrogates, which the reader joins again; no other character
is ever taken for half of a pair. -/
namespace RoutePaths.Json

theorem hexDigit?_digitChar : ∀ digit : Fin 16, hexDigit? (Nat.digitChar digit) = some digit.val := by
  decide

theorem hexDigit?_hexChar (n : Nat) : hexDigit? (hexChar n) = some (n % 16) :=
  hexDigit?_digitChar ⟨n % 16, Nat.mod_lt n (by decide)⟩

/-- Four digits are enough for the basic plane. -/
theorem hexNumber?_hexFour {point : Nat} (h : point < 0x10000) :
    hexNumber? (hexFour point) = some point := by
  simp only [hexNumber?, hexFour, List.foldlM_cons, List.foldlM_nil, hexDigit?_hexChar,
    Option.map_some, Option.bind_eq_bind, Option.bind_some, Option.pure_def, Option.some.injEq]
  omega

/-- The code points that a character is written by: itself, or a pair of
surrogates above the basic plane when only ASCII may be written. -/
def units (asciiOnly : Bool) (c : Char) : List Nat :=
  if asciiOnly && 0x10000 ≤ c.toNat then
    [0xD800 + (c.toNat - 0x10000) / 0x400, 0xDC00 + (c.toNat - 0x10000) % 0x400]
  else [c.toNat]

theorem units_of_lt (asciiOnly : Bool) {c : Char} (h : c.toNat < 0x10000) :
    units asciiOnly c = [c.toNat] := by
  simp [units, h]

theorem units_of_le {c : Char} (h : 0x10000 ≤ c.toNat) :
    units true c =
      [0xD800 + (c.toNat - 0x10000) / 0x400, 0xDC00 + (c.toNat - 0x10000) % 0x400] := by
  simp [units, h]

theorem toNat_bounds (c : Char) : c.toNat < 0xD800 ∨ (0xDFFF < c.toNat ∧ c.toNat < 0x110000) :=
  c.valid

theorem joinPairs_cons {point : Nat} (h : ¬(0xD800 ≤ point ∧ point ≤ 0xDBFF))
    (rest : List Nat) : joinPairs (point :: rest) = point :: joinPairs rest := by
  cases rest with
  | nil => simp [joinPairs]
  | cons low rest =>
      have hPair : ¬((0xD800 ≤ point ∧ point ≤ 0xDBFF) ∧ 0xDC00 ≤ low ∧ low ≤ 0xDFFF) :=
        fun hAll => h hAll.1
      simp only [joinPairs, Bool.and_eq_true, decide_eq_true_eq]
      rw [if_neg (by simpa only [and_assoc] using hPair)]

theorem joinPairs_pair {high low : Nat} (hHigh : 0xD800 ≤ high ∧ high ≤ 0xDBFF)
    (hLow : 0xDC00 ≤ low ∧ low ≤ 0xDFFF) (rest : List Nat) :
    joinPairs (high :: low :: rest) =
      (0x10000 + (high - 0xD800) * 0x400 + (low - 0xDC00)) :: joinPairs rest := by
  simp only [joinPairs, hHigh.1, hHigh.2, hLow.1, hLow.2, decide_true, Bool.and_self, ↓reduceIte]

theorem joinPairs_units (asciiOnly : Bool) (c : Char) (rest : List Nat) :
    joinPairs (units asciiOnly c ++ rest) = c.toNat :: joinPairs rest := by
  have hBounds := toNat_bounds c
  cases hPair : asciiOnly && decide (0x10000 ≤ c.toNat) with
  | true =>
      simp only [Bool.and_eq_true, decide_eq_true_eq] at hPair
      simp only [units, hPair.1, hPair.2, decide_true, Bool.and_self, ↓reduceIte,
        List.cons_append, List.nil_append]
      rw [joinPairs_pair (by omega) (by omega), List.cons.injEq]
      exact ⟨by omega, rfl⟩
  | false =>
      simp only [units, hPair, Bool.false_eq_true, ↓reduceIte, List.singleton_append]
      exact joinPairs_cons (by omega) rest

/-- Pairs are joined without touching their neighbours. -/
theorem joinPairs_flatMap_units (asciiOnly : Bool) (text : List Char) :
    joinPairs (text.flatMap (units asciiOnly)) = text.map Char.toNat := by
  induction text with
  | nil => rfl
  | cons c rest ih => rw [List.flatMap_cons, joinPairs_units, ih, List.map_cons]

/-- The code points of characters form a text, since none is a surrogate. -/
theorem ofPoints_map_toNat (text : List Char) :
    Value.ofPoints (text.map Char.toNat) = .text (String.ofList text) := by
  have hNone : (text.map Char.toNat).any Value.isSurrogate = false := by
    rw [List.any_map, List.any_eq_false]
    intro c _
    have hBounds := toNat_bounds c
    simp only [Function.comp_apply, Value.isSurrogate, Bool.and_eq_true, decide_eq_true_eq]
    omega
  have hBack : (text.map Char.toNat).map Char.ofNat = text := by
    rw [List.map_map]
    exact (List.map_congr_left fun c _ => Char.ofNat_toNat c).trans (List.map_id text)
  rw [Value.ofPoints, if_neg (by simp [hNone]), hBack]

theorem tokens?_hexFour {point : Nat} (h : point < 0x10000) (points : List Nat)
    (rest : List Char) :
    tokens? (.inText points) ('\\' :: 'u' :: (hexFour point ++ rest)) =
      tokens? (.inText (point :: points)) rest := by
  have hNumber := hexNumber?_hexFour h
  simp only [hexFour] at hNumber ⊢
  simp only [List.cons_append, List.nil_append]
  rw [tokens?, hNumber]

theorem tokens?_numericEscape (c : Char) (points : List Nat) (rest : List Char) :
    tokens? (.inText points) (numericEscape c.toNat ++ rest) =
      tokens? (.inText ((units true c).reverse ++ points)) rest := by
  have hBounds := toNat_bounds c
  by_cases hBasic : c.toNat < 0x10000
  · simp only [numericEscape, hBasic, ↓reduceIte, List.cons_append, units_of_lt]
    exact tokens?_hexFour hBasic points rest
  · simp only [numericEscape, hBasic, ↓reduceIte, List.cons_append, List.append_assoc,
      units_of_le (Nat.le_of_not_lt hBasic)]
    rw [tokens?_hexFour (by omega), tokens?_hexFour (by omega)]
    rfl

/-- A character that needs no escape stands for itself. -/
theorem tokens?_plain {c : Char} (hQuote : c ≠ '"') (hSlash : c ≠ '\\') (hControl : 0x20 ≤ c.toNat)
    (points : List Nat) (rest : List Char) :
    tokens? (.inText points) (c :: rest) = tokens? (.inText (c.toNat :: points)) rest := by
  have hAllowed : (decide (c.toNat < 0x20) || c == '\\') = false := by
    simp [hSlash, hControl]
  rw [tokens?, hAllowed]
  · rfl
  · exact hQuote
  · intro _ _ _ _ _ hEq _
    exact hSlash hEq
  · intro _ _ hEq _
    exact hSlash hEq

/-- The characters that have an escape of their own, each with the letter of it. -/
def ownEscapes : List (Char × Char) :=
  [('"', '"'), ('\\', '\\'), ('\n', 'n'), ('\r', 'r'), ('\t', 't'), ('\x08', 'b'), ('\x0c', 'f')]

/-- A character is written with an escape of its own, by its number, or as it is. -/
theorem escapeChar_cases (asciiOnly : Bool) (c : Char) :
    (∃ letter, (c, letter) ∈ ownEscapes ∧ escapeChar asciiOnly c = ['\\', letter]) ∨
      ((c.toNat < 0x20 ∨ asciiOnly = true ∧ 0x7F ≤ c.toNat) ∧
        escapeChar asciiOnly c = numericEscape c.toNat) ∨
      (c ≠ '"' ∧ c ≠ '\\' ∧ 0x20 ≤ c.toNat ∧ (asciiOnly = true → c.toNat < 0x7F)) ∧
        escapeChar asciiOnly c = [c] := by
  unfold escapeChar
  split_ifs with hQuote hSlash hFeed hReturn hTab hBack hForm hNumber
  · exact Or.inl ⟨'"', by simp [ownEscapes, hQuote], rfl⟩
  · exact Or.inl ⟨'\\', by simp [ownEscapes, hSlash], rfl⟩
  · exact Or.inl ⟨'n', by simp [ownEscapes, hFeed], rfl⟩
  · exact Or.inl ⟨'r', by simp [ownEscapes, hReturn], rfl⟩
  · exact Or.inl ⟨'t', by simp [ownEscapes, hTab], rfl⟩
  · exact Or.inl ⟨'b', by simp [ownEscapes, hBack], rfl⟩
  · exact Or.inl ⟨'f', by simp [ownEscapes, hForm], rfl⟩
  · exact Or.inr (Or.inl ⟨by simpa using hNumber, rfl⟩)
  · simp only [Bool.or_eq_true, Bool.and_eq_true, decide_eq_true_eq, not_or, not_and] at hNumber
    exact Or.inr (Or.inr ⟨⟨hQuote, hSlash, by omega, fun h => by have := hNumber.2 h; omega⟩, rfl⟩)

theorem units_of_mem_ownEscapes {c letter : Char} (h : (c, letter) ∈ ownEscapes)
    (asciiOnly : Bool) : units asciiOnly c = [c.toNat] := by
  have hAll : ∀ pair ∈ ownEscapes, pair.1.toNat < 0x10000 := by simp [ownEscapes]
  exact units_of_lt asciiOnly (hAll (c, letter) h)

theorem tokens?_escaped {c : Char} {point : Nat} (h : escaped? c = some point) (points : List Nat)
    (rest : List Char) :
    tokens? (.inText points) ('\\' :: c :: rest) = tokens? (.inText (point :: points)) rest := by
  rw [tokens?, h]
  intro _ _ _ _ _ hUnicode _
  rw [hUnicode] at h
  cases h

/-- One character between quotes is read as its code points. -/
theorem tokens?_escapeChar (asciiOnly : Bool) (c : Char) (points : List Nat) (rest : List Char) :
    tokens? (.inText points) (escapeChar asciiOnly c ++ rest) =
      tokens? (.inText ((units asciiOnly c).reverse ++ points)) rest := by
  rcases escapeChar_cases asciiOnly c with
    ⟨letter, hOwn, hChars⟩ | ⟨hNumber, hChars⟩ | ⟨⟨hQuote, hSlash, hLow, hHigh⟩, hChars⟩
  · have hAll : ∀ pair ∈ ownEscapes, escaped? pair.2 = some pair.1.toNat := by
      simp [ownEscapes, escaped?]
    rw [hChars, units_of_mem_ownEscapes hOwn]
    exact tokens?_escaped (hAll _ hOwn) points rest
  · have hUnits : units asciiOnly c = units true c := by
      cases asciiOnly with
      | true => rfl
      | false =>
          have hBasic : c.toNat < 0x10000 := by simp at hNumber; omega
          rw [units_of_lt _ hBasic, units_of_lt _ hBasic]
    rw [hChars, tokens?_numericEscape, hUnits]
  · have hUnits : units asciiOnly c = [c.toNat] := by
      cases asciiOnly with
      | false => rfl
      | true => exact units_of_lt _ (by have := hHigh rfl; omega)
    rw [hChars, hUnits, List.singleton_append]
    exact tokens?_plain hQuote hSlash hLow points rest

theorem tokens?_flatMap_escapeChar (asciiOnly : Bool) (text : List Char) (points : List Nat)
    (rest : List Char) :
    tokens? (.inText points) (text.flatMap (escapeChar asciiOnly) ++ rest) =
      tokens? (.inText ((text.flatMap (units asciiOnly)).reverse ++ points)) rest := by
  induction text generalizing points with
  | nil => rfl
  | cons c text ih =>
      rw [List.flatMap_cons, List.append_assoc, tokens?_escapeChar, ih, List.flatMap_cons,
        List.reverse_append, List.append_assoc]

/-- A quoted text is one token, and what follows it is read on its own. -/
theorem tokens?_quote (asciiOnly : Bool) (text rest : List Char) :
    tokens? (.outside []) (quote asciiOnly text ++ rest) =
      (tokens? (.outside []) rest).map (.scalar (.text (String.ofList text)) :: ·) := by
  have hOpen (tail : List Char) : tokens? (.outside []) ('"' :: tail) = tokens? (.inText []) tail := by
    simp [tokens?, isWordChar]
  rw [quote, List.cons_append, List.cons_append, hOpen, List.append_assoc, tokens?_flatMap_escapeChar,
    List.append_nil, List.singleton_append, tokens?, List.reverse_reverse, joinPairs_flatMap_units,
    ofPoints_map_toNat]

/-- Reading a quoted text gives the text, whether or not characters outside
ASCII are escaped. -/
theorem read?_quote (asciiOnly : Bool) (text : List Char) :
    read? (String.ofList (quote asciiOnly text)) = some (.text (String.ofList text)) := by
  have hTokens := tokens?_quote asciiOnly text []
  rw [List.append_nil] at hTokens
  rw [read?, String.toList_ofList, hTokens]
  rfl

end RoutePaths.Json
