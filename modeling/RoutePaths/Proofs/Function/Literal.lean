import RoutePaths.Module.Printer
import RoutePaths.Proofs.Json.Quote

/-! String literals of generated code as Python reads them. They are written as JSON text is,
and the two languages agree on every escape but one: a pair of surrogates is one character in
JSON, and stays two code points in Python. -/
namespace RoutePaths.Literal

/-- The code point of an escape that consists of a backslash and one character. -/
def escaped? : Char → Option Nat
  | '"' => some 0x22
  | '\\' => some 0x5C
  | 'n' => some 0x0A
  | 'r' => some 0x0D
  | 't' => some 0x09
  | 'b' => some 0x08
  | 'f' => some 0x0C
  | _ => none

/-- What is read when one more code point stands in front. -/
def prepend (point : Nat) (found : List Nat × List Char) : List Nat × List Char :=
  (point :: found.1, found.2)

/-- Reads a literal behind its opening quote, up to the first quote that is not escaped. The
result are the code points that it denotes, and what follows it. An escape with four digits is
the code point of that number, whatever stands beside it. A line does not end in a literal, and
other escapes than these are not read. -/
def body? : List Char → Option (List Nat × List Char)
  | [] => none
  | '"' :: rest => some ([], rest)
  | '\\' :: 'u' :: a :: b :: c :: d :: rest =>
    match Json.hexNumber? [a, b, c, d] with
    | some point => (body? rest).map (prepend point)
    | none => none
  | '\\' :: c :: rest =>
    match escaped? c with
    | some point => (body? rest).map (prepend point)
    | none => none
  | c :: rest =>
    if c = '\\' || c = '\n' || c = '\r' then none else (body? rest).map (prepend c.toNat)

/-- Reads a literal in double quotes. -/
def read? : List Char → Option (List Nat × List Char)
  | '"' :: rest => body? rest
  | _ => none

/-- What is read when the code points of one character stand in front. -/
def prependChar (c : Char) (found : List Nat × List Char) : List Nat × List Char :=
  (Json.units true c ++ found.1, found.2)

theorem prependChar_of_lt {c : Char} (h : c.toNat < 0x10000) :
    prependChar c = prepend c.toNat := by
  funext found
  rw [prependChar, Json.units_of_lt true h]
  rfl

theorem body?_escaped {c : Char} {point : Nat} (h : escaped? c = some point) (rest : List Char) :
    body? ('\\' :: c :: rest) = (body? rest).map (prepend point) := by
  rw [body?, h]
  intro _ _ _ _ _ hUnicode _
  rw [hUnicode] at h
  cases h

/-- A character that needs no escape stands for itself. -/
theorem body?_plain {c : Char} (hQuote : c ≠ '"') (hSlash : c ≠ '\\') (hControl : 0x20 ≤ c.toNat)
    (rest : List Char) : body? (c :: rest) = (body? rest).map (prepend c.toNat) := by
  have hFeed : c ≠ '\n' := by
    rintro rfl
    exact absurd hControl (by decide)
  have hReturn : c ≠ '\r' := by
    rintro rfl
    exact absurd hControl (by decide)
  rw [body?, if_neg (by simp [hSlash, hFeed, hReturn])]
  · exact hQuote
  · intro _ _ _ _ _ hEq _
    exact hSlash hEq
  · intro _ _ hEq _
    exact hSlash hEq

theorem body?_hexFour {point : Nat} (h : point < 0x10000) (rest : List Char) :
    body? ('\\' :: 'u' :: (Json.hexFour point ++ rest)) = (body? rest).map (prepend point) := by
  have hNumber := Json.hexNumber?_hexFour h
  simp only [Json.hexFour] at hNumber
  simp only [Json.hexFour, List.cons_append, List.nil_append]
  rw [body?, hNumber]

theorem body?_numericEscape (c : Char) (rest : List Char) :
    body? (Json.numericEscape c.toNat ++ rest) = (body? rest).map (prependChar c) := by
  have hBounds := Json.toNat_bounds c
  by_cases hBasic : c.toNat < 0x10000
  · rw [Json.numericEscape, if_pos hBasic, List.cons_append, List.cons_append,
      body?_hexFour hBasic, prependChar_of_lt hBasic]
  · simp only [Json.numericEscape, hBasic, ↓reduceIte, List.cons_append, List.append_assoc]
    rw [body?_hexFour (by omega), body?_hexFour (by omega), Option.map_map]
    congr 1
    funext found
    rw [prependChar, Json.units_of_le (Nat.le_of_not_lt hBasic)]
    rfl

/-- One character between the quotes is read as its code points. -/
theorem body?_escapeChar (c : Char) (rest : List Char) :
    body? (Json.escapeChar true c ++ rest) = (body? rest).map (prependChar c) := by
  rcases Json.escapeChar_cases true c with
    ⟨letter, hOwn, hChars⟩ | ⟨-, hChars⟩ | ⟨⟨hQuote, hSlash, hLow, hHigh⟩, hChars⟩
  · have hAll : ∀ pair ∈ Json.ownEscapes, escaped? pair.2 = some pair.1.toNat := by
      simp [Json.ownEscapes, escaped?]
    have hUnits : prependChar c = prepend c.toNat := by
      funext found
      rw [prependChar, Json.units_of_mem_ownEscapes hOwn]
      rfl
    rw [hChars, hUnits]
    exact body?_escaped (hAll _ hOwn) rest
  · rw [hChars]
    exact body?_numericEscape c rest
  · have hBasic : c.toNat < 0x10000 := by have := hHigh rfl; omega
    rw [hChars, List.singleton_append, body?_plain hQuote hSlash hLow, prependChar_of_lt hBasic]

/-- The text between the quotes is read up to the closing one. -/
theorem body?_flatMap_escapeChar (text rest : List Char) :
    body? (text.flatMap (Json.escapeChar true) ++ '"' :: rest) =
      some (text.flatMap (Json.units true), rest) := by
  induction text with
  | nil => rw [List.flatMap_nil, List.nil_append, body?, List.flatMap_nil]
  | cons c text ih =>
      rw [List.flatMap_cons, List.append_assoc, body?_escapeChar, ih, List.flatMap_cons]
      rfl

theorem read?_literal (text : String) (rest : List Char) :
    read? ((literal text).toList ++ rest) = some (text.toList.flatMap (Json.units true), rest) := by
  rw [literal, String.toList_ofList, Json.quote, List.cons_append, List.cons_append, read?,
    List.append_assoc, List.singleton_append, body?_flatMap_escapeChar]

/-- A character above the basic plane is written by two code points, neither of which is its
own. -/
theorem flatMap_units_eq_iff {text : List Char} :
    text.flatMap (Json.units true) = text.map Char.toNat ↔ ∀ c ∈ text, c.toNat < 0x10000 := by
  induction text with
  | nil => simp
  | cons c rest ih =>
      rw [List.flatMap_cons, List.map_cons, List.forall_mem_cons, ← ih]
      by_cases hBasic : c.toNat < 0x10000
      · rw [Json.units_of_lt true hBasic, List.singleton_append, List.cons.injEq]
        exact and_congr_left fun _ => iff_of_true rfl hBasic
      · have hBounds := Json.toNat_bounds c
        refine iff_of_false (fun hSame => ?_) fun h => hBasic h.1
        rw [Json.units_of_le (Nat.le_of_not_lt hBasic), List.cons_append, List.cons.injEq] at hSame
        omega

/-- The character is printed as it is in ASCII, and no line ends with it. -/
def IsPrintable (c : Char) : Prop :=
  0x20 ≤ c.toNat ∧ c.toNat < 0x7F

instance : DecidablePred IsPrintable := fun c =>
  inferInstanceAs (Decidable (0x20 ≤ c.toNat ∧ c.toNat < 0x7F))

theorem isPrintable_hexChar (n : Nat) : IsPrintable (Json.hexChar n) := by
  have hAll : ∀ digit : Fin 16, IsPrintable (Nat.digitChar digit) := by decide
  exact hAll ⟨n % 16, Nat.mod_lt n (by decide)⟩

theorem isPrintable_of_mem_numericEscape {point : Nat} {c : Char}
    (h : c ∈ Json.numericEscape point) : IsPrintable c := by
  have hFour (point : Nat) : ∀ d ∈ '\\' :: 'u' :: Json.hexFour point, IsPrintable d := by
    simp only [Json.hexFour, List.forall_mem_cons, List.not_mem_nil, false_imp_iff, implies_true,
      isPrintable_hexChar, and_true]
    decide
  rw [Json.numericEscape] at h
  split at h
  · exact hFour _ c h
  · rcases List.mem_append.mp h with h | h
    · exact hFour _ c h
    · exact hFour _ c h

theorem isPrintable_of_mem_escapeChar {d c : Char} (h : c ∈ Json.escapeChar true d) :
    IsPrintable c := by
  rcases Json.escapeChar_cases true d with
    ⟨letter, hOwn, hChars⟩ | ⟨-, hChars⟩ | ⟨⟨-, -, hLow, hHigh⟩, hChars⟩
  · have hSlash : IsPrintable '\\' := by decide
    have hAll : ∀ pair ∈ Json.ownEscapes, IsPrintable pair.2 := by
      simp [Json.ownEscapes, IsPrintable]
    rw [hChars, List.mem_cons, List.mem_singleton] at h
    rcases h with rfl | rfl
    · exact hSlash
    · exact hAll _ hOwn
  · exact isPrintable_of_mem_numericEscape (hChars ▸ h)
  · rw [hChars, List.mem_singleton] at h
    subst h
    exact ⟨hLow, hHigh rfl⟩

theorem isPrintable_of_mem_quote {text : List Char} {c : Char} (h : c ∈ Json.quote true text) :
    IsPrintable c := by
  have hQuote : IsPrintable '"' := by decide
  rw [Json.quote, List.cons_append, List.mem_cons, List.mem_append, List.mem_singleton] at h
  rcases h with rfl | h | rfl
  · exact hQuote
  · obtain ⟨d, -, hMem⟩ := List.mem_flatMap.mp h
    exact isPrintable_of_mem_escapeChar hMem
  · exact hQuote

theorem isPrintable_of_mem_literal {text : String} {c : Char} (h : c ∈ (literal text).toList) :
    IsPrintable c := by
  rw [literal, String.toList_ofList] at h
  exact isPrintable_of_mem_quote h

/-- A literal denotes its text, if no character of the text lies above the basic plane; such a
character comes back as two surrogates. Every literal is on one line, and only its last quote
closes it. -/
theorem literal_denotes (text : String) :
    (∀ rest, read? ((literal text).toList ++ rest) =
        some (text.toList.flatMap (Json.units true), rest)) ∧
      (read? (literal text).toList = some (text.toList.map Char.toNat, []) ↔
        ∀ c ∈ text.toList, c.toNat < 0x10000) ∧
      ∀ c ∈ (literal text).toList, IsPrintable c := by
  refine ⟨read?_literal text, ?_, fun c hc => isPrintable_of_mem_literal hc⟩
  have hRead := read?_literal text []
  rw [List.append_nil] at hRead
  rw [hRead, ← flatMap_units_eq_iff, Option.some.injEq, Prod.mk.injEq]
  exact and_iff_left rfl

/-- A character above the basic plane does not come back. -/
theorem literal_splits :
    literal "/😀" = "\"/\\ud83d\\ude00\"" ∧ "/😀".toList.map Char.toNat = [0x2F, 0x1F600] ∧
      read? (literal "/😀").toList = some ([0x2F, 0xD83D, 0xDE00], []) ∧
      read? (literal "/😀").toList ≠ some ("/😀".toList.map Char.toNat, []) := by
  decide

end RoutePaths.Literal
