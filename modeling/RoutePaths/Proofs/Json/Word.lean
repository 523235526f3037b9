import RoutePaths.Value.Json.Printer
import RoutePaths.Value.Json.Token
import Mathlib.Data.List.Basic
import Mathlib.Data.List.TakeWhile

/-! Words outside of quotes read back: the constant words and the integers. A word ends
where a character follows that belongs to none. -/
namespace RoutePaths.Json

/-- No word goes on into the text. -/
def Ends (text : List Char) : Prop :=
  text.head?.any isWordChar = false

theorem ends_cons {c : Char} (h : isWordChar c = false) (rest : List Char) : Ends (c :: rest) :=
  h

/-- A word is one token, and what follows it is read on its own. -/
theorem tokens?_word {word rest : List Char} {value : Value} (hChars : ∀ c ∈ word, isWordChar c = true)
    (hNe : word ≠ []) (hRest : Ends rest) (hValue : word? word = some value) :
    tokens? (.outside []) (word ++ rest) =
      (tokens? (.outside []) rest).map (.scalar value :: ·) := by
  have hAll (read : List Char) (hRead : word? (read.reverse ++ word) = some value) :
      tokens? (.outside read) (word ++ rest) =
        (tokens? (.outside []) rest).map (.scalar value :: ·) := by
    clear hValue
    induction word generalizing read with
    | nil => exact absurd rfl hNe
    | cons c more ih =>
        rw [List.forall_mem_cons] at hChars
        rw [List.cons_append, tokens?, if_pos hChars.1]
        cases more with
        | nil =>
            have hHead : (([] : List Char) ++ rest).head?.any isWordChar = false := hRest
            have hWord : word? (c :: read).reverse = some value := by rw [List.reverse_cons, hRead]
            rw [hHead, hWord, List.nil_append]
            rfl
        | cons next others =>
            have hHead : ((next :: others) ++ rest).head?.any isWordChar = true :=
              (List.forall_mem_cons.mp hChars.2).1
            rw [hHead, if_pos rfl]
            refine ih hChars.2 (List.cons_ne_nil _ _) (c :: read) ?_
            rw [List.reverse_cons, List.append_assoc, List.singleton_append, hRead]
  exact hAll [] hValue

/-- A number above zero has no zero in front. -/
theorem head?_toDigits {n : Nat} (h : 0 < n) : (Nat.toDigits 10 n).head? ≠ some '0' := by
  induction n using Nat.strongRecOn with
  | ind n ih =>
      by_cases hSmall : n < 10
      · have hDigits : ∀ digit : Fin 10, 0 < digit.val → some (Nat.digitChar digit) ≠ some '0' := by
          decide
        rw [Nat.toDigits_of_lt_base hSmall, List.head?_cons]
        exact hDigits ⟨n, hSmall⟩ h
      · rw [Nat.toDigits_of_base_le (by decide) (by omega), List.head?_append_of_ne_nil _
          Nat.toDigits_ne_nil]
        exact ih (n / 10) (by omega) (by omega)

theorem isDigit_of_mem_toDigits {n : Nat} {c : Char} (h : c ∈ Nat.toDigits 10 n) :
    c.isDigit = true :=
  Nat.isDigit_of_mem_toDigits (by decide) (by decide) h

theorem isWhole_toDigits (n : Nat) : isWhole (Nat.toDigits 10 n) = true := by
  rcases Nat.eq_zero_or_pos n with rfl | hPos
  · rfl
  · have hAll : (Nat.toDigits 10 n).all Char.isDigit = true :=
      List.all_eq_true.mpr fun c hc => isDigit_of_mem_toDigits hc
    have hHead := head?_toDigits hPos
    cases hDigits : Nat.toDigits 10 n with
    | nil => exact absurd hDigits Nat.toDigits_ne_nil
    | cons c rest =>
        rw [hDigits] at hAll hHead
        have hNe : c ≠ '0' := fun hc => hHead (by rw [hc, List.head?_cons])
        rw [isWhole]
        · rw [hAll, Bool.and_true, bne_iff_ne]
          exact hNe
        · exact fun hc _ => hNe hc

theorem unsigned?_toDigits (negative : Bool) (n : Nat) :
    unsigned? negative (Nat.toDigits 10 n) = some (.int (if negative then -n else n)) := by
  have hWhole : (Nat.toDigits 10 n).takeWhile Char.isDigit = Nat.toDigits 10 n :=
    List.takeWhile_eq_self_iff.mpr fun c hc => isDigit_of_mem_toDigits hc
  have hRest : (Nat.toDigits 10 n).dropWhile Char.isDigit = [] :=
    List.dropWhile_eq_nil_iff.mpr fun c hc => isDigit_of_mem_toDigits hc
  have hNumber : decimalNumber (Nat.toDigits 10 n) = n := Nat.ofDigitChars_ten_toDigits
  rw [unsigned?]
  simp only [hWhole, hRest, isWhole_toDigits, hNumber]
  rfl

/-- No constant word starts with a digit, or with a digit behind a sign. -/
theorem constant?_eq_none_of_isDigit {c : Char} (h : c.isDigit = true) (rest : List Char) :
    constant? (c :: rest) = none ∧ constant? ('-' :: c :: rest) = none := by
  unfold constant?
  constructor
  · split <;> simp_all
  · split <;> simp_all

theorem isWordChar_of_isDigit {c : Char} (h : c.isDigit = true) : isWordChar c = true := by
  have hAll : ∀ n < 58, 48 ≤ n → isWordChar (Char.ofNat n) = true := by decide
  have hBounds : 48 ≤ c.toNat ∧ c.toNat ≤ 57 := by
    simpa [Char.isDigit, UInt32.le_iff_toNat_le] using h
  rw [← Char.ofNat_toNat c]
  exact hAll c.toNat (by omega) hBounds.1

theorem intText_ne_nil (n : Int) : intText n ≠ [] := by
  rw [intText]
  split
  · exact List.cons_ne_nil _ _
  · exact Nat.toDigits_ne_nil

theorem isWordChar_of_mem_intText {n : Int} {c : Char} (h : c ∈ intText n) :
    isWordChar c = true := by
  rw [intText] at h
  split at h
  · rcases List.mem_cons.mp h with rfl | h
    · rfl
    · exact isWordChar_of_isDigit (isDigit_of_mem_toDigits h)
  · exact isWordChar_of_isDigit (isDigit_of_mem_toDigits h)

/-- An integer reads back. -/
theorem word?_intText (n : Int) : word? (intText n) = some (.int n) := by
  obtain ⟨c, rest, hDigits⟩ := List.exists_cons_of_ne_nil
    (Nat.toDigits_ne_nil (n := n.natAbs) (b := 10))
  have hDigit : c.isDigit = true :=
    isDigit_of_mem_toDigits (n := n.natAbs) (by rw [hDigits]; exact List.mem_cons_self ..)
  have hNone := constant?_eq_none_of_isDigit hDigit rest
  have hNumber (negative : Bool) := unsigned?_toDigits negative n.natAbs
  rw [hDigits] at hNumber
  rw [intText, hDigits]
  split
  · rename_i hNegative
    rw [word?, hNone.2]
    show unsigned? true (c :: rest) = _
    rw [hNumber true, if_pos rfl]
    congr 2
    omega
  · rename_i hPositive
    have hSign : ∀ digits, c :: rest ≠ '-' :: digits := by
      rintro digits hSame
      cases hSame
      cases hDigit
    rw [word?, hNone.1]
    · show unsigned? false (c :: rest) = _
      rw [hNumber false, if_neg Bool.false_ne_true]
      congr 2
      omega
    · exact hSign

end RoutePaths.Json
