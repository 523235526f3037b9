import RoutePaths.Text.Utf8
import Mathlib.Data.List.Basic

/-! Texts as components of paths. A byte of a text either stands for itself or is written as a
percent sign and its number, so different texts are different components, and no component has
a slash in it. -/
namespace RoutePaths.Percent

/-- A byte that stands for itself: a letter, a digit, or one of four marks. -/
def isUnreserved (byte : UInt8) : Bool :=
  let c := Char.ofNat byte.toNat
  c.isAlphanum || c == '_' || c == '.' || c == '-' || c == '~'

/-- The last digit of a hexadecimal number, upper-case. -/
def hexDigit (number : Nat) : Char :=
  (Nat.digitChar (number % 16)).toUpper

/-- A byte in a component. -/
def byteText (byte : UInt8) : List Char :=
  if isUnreserved byte then [Char.ofNat byte.toNat]
  else ['%', hexDigit (byte.toNat / 16), hexDigit byte.toNat]

/-- A text as a component, by its bytes. -/
def encode (text : String) : String :=
  String.ofList ((Utf8.encode text).data.toList.flatMap byteText)

theorem hexDigit_inj {first second : Nat} (h : hexDigit first = hexDigit second) :
    first % 16 = second % 16 := by
  have hDigits : ∀ digit other : Fin 16,
      (Nat.digitChar digit).toUpper = (Nat.digitChar other).toUpper → digit = other := by
    decide
  have hSame := hDigits ⟨first % 16, Nat.mod_lt _ (by decide)⟩ ⟨second % 16, Nat.mod_lt _ (by decide)⟩ h
  exact congrArg Fin.val hSame

theorem toNat_ofNat_byte (byte : UInt8) : (Char.ofNat byte.toNat).toNat = byte.toNat := by
  have hByte := byte.toNat_lt
  have hValid : byte.toNat.isValidChar := Or.inl (by omega)
  have hSome : Char.ofNat byte.toNat = Char.ofNatAux byte.toNat hValid := dif_pos hValid
  rw [hSome]
  rfl

theorem ofNat_ne_of_isUnreserved {byte : UInt8} (h : isUnreserved byte = true) {c : Char}
    (hc : isUnreserved (UInt8.ofNat c.toNat) = false) : Char.ofNat byte.toNat ≠ c := by
  rintro rfl
  rw [toNat_ofNat_byte, UInt8.ofNat_toNat, h] at hc
  cases hc

/-- Where the text of a byte ends can be told from its first character. -/
theorem byteText_append_inj {first second : UInt8} {rest others : List Char}
    (h : byteText first ++ rest = byteText second ++ others) : first = second ∧ rest = others := by
  rw [byteText, byteText] at h
  by_cases hFirst : isUnreserved first = true
  · rw [if_pos hFirst] at h
    by_cases hSecond : isUnreserved second = true
    · rw [if_pos hSecond] at h
      obtain ⟨hChar, hRest⟩ := List.cons.inj h
      have hNumber := congrArg Char.toNat hChar
      rw [toNat_ofNat_byte, toNat_ofNat_byte] at hNumber
      exact ⟨UInt8.toNat_inj.mp hNumber, hRest⟩
    · rw [if_neg hSecond] at h
      exact absurd (List.cons.inj h).1 (ofNat_ne_of_isUnreserved hFirst (by decide))
  · rw [if_neg hFirst] at h
    by_cases hSecond : isUnreserved second = true
    · rw [if_pos hSecond] at h
      exact absurd (List.cons.inj h).1.symm (ofNat_ne_of_isUnreserved hSecond (by decide))
    · rw [if_neg hSecond] at h
      simp only [List.cons_append, List.nil_append, List.cons.injEq, true_and] at h
      obtain ⟨hHigh, hLow, hRest⟩ := h
      have hHigh := hexDigit_inj hHigh
      have hLow := hexDigit_inj hLow
      have hFirstBound := first.toNat_lt
      have hSecondBound := second.toNat_lt
      exact ⟨UInt8.toNat_inj.mp (by omega), hRest⟩

theorem byteText_ne_nil (byte : UInt8) : byteText byte ≠ [] := by
  rw [byteText]
  split <;> simp

theorem flatMap_byteText_inj {first second : List UInt8}
    (h : first.flatMap byteText = second.flatMap byteText) : first = second := by
  induction first generalizing second with
  | nil =>
      cases second with
      | nil => rfl
      | cons byte rest => simp [byteText_ne_nil] at h
  | cons byte rest ih =>
      cases second with
      | nil => simp [byteText_ne_nil] at h
      | cons other others =>
          rw [List.flatMap_cons, List.flatMap_cons] at h
          obtain ⟨hByte, hRest⟩ := byteText_append_inj h
          rw [hByte, ih hRest]

theorem encode_injective : Function.Injective encode := by
  intro first second h
  have hBytes := flatMap_byteText_inj (String.ofList_injective h)
  rw [Array.toList_inj] at hBytes
  exact String.toByteArray_inj.mp (ByteArray.ext hBytes)

theorem slash_not_mem_byteText (byte : UInt8) : '/' ∉ byteText byte := by
  have hDigits : ∀ digit : Fin 16, (Nat.digitChar digit).toUpper ≠ '/' := by decide
  have hDigit (number : Nat) : '/' ≠ hexDigit number :=
    (hDigits ⟨number % 16, Nat.mod_lt _ (by decide)⟩).symm
  rw [byteText]
  split
  · rename_i hByte
    rw [List.mem_singleton]
    exact (ofNat_ne_of_isUnreserved hByte (by decide)).symm
  · simp [hDigit]

theorem slash_not_mem_encode (text : String) : '/' ∉ (encode text).toList := by
  rw [encode, String.toList_ofList, List.mem_flatMap]
  rintro ⟨byte, -, hByte⟩
  exact slash_not_mem_byteText byte hByte

example : encode "a/b é" = "a%2Fb%20%C3%A9" := by decide +kernel

end RoutePaths.Percent
