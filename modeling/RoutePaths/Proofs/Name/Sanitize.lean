import RoutePaths.Name
import Mathlib.Data.List.Basic

/-! Sanitised names can be used in generated code as they are. They are
identifiers of ASCII, and they are neither keywords nor names that a module
needs for itself. -/
namespace RoutePaths.Name

/-- An identifier of ASCII: safe characters, the first of which is no digit. -/
def IsPlain : List Char → Prop
  | [] => False
  | c :: rest => isSafeChar c = true ∧ c.isDigit = false ∧ ∀ d ∈ rest, isSafeChar d = true

instance : DecidablePred IsPlain
  | [] => .isFalse id
  | c :: rest =>
    decidable_of_iff
      (isSafeChar c = true ∧ c.isDigit = false ∧ rest.all isSafeChar = true)
      (and_congr_right' (and_congr_right' List.all_eq_true))

theorem IsPlain.safe {text : List Char} (h : IsPlain text) : ∀ c ∈ text, isSafeChar c = true := by
  cases text with
  | nil => exact h.elim
  | cons c rest =>
      intro d hd
      rcases List.mem_cons.mp hd with rfl | hd
      · exact h.1
      · exact h.2.2 d hd

theorem IsPlain.ne_nil {text : List Char} (h : IsPlain text) : text ≠ [] := by
  rintro rfl
  exact h

/-- An identifier stays one when safe characters follow it. -/
theorem IsPlain.append {text more : List Char} (h : IsPlain text)
    (hMore : ∀ c ∈ more, isSafeChar c = true) : IsPlain (text ++ more) := by
  cases text with
  | nil => exact h.elim
  | cons c rest =>
      refine ⟨h.1, h.2.1, ?_⟩
      intro d hd
      rcases List.mem_append.mp hd with hd | hd
      · exact h.2.2 d hd
      · exact hMore d hd

/-- Safe characters are ASCII. -/
theorem toNat_lt_of_isSafeChar {c : Char} (h : isSafeChar c = true) : c.toNat < 0x80 := by
  delta isSafeChar Char.isAlphanum Char.isAlpha Char.isUpper Char.isLower Char.isDigit at h
  simp only [Bool.or_eq_true, Bool.and_eq_true, decide_eq_true_eq, beq_iff_eq] at h
  have hVal : c.toNat = c.val.toNat := rfl
  rcases h with ((⟨_, h⟩ | ⟨_, h⟩) | ⟨_, h⟩) | rfl
  · have := UInt32.le_iff_toNat_le.mp h; simp at this; omega
  · have := UInt32.le_iff_toNat_le.mp h; simp at this; omega
  · have := UInt32.le_iff_toNat_le.mp h; simp at this; omega
  · decide

/-- Among safe characters the digits of any script are those of ASCII. -/
theorem isDigit_of_isSafeChar {c : Char} (h : isSafeChar c = true) : Text.isDigit c = c.isDigit := by
  rw [Text.isDigit, if_pos (toNat_lt_of_isSafeChar h)]

theorem isSafeChar_replaceUnsafe (text : List Char) :
    ∀ c ∈ replaceUnsafe text, isSafeChar c = true := by
  intro c hc
  obtain ⟨d, _, rfl⟩ := List.mem_map.mp hc
  split
  · assumption
  · decide

theorem isPlain_guardDigit {text : List Char} (hSafe : ∀ c ∈ text, isSafeChar c = true)
    (hText : text ≠ []) : IsPlain (guardDigit digitLead text) := by
  cases text with
  | nil => exact absurd rfl hText
  | cons c rest =>
      have hLead : IsPlain digitLead := by decide
      have hDigit := isDigit_of_isSafeChar (hSafe c (List.mem_cons_self ..))
      cases hc : c.isDigit with
      | true =>
          simp only [guardDigit, hDigit, hc, ↓reduceIte]
          exact hLead.append hSafe
      | false =>
          simp only [guardDigit, hDigit, hc, Bool.false_eq_true, ↓reduceIte]
          exact ⟨hSafe c (List.mem_cons_self ..), hc, fun d hd => hSafe d (List.mem_cons_of_mem _ hd)⟩

/-- No taken name is another one with an underscore at its end. -/
theorem isTaken_append_underscore {name : String} (h : isTaken name = true) :
    isTaken (name ++ "_") = false := by
  have hAll : ∀ taken ∈ keywords ++ reserved, isTaken (taken ++ "_") = false := by decide
  apply hAll
  simpa [isTaken] using h

/-- The name, or a free name next to it. -/
def release (name : String) : String :=
  if isTaken name then name ++ "_" else name

theorem isTaken_release (name : String) : isTaken (release name) = false := by
  cases hTaken : isTaken name with
  | true => simpa [release, hTaken] using isTaken_append_underscore hTaken
  | false => simp [release, hTaken]

theorem isPlain_release {name : String} (h : IsPlain name.toList) : IsPlain (release name).toList := by
  unfold release
  split
  · rw [String.toList_append]
    exact h.append (List.all_eq_true.mp (by decide))
  · exact h

theorem sanitize_eq_release (text fallback : String) :
    sanitize text fallback = release (String.ofList (guardDigit digitLead
      (if replaceUnsafe text.toList = [] then fallback.toList else replaceUnsafe text.toList))) :=
  rfl

/-- Sanitised names are identifiers, provided that the fallback is one. -/
theorem isPlain_sanitize (text : String) {fallback : String} (hFallback : IsPlain fallback.toList) :
    IsPlain (sanitize text fallback).toList := by
  rw [sanitize_eq_release]
  apply isPlain_release
  rw [String.toList_ofList]
  split
  · exact isPlain_guardDigit hFallback.safe hFallback.ne_nil
  · rename_i hReplaced
    exact isPlain_guardDigit (isSafeChar_replaceUnsafe text.toList) hReplaced

/-- A sanitised name is neither a keyword nor reserved. -/
theorem isTaken_sanitize (text fallback : String) : isTaken (sanitize text fallback) = false := by
  rw [sanitize_eq_release]
  exact isTaken_release _

theorem isIdentifierStart_of_isSafeChar {c : Char} (h : isSafeChar c = true)
    (hDigit : c.isDigit = false) : Text.isIdentifierStart c = true := by
  rw [Text.isIdentifierStart, if_pos (toNat_lt_of_isSafeChar h)]
  simpa [isSafeChar, Char.isAlphanum, hDigit] using h

theorem isIdentifierChar_of_isSafeChar {c : Char} (h : isSafeChar c = true) :
    Text.isIdentifierChar c = true := by
  rw [Text.isIdentifierChar, if_pos (toNat_lt_of_isSafeChar h)]
  exact h

theorem isIdentifier_of_isPlain {text : List Char} (h : IsPlain text) :
    Text.isIdentifier text = true := by
  cases text with
  | nil => exact h.elim
  | cons c rest =>
      rw [Text.isIdentifier, isIdentifierStart_of_isSafeChar h.1 h.2.1, Bool.true_and,
        List.all_eq_true]
      exact fun d hd => isIdentifierChar_of_isSafeChar (h.2.2 d hd)

/-- Among identifiers of ASCII, those that are no keywords are legal. -/
theorem isLegal_iff_of_isPlain {name : String} (h : IsPlain name.toList) :
    isLegal name = true ↔ name ∉ keywords := by
  rw [isLegal, isIdentifier_of_isPlain h]
  simp

/-- An identifier of ASCII that is not taken is legal. -/
theorem isLegal_of_isPlain {name : String} (h : IsPlain name.toList)
    (hFree : isTaken name = false) : isLegal name = true := by
  rw [isLegal_iff_of_isPlain h]
  simp only [isTaken, Bool.or_eq_false_iff] at hFree
  simpa using hFree.1

theorem isLegal_sanitize (text : String) {fallback : String} (hFallback : IsPlain fallback.toList) :
    isLegal (sanitize text fallback) = true :=
  isLegal_of_isPlain (isPlain_sanitize text hFallback) (isTaken_sanitize text fallback)

end RoutePaths.Name
