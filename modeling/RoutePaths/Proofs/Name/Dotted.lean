import RoutePaths.Proofs.Name.Pascal

/-! Paths of names that are joined by dots. No identifier has a dot in it, so that a
path tells the names that it is made of. -/
namespace RoutePaths

namespace Text

theorem isIdentifierChar_of_isIdentifierStart {c : Char} (h : isIdentifierStart c = true) :
    isIdentifierChar c = true := by
  unfold isIdentifierStart at h
  unfold isIdentifierChar
  split
  · rename_i hAscii
    rw [if_pos hAscii] at h
    simp only [Char.isAlphanum, Bool.or_eq_true] at h ⊢
    exact h.imp_left Or.inl
  · rename_i hOther
    rw [if_neg hOther] at h
    rw [h, Bool.true_or]

theorem isIdentifierChar_of_mem {text : List Char} (h : isIdentifier text = true) :
    ∀ c ∈ text, isIdentifierChar c = true := by
  cases text with
  | nil => cases h
  | cons c rest =>
      rw [isIdentifier, Bool.and_eq_true, List.all_eq_true] at h
      exact List.forall_mem_cons.mpr ⟨isIdentifierChar_of_isIdentifierStart h.1, h.2⟩

theorem not_mem_of_isIdentifier {text : List Char} (h : isIdentifier text = true) {c : Char}
    (hOther : isIdentifierChar c = false) : c ∉ text := by
  intro hMem
  rw [isIdentifierChar_of_mem h c hMem] at hOther
  cases hOther

end Text

namespace Name

theorem isIdentifier_of_isLegal {name : String} (h : isLegal name = true) :
    Text.isIdentifier name.toList = true := by
  rw [isLegal, Bool.and_eq_true] at h
  exact h.1

theorem isIdentifier_pascal (text : String) : Text.isIdentifier (pascal text).toList = true :=
  isIdentifier_of_isPlain (isPlain_of_isCapital (isCapital_pascal text))

/-- The names that a dotted path is made of. The empty path has none. -/
def dottedParts (path : String) : List String :=
  if path = "" then [] else (path.toList.splitOn '.').map String.ofList

/-- A path is accepted if all its names are legal. -/
theorem isDotted_iff {path : String} :
    isDotted path = true ↔ ∀ part ∈ dottedParts path, isLegal part = true := by
  rw [isDotted, dottedParts, Bool.or_eq_true, decide_eq_true_eq, List.all_eq_true]
  split
  · simp [*]
  · rw [List.forall_mem_map]
    simp [*]

theorem dottedParts_intercalate {parts : List String}
    (h : ∀ part ∈ parts, Text.isIdentifier part.toList = true) :
    dottedParts (".".intercalate parts) = parts := by
  cases parts with
  | nil => rfl
  | cons first rest =>
      have hDots : ∀ piece ∈ (first :: rest).map String.toList, '.' ∉ piece := by
        rw [List.forall_mem_map]
        exact fun part hPart => Text.not_mem_of_isIdentifier (h part hPart) (by decide)
      have hSplit := List.splitOn_intercalate '.' hDots (List.cons_ne_nil _ _)
      have hPath : (".".intercalate (first :: rest)).toList =
          ['.'].intercalate ((first :: rest).map String.toList) := String.toList_intercalate
      have hSome : ".".intercalate (first :: rest) ≠ "" := by
        intro hEmpty
        rw [← hPath, hEmpty] at hSplit
        have hFirst := h first (List.mem_cons_self ..)
        rw [← (List.cons.inj hSplit).1] at hFirst
        cases hFirst
      rw [dottedParts, if_neg hSome, hPath, hSplit, List.map_map]
      exact List.map_id'' (fun part => String.ofList_toList) _

end Name

end RoutePaths
