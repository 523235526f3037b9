import RoutePaths.Proofs.Name.Sanitize
import RoutePaths.Proofs.Splitting

/-! Names of modules and of classes. They start with a letter in upper case, which
few keywords do, and the names of classes end in a word that no keyword ends in.
The names of modules are not kept apart from the keywords that are left. -/
namespace RoutePaths.Name

/-- The keywords that start with a letter in upper case. -/
def capitalKeywords : List String :=
  ["False", "None", "True"]

/-- Letters and digits of ASCII, the first of which is a letter in upper case. -/
def IsCapital : List Char → Prop
  | [] => False
  | c :: rest => c.isUpper = true ∧ ∀ d ∈ rest, isWordChar d = true

instance : DecidablePred IsCapital
  | [] => .isFalse id
  | c :: rest =>
    decidable_of_iff (c.isUpper = true ∧ rest.all isWordChar = true)
      (and_congr_right' List.all_eq_true)

theorem isSafeChar_of_isWordChar {c : Char} (h : isWordChar c = true) : isSafeChar c = true := by
  rw [isSafeChar, Bool.or_eq_true]
  exact Or.inl h

theorem toNat_lt_of_isWordChar {c : Char} (h : isWordChar c = true) : c.toNat < 0x80 :=
  toNat_lt_of_isSafeChar (isSafeChar_of_isWordChar h)

/-- A letter in upper case is no digit. -/
theorem isDigit_of_isUpper {c : Char} (h : c.isUpper = true) : c.isDigit = false := by
  delta Char.isUpper at h
  delta Char.isDigit
  simp only [decide_eq_true_eq, ge_iff_le, UInt32.le_iff_toNat_le] at h
  simp only [Bool.and_eq_false_iff, decide_eq_false_iff_not, ge_iff_le, UInt32.le_iff_toNat_le]
  have hUpper : 'A'.val.toNat = 65 := rfl
  have hDigit : '9'.val.toNat = 57 := rfl
  omega

theorem isWordChar_of_isUpper {c : Char} (h : c.isUpper = true) : isWordChar c = true := by
  show (c.isUpper || c.isLower || c.isDigit) = true
  rw [h]
  rfl

theorem isPlain_of_isCapital {text : List Char} (h : IsCapital text) : IsPlain text := by
  cases text with
  | nil => exact h.elim
  | cons c rest =>
      refine ⟨isSafeChar_of_isWordChar (isWordChar_of_isUpper h.1), isDigit_of_isUpper h.1, ?_⟩
      exact fun d hd => isSafeChar_of_isWordChar (h.2 d hd)

theorem isWordChar_toUpper {c : Char} (h : isWordChar c = true) :
    isWordChar c.toUpper = true ∧ (c.toUpper.isDigit = true ∨ c.toUpper.isUpper = true) := by
  have hAll : ∀ n < 0x80, isWordChar (Char.ofNat n) = true →
      isWordChar (Char.ofNat n).toUpper = true ∧
        ((Char.ofNat n).toUpper.isDigit = true ∨ (Char.ofNat n).toUpper.isUpper = true) := by
    decide
  have hChar := hAll c.toNat (toNat_lt_of_isWordChar h)
  rw [Char.ofNat_toNat] at hChar
  exact hChar h

/-- Words as they are joined: the first letter is a digit or in upper case. -/
theorem exists_joined {words : List (List Char)}
    (hWords : ∀ word ∈ words, word ≠ [] ∧ ∀ c ∈ word, isWordChar c = true) (hSome : words ≠ []) :
    ∃ c rest, words.flatMap capitalize = c :: rest ∧ (c.isDigit = true ∨ c.isUpper = true) ∧
      ∀ d ∈ c :: rest, isWordChar d = true := by
  have hLetters : ∀ d ∈ words.flatMap capitalize, isWordChar d = true := by
    intro d hd
    obtain ⟨word, hWord, hd⟩ := List.mem_flatMap.mp hd
    obtain ⟨hNe, hSafe⟩ := hWords word hWord
    obtain ⟨c, rest, rfl⟩ := List.exists_cons_of_ne_nil hNe
    rw [List.forall_mem_cons] at hSafe
    rcases List.mem_cons.mp hd with rfl | hd
    · exact (isWordChar_toUpper hSafe.1).1
    · exact hSafe.2 d hd
  obtain ⟨first, others, rfl⟩ := List.exists_cons_of_ne_nil hSome
  obtain ⟨hNe, hSafe⟩ := hWords first (List.mem_cons_self ..)
  obtain ⟨c, rest, rfl⟩ := List.exists_cons_of_ne_nil hNe
  refine ⟨c.toUpper, rest ++ others.flatMap capitalize, rfl, ?_, hLetters⟩
  exact (isWordChar_toUpper (hSafe c (List.mem_cons_self ..))).2

/-- The name of a module starts with a letter in upper case, whatever it is for. -/
theorem isCapital_pascal (text : String) : IsCapital (pascal text).toList := by
  have hWords : ∀ word ∈ (text.toList.splitOnP (!isWordChar ·)).filter (· ≠ []),
      word ≠ [] ∧ ∀ c ∈ word, isWordChar c = true := by
    intro word hWord
    obtain ⟨hPiece, hNe⟩ := List.mem_filter.mp hWord
    refine ⟨by simpa using hNe, fun c hc => ?_⟩
    simpa using Splitting.eq_false_of_mem_splitOnP hPiece c hc
  rw [pascal]
  generalize (text.toList.splitOnP (!isWordChar ·)).filter (· ≠ []) = words at hWords
  by_cases hSome : words = []
  · rw [hSome]
    decide
  · obtain ⟨c, rest, hJoined, hFirst, hLetters⟩ := exists_joined hWords hSome
    rw [List.forall_mem_cons] at hLetters
    have hDigit := isDigit_of_isSafeChar (isSafeChar_of_isWordChar hLetters.1)
    simp only [hJoined, reduceCtorEq, ↓reduceIte, String.toList_ofList, guardDigit, hDigit]
    split
    · exact ⟨by decide, List.forall_mem_cons.mpr hLetters⟩
    · rename_i hOther
      exact ⟨hFirst.resolve_left hOther, hLetters.2⟩

theorem mem_capitalKeywords_of_isCapital {name : String} (h : IsCapital name.toList)
    (hKeyword : name ∈ keywords) : name ∈ capitalKeywords := by
  have hAll : ∀ keyword ∈ keywords, keyword ∈ capitalKeywords ∨
      keyword.toList.head?.any Char.isUpper = false := by
    decide
  refine (hAll name hKeyword).resolve_right fun hLower => ?_
  cases hText : name.toList with
  | nil =>
      rw [hText] at h
      exact h
  | cons c rest =>
      rw [hText] at h hLower
      rw [List.head?_cons, Option.any_some, h.1] at hLower
      cases hLower

/-- The name of a module is legal unless it is one of three keywords. -/
theorem isLegal_pascal_iff {text : String} :
    isLegal (pascal text) = true ↔ pascal text ∉ capitalKeywords := by
  have hCapital := isCapital_pascal text
  have hAll : ∀ keyword ∈ capitalKeywords, keyword ∈ keywords := by decide
  rw [isLegal_iff_of_isPlain (isPlain_of_isCapital hCapital)]
  exact not_congr ⟨mem_capitalKeywords_of_isCapital hCapital, hAll _⟩

/-- The name of a class is legal, because no keyword ends as it does. -/
theorem isLegal_pascal_append_params (text : String) : isLegal (pascal text ++ "Params") = true := by
  have hPlain : IsPlain (pascal text ++ "Params").toList := by
    rw [String.toList_append]
    exact (isPlain_of_isCapital (isCapital_pascal text)).append (List.all_eq_true.mp (by decide))
  rw [isLegal_iff_of_isPlain hPlain]
  intro hKeyword
  have hAll : ∀ keyword ∈ keywords, ¬ "Params".toList <:+ keyword.toList := by decide
  refine hAll _ hKeyword ?_
  rw [String.toList_append]
  exact List.suffix_append _ _

end RoutePaths.Name
