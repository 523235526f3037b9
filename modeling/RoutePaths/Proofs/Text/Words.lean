import RoutePaths.Text.Blank
import RoutePaths.Proofs.Splitting
import Mathlib.Data.List.TakeWhile

/-! The words of a text. Everything about them follows from one equation, which
says that a blank ends a word. -/
namespace RoutePaths.Text

/-- Nothing in the text is blank. The empty text counts. -/
def IsSolid (text : List Char) : Prop :=
  ∀ c ∈ text, isBlank c = false

instance : DecidablePred IsSolid := fun text =>
  decidable_of_iff (text.all (!isBlank ·) = true) (by simp [IsSolid])

/-- A text that can be a word of another one. -/
def IsWord (text : List Char) : Prop :=
  text ≠ [] ∧ IsSolid text

instance : DecidablePred IsWord := fun text =>
  inferInstanceAs (Decidable (text ≠ [] ∧ IsSolid text))

variable {text blanks word : List Char}

@[simp] theorem words_nil : words [] = [] := by
  simp [words]

theorem words_append_blank {c : Char} (hBlank : isBlank c = true) (before after : List Char) :
    words (before ++ c :: after) = words before ++ words after := by
  rw [words, List.splitOnP_append_cons before after hBlank, List.filter_append]
  rfl

theorem words_cons_blank {c : Char} (hBlank : isBlank c = true) (text : List Char) :
    words (c :: text) = words text :=
  words_append_blank hBlank [] text

/-- Blanks in front of a text belong to no word. -/
theorem words_blanks_append (hBlanks : ∀ c ∈ blanks, isBlank c = true) (text : List Char) :
    words (blanks ++ text) = words text := by
  induction blanks with
  | nil => rfl
  | cons c rest ih =>
      rw [List.forall_mem_cons] at hBlanks
      rw [List.cons_append, words_cons_blank hBlanks.1, ih hBlanks.2]

theorem words_of_blanks (hBlanks : ∀ c ∈ blanks, isBlank c = true) : words blanks = [] := by
  rw [← List.append_nil blanks, words_blanks_append hBlanks, words_nil]

/-- Nor do blanks behind it. -/
theorem words_append_blanks (hBlanks : ∀ c ∈ blanks, isBlank c = true) (text : List Char) :
    words (text ++ blanks) = words text := by
  cases blanks with
  | nil => rw [List.append_nil]
  | cons c rest =>
      rw [List.forall_mem_cons] at hBlanks
      rw [words_append_blank hBlanks.1, words_of_blanks hBlanks.2, List.append_nil]

theorem IsWord.words_eq (hWord : IsWord word) : words word = [word] := by
  rw [words, List.splitOnP_eq_singleton hWord.2]
  simp [hWord.1]

/-- Behind a word and a blank, the words of the rest follow. -/
theorem IsWord.words_append (hWord : IsWord word) (hBlanks : ∀ c ∈ blanks, isBlank c = true)
    (hSome : blanks ≠ []) (text : List Char) :
    words (word ++ blanks ++ text) = word :: words text := by
  cases blanks with
  | nil => exact absurd rfl hSome
  | cons c rest =>
      rw [List.forall_mem_cons] at hBlanks
      rw [List.append_assoc, List.cons_append, words_append_blank hBlanks.1, hWord.words_eq,
        words_blanks_append hBlanks.2, List.singleton_append]

theorem isWord_of_mem_words (hWord : word ∈ words text) : IsWord word := by
  obtain ⟨hPiece, hSome⟩ := List.mem_filter.mp hWord
  exact ⟨by simpa using hSome, Splitting.eq_false_of_mem_splitOnP hPiece⟩

/-- A text is what is left of it between blanks at its ends. -/
theorem exists_trim (text : List Char) :
    ∃ before after, text = before ++ trim text ++ after ∧
      (∀ c ∈ before, isBlank c = true) ∧ ∀ c ∈ after, isBlank c = true := by
  have hBehind : text.dropWhile isBlank = trim text ++
      ((text.dropWhile isBlank).reverse.takeWhile isBlank).reverse := by
    rw [trim, ← List.reverse_append, List.takeWhile_append_dropWhile, List.reverse_reverse]
  refine ⟨text.takeWhile isBlank, ((text.dropWhile isBlank).reverse.takeWhile isBlank).reverse, ?_,
    fun c hc => List.mem_takeWhile_imp hc, ?_⟩
  · rw [List.append_assoc, ← hBehind, List.takeWhile_append_dropWhile]
  · exact fun c hc => List.mem_takeWhile_imp (List.mem_reverse.mp hc)

theorem words_trim (text : List Char) : words (trim text) = words text := by
  obtain ⟨before, after, hText, hBefore, hAfter⟩ := exists_trim text
  calc words (trim text) = words (before ++ trim text ++ after) := by
        rw [words_append_blanks hAfter, words_blanks_append hBefore]
    _ = words text := congrArg words hText.symm

/-- Words joined by single spaces are the words of what they are joined to. -/
theorem words_intercalate {items : List (List Char)} (hItems : ∀ item ∈ items, IsWord item) :
    words ([' '].intercalate items) = items := by
  induction items with
  | nil => rfl
  | cons first rest ih =>
      have hSpace : ∀ c ∈ [' '], isBlank c = true := List.forall_mem_singleton.mpr (by decide)
      rw [List.forall_mem_cons] at hItems
      cases rest with
      | nil => simpa using hItems.1.words_eq
      | cons second others =>
          rw [List.intercalate_cons_cons, hItems.1.words_append hSpace (by simp), ih hItems.2]

end RoutePaths.Text
