import RoutePaths.Proofs.Text.Words
import RoutePaths.Table.Basic

/-! The lines of a table that are no rows, told by their text: blank lines, further
heads of the table, and the banners of engines. The tests for them look at words and
at trimmed text; here they are compared with the forms that such lines have. -/
namespace RoutePaths.Table
open Text

/-- A run of blanks, which may be empty. -/
def IsGap (gap : List Char) : Prop :=
  ∀ c ∈ gap, isBlank c = true

/-- The forms of a line that is no row. Nothing but its first four words matters in
a head, and the fourth may go on. A banner names something between its first words and
the colon at its end. -/
inductive LayoutLine : List Char → Prop
  | blank {line : List Char} (h : IsGap line) : LayoutLine line
  | header {indent first second third : List Char} (rest : List Char)
      (hIndent : IsGap indent) (hFirst : IsGap first ∧ first ≠ [])
      (hSecond : IsGap second ∧ second ≠ []) (hThird : IsGap third ∧ third ≠ []) :
      LayoutLine (indent ++ "Prefix".toList ++ first ++ "Verb".toList ++ second ++
        "URI".toList ++ third ++ "Pattern".toList ++ rest)
  | banner {indent engine gap : List Char} (hIndent : IsGap indent) (hEngine : engine ≠ [])
      (hGap : IsGap gap) :
      LayoutLine (indent ++ (bannerStart ++ engine ++ [':']) ++ gap)

variable {line word gap text : List Char} {rest : List (List Char)}

/-- The start of a text up to its first blank, and the rest from there on. -/
theorem exists_solid_append (text : List Char) :
    ∃ word rest, text = word ++ rest ∧ IsSolid word ∧ ∀ c ∈ rest.head?, isBlank c = true := by
  refine ⟨text.takeWhile (!isBlank ·), text.dropWhile (!isBlank ·),
    (List.takeWhile_append_dropWhile ..).symm, ?_, ?_⟩
  · intro c hc
    simpa using List.mem_takeWhile_imp hc
  · intro c hc
    have hHead := List.head?_dropWhile_not (!isBlank ·) text
    rw [Option.mem_def.mp hc] at hHead
    simpa using hHead

/-- A text that starts with a word has it as its first word, unless the word goes on. -/
theorem words_append_of_head? (hWord : IsWord word) (hRest : ∀ c ∈ text.head?, isBlank c = true) :
    words (word ++ text) = word :: words text := by
  cases text with
  | nil => rw [List.append_nil, words_nil, hWord.words_eq]
  | cons c text =>
      have hBlank := hRest c rfl
      rw [words_append_blank hBlank, hWord.words_eq, words_cons_blank hBlank, List.singleton_append]

/-- A text that is more than a gap has a first word, behind which it ends or a blank comes. -/
theorem exists_first_word (text : List Char) :
    IsGap text ∨ ∃ gap word back, text = gap ++ word ++ back ∧ IsGap gap ∧ IsWord word ∧
      ∀ c ∈ back.head?, isBlank c = true := by
  have hGap : IsGap (text.takeWhile isBlank) := fun c hc => List.mem_takeWhile_imp hc
  obtain ⟨first, back, hText, hSolid, hBack⟩ := exists_solid_append (text.dropWhile isBlank)
  have hSplit : text = text.takeWhile isBlank ++ (first ++ back) := by
    rw [← hText, List.takeWhile_append_dropWhile]
  cases first with
  | nil =>
      -- Behind the gap no blank can follow, so nothing follows at all.
      have hHead := List.head?_dropWhile_not isBlank text
      rw [hText, List.nil_append] at hHead
      cases back with
      | nil =>
          rw [List.append_nil, List.append_nil] at hSplit
          exact Or.inl (hSplit ▸ hGap)
      | cons c back =>
          have hBlank := hBack c rfl
          simp [hBlank] at hHead
  | cons c first =>
      rw [← List.append_assoc] at hSplit
      exact Or.inr ⟨_, _, back, hSplit, hGap, ⟨List.cons_ne_nil c first, hSolid⟩, hBack⟩

/-- The first word of a text stands behind a gap, and the other words behind it. -/
theorem exists_of_words_cons (h : words text = word :: rest) :
    ∃ gap back, text = gap ++ word ++ back ∧ IsGap gap ∧ words back = rest ∧
      ∀ c ∈ back.head?, isBlank c = true := by
  rcases exists_first_word text with hGap | ⟨gap, first, back, rfl, hGap, hFirst, hBack⟩
  · rw [words_of_blanks hGap] at h
    cases h
  · rw [List.append_assoc, words_blanks_append hGap, words_append_of_head? hFirst hBack] at h
    obtain ⟨rfl, hRest⟩ := List.cons.inj h
    exact ⟨gap, back, rfl, hGap, hRest, hBack⟩

/-- A text without words is a gap. -/
theorem isGap_of_words_eq_nil (h : words text = []) : IsGap text := by
  rcases exists_first_word text with hGap | ⟨gap, first, back, rfl, hGap, hFirst, hBack⟩
  · exact hGap
  · rw [List.append_assoc, words_blanks_append hGap, words_append_of_head? hFirst hBack] at h
    cases h

/-- Between two words there is a gap. -/
theorem exists_gap_of_words_cons (h : words text = word :: rest)
    (hHead : ∀ c ∈ text.head?, isBlank c = true) :
    ∃ gap back, text = gap ++ word ++ back ∧ (IsGap gap ∧ gap ≠ []) ∧ words back = rest ∧
      ∀ c ∈ back.head?, isBlank c = true := by
  obtain ⟨gap, back, rfl, hGap, hRest, hBack⟩ := exists_of_words_cons h
  refine ⟨gap, back, rfl, ⟨hGap, ?_⟩, hRest, hBack⟩
  rintro rfl
  obtain ⟨hSome, hSolid⟩ := isWord_of_mem_words (h ▸ List.mem_cons_self ..)
  obtain ⟨c, others, rfl⟩ := List.exists_cons_of_ne_nil hSome
  have hBlank := hHead c rfl
  rw [hSolid c (List.mem_cons_self ..)] at hBlank
  cases hBlank

theorem isHeader_eq_true_iff :
    isHeader line = true ↔ ∃ fourth more,
      words line = "Prefix".toList :: "Verb".toList :: "URI".toList :: fourth :: more ∧
        "Pattern".toList <+: fourth := by
  unfold isHeader
  split
  · rename_i first second third fourth more hWords
    simp only [Bool.and_eq_true, beq_iff_eq, List.isPrefixOf_iff_prefix, hWords, List.cons.injEq]
    constructor
    · rintro ⟨⟨⟨rfl, rfl⟩, rfl⟩, hFourth⟩
      exact ⟨fourth, more, ⟨rfl, rfl, rfl, rfl, rfl⟩, hFourth⟩
    · rintro ⟨_, _, ⟨rfl, rfl, rfl, rfl, rfl⟩, hFourth⟩
      exact ⟨⟨⟨rfl, rfl⟩, rfl⟩, hFourth⟩
  · rename_i hNone
    simp only [Bool.false_eq_true, false_iff]
    rintro ⟨fourth, more, hWords, -⟩
    exact hNone _ _ _ _ _ hWords

/-- The words of a head are found exactly where it has its form. -/
theorem isHeader_iff :
    isHeader line = true ↔ ∃ indent first second third rest, IsGap indent ∧
      (IsGap first ∧ first ≠ []) ∧ (IsGap second ∧ second ≠ []) ∧ (IsGap third ∧ third ≠ []) ∧
        line = indent ++ "Prefix".toList ++ first ++ "Verb".toList ++ second ++
          "URI".toList ++ third ++ "Pattern".toList ++ rest := by
  rw [isHeader_eq_true_iff]
  constructor
  · rintro ⟨fourth, more, hWords, tail, rfl⟩
    obtain ⟨indent, behind, rfl, hIndent, hWords, hHead⟩ := exists_of_words_cons hWords
    obtain ⟨first, behind, rfl, hFirst, hWords, hHead⟩ := exists_gap_of_words_cons hWords hHead
    obtain ⟨second, behind, rfl, hSecond, hWords, hHead⟩ := exists_gap_of_words_cons hWords hHead
    obtain ⟨third, behind, rfl, hThird, -, -⟩ := exists_gap_of_words_cons hWords hHead
    exact ⟨indent, first, second, third, tail ++ behind, hIndent, hFirst, hSecond, hThird,
      by simp only [List.append_assoc]⟩
  · rintro ⟨indent, first, second, third, rest, hIndent, hFirst, hSecond, hThird, rfl⟩
    obtain ⟨more, behind, rfl, hMore, hBehind⟩ := exists_solid_append rest
    have hPrefix : IsWord "Prefix".toList := by decide
    have hVerb : IsWord "Verb".toList := by decide
    have hUri : IsWord "URI".toList := by decide
    have hPattern : IsWord ("Pattern".toList ++ more) := by
      refine ⟨by simp, fun c hc => ?_⟩
      rcases List.mem_append.mp hc with hc | hc
      · exact (by decide : IsSolid "Pattern".toList) c hc
      · exact hMore c hc
    refine ⟨"Pattern".toList ++ more, words behind, ?_, List.prefix_append _ _⟩
    simp only [List.append_assoc]
    rw [words_blanks_append hIndent, ← List.append_assoc, hPrefix.words_append hFirst.1 hFirst.2,
      ← List.append_assoc, hVerb.words_append hSecond.1 hSecond.2, ← List.append_assoc,
      hUri.words_append hThird.1 hThird.2, ← List.append_assoc,
      words_append_of_head? hPattern hBehind]

theorem dropWhile_gap_append (hGap : IsGap gap) (hHead : ∀ c ∈ text.head?, isBlank c = false) :
    (gap ++ text).dropWhile isBlank = text := by
  rw [List.dropWhile_append_of_pos hGap]
  cases text with
  | nil => rfl
  | cons c text => rw [List.dropWhile_cons_of_neg (by simp [hHead c rfl])]

/-- Trimming takes away the gaps around a text that neither starts nor ends with a
blank. -/
theorem trim_append {before after : List Char} (hBefore : IsGap before) (hAfter : IsGap after)
    (hSome : text ≠ []) (hHead : ∀ c ∈ text.head?, isBlank c = false)
    (hLast : ∀ c ∈ text.getLast?, isBlank c = false) :
    trim (before ++ text ++ after) = text := by
  have hFront : (before ++ text ++ after).dropWhile isBlank = text ++ after := by
    rw [List.append_assoc]
    apply dropWhile_gap_append hBefore
    rwa [List.head?_append, Option.or_of_isSome (List.isSome_head?.mpr hSome)]
  have hBack : (text ++ after).reverse.dropWhile isBlank = text.reverse := by
    rw [List.reverse_append]
    apply dropWhile_gap_append
    · exact fun c hc => hAfter c (List.mem_reverse.mp hc)
    · rwa [List.head?_reverse]
  rw [trim, hFront, hBack, List.reverse_reverse]

/-- Trimmed text is a banner exactly where the line has its form. -/
theorem isBanner_iff :
    isBanner line = true ↔ ∃ indent engine gap, IsGap indent ∧ engine ≠ [] ∧ IsGap gap ∧
      line = indent ++ (bannerStart ++ engine ++ [':']) ++ gap := by
  simp only [isBanner, Bool.and_eq_true, List.isPrefixOf_iff_prefix, beq_iff_eq, decide_eq_true_eq]
  constructor
  · rintro ⟨⟨⟨named, hTrim⟩, hLast⟩, hLength⟩
    obtain ⟨indent, gap, hLine, hIndent, hGap⟩ := exists_trim line
    rw [← hTrim, List.length_append] at hLength
    have hNamed : named ≠ [] := by
      rintro rfl
      rw [List.length_nil] at hLength
      omega
    rw [← hTrim, List.getLast?_append, Option.or_of_isSome (List.getLast?_isSome.mpr hNamed),
      List.getLast?_eq_some_iff] at hLast
    obtain ⟨engine, rfl⟩ := hLast
    refine ⟨indent, engine, gap, hIndent, ?_, hGap, ?_⟩
    · rintro rfl
      rw [List.nil_append, List.length_singleton] at hLength
      omega
    · rw [hLine, ← hTrim, List.append_assoc bannerStart]
  · rintro ⟨indent, engine, gap, hIndent, hEngine, hGap, rfl⟩
    have hStart : bannerStart.head? = some 'R' := by decide
    have hHead : ∀ c ∈ (bannerStart ++ engine ++ [':']).head?, isBlank c = false := by
      rw [List.append_assoc, List.head?_append, hStart]
      rintro c ⟨⟩
      decide
    have hLast : (bannerStart ++ engine ++ [':']).getLast? = some ':' := List.getLast?_concat
    have hColon : ∀ c ∈ (bannerStart ++ engine ++ [':']).getLast?, isBlank c = false := by
      rw [hLast]
      rintro c ⟨⟩
      decide
    rw [trim_append hIndent hGap (List.append_ne_nil_of_right_ne_nil _ (List.cons_ne_nil _ _)) hHead
      hColon]
    refine ⟨⟨?_, hLast⟩, ?_⟩
    · rw [List.append_assoc]
      exact List.prefix_append _ _
    · have hLength := List.length_pos_iff.mpr hEngine
      rw [List.length_append, List.length_append, List.length_singleton]
      omega

/-- A line is passed over exactly if it has one of these forms. -/
theorem isLayout_iff : isLayout line = true ↔ LayoutLine line := by
  rw [isLayout, Bool.or_eq_true, Bool.or_eq_true, isAllBlank, List.all_eq_true, isHeader_iff,
    isBanner_iff]
  constructor
  · rintro ((hBlank | ⟨indent, first, second, third, rest, hIndent, hFirst, hSecond, hThird, rfl⟩) |
      ⟨indent, engine, gap, hIndent, hEngine, hGap, rfl⟩)
    · exact .blank hBlank
    · exact .header rest hIndent hFirst hSecond hThird
    · exact .banner hIndent hEngine hGap
  · intro h
    cases h with
    | blank hBlank => exact Or.inl (Or.inl hBlank)
    | header rest hIndent hFirst hSecond hThird =>
        exact Or.inl (Or.inr ⟨_, _, _, _, rest, hIndent, hFirst, hSecond, hThird, rfl⟩)
    | banner hIndent hEngine hGap => exact Or.inr ⟨_, _, _, hIndent, hEngine, hGap, rfl⟩

end RoutePaths.Table
