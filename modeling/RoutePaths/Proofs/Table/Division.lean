import RoutePaths.Proofs.Table.Columns
import RoutePaths.Proofs.Table.Layout

/-! How the words of a row are divided among its columns. Every word becomes a column or a word of
the action, nothing else does, and only verbs are changed. Which word is which is told by its look:
the URI is the first word that starts like a path, and a word that stands alone in front of it is
a name unless it looks like a verb. -/
namespace RoutePaths.Row
open Text
open Table (IsGap)

/-- The text holds the words, with blanks between them and possibly around them. -/
inductive Separated : List (List Char) → List Char → Prop
  | blank {gap : List Char} (hGap : IsGap gap) : Separated [] gap
  | word {gap word back : List Char} {rest : List (List Char)} (hGap : IsGap gap)
      (hWord : IsWord word) (hBack : ∀ c ∈ back.head?, isBlank c = true)
      (h : Separated rest back) : Separated (word :: rest) (gap ++ word ++ back)

/-- A word that is a URI starts with a slash, or with an optional group that does. -/
def StartsUri (word : List Char) : Prop :=
  ['/'] <+: word ∨ ['(', '/'] <+: word

/-- A known verb in any letter case, or words of capitals that are joined by bars. -/
def IsVerbLike (word : List Char) : Prop :=
  String.ofList (upper word) ∈ knownVerbs ∨
    ∃ parts, parts ≠ [] ∧ (∀ part ∈ parts, part ≠ [] ∧ ∀ c ∈ part, 'A' ≤ c ∧ c ≤ 'Z') ∧
      word = ['|'].intercalate parts

/-- The columns in front of the URI that are not absent. -/
def Columns.leading (columns : Columns) : List String :=
  [columns.name, columns.verb].filter (· ≠ "")

/-- The words of a row, each as what it is. -/
structure Division where
  name? : Option (List Char)
  verb? : Option (List Char)
  uri : List Char
  action : List (List Char)

namespace Division

/-- The words in front of the URI. -/
def front (division : Division) : List (List Char) :=
  division.name?.toList ++ division.verb?.toList

/-- All words, in the order of the row. -/
def words (division : Division) : List (List Char) :=
  division.front ++ division.uri :: division.action

/-- The words look like what they are. Only a word that stands alone in front of the URI could be
either a name or a verb. -/
structure IsProper (division : Division) : Prop where
  uri : StartsUri division.uri
  front : ∀ word ∈ division.front, ¬ StartsUri word
  lone : ∀ word, division.front = [word] → (division.verb? = some word ↔ IsVerbLike word)

/-- The columns hold these words. Absent words leave empty columns, and only they do. -/
structure Fills (division : Division) (columns : Columns) : Prop where
  leading : columns.leading =
    (division.name?.toList ++ division.verb?.toList.map upper).map String.ofList
  name : columns.name = String.ofList (division.name?.getD [])
  verb : columns.verb = String.ofList (upper (division.verb?.getD []))
  uri : columns.uri = String.ofList division.uri
  action : columns.action = String.ofList ([' '].intercalate division.action)

end Division

variable {row : String} {columns : Columns} {items front : List (List Char)}
  {text word name verb : List Char} {name? verb? : Option (List Char)} {division : Division}

theorem Separated.words_eq (h : Separated items text) : words text = items := by
  induction h with
  | blank hGap => exact words_of_blanks hGap
  | word hGap hWord hBack _ ih =>
      rw [List.append_assoc, words_blanks_append hGap, Table.words_append_of_head? hWord hBack, ih]

/-- The words of a text are the only ones that it holds. -/
theorem separated_iff : Separated items text ↔ words text = items := by
  constructor
  · exact Separated.words_eq
  · intro h
    induction items generalizing text with
    | nil => exact .blank (Table.isGap_of_words_eq_nil h)
    | cons first rest ih =>
        have hFirst : IsWord first := isWord_of_mem_words (h ▸ List.mem_cons_self ..)
        obtain ⟨gap, back, rfl, hGap, hRest, hBack⟩ := Table.exists_of_words_cons h
        exact .word hGap hFirst hBack (ih hRest)

theorem isUri_iff : isUri word = true ↔ StartsUri word := by
  unfold isUri StartsUri
  split
  · simp
  · simp
  · rename_i hSlash hGroup
    simp only [Bool.false_eq_true, false_iff]
    rintro (⟨rest, rfl⟩ | ⟨rest, rfl⟩)
    · exact hSlash rest rfl
    · exact hGroup rest rfl

theorem isUri_eq_false_iff : isUri word = false ↔ ¬ StartsUri word := by
  rw [← isUri_iff, Bool.not_eq_true]

/-- Splitting at bars finds the words of capitals, because no bar is among them. -/
theorem isCapitalised_iff :
    isCapitalised word = true ↔ ∃ parts, parts ≠ [] ∧
      (∀ part ∈ parts, part ≠ [] ∧ ∀ c ∈ part, 'A' ≤ c ∧ c ≤ 'Z') ∧
        word = ['|'].intercalate parts := by
  have hParts (parts : List (List Char)) :
      (parts.all fun part => part ≠ [] && part.all isCapital) = true ↔
        ∀ part ∈ parts, part ≠ [] ∧ ∀ c ∈ part, 'A' ≤ c ∧ c ≤ 'Z' := by
    simp [isCapital]
  rw [isCapitalised, hParts]
  constructor
  · intro h
    exact ⟨word.splitOn '|', List.splitOn_ne_nil '|' word, h, (List.intercalate_splitOn '|').symm⟩
  · rintro ⟨parts, hSome, hCapitals, rfl⟩
    have hBars : ∀ part ∈ parts, '|' ∉ part := by
      intro part hPart hBar
      exact absurd ((hCapitals part hPart).2 '|' hBar).2 (by decide)
    rwa [List.splitOn_intercalate '|' hBars hSome]

theorem looksLikeVerb_iff : looksLikeVerb word = true ↔ IsVerbLike word := by
  rw [looksLikeVerb, Bool.or_eq_true, isCapitalised_iff, List.contains_iff_mem, IsVerbLike]

/-- Up to two words can stand in front of the URI. -/
theorem exists_leading?_iff :
    (∃ name verb, leading? front = some (name, verb)) ↔ front.length ≤ 2 := by
  match front with
  | [] => simp [leading?]
  | [word] => cases hLook : looksLikeVerb word <;> simp [leading?, hLook]
  | [name, verb] => simp [leading?]
  | _ :: _ :: _ :: rest => simp [leading?]

/-- What the words in front of the URI become, read off the column that each of them is. -/
theorem exists_of_leading? (h : leading? front = some (name, verb)) :
    ∃ name? verb? : Option (List Char), front = name?.toList ++ verb?.toList ∧
      (∀ word, front = [word] → (verb? = some word ↔ IsVerbLike word)) ∧
      name = name?.getD [] ∧ verb = upper (verb?.getD []) := by
  unfold leading? at h
  split at h
  · cases h
    exact ⟨none, none, rfl, by simp, rfl, rfl⟩
  · split at h
    · rename_i hLook
      cases h
      refine ⟨none, some _, rfl, ?_, rfl, rfl⟩
      rintro other ⟨⟩
      exact iff_of_true rfl (looksLikeVerb_iff.mp hLook)
    · rename_i hLook
      cases h
      refine ⟨some _, none, rfl, ?_, rfl, rfl⟩
      rintro other ⟨⟩
      exact iff_of_false (by simp) (mt looksLikeVerb_iff.mpr hLook)
  · cases h
    exact ⟨some _, some _, rfl, by simp, rfl, rfl⟩
  · cases h

theorem Division.IsProper.leading?_eq (h : division.IsProper) :
    leading? division.front = some (division.name?.getD [], upper (division.verb?.getD [])) := by
  obtain ⟨name?, verb?, uri, action⟩ := division
  have hLone := h.lone
  cases name? with
  | none =>
      cases verb? with
      | none => rfl
      | some verb =>
          have hLook := looksLikeVerb_iff.mpr ((hLone verb rfl).mp rfl)
          show leading? [verb] = _
          rw [leading?, if_pos hLook]
          rfl
  | some name =>
      cases verb? with
      | none =>
          have hLook : ¬ looksLikeVerb name = true := fun hLook =>
            Option.some_ne_none _ ((hLone name rfl).mpr (looksLikeVerb_iff.mp hLook)).symm
          show leading? [name] = _
          rw [leading?, if_neg hLook]
          rfl
      | some verb => rfl

/-- No column of a word is empty, so the columns in front of the URI are as many as the words. -/
theorem leading_eq (hName : ∀ name ∈ name?, name ≠ []) (hVerb : ∀ verb ∈ verb?, verb ≠ []) :
    [String.ofList (name?.getD []), String.ofList (upper (verb?.getD []))].filter (· ≠ "") =
      (name?.toList ++ verb?.toList.map upper).map String.ofList := by
  have hAbsent : upper [] = [] := rfl
  have hPresent {word : List Char} (hWord : word ≠ []) : String.ofList word ≠ "" := by
    rwa [Ne, String.ofList_eq_empty_iff]
  cases name? with
  | none =>
      cases verb? with
      | none => simp [hAbsent]
      | some verb => simp [hPresent (upper_ne_nil (hVerb verb rfl))]
  | some name =>
      cases verb? with
      | none => simp [hAbsent, hPresent (hName name rfl)]
      | some verb => simp [hPresent (hName name rfl), hPresent (upper_ne_nil (hVerb verb rfl))]

/-- Words make up a row exactly if the first URI among them has at most two in front of it. -/
theorem exists_ofWords_iff :
    (∃ columns, ofWords row items = .ok columns) ↔
      ∃ front uri action, items = front ++ uri :: action ∧ StartsUri uri ∧
        (∀ word ∈ front, ¬ StartsUri word) ∧ front.length ≤ 2 := by
  constructor
  · rintro ⟨columns, h⟩
    obtain ⟨front, uri, action, name, verb, hItems, hFront, hUri, hLeading, -⟩ :=
      exists_of_ofWords h
    exact ⟨front, uri, action, hItems, isUri_iff.mp hUri,
      fun word hWord => isUri_eq_false_iff.mp (hFront word hWord),
      exists_leading?_iff.mp ⟨name, verb, hLeading⟩⟩
  · rintro ⟨front, uri, action, rfl, hUri, hFront, hLength⟩
    obtain ⟨name, verb, hLeading⟩ := exists_leading?_iff.mpr hLength
    exact ⟨_, ofWords_eq_ok (fun word hWord => isUri_eq_false_iff.mpr (hFront word hWord))
      (isUri_iff.mpr hUri) hLeading⟩

/-- The columns are those that the words fill when each of them is what it looks like. -/
theorem ofWords_eq_ok_iff (hItems : ∀ word ∈ items, IsWord word) :
    ofWords row items = .ok columns ↔
      ∃ division : Division, division.words = items ∧ division.IsProper ∧
        division.Fills columns := by
  constructor
  · intro h
    obtain ⟨front, uri, action, name, verb, rfl, hFront, hUri, hLeading, rfl⟩ :=
      exists_of_ofWords h
    obtain ⟨name?, verb?, rfl, hLone, rfl, rfl⟩ := exists_of_leading? hLeading
    rw [List.forall_mem_append, List.forall_mem_append] at hItems
    refine ⟨⟨name?, verb?, uri, action⟩, rfl, ⟨isUri_iff.mp hUri, ?_, hLone⟩, ?_⟩
    · exact fun word hWord => isUri_eq_false_iff.mp (hFront word hWord)
    · have hName : ∀ name ∈ name?, name ≠ [] := fun name hName =>
        (hItems.1.1 name (Option.mem_toList.mpr hName)).1
      have hVerb : ∀ verb ∈ verb?, verb ≠ [] := fun verb hVerb =>
        (hItems.1.2 verb (Option.mem_toList.mpr hVerb)).1
      exact ⟨leading_eq hName hVerb, rfl, rfl, rfl, rfl⟩
  · rintro ⟨division, rfl, hProper, hFills⟩
    have hColumns : columns = ⟨String.ofList (division.name?.getD []),
        String.ofList (upper (division.verb?.getD [])), String.ofList division.uri,
        String.ofList ([' '].intercalate division.action)⟩ := by
      rw [← hFills.name, ← hFills.verb, ← hFills.uri, ← hFills.action]
    rw [hColumns]
    exact ofWords_eq_ok (fun word hWord => isUri_eq_false_iff.mpr (hProper.front word hWord))
      (isUri_iff.mpr hProper.uri) hProper.leading?_eq

/-- Reading a row neither loses nor makes up a word. The row has columns exactly if its first URI
stands behind at most two other words, and the columns are then filled by all words of the row. -/
theorem read_divides (row : String) :
    ∃ items, (∀ other, Separated other row.toList ↔ other = items) ∧
      ((∃ columns, read row = .ok columns) ↔
        ∃ front uri action, items = front ++ uri :: action ∧ StartsUri uri ∧
          (∀ word ∈ front, ¬ StartsUri word) ∧ front.length ≤ 2) ∧
      ∀ columns, read row = .ok columns ↔
        ∃ division : Division, division.words = items ∧ division.IsProper ∧
          division.Fills columns := by
  refine ⟨words row.toList, fun other => ?_, exists_ofWords_iff, fun columns => ?_⟩
  · rw [separated_iff, eq_comm]
  · exact ofWords_eq_ok_iff fun word => isWord_of_mem_words

example : read "poﬆ　(/:locale)/posts posts#create  now" =
    .ok ⟨"", "POST", "(/:locale)/posts", "posts#create now"⟩ := by
  decide +kernel

end RoutePaths.Row
