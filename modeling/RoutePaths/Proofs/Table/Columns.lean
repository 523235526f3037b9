import RoutePaths.Table.Row
import RoutePaths.Proofs.Text.Upper

/-! The columns of a row. A row has columns exactly if its words can be cut in
front of a URI and behind it, and no column then holds a blank, except for the
single spaces in an action. -/
namespace RoutePaths.Row
open Text

variable {row : String} {columns : Columns} {front action : List (List Char)}
  {uri name verb : List Char}

/-- The words in front of the first URI, and those from it on. -/
theorem takeWhile_dropWhile_isUri (action : List (List Char))
    (hFront : ∀ word ∈ front, isUri word = false) (hUri : isUri uri = true) :
    (front ++ uri :: action).takeWhile (!isUri ·) = front ∧
      (front ++ uri :: action).dropWhile (!isUri ·) = uri :: action := by
  have hPass : ∀ word ∈ front, (!isUri word) = true := fun word hWord => by
    rw [hFront word hWord]
    rfl
  rw [List.takeWhile_append_of_pos hPass, List.dropWhile_append_of_pos hPass]
  simp [hUri]

/-- Words make up a row if the ones in front of the first URI can be told. -/
theorem ofWords_eq_ok (hFront : ∀ word ∈ front, isUri word = false) (hUri : isUri uri = true)
    (hLeading : leading? front = some (name, verb)) :
    ofWords row (front ++ uri :: action) = .ok
      ⟨String.ofList name, String.ofList verb, String.ofList uri,
        String.ofList ([' '].intercalate action)⟩ := by
  obtain ⟨hTake, hDrop⟩ := takeWhile_dropWhile_isUri action hFront hUri
  simp only [ofWords, hTake, hDrop, hLeading]

/-- Nothing else makes up a row. -/
theorem exists_of_ofWords {words : List (List Char)} (h : ofWords row words = .ok columns) :
    ∃ front uri action name verb, words = front ++ uri :: action ∧
      (∀ word ∈ front, isUri word = false) ∧ isUri uri = true ∧
      leading? front = some (name, verb) ∧
      columns = ⟨String.ofList name, String.ofList verb, String.ofList uri,
        String.ofList ([' '].intercalate action)⟩ := by
  unfold ofWords at h
  dsimp only at h
  split at h
  · cases h
  · rename_i uri action hDrop
    split at h
    · cases h
    · rename_i name verb hLeading
      cases h
      refine ⟨words.takeWhile (!isUri ·), uri, action, name, verb, ?_, ?_, ?_, hLeading, rfl⟩
      · rw [← hDrop, List.takeWhile_append_dropWhile]
      · intro word hWord
        simpa using List.mem_takeWhile_imp hWord
      · have hHead := List.head?_dropWhile_not (!isUri ·) words
        simpa [hDrop] using hHead

/-- What the words in front of the URI become has no blanks either. -/
theorem isSolid_of_leading? (hFront : ∀ word ∈ front, IsWord word)
    (hLeading : leading? front = some (name, verb)) : IsSolid name ∧ IsSolid verb := by
  have hNone : IsSolid [] := by simp [IsSolid]
  unfold leading? at hLeading
  split at hLeading
  · cases hLeading
    exact ⟨hNone, hNone⟩
  · rw [List.forall_mem_singleton] at hFront
    split at hLeading
    · cases hLeading
      exact ⟨hNone, hFront.2.upper⟩
    · cases hLeading
      exact ⟨hFront.2, hNone⟩
  · cases hLeading
    rw [List.forall_mem_cons, List.forall_mem_singleton] at hFront
    exact ⟨hFront.1.2, hFront.2.2.upper⟩
  · cases hLeading

/-- The form of all columns: no blanks, except for the single spaces between
the words of an action. -/
structure Columns.IsTabular (columns : Columns) : Prop where
  name : IsSolid columns.name.toList
  verb : IsSolid columns.verb.toList
  uri : IsSolid columns.uri.toList
  action : ∃ words, (∀ word ∈ words, IsWord word) ∧
    columns.action.toList = [' '].intercalate words

theorem isTabular_of_read (h : read row = .ok columns) : columns.IsTabular := by
  obtain ⟨front, uri, action, name, verb, hWords, -, -, hLeading, rfl⟩ := exists_of_ofWords h
  have hAll : ∀ word ∈ front ++ uri :: action, IsWord word := fun word hWord =>
    isWord_of_mem_words (hWords ▸ hWord)
  have hFront : ∀ word ∈ front, IsWord word := fun word hWord =>
    hAll word (List.mem_append_left _ hWord)
  have hBack : ∀ word ∈ uri :: action, IsWord word := fun word hWord =>
    hAll word (List.mem_append_right _ hWord)
  obtain ⟨hName, hVerb⟩ := isSolid_of_leading? hFront hLeading
  refine ⟨?_, ?_, ?_, action, ?_, ?_⟩
  · rwa [String.toList_ofList]
  · rwa [String.toList_ofList]
  · rw [String.toList_ofList]
    exact (hBack uri (List.mem_cons_self ..)).2
  · exact fun word hWord => hBack word (List.mem_cons_of_mem _ hWord)
  · rw [String.toList_ofList]

end RoutePaths.Row
