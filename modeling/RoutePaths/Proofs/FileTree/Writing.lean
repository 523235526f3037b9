import RoutePaths.FileTree.Write
import RoutePaths.Proofs.Result
import RoutePaths.Proofs.Text.Lines

/-! What is written is read. The scratch file and the directories that are made on the way
are beside the path that is followed afterwards, so following it leads to the file. -/
namespace RoutePaths.FileTree

variable {tree after final : FileTree} {here place directory : Place} {parts : List String}

/-- The place is a directory, and so is everything above it. -/
def IsOpen (tree : FileTree) (place : Place) : Prop :=
  ∀ above, above <+: place → tree.isDirectoryAt above = true

/-- No directory is lost. -/
def Keeps (tree after : FileTree) : Prop :=
  ∀ place, tree.isDirectoryAt place = true → after.isDirectoryAt place = true

theorem isDirectoryAt_iff : tree.isDirectoryAt place = true ↔ tree.get? place = some .directory := by
  rw [isDirectoryAt]
  split
  · rename_i hEntry
    simp [hEntry]
  · rename_i hOther
    simpa using hOther

theorem IsOpen.self (h : tree.IsOpen place) : tree.isDirectoryAt place = true :=
  h place (List.prefix_refl place)

theorem IsOpen.dropLast (h : tree.IsOpen place) : tree.IsOpen place.dropLast :=
  fun above hAbove => h above (hAbove.trans (List.dropLast_prefix place))

theorem IsOpen.concat (h : tree.IsOpen place) {part : String}
    (hPart : tree.isDirectoryAt (place ++ [part]) = true) : tree.IsOpen (place ++ [part]) := by
  intro above hAbove
  rcases List.prefix_concat_iff.mp hAbove with rfl | hAbove
  · exact hPart
  · exact h above hAbove

theorem IsOpen.keeps (h : tree.IsOpen place) (hKeeps : tree.Keeps after) : after.IsOpen place :=
  fun above hAbove => hKeeps above (h above hAbove)

theorem isOpen_top (tree : FileTree) : tree.IsOpen [] := by
  intro above hAbove
  rw [List.prefix_nil.mp hAbove]
  rfl

/-- Where a directory lies and where none does are two places. -/
theorem ne_of_isDirectoryAt {other : Place} (hOther : tree.isDirectoryAt other = true)
    (h : tree.isDirectoryAt place = false) : other ≠ place := by
  rintro rfl
  rw [hOther] at h
  cases h

theorem keeps_put (h : tree.isDirectoryAt place = false) (entry : Entry) :
    tree.Keeps (tree.put place entry) := by
  intro other hOther
  rw [isDirectoryAt, get?_put_of_ne tree (ne_of_isDirectoryAt hOther h)]
  exact hOther

theorem keeps_erase (h : tree.isDirectoryAt place = false) : tree.Keeps (tree.erase place) := by
  intro other hOther
  rw [isDirectoryAt, get?_erase_of_ne tree (ne_of_isDirectoryAt hOther h)]
  exact hOther

theorem Keeps.trans {last : FileTree} (h : tree.Keeps after) (hLast : after.Keeps last) :
    tree.Keeps last :=
  fun place hPlace => hLast place (h place hPlace)

theorem follow_cons {part : String} {rest : List String} (h : tree.isDirectoryAt here = true) :
    tree.follow here (part :: rest) =
      if part = ".." then tree.follow here.dropLast rest
      else if isTooLong part then .error .nameTooLong else tree.follow (here ++ [part]) rest := by
  rw [follow, isDirectoryAt_iff.mp h]

/-- Directories that have been made on the way of components are there when the components
are followed, also if other entries have been changed since. -/
theorem follow_of_makeDirectories (hMake : tree.makeDirectories here parts = (after, .ok place))
    (hHere : tree.IsOpen here) :
    tree.Keeps after ∧ after.IsOpen place ∧
      ∀ final, after.Keeps final → ∀ more, final.follow here (parts ++ more) = final.follow place more := by
  induction parts generalizing tree here with
  | nil =>
      cases hMake
      exact ⟨fun _ h => h, hHere, fun _ _ _ => rfl⟩
  | cons part rest ih =>
      rw [makeDirectories] at hMake
      split at hMake
      · rename_i hUp
        obtain ⟨hKeeps, hPlace, hFollow⟩ := ih hMake hHere.dropLast
        refine ⟨hKeeps, hPlace, fun final hFinal more => ?_⟩
        rw [List.cons_append, follow_cons (hFinal _ (hKeeps _ hHere.self)), if_pos hUp]
        exact hFollow final hFinal more
      · rename_i hDown
        split at hMake
        · cases hMake
        · rename_i hShort
          have hStep {between : FileTree} (hBetween : tree.Keeps between)
              (hPart : between.isDirectoryAt (here ++ [part]) = true)
              (hRest : between.makeDirectories (here ++ [part]) rest = (after, .ok place)) :
              tree.Keeps after ∧ after.IsOpen place ∧ ∀ final, after.Keeps final → ∀ more,
                final.follow here (part :: rest ++ more) = final.follow place more := by
            obtain ⟨hKeeps, hPlace, hFollow⟩ := ih hRest ((hHere.keeps hBetween).concat hPart)
            have hAll := hBetween.trans hKeeps
            refine ⟨hAll, hPlace, fun final hFinal more => ?_⟩
            rw [List.cons_append, follow_cons (hFinal _ (hAll _ hHere.self)), if_neg hDown,
              if_neg hShort]
            exact hFollow final hFinal more
          dsimp only at hMake
          split at hMake
          · rename_i hEntry
            exact hStep (fun _ h => h) (isDirectoryAt_iff.mpr hEntry) hMake
          · cases hMake
          · rename_i hEntry
            refine hStep (keeps_put ?_ _) ?_ hMake
            · rw [isDirectoryAt, hEntry]
            · rw [isDirectoryAt_iff]
              exact get?_put_self tree (by simp) .directory

/-- The place for a scratch file is a free one. -/
theorem get?_of_scratchPlace? {name : String} {attempts number : Nat} {scratch : Place}
    (h : tree.scratchPlace? directory name attempts number = some scratch) :
    scratch ≠ [] ∧ tree.get? scratch = none := by
  induction attempts generalizing number with
  | zero => cases h
  | succ attempts ih =>
      rw [scratchPlace?] at h
      split at h
      · rename_i hFree
        cases h
        exact ⟨by simp, Option.isNone_iff_eq_none.mp hFree⟩
      · exact ih h

/-- A name for which there is a scratch name is short enough itself. -/
theorem isTooLong_of_scratchName {name : String} (h : isTooLong (scratchName name 0) = false) :
    isTooLong name = false := by
  simp only [isTooLong, scratchName, decide_eq_false_iff_not, String.utf8ByteSize_append] at h ⊢
  omega

/-- A file comes to the place that it is moved to, and no directory makes way for it. -/
theorem get?_of_moveTo {source : Place} {name : String} {content : ByteArray} (hTop : source ≠ [])
    (hSource : tree.get? source = some (.file content))
    (h : tree.moveTo source directory name = .ok after) :
    tree.Keeps after ∧ after.get? (directory ++ [name]) = some (.file content) ∧
      name ≠ "" ∧ name ≠ ".." := by
  rw [moveTo] at h
  split at h
  · cases h
  rename_i hName
  rw [hSource] at h
  cases h
  simp only [Bool.or_eq_true, decide_eq_true_eq, not_or, Bool.not_eq_true] at hName
  obtain ⟨⟨hNe, hUp⟩, hTarget⟩ := hName
  have hErased : (tree.erase source).isDirectoryAt (directory ++ [name]) = false := by
    by_cases hSame : directory ++ [name] = source
    · rw [hSame, isDirectoryAt, get?_erase_self _ hTop]
    · rw [isDirectoryAt, get?_erase_of_ne _ hSame]
      exact hTarget
  have hKeeps : tree.Keeps (tree.erase source) := keeps_erase (by rw [isDirectoryAt, hSource])
  exact ⟨hKeeps.trans (keeps_put hErased _), get?_put_self _ (by simp) _, hNe, hUp⟩

/-- A file is replaced without touching any directory. -/
theorem get?_of_replaceIn {name : String} {content : ByteArray}
    (h : tree.replaceIn directory name content = (after, .ok ())) :
    tree.Keeps after ∧ after.get? (directory ++ [name]) = some (.file content) ∧
      (name ≠ "" ∧ name ≠ "..") ∧ isTooLong name = false ∧ '\x00' ∉ name.toList := by
  rw [replaceIn] at h
  split at h
  · cases h
  rename_i hNull
  split at h
  · cases h
  rename_i hShort
  split at h
  · cases h
  rename_i scratch hScratch
  obtain ⟨hTop, hFree⟩ := get?_of_scratchPlace? hScratch
  dsimp only at h
  split at h
  · rename_i moved hMove
    cases h
    have hStaged : tree.Keeps (tree.put scratch (.file content)) :=
      keeps_put (by rw [isDirectoryAt, hFree]) _
    obtain ⟨hMoved, hContent, hName⟩ := get?_of_moveTo hTop (get?_put_self tree hTop _) hMove
    exact ⟨hStaged.trans hMoved, hContent, hName,
      isTooLong_of_scratchName (Bool.not_eq_true _ ▸ hShort), hNull⟩
  · cases h

theorem parts_eq_concat {path : Path} (h : path.name ≠ "") :
    path.parts = path.parent.parts ++ [path.name] := by
  rw [Path.parent, Path.name]
  rcases List.eq_nil_or_concat' path.parts with hNil | ⟨front, last, hConcat⟩
  · rw [Path.name, hNil] at h
    exact absurd rfl h
  · rw [hConcat, List.dropLast_concat, List.getLastD_concat]

/-- A file that has been written is read back byte for byte. -/
theorem readBytes_of_write {path : Path} {content : ByteArray}
    (h : tree.write directory path content = (after, .ok ())) (hDirectory : tree.IsOpen directory) :
    after.readBytes directory path = .ok (some content) := by
  rw [write] at h
  split at h
  · cases h
  rename_i hNull
  split at h
  · cases h
  rename_i middle parent hMake
  have hStart : tree.IsOpen (startOf directory path) := by
    rw [startOf]
    split
    · exact isOpen_top tree
    · exact hDirectory
  obtain ⟨-, hParent, hFollow⟩ := follow_of_makeDirectories hMake hStart
  obtain ⟨hKeeps, hContent, ⟨hNe, hUp⟩, hShort, hName⟩ := get?_of_replaceIn h
  have hParts := parts_eq_concat hNe
  have hAllowed : hasNull path = false := by
    rw [hasNull, hParts, List.any_append, List.any_cons, List.any_nil, Bool.or_false,
      Bool.or_eq_false_iff]
    exact ⟨by simpa [hasNull] using hNull, by simpa using hName⟩
  have hLocated : after.locate directory path = .ok (parent ++ [path.name]) := by
    rw [locate, hAllowed, if_neg Bool.false_ne_true, hParts, hFollow after hKeeps,
      follow_cons (hKeeps _ hParent.self), if_neg hUp, hShort, if_neg Bool.false_ne_true, follow]
  rw [readBytes, find, hLocated]
  dsimp only
  rw [hContent]
  rfl

/-- The text of a file is the one that was written, if only line feeds end its lines. -/
theorem textOf_encode {text : String} (h : '\r' ∉ text.toList) :
    textOf (Utf8.encode text) = .ok text := by
  have hDecode : Utf8.decode (Utf8.encode text) = .ok text := by
    rw [Utf8.decode, Utf8.encode, String.toUTF8, String.fromUTF8?, dif_pos text.isValidUTF8]
    rfl
  rw [textOf, hDecode, Except.map, Text.unifyBreaks_of_not_mem h, String.ofList_toList]

end RoutePaths.FileTree
