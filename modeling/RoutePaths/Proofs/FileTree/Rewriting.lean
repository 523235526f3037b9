import RoutePaths.Proofs.FileTree.Effect

/-! Writing a second time. A file that has been written stays settled as long as no directory
is lost, its content is left alone and its scratch names stay free. Writing the same content to
it again changes nothing then. -/
namespace RoutePaths.FileTree

variable {tree after : FileTree} {here place other directory source : Place}
  {parts first second names : List String} {name part : String} {content : ByteArray}
  {path : Path} {targets : List Place}

/-- Components lead from one directory to another one, through directories that are there. -/
inductive Leads (tree : FileTree) : Place → List String → Place → Prop
  | here {here : Place} (hHere : tree.isDirectoryAt here = true) : Leads tree here [] here
  | up {here place : Place} {rest : List String} (hHere : tree.isDirectoryAt here = true)
      (hRest : Leads tree here.dropLast rest place) : Leads tree here (".." :: rest) place
  | down {here place : Place} {part : String} {rest : List String}
      (hHere : tree.isDirectoryAt here = true) (hDown : part ≠ "..")
      (hShort : isTooLong part = false) (hRest : Leads tree (here ++ [part]) rest place) :
      Leads tree here (part :: rest) place

namespace Leads

theorem isDirectoryAt_start (h : tree.Leads here parts place) : tree.isDirectoryAt here = true := by
  cases h with
  | here hHere => exact hHere
  | up hHere _ => exact hHere
  | down hHere _ _ _ => exact hHere

theorem isDirectoryAt (h : tree.Leads here parts place) : tree.isDirectoryAt place = true := by
  induction h with
  | here hHere => exact hHere
  | up _ _ ih => exact ih
  | down _ _ _ _ ih => exact ih

theorem keeps (h : tree.Leads here parts place) (hKeeps : tree.Keeps after) :
    after.Leads here parts place := by
  induction h with
  | here hHere => exact .here (hKeeps _ hHere)
  | up hHere _ ih => exact .up (hKeeps _ hHere) ih
  | down hHere hDown hShort _ ih => exact .down (hKeeps _ hHere) hDown hShort ih

theorem follow (h : tree.Leads here parts place) (more : List String) :
    tree.follow here (parts ++ more) = tree.follow place more := by
  induction h with
  | here _ => rfl
  | up hHere _ ih => rw [List.cons_append, follow_cons hHere, if_pos rfl, ih]
  | down hHere hDown hShort _ ih =>
      rw [List.cons_append, follow_cons hHere, if_neg hDown, hShort, if_neg Bool.false_ne_true, ih]

/-- No directory has to be made on the way. -/
theorem makeDirectories (h : tree.Leads here parts place) (more : List String) :
    tree.makeDirectories here (parts ++ more) = tree.makeDirectories place more := by
  induction h with
  | here _ => rfl
  | up _ _ ih => rw [List.cons_append, FileTree.makeDirectories, if_pos rfl, ih]
  | down _ hDown hShort hRest ih =>
      have hNext := isDirectoryAt_iff.mp hRest.isDirectoryAt_start
      rw [List.cons_append, FileTree.makeDirectories, if_neg hDown, hShort,
        if_neg Bool.false_ne_true]
      simp only [hNext, ih]

theorem front (h : tree.Leads here (first ++ second) place) :
    ∃ between, tree.Leads here first between := by
  induction first generalizing here with
  | nil => exact ⟨here, .here h.isDirectoryAt_start⟩
  | cons part rest ih =>
      rw [List.cons_append] at h
      cases h with
      | up hHere hRest =>
          obtain ⟨between, hBetween⟩ := ih hRest
          exact ⟨between, .up hHere hBetween⟩
      | down hHere hDown hShort hRest =>
          obtain ⟨between, hBetween⟩ := ih hRest
          exact ⟨between, .down hHere hDown hShort hBetween⟩

end Leads

theorem leads_of_follow (h : tree.follow here parts = .ok place)
    (hPlace : tree.isDirectoryAt place = true) : tree.Leads here parts place := by
  induction parts generalizing here with
  | nil =>
      cases h
      exact .here hPlace
  | cons part rest ih =>
      simp only [FileTree.follow] at h
      split at h
      · cases h
      · cases h
      · rename_i hHere
        rw [← isDirectoryAt_iff] at hHere
        split at h
        · rename_i hUp
          rw [hUp]
          exact .up hHere (ih h)
        · rename_i hDown
          split at h
          · cases h
          · rename_i hShort
            exact .down hHere hDown (Bool.not_eq_true _ ▸ hShort) (ih h)

theorem leads_of_makeDirectories (h : tree.makeDirectories here parts = (after, .ok place))
    (hHere : tree.IsOpen here) : after.Leads here parts place := by
  obtain ⟨-, hPlace, hFollow⟩ := follow_of_makeDirectories h hHere
  apply leads_of_follow ?_ hPlace.self
  have hWay := hFollow after (fun _ h => h) []
  rwa [List.append_nil] at hWay

/-- A place that is found stays the one that the path leads to. -/
theorem follow_of_keeps (h : tree.follow here parts = .ok place) (hKeeps : tree.Keeps after) :
    after.follow here parts = .ok place := by
  induction parts generalizing here with
  | nil => exact h
  | cons part rest ih =>
      simp only [FileTree.follow] at h
      split at h
      · cases h
      · cases h
      · rename_i hHere
        rw [← isDirectoryAt_iff] at hHere
        rw [follow_cons (hKeeps _ hHere)]
        split at h
        · rename_i hUp
          rw [if_pos hUp]
          exact ih h
        · rename_i hDown
          split at h
          · cases h
          · rename_i hShort
            rw [if_neg hDown, if_neg hShort]
            exact ih h

theorem contentAt?_eq_some_iff :
    tree.contentAt? place = some content ↔ tree.get? place = some (.file content) := by
  rw [contentAt?]
  split
  · rename_i hEntry
    simp [hEntry]
  · rename_i hOther
    simpa using hOther content

theorem readBytes_eq_some_iff : tree.readBytes directory path = .ok (some content) ↔
    hasNull path = false ∧
      tree.follow (startOf directory path) path.parts = .ok (placeOf directory path) ∧
      tree.contentAt? (placeOf directory path) = some content := by
  rw [contentAt?_eq_some_iff]
  constructor
  · intro h
    rw [readBytes, find, locate] at h
    by_cases hNull : hasNull path = true
    · simp [hNull, Except.map] at h
    rw [Bool.not_eq_true] at hNull
    rw [hNull, if_neg Bool.false_ne_true] at h
    cases hFollow : tree.follow (startOf directory path) path.parts with
    | error obstacle => cases obstacle <;> simp [hFollow, Except.map] at h
    | ok place =>
        rw [placeOf, placeFrom_of_follow hFollow]
        refine ⟨hNull, rfl, ?_⟩
        rw [hFollow] at h
        simp only [Except.map, Except.ok.injEq] at h
        split at h
        · rename_i hEntry
          cases h
          exact hEntry
        · cases h
  · rintro ⟨hNull, hFollow, hContent⟩
    rw [readBytes, find, locate, hNull, if_neg Bool.false_ne_true, hFollow]
    dsimp only
    rw [hContent]
    rfl

/-- A file is read as before if no directory is lost and its content is left alone. -/
theorem readBytes_of_keeps (h : tree.readBytes directory path = .ok (some content))
    (hKeeps : tree.Keeps after)
    (hSame : after.contentAt? (placeOf directory path) = tree.contentAt? (placeOf directory path)) :
    after.readBytes directory path = .ok (some content) := by
  obtain ⟨hNull, hFollow, hContent⟩ := readBytes_eq_some_iff.mp h
  exact readBytes_eq_some_iff.mpr ⟨hNull, follow_of_keeps hFollow hKeeps, hSame.trans hContent⟩

/-- What a successful write does, once some of the directories on its way are there. -/
theorem gains_of_write (hSource : tree.Leads (startOf directory path) first source)
    (hParts : path.parent.parts = first ++ names)
    (h : tree.write directory path content = (after, .ok ())) :
    tree.Keeps after ∧ tree.Gains after [placeOf directory path] (IsOnWay source names) := by
  obtain ⟨middle, parent, hMake, hReplaces⟩ := exists_replaces_of_write h
  have hGains := gains_makeDirectories tree source names
  rw [hParts, hSource.makeDirectories] at hMake
  rw [hMake] at hGains
  constructor
  · exact hGains.keeps.trans hReplaces.keeps
  · intro place hNe
    rw [hReplaces.frame place (by simpa using hNe)]
    exact hGains place List.not_mem_nil

/-- The file at the path has the content, and nothing is in the way of writing it again. -/
structure IsSettled (tree : FileTree) (directory : Place) (path : Path) (content : ByteArray) :
    Prop where
  noNull : hasNull path = false
  writable : ∃ parent, tree.Leads (startOf directory path) path.parent.parts parent ∧
    tree.IsReplaceable parent path.name
  content : tree.contentAt? (placeOf directory path) = some content

theorem isSettled_of_write (h : tree.write directory path content = (after, .ok ()))
    (hDirectory : tree.IsOpen directory) : after.IsSettled directory path content := by
  obtain ⟨middle, parent, hMake, hReplaces⟩ := exists_replaces_of_write h
  have hLeads := leads_of_makeDirectories hMake (hDirectory.startOf path)
  obtain ⟨number, hNumber, hFree⟩ := hReplaces.replaceable.scratch
  have hApart : parent ++ [scratchName path.name number] ≠ placeOf directory path := by
    rw [hReplaces.place]
    simpa using scratchName_ne path.name number
  refine ⟨hReplaces.noNull, ⟨parent, hLeads.keeps hReplaces.keeps, ?_⟩,
    contentAt?_eq_some_iff.mpr hReplaces.content⟩
  -- the scratch name that was used is free again
  refine { hReplaces.replaceable with noDirectory := ?_, scratch := ⟨number, hNumber, ?_⟩ }
  · rw [← hReplaces.place, isDirectoryAt, hReplaces.content]
  · rw [hReplaces.frame _ hApart, hFree]

namespace IsSettled

theorem placeOf_eq (h : tree.IsSettled directory path content) :
    ∃ parent, tree.Leads (startOf directory path) path.parent.parts parent ∧
      tree.IsReplaceable parent path.name ∧ placeOf directory path = parent ++ [path.name] := by
  obtain ⟨parent, hLeads, hReplaceable⟩ := h.writable
  refine ⟨parent, hLeads, hReplaceable, ?_⟩
  have hFollow := hLeads.follow []
  rw [List.append_nil, FileTree.follow] at hFollow
  rw [placeOf, parts_eq_concat hReplaceable.named.1, placeFrom_concat _ _ hReplaceable.named.2,
    placeFrom_of_follow hFollow]

theorem readBytes (h : tree.IsSettled directory path content) :
    tree.readBytes directory path = .ok (some content) := by
  obtain ⟨parent, hLeads, hReplaceable, hPlace⟩ := h.placeOf_eq
  refine readBytes_eq_some_iff.mpr ⟨h.noNull, ?_, h.content⟩
  rw [hPlace, parts_eq_concat hReplaceable.named.1, hLeads.follow,
    follow_cons hLeads.isDirectoryAt, if_neg hReplaceable.named.2,
    isTooLong_of_scratchName hReplaceable.short, if_neg Bool.false_ne_true, FileTree.follow]

/-- Writing the content once more changes nothing. -/
theorem write (h : tree.IsSettled directory path content) :
    ∃ after, tree.write directory path content = (after, .ok ()) ∧
      ∀ place, after.get? place = tree.get? place := by
  obtain ⟨parent, hLeads, hReplaceable, hPlace⟩ := h.placeOf_eq
  obtain ⟨after, hAfter, hContent, hFrame⟩ := hReplaceable.replaceIn content
  have hMake := hLeads.makeDirectories []
  rw [List.append_nil, FileTree.makeDirectories] at hMake
  have hNull : hasNull path.parent = false := by
    have hAll := h.noNull
    rw [hasNull, parts_eq_concat hReplaceable.named.1, List.any_append, Bool.or_eq_false_iff] at hAll
    exact hAll.1
  refine ⟨after, ?_, fun place => ?_⟩
  · rw [FileTree.write, hNull, if_neg Bool.false_ne_true, hMake]
    exact hAfter
  · by_cases hSame : place = parent ++ [path.name]
    · rw [hSame, hContent, ← hPlace, contentAt?_eq_some_iff.mp h.content]
    · exact hFrame place hSame

/-- A file stays settled as long as it, all directories and its scratch names are left alone. -/
theorem of_kept (h : tree.IsSettled directory path content) (hKeeps : tree.Keeps after)
    (hContent : after.contentAt? (placeOf directory path) =
      tree.contentAt? (placeOf directory path))
    (hScratch : ∀ folder number, after.get? (folder ++ [scratchName path.name number]) =
      tree.get? (folder ++ [scratchName path.name number])) :
    after.IsSettled directory path content := by
  obtain ⟨parent, hLeads, hReplaceable, hPlace⟩ := h.placeOf_eq
  obtain ⟨number, hNumber, hFree⟩ := hReplaceable.scratch
  have hNew := hContent.trans h.content
  refine ⟨h.noNull, ⟨parent, hLeads.keeps hKeeps, ?_⟩, hNew⟩
  refine { hReplaceable with noDirectory := ?_, scratch := ⟨number, hNumber, ?_⟩ }
  · rw [← hPlace, isDirectoryAt, contentAt?_eq_some_iff.mp hNew]
  · rw [hScratch, hFree]

end IsSettled

/-- The name of a scratch file starts with a dot. -/
theorem scratchName_hidden (name : String) (number : Nat) :
    (scratchName name number).toList.head? = some '.' := by
  simp [scratchName]

end RoutePaths.FileTree
