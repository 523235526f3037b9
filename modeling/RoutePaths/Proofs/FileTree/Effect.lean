import RoutePaths.Proofs.FileTree.Writing
import Mathlib.Data.List.Infix

/-! What writing changes. Directories are made on the way, the file at the end of the way gets
its content, and nothing else is touched. If the writing fails, the directories that have been
made are all that is new. -/
namespace RoutePaths.FileTree

/-- The place that components lead to. There are no links that could lead elsewhere, so it
does not depend on what lies on the way. -/
def placeFrom (here : Place) : List String → Place
  | [] => here
  | part :: rest => placeFrom (if part = ".." then here.dropLast else here ++ [part]) rest

/-- The place that a path leads to, if all directories on its way are there. -/
def placeOf (directory : Place) (path : Path) : Place :=
  placeFrom (startOf directory path) path.parts

variable {tree middle after : FileTree} {here place other directory : Place} {parts names : List String}
  {name part : String} {content : ByteArray} {path : Path}

theorem IsOpen.startOf (h : tree.IsOpen directory) (path : Path) :
    tree.IsOpen (startOf directory path) := by
  rw [FileTree.startOf]
  split
  · exact isOpen_top tree
  · exact h

theorem placeFrom_append (here : Place) (first second : List String) :
    placeFrom here (first ++ second) = placeFrom (placeFrom here first) second := by
  induction first generalizing here with
  | nil => rfl
  | cons part rest ih => simp only [List.cons_append, placeFrom, ih]

theorem placeFrom_concat (here : Place) (parts : List String) (h : name ≠ "..") :
    placeFrom here (parts ++ [name]) = placeFrom here parts ++ [name] := by
  simp [placeFrom_append, placeFrom, h]

/-- Without two dots, components only lead down. -/
theorem placeFrom_eq_append (h : ".." ∉ parts) : placeFrom here parts = here ++ parts := by
  induction parts generalizing here with
  | nil => simp [placeFrom]
  | cons part rest ih =>
      simp only [List.mem_cons, not_or] at h
      simp [placeFrom, Ne.symm h.1, ih h.2]

theorem placeFrom_of_follow (h : tree.follow here parts = .ok place) :
    placeFrom here parts = place := by
  induction parts generalizing here with
  | nil => simpa [follow, placeFrom] using h
  | cons part rest ih =>
      simp only [follow] at h
      split at h
      · cases h
      · cases h
      · by_cases hUp : part = ".."
        · simp only [hUp, ↓reduceIte] at h
          simpa [placeFrom, hUp] using ih h
        · simp only [hUp, ↓reduceIte] at h
          split at h
          · cases h
          · simpa [placeFrom, hUp] using ih h

/-- Away from the targets, all that is new are directories at such places. -/
def Gains (tree after : FileTree) (targets : List Place) (IsNew : Place → Prop) : Prop :=
  ∀ place, place ∉ targets → after.get? place = tree.get? place ∨
    tree.get? place = none ∧ after.get? place = some .directory ∧ IsNew place

namespace Gains

variable {targets wider : List Place} {IsNew IsOther : Place → Prop}

theorem refl (tree : FileTree) (targets : List Place) (IsNew : Place → Prop) :
    tree.Gains tree targets IsNew :=
  fun _ _ => Or.inl rfl

theorem mono (h : tree.Gains after targets IsNew) (hTargets : targets ⊆ wider)
    (hNew : ∀ place, IsNew place → IsOther place) : tree.Gains after wider IsOther := by
  intro place hPlace
  rcases h place (fun hTarget => hPlace (hTargets hTarget)) with hSame | ⟨hNone, hMade, hHere⟩
  · exact Or.inl hSame
  · exact Or.inr ⟨hNone, hMade, hNew place hHere⟩

theorem trans (h : tree.Gains middle targets IsNew) (hAfter : middle.Gains after targets IsNew) :
    tree.Gains after targets IsNew := by
  intro place hPlace
  rcases h place hPlace with hSame | ⟨hNone, hMade, hHere⟩
  · rw [← hSame]
    exact hAfter place hPlace
  · rcases hAfter place hPlace with hSame | ⟨hOther, -⟩
    · exact Or.inr ⟨hNone, hSame.trans hMade, hHere⟩
    · rw [hMade] at hOther
      cases hOther

/-- No file is made, changed or taken away, away from the targets. -/
theorem contentAt? (h : tree.Gains after targets IsNew) (hPlace : place ∉ targets) :
    after.contentAt? place = tree.contentAt? place := by
  rcases h place hPlace with hSame | ⟨hNone, hMade, -⟩
  · simp only [FileTree.contentAt?, hSame]
  · simp only [FileTree.contentAt?, hNone, hMade]

/-- What lies at a place keeps lying there. -/
theorem get?_of_isSome (h : tree.Gains after targets IsNew) (hPlace : place ∉ targets)
    (hSome : (tree.get? place).isSome = true) : after.get? place = tree.get? place := by
  rcases h place hPlace with hSame | ⟨hNone, -⟩
  · exact hSame
  · rw [hNone] at hSome
    cases hSome

theorem keeps (h : tree.Gains after [] IsNew) : tree.Keeps after := by
  intro place hPlace
  rw [isDirectoryAt_iff] at hPlace ⊢
  rw [h.get?_of_isSome List.not_mem_nil (by rw [hPlace]; rfl), hPlace]

end Gains

/-- The place is that of a component on the way that components lead. -/
def IsOnWay (here : Place) (parts : List String) (place : Place) : Prop :=
  ∃ front name, front ++ [name] <+: parts ∧ name ≠ ".." ∧ place = placeFrom here front ++ [name]

theorem isOnWay_self (hDown : part ≠ "..") (rest : List String) :
    IsOnWay here (part :: rest) (here ++ [part]) :=
  ⟨[], part, List.cons_prefix_cons.mpr ⟨rfl, List.nil_prefix⟩, hDown, rfl⟩

theorem IsOnWay.cons {rest : List String}
    (h : IsOnWay (if part = ".." then here.dropLast else here ++ [part]) rest place) :
    IsOnWay here (part :: rest) place := by
  obtain ⟨front, name, hFront, hDown, hPlace⟩ := h
  exact ⟨part :: front, name, List.cons_prefix_cons.mpr ⟨rfl, hFront⟩, hDown, hPlace⟩

/-- The place has one of the names. -/
def IsNamed (names : List String) (place : Place) : Prop :=
  ∃ above, ∃ name ∈ names, place = above ++ [name]

theorem IsNamed.mono (h : IsNamed names place) (hNames : names ⊆ parts) : IsNamed parts place := by
  obtain ⟨above, name, hName, hPlace⟩ := h
  exact ⟨above, name, hNames hName, hPlace⟩

theorem IsOnWay.isNamed (h : IsOnWay here parts place) : IsNamed parts place := by
  obtain ⟨front, name, hFront, -, hPlace⟩ := h
  exact ⟨_, name, hFront.subset (by simp), hPlace⟩

theorem gains_put (h : tree.get? (here ++ [name]) = none) :
    tree.Gains (tree.put (here ++ [name]) .directory) [] (· = here ++ [name]) := by
  intro place _
  by_cases hPlace : place = here ++ [name]
  · subst hPlace
    exact Or.inr ⟨h, get?_put_self tree (by simp) _, rfl⟩
  · exact Or.inl (get?_put_of_ne tree hPlace _)

theorem gains_makeDirectories (tree : FileTree) (here : Place) (parts : List String) :
    tree.Gains (tree.makeDirectories here parts).1 [] (IsOnWay here parts) := by
  induction parts generalizing tree here with
  | nil => exact .refl tree [] _
  | cons part rest ih =>
      rw [makeDirectories]
      by_cases hUp : part = ".."
      · rw [if_pos hUp]
        refine (ih tree here.dropLast).mono (List.Subset.refl _) fun place hPlace => .cons ?_
        rwa [if_pos hUp]
      · have hWay {next : FileTree} (hNext : tree.Gains next [] (IsOnWay here (part :: rest))) :
            tree.Gains (next.makeDirectories (here ++ [part]) rest).1 []
              (IsOnWay here (part :: rest)) := by
          refine hNext.trans ((ih next (here ++ [part])).mono (List.Subset.refl _) ?_)
          intro place hPlace
          apply IsOnWay.cons
          rwa [if_neg hUp]
        rw [if_neg hUp]
        split
        · exact .refl tree _ _
        · dsimp only
          split
          · exact hWay (.refl tree _ _)
          · exact .refl tree _ _
          · rename_i hFree
            apply hWay
            refine (gains_put hFree).mono (List.Subset.refl _) fun place hPlace => ?_
            rw [hPlace]
            exact isOnWay_self hUp rest

theorem placeFrom_of_makeDirectories (h : tree.makeDirectories here parts = (after, .ok place)) :
    placeFrom here parts = place := by
  induction parts generalizing tree here with
  | nil =>
      cases h
      rfl
  | cons part rest ih =>
      rw [makeDirectories] at h
      by_cases hUp : part = ".."
      · rw [if_pos hUp] at h
        simpa [placeFrom, hUp] using ih h
      · rw [if_neg hUp] at h
        rw [placeFrom, if_neg hUp]
        split at h
        · cases h
        · dsimp only at h
          split at h
          · exact ih h
          · cases h
          · exact ih h

/-- A place for a scratch file is beside the file, under a name of its own. -/
theorem exists_number_of_scratchPlace? {attempts number : Nat} {scratch : Place}
    (h : tree.scratchPlace? directory name attempts number = some scratch) :
    ∃ found < number + attempts, scratch = directory ++ [scratchName name found] := by
  induction attempts generalizing number with
  | zero => cases h
  | succ attempts ih =>
      rw [scratchPlace?] at h
      split at h
      · cases h
        exact ⟨number, by omega, rfl⟩
      · obtain ⟨found, hFound, hScratch⟩ := ih h
        exact ⟨found, by omega, hScratch⟩

theorem exists_scratchPlace? {attempts number found : Nat} (hFrom : number ≤ found)
    (hTo : found < number + attempts)
    (hFree : tree.get? (directory ++ [scratchName name found]) = none) :
    ∃ scratch, tree.scratchPlace? directory name attempts number = some scratch := by
  induction attempts generalizing number with
  | zero => omega
  | succ attempts ih =>
      rw [scratchPlace?]
      by_cases hHere : (tree.get? (directory ++ [scratchName name number])).isNone
      · exact ⟨_, if_pos hHere⟩
      · rw [if_neg hHere]
        have hNe : number ≠ found := by
          rintro rfl
          simp [hFree] at hHere
        exact ih (by omega) (by omega)

theorem scratchName_ne (name : String) (number : Nat) : scratchName name number ≠ name := by
  intro hSame
  have hLength := congrArg String.length hSame
  simp [scratchName] at hLength
  omega

/-- What has to hold of a directory and a name for a file of that name to be replaced. -/
structure IsReplaceable (tree : FileTree) (directory : Place) (name : String) : Prop where
  noNull : '\x00' ∉ name.toList
  short : isTooLong (scratchName name 0) = false
  named : name ≠ "" ∧ name ≠ ".."
  noDirectory : tree.isDirectoryAt (directory ++ [name]) = false
  scratch : ∃ number < scratchAttempts, tree.get? (directory ++ [scratchName name number]) = none

/-- A file that can be replaced is the only thing that is changed. -/
theorem IsReplaceable.replaceIn (h : tree.IsReplaceable directory name) (content : ByteArray) :
    ∃ after, tree.replaceIn directory name content = (after, .ok ()) ∧
      after.get? (directory ++ [name]) = some (.file content) ∧
      ∀ place, place ≠ directory ++ [name] → after.get? place = tree.get? place := by
  obtain ⟨number, hNumber, hFree⟩ := h.scratch
  have hTo : number < 0 + scratchAttempts := by omega
  obtain ⟨scratch, hScratch⟩ := exists_scratchPlace? (Nat.zero_le number) hTo hFree
  obtain ⟨hTop, hNone⟩ := get?_of_scratchPlace? hScratch
  have hTarget : (tree.put scratch (.file content)).isDirectoryAt (directory ++ [name]) = false := by
    by_cases hSame : directory ++ [name] = scratch
    · rw [hSame, isDirectoryAt, get?_put_self tree hTop]
    · rw [isDirectoryAt, get?_put_of_ne tree hSame]
      exact h.noDirectory
  have hMove : (tree.put scratch (.file content)).moveTo scratch directory name =
      .ok (((tree.put scratch (.file content)).erase scratch).put (directory ++ [name])
        (.file content)) := by
    simp only [moveTo, h.named.1, h.named.2, hTarget, decide_false, Bool.or_false,
      Bool.false_eq_true, ↓reduceIte, get?_put_self tree hTop]
  have hReplace : tree.replaceIn directory name content =
      (((tree.put scratch (.file content)).erase scratch).put (directory ++ [name])
        (.file content), .ok ()) := by
    rw [FileTree.replaceIn, if_neg h.noNull, h.short, if_neg Bool.false_ne_true, hScratch]
    simp only [hMove]
  refine ⟨_, hReplace, get?_put_self _ (by simp) _, fun place hPlace => ?_⟩
  rw [get?_put_of_ne _ hPlace]
  by_cases hSame : place = scratch
  · rw [hSame, get?_erase_self _ hTop, hNone]
  · rw [get?_erase_of_ne _ hSame, get?_put_of_ne _ hSame]

/-- If a file cannot be replaced, its scratch file is taken away again. -/
theorem get?_of_replaceIn_error {obstacle : Obstacle}
    (h : tree.replaceIn directory name content = (after, .error obstacle)) (place : Place) :
    after.get? place = tree.get? place := by
  rw [FileTree.replaceIn] at h
  split at h
  · cases h
    rfl
  split at h
  · cases h
    rfl
  split at h
  · cases h
    rfl
  rename_i scratch hScratch
  obtain ⟨hTop, hNone⟩ := get?_of_scratchPlace? hScratch
  dsimp only at h
  split at h
  · cases h
  · cases h
    by_cases hSame : place = scratch
    · rw [hSame, get?_erase_self _ hTop, hNone]
    · rw [get?_erase_of_ne _ hSame, get?_put_of_ne _ hSame]

theorem isReplaceable_of_replaceIn (h : tree.replaceIn directory name content = (after, .ok ())) :
    tree.IsReplaceable directory name := by
  obtain ⟨-, -, hNamed, -, hNull⟩ := get?_of_replaceIn h
  rw [FileTree.replaceIn, if_neg hNull] at h
  split at h
  · cases h
  rename_i hShort
  split at h
  · cases h
  rename_i scratch hScratch
  obtain ⟨hTop, hNone⟩ := get?_of_scratchPlace? hScratch
  obtain ⟨number, hNumber, rfl⟩ := exists_number_of_scratchPlace? hScratch
  refine ⟨hNull, by simpa using hShort, hNamed, ?_, number, by omega, hNone⟩
  have hApart : directory ++ [name] ≠ directory ++ [scratchName name number] := by
    simpa using (scratchName_ne name number).symm
  by_contra hDirectory
  rw [Bool.not_eq_false, isDirectoryAt, ← get?_put_of_ne tree hApart (.file content),
    ← isDirectoryAt] at hDirectory
  simp [moveTo, hDirectory] at h

/-- The file at the path has been replaced in its directory, and nothing else has changed. -/
structure Replaces (middle after : FileTree) (directory parent : Place) (path : Path)
    (content : ByteArray) : Prop where
  noNull : hasNull path = false
  replaceable : middle.IsReplaceable parent path.name
  place : placeOf directory path = parent ++ [path.name]
  content : after.get? (placeOf directory path) = some (.file content)
  frame : ∀ place, place ≠ placeOf directory path → after.get? place = middle.get? place

/-- No directory makes way for the file. -/
theorem Replaces.keeps {parent : Place} (h : middle.Replaces after directory parent path content) :
    middle.Keeps after := by
  intro place hPlace
  have hNe : place ≠ placeOf directory path := by
    rw [h.place]
    exact ne_of_isDirectoryAt hPlace h.replaceable.noDirectory
  rw [isDirectoryAt, h.frame place hNe]
  exact hPlace

/-- What the writing of a file does. -/
theorem write_cases (directory : Place) (path : Path) (tree : FileTree) (content : ByteArray) :
    (∃ middle after parent,
      tree.makeDirectories (startOf directory path) path.parent.parts = (middle, .ok parent) ∧
      tree.write directory path content = (after, .ok ()) ∧
      middle.Replaces after directory parent path content) ∨
    ∃ after obstacle, tree.write directory path content = (after, .error obstacle) ∧
      tree.Gains after [] (IsOnWay (startOf directory path) path.parent.parts) := by
  have hGains := gains_makeDirectories tree (startOf directory path) path.parent.parts
  rw [write]
  by_cases hNull : hasNull path.parent = true
  · exact Or.inr ⟨tree, .nullCharacter, by rw [if_pos hNull], .refl tree _ _⟩
  rw [if_neg hNull]
  rcases hMake : tree.makeDirectories (startOf directory path) path.parent.parts with
    ⟨middle, obstacle | parent⟩
  · rw [hMake] at hGains
    exact Or.inr ⟨middle, obstacle, rfl, hGains⟩
  rw [hMake] at hGains
  dsimp only
  rcases hReplace : middle.replaceIn parent path.name content with ⟨after, obstacle | ⟨⟩⟩
  · refine Or.inr ⟨after, obstacle, rfl, fun place => ?_⟩
    rw [get?_of_replaceIn_error hReplace]
    exact hGains place
  · have hReplaceable := isReplaceable_of_replaceIn hReplace
    obtain ⟨other, hOther, hContent, hFrame⟩ := hReplaceable.replaceIn content
    rw [hReplace] at hOther
    cases hOther
    have hParts := parts_eq_concat hReplaceable.named.1
    have hPlace : placeOf directory path = parent ++ [path.name] := by
      rw [placeOf, hParts, placeFrom_concat _ _ hReplaceable.named.2,
        placeFrom_of_makeDirectories hMake]
    have hAllowed : hasNull path = false := by
      rw [hasNull, hParts, List.any_append]
      simpa [hasNull, hReplaceable.noNull] using hNull
    rw [← hPlace] at hContent hFrame
    exact Or.inl ⟨middle, after, parent, rfl, rfl, hAllowed, hReplaceable, hPlace, hContent, hFrame⟩

theorem exists_replaces_of_write (h : tree.write directory path content = (after, .ok ())) :
    ∃ middle parent,
      tree.makeDirectories (startOf directory path) path.parent.parts = (middle, .ok parent) ∧
      middle.Replaces after directory parent path content := by
  rcases write_cases directory path tree content with
    ⟨middle, written, parent, hMake, hWrite, hReplaces⟩ | ⟨written, obstacle, hWrite, -⟩
  · rw [hWrite] at h
    cases h
    exact ⟨middle, parent, hMake, hReplaces⟩
  · rw [hWrite] at h
    cases h

/-- A write that fails makes directories on its way, and nothing else. -/
theorem gains_of_write_error {obstacle : Obstacle}
    (h : tree.write directory path content = (after, .error obstacle)) :
    tree.Gains after [] (IsOnWay (startOf directory path) path.parent.parts) := by
  rcases write_cases directory path tree content with
    ⟨middle, written, parent, -, hWrite, -⟩ | ⟨written, failure, hWrite, hGains⟩
  · rw [hWrite] at h
    cases h
  · rw [hWrite] at h
    cases h
    exact hGains

theorem contentAt?_of_write (h : (tree.write directory path content).2 = .ok ()) :
    (tree.write directory path content).1.contentAt? (placeOf directory path) = some content := by
  obtain ⟨middle, parent, -, hReplaces⟩ := exists_replaces_of_write (Prod.ext rfl h)
  simp only [contentAt?, hReplaces.content]

/-- Only the file that is written can have another content afterwards. -/
theorem eq_placeOf_of_write (h : (tree.write directory path content).1.contentAt? place ≠
    tree.contentAt? place) :
    (tree.write directory path content).2 = .ok () ∧ place = placeOf directory path := by
  rcases write_cases directory path tree content with
    ⟨middle, after, parent, hMake, hWrite, hReplaces⟩ | ⟨after, obstacle, hWrite, hGains⟩
  · rw [hWrite] at h ⊢
    refine ⟨rfl, ?_⟩
    by_contra hPlace
    apply h
    have hGains := gains_makeDirectories tree (startOf directory path) path.parent.parts
    rw [hMake] at hGains
    simpa only [contentAt?, hReplaces.frame place hPlace] using hGains.contentAt? List.not_mem_nil
  · rw [hWrite] at h
    exact absurd (hGains.contentAt? List.not_mem_nil) h

/-- The contents of files behind a write. -/
theorem contentAt?_eq_of_write (h : tree.write directory path content = (after, .ok ()))
    (place : Place) : after.contentAt? place =
      if placeOf directory path = place then some content else tree.contentAt? place := by
  have hAfter : after = (tree.write directory path content).1 := by rw [h]
  rw [hAfter]
  split
  · rename_i hPlace
    rw [← hPlace]
    exact contentAt?_of_write (congrArg Prod.snd h)
  · rename_i hPlace
    by_contra hChanged
    exact hPlace (eq_placeOf_of_write hChanged).2.symm

/-- Everything lies in a directory. -/
def IsRooted (tree : FileTree) : Prop :=
  ∀ place above, (tree.get? place).isSome = true → above <+: place → above ≠ place →
    tree.isDirectoryAt above = true

theorem isRooted_of_entries (h : ∀ entry ∈ tree.entries, ∀ above ∈ entry.1.inits,
    above ≠ entry.1 → tree.isDirectoryAt above = true) : tree.IsRooted := by
  intro place above hSome hAbove hNe
  rw [get?] at hSome
  split at hSome
  · rename_i hTop
    subst hTop
    exact absurd (List.prefix_nil.mp hAbove) hNe
  · obtain ⟨entry, hEntry⟩ := Option.isSome_iff_exists.mp hSome
    obtain ⟨front, behind, hEntries, -⟩ := List.lookup_eq_some_iff.mp hEntry
    apply h (place, entry) ?_ above ((List.mem_inits above place).mpr hAbove) hNe
    rw [hEntries]
    simp

theorem IsRooted.isOpen (h : tree.IsRooted) (hPlace : tree.isDirectoryAt place = true) :
    tree.IsOpen place := by
  intro above hAbove
  by_cases hSame : above = place
  · rwa [hSame]
  · apply h place above ?_ hAbove hSame
    simp [isDirectoryAt_iff.mp hPlace]

/-- Without two dots, nothing is missing on the way to a place at which something lies. -/
theorem IsRooted.follow_ne_missing (h : tree.IsRooted) (hUp : ".." ∉ parts)
    (hSome : (tree.get? (here ++ parts)).isSome = true) :
    tree.follow here parts ≠ .error .missing := by
  induction parts generalizing here with
  | nil => simp [follow]
  | cons part rest ih =>
      simp only [List.mem_cons, not_or] at hUp
      have hHere : tree.isDirectoryAt here = true :=
        h _ here hSome (List.prefix_append here _) (by simp)
      rw [follow_cons hHere, if_neg (Ne.symm hUp.1)]
      split
      · simp
      · apply ih hUp.2
        simpa using hSome

/-- Where the directories on the way can be made, no file is in it. -/
theorem obstacle_of_makeDirectories {obstacle : Obstacle} (hHere : tree.IsOpen here)
    (hMake : tree.makeDirectories here parts = (after, .ok place))
    (hFollow : tree.follow here (parts ++ [name]) = .error obstacle) :
    obstacle = .missing ∨ obstacle = .nameTooLong := by
  induction parts generalizing here tree with
  | nil =>
      rw [List.nil_append, follow_cons hHere.self] at hFollow
      split at hFollow
      · cases hFollow
      · split at hFollow
        · cases hFollow
          exact Or.inr rfl
        · cases hFollow
  | cons part rest ih =>
      rw [List.cons_append, follow_cons hHere.self] at hFollow
      rw [makeDirectories] at hMake
      by_cases hUp : part = ".."
      · rw [if_pos hUp] at hFollow hMake
        exact ih hHere.dropLast hMake hFollow
      · rw [if_neg hUp] at hFollow hMake
        split at hFollow
        · cases hFollow
          exact Or.inr rfl
        rename_i hShort
        rw [if_neg hShort] at hMake
        dsimp only at hMake
        split at hMake
        · rename_i hEntry
          exact ih (hHere.concat (isDirectoryAt_iff.mpr hEntry)) hMake hFollow
        · cases hMake
        · rename_i hEntry
          obtain ⟨next, others, hNext⟩ := List.exists_cons_of_ne_nil (l := rest ++ [name]) (by simp)
          rw [hNext, follow, hEntry] at hFollow
          cases hFollow
          exact Or.inl rfl

/-- A file can only be written over, although nothing has been found at its path, if the path
leads through a missing directory and back up again. -/
theorem locate_of_overwritten (hRooted : tree.IsRooted)
    (hDirectory : tree.isDirectoryAt directory = true)
    (hWrite : (tree.write directory path content).2 = .ok ())
    (hFind : tree.find directory path = .ok none)
    (hSome : (tree.get? (placeOf directory path)).isSome = true) :
    tree.locate directory path = .error .missing ∧ ".." ∈ path.parts := by
  have hStart := (hRooted.isOpen hDirectory).startOf path
  obtain ⟨middle, parent, hMake, hReplaces⟩ := exists_replaces_of_write (Prod.ext rfl hWrite)
  have hParts := parts_eq_concat hReplaces.replaceable.named.1
  have hLocate : tree.locate directory path = tree.follow (startOf directory path) path.parts := by
    rw [locate, hReplaces.noNull, if_neg Bool.false_ne_true]
  rw [find, hLocate] at hFind
  rw [hLocate]
  cases hFollow : tree.follow (startOf directory path) path.parts with
  | ok place =>
      rw [hFollow] at hFind
      rw [placeOf, placeFrom_of_follow hFollow, Except.ok.inj hFind] at hSome
      cases hSome
  | error obstacle =>
      have hMissing : obstacle = .missing := by
        rw [hParts] at hFollow
        rcases obstacle_of_makeDirectories hStart hMake hFollow with hMissing | rfl
        · exact hMissing
        · rw [hParts, hFollow] at hFind
          cases hFind
      subst hMissing
      refine ⟨rfl, ?_⟩
      by_contra hUp
      rw [placeOf, placeFrom_eq_append hUp] at hSome
      exact hRooted.follow_ne_missing hUp hSome hFollow

end RoutePaths.FileTree
