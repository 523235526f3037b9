import RoutePaths.Module.Emission
import RoutePaths.Proofs.FileTree.Rewriting
import RoutePaths.Proofs.Module.Placement

/-! Writing the files of a tree. Every file stays settled while those behind it are written, so
that all of them are settled in the end, and writing them once more changes nothing. -/
namespace RoutePaths
open FileTree

namespace FileTree

variable {tree after : FileTree} {targets : List Place} {names : List String}

/-- Where only visible names are new, the places of scratch files are left alone. -/
theorem Gains.scratch (h : tree.Gains after targets (IsNamed names))
    (hTargets : ∀ target ∈ targets, ∃ above name, target = above ++ [name] ∧ Path.IsVisible name)
    (hNames : ∀ name ∈ names, Path.IsVisible name) (folder : Place) (name : String)
    (number : Nat) : after.get? (folder ++ [scratchName name number]) =
      tree.get? (folder ++ [scratchName name number]) := by
  -- the name of a scratch file starts with a dot, and a visible name does not
  have hApart {above : Place} {visible : String} (hVisible : Path.IsVisible visible)
      (hSame : folder ++ [scratchName name number] = above ++ [visible]) : False := by
    have hName : scratchName name number = visible := by simpa using (List.append_inj' hSame rfl).2
    exact hVisible.2.1 (hName ▸ scratchName_hidden name number)
  have hPlace : folder ++ [scratchName name number] ∉ targets := by
    intro hTarget
    obtain ⟨above, visible, hSame, hVisible⟩ := hTargets _ hTarget
    exact hApart hVisible hSame
  rcases h _ hPlace with hSame | ⟨-, -, above, visible, hName, hSame⟩
  · exact hSame
  · exact (hApart (hNames visible hName) hSame).elim

end FileTree

namespace SourceFile

variable {sourceDirectory : String} {directory source : Place} {tree middle after : FileTree}
  {file other : SourceFile} {files rest : List SourceFile} {paths : List Path}

/-- The place that the target of a file leads to. -/
def place (sourceDirectory : String) (directory : Place) (file : SourceFile) : Place :=
  placeOf directory (file.target sourceDirectory)

theorem startOf_target (h : file.IsVisible) (sourceDirectory : String) (directory : Place) :
    startOf directory (file.target sourceDirectory) =
      startOf directory (Path.read sourceDirectory) := by
  rw [target_eq h]
  rfl

theorem parent_target (h : file.IsVisible) (sourceDirectory : String) :
    (file.target sourceDirectory).parent.parts =
      (Path.read sourceDirectory).parts ++ file.directories := by
  rw [target_eq h, parts, ← List.append_assoc]
  exact List.dropLast_concat

/-- The path of a target is read back from its text. -/
theorem read_target (h : file.IsVisible) (sourceDirectory : String) :
    Path.read (file.target sourceDirectory).text = file.target sourceDirectory := by
  have hSource := Path.isNormal_read sourceDirectory
  apply Path.read_text
  rw [target_eq h]
  refine ⟨hSource.slashes, ?_⟩
  rw [List.forall_mem_append]
  exact ⟨hSource.parts, fun part hPart => (h part hPart).isPart⟩

/-- A file lies below the source directory. -/
theorem place_eq (h : file.IsVisible) (sourceDirectory : String) (directory : Place) :
    file.place sourceDirectory directory =
      placeOf directory (Path.read sourceDirectory) ++ file.parts := by
  have hDown : ".." ∉ file.parts := fun hUp => (h _ hUp).ne_up rfl
  rw [place, placeOf, startOf_target h, target_eq h, placeFrom_append, placeFrom_eq_append hDown]
  rfl

theorem place_concat (h : file.IsVisible) (sourceDirectory : String) (directory : Place) :
    file.place sourceDirectory directory =
      (placeOf directory (Path.read sourceDirectory) ++ file.directories) ++ [file.filename] := by
  rw [place_eq h, parts, List.append_assoc]

/-- Different files lie at different places. -/
theorem place_ne (h : file.IsVisible) (hOther : other.IsVisible) (hParts : file.parts ≠ other.parts) :
    file.place sourceDirectory directory ≠ other.place sourceDirectory directory := by
  rw [place_eq h, place_eq hOther]
  exact fun hSame => hParts (List.append_cancel_left hSame)

theorem writeAll_cons_eq_ok (h : writeAll sourceDirectory directory tree (file :: rest) =
    (after, .ok paths)) :
    ∃ middle others, tree.write directory (file.target sourceDirectory) (Utf8.encode file.content) =
        (middle, .ok ()) ∧
      writeAll sourceDirectory directory middle rest = (after, .ok others) := by
  rw [writeAll] at h
  rcases hWrite : tree.write directory (file.target sourceDirectory) (Utf8.encode file.content) with
    ⟨middle, obstacle | ⟨⟩⟩
  · simp [hWrite] at h
  · rw [hWrite] at h
    dsimp only at h
    rcases hRest : writeAll sourceDirectory directory middle rest with ⟨last, error | others⟩
    · simp [hRest] at h
    · simp only [hRest, Prod.mk.injEq] at h
      exact ⟨middle, others, rfl, by rw [hRest, h.1]⟩

/-- The file has been written and could be written again. -/
def IsSettledIn (tree : FileTree) (sourceDirectory : String) (directory : Place)
    (file : SourceFile) : Prop :=
  tree.IsSettled directory (file.target sourceDirectory) (Utf8.encode file.content)

/-- The source directory is there, and it is reached from the directory of the run. -/
def HasSource (tree : FileTree) (sourceDirectory : String) (directory : Place) : Prop :=
  ∃ source, tree.Leads (startOf directory (Path.read sourceDirectory))
    (Path.read sourceDirectory).parts source

/-- A settled file stays settled while other files are written below the source directory. -/
theorem IsSettledIn.of_gains (h : IsSettledIn tree sourceDirectory directory file)
    (hFile : file.IsVisible) (hFiles : ∀ other ∈ files, other.IsVisible)
    (hNew : file.parts ∉ files.map parts) (hKeeps : tree.Keeps after)
    (hGains : tree.Gains after (files.map (place sourceDirectory directory))
      (IsNamed (files.flatMap directories))) :
    IsSettledIn after sourceDirectory directory file := by
  refine h.of_kept hKeeps (hGains.contentAt? ?_) fun folder number => ?_
  · intro hPlace
    obtain ⟨other, hOther, hSame⟩ := List.mem_map.mp hPlace
    have hParts : file.parts ≠ other.parts := fun hSame =>
      hNew (List.mem_map.mpr ⟨other, hOther, hSame.symm⟩)
    exact place_ne hFile (hFiles other hOther) hParts hSame.symm
  · apply hGains.scratch
    · intro target hTarget
      obtain ⟨other, hOther, rfl⟩ := List.mem_map.mp hTarget
      exact ⟨_, _, place_concat (hFiles other hOther) sourceDirectory directory,
        (hFiles other hOther).filename⟩
    · intro name hName
      obtain ⟨other, hOther, hMem⟩ := List.mem_flatMap.mp hName
      exact (hFiles other hOther).directories name hMem

/-- The source directory is there once a file has been written below it. -/
theorem IsSettledIn.hasSource (h : IsSettledIn tree sourceDirectory directory file)
    (hFile : file.IsVisible) : HasSource tree sourceDirectory directory := by
  obtain ⟨parent, hLeads, -⟩ := h.writable
  rw [startOf_target hFile, parent_target hFile] at hLeads
  exact hLeads.front

/-- Where the source directory is there, writing files only makes these files and their
directories, and settles all of them. -/
theorem settled_of_writeAll (h : writeAll sourceDirectory directory tree files = (after, .ok paths))
    (hSource : HasSource tree sourceDirectory directory) (hOpen : tree.IsOpen directory)
    (hVisible : ∀ file ∈ files, file.IsVisible) (hNodup : (files.map parts).Nodup) :
    tree.Keeps after ∧
      tree.Gains after (files.map (place sourceDirectory directory))
        (IsNamed (files.flatMap directories)) ∧
      ∀ file ∈ files, IsSettledIn after sourceDirectory directory file := by
  induction files generalizing tree paths with
  | nil =>
      cases h
      exact ⟨fun _ h => h, .refl _ _ _, by simp⟩
  | cons file rest ih =>
      obtain ⟨middle, others, hWrite, hRest⟩ := writeAll_cons_eq_ok h
      rw [List.forall_mem_cons] at hVisible
      obtain ⟨hFile, hOthers⟩ := hVisible
      rw [List.map_cons, List.nodup_cons] at hNodup
      obtain ⟨source, hLeads⟩ := hSource
      have hFirst := hLeads
      rw [← startOf_target hFile] at hFirst
      obtain ⟨hKept, hGained⟩ := gains_of_write hFirst (parent_target hFile sourceDirectory) hWrite
      have hSettled : IsSettledIn middle sourceDirectory directory file :=
        isSettled_of_write hWrite hOpen
      obtain ⟨hKeeps, hGains, hRestSettled⟩ := ih hRest ⟨source, hLeads.keeps hKept⟩
        (hOpen.keeps hKept) hOthers hNodup.2
      refine ⟨hKept.trans hKeeps, ?_, ?_⟩
      · refine (hGained.mono ?_ ?_).trans (hGains.mono ?_ ?_)
        · exact List.cons_subset_cons _ (List.nil_subset _)
        · exact fun _ hPlace => hPlace.isNamed.mono (List.subset_append_left _ _)
        · exact List.subset_cons_self _ _
        · exact fun _ hPlace => hPlace.mono (List.subset_append_right _ _)
      -- the files behind the first one go to other places and leave its scratch names free
      · rw [List.forall_mem_cons]
        exact ⟨hSettled.of_gains hFile hOthers hNodup.1 hKeeps hGains, hRestSettled⟩

/-- Writing files changes no other file and settles all of them. The first file is written on
its own: with it, the source directory is made. -/
theorem effect_of_writeAll (h : writeAll sourceDirectory directory tree files = (after, .ok paths))
    (hOpen : tree.IsOpen directory) (hVisible : ∀ file ∈ files, file.IsVisible)
    (hNodup : (files.map parts).Nodup) :
    tree.Keeps after ∧
      (∀ place, place ∉ files.map (SourceFile.place sourceDirectory directory) →
        after.contentAt? place = tree.contentAt? place) ∧
      ∀ file ∈ files, IsSettledIn after sourceDirectory directory file := by
  cases files with
  | nil =>
      cases h
      exact ⟨fun _ h => h, fun _ _ => rfl, by simp⟩
  | cons file rest =>
      obtain ⟨middle, others, hWrite, hRest⟩ := writeAll_cons_eq_ok h
      rw [List.forall_mem_cons] at hVisible
      obtain ⟨hFile, hOthers⟩ := hVisible
      rw [List.map_cons, List.nodup_cons] at hNodup
      obtain ⟨hKept, hGained⟩ := gains_of_write (.here (hOpen.startOf _).self)
        (List.nil_append _).symm hWrite
      have hSettled : IsSettledIn middle sourceDirectory directory file :=
        isSettled_of_write hWrite hOpen
      obtain ⟨hKeeps, hGains, hRestSettled⟩ := settled_of_writeAll hRest
        (hSettled.hasSource hFile) (hOpen.keeps hKept) hOthers hNodup.2
      refine ⟨hKept.trans hKeeps, fun place hPlace => ?_, ?_⟩
      · rw [List.map_cons, List.mem_cons, not_or] at hPlace
        rw [hGains.contentAt? hPlace.2]
        exact hGained.contentAt? fun hMem => hPlace.1 (List.mem_singleton.mp hMem)
      · rw [List.forall_mem_cons]
        exact ⟨hSettled.of_gains hFile hOthers hNodup.1 hKeeps hGains, hRestSettled⟩

/-- Settled files are written once more with success, and nothing changes. -/
theorem writeAll_of_settled
    (h : ∀ file ∈ files, IsSettledIn tree sourceDirectory directory file) :
    ∃ after paths, writeAll sourceDirectory directory tree files = (after, .ok paths) ∧
      ∀ place, after.get? place = tree.get? place := by
  induction files generalizing tree with
  | nil => exact ⟨tree, [], rfl, fun _ => rfl⟩
  | cons file rest ih =>
      rw [List.forall_mem_cons] at h
      obtain ⟨middle, hWrite, hMiddle⟩ := h.1.write
      have hKeeps : tree.Keeps middle := by
        intro place hPlace
        rw [isDirectoryAt, hMiddle]
        exact hPlace
      have hSettled : ∀ other ∈ rest, IsSettledIn middle sourceDirectory directory other :=
        fun other hOther => (h.2 other hOther).of_kept hKeeps (by simp only [contentAt?, hMiddle])
          fun folder number => hMiddle _
      obtain ⟨after, paths, hRest, hAfter⟩ := ih hSettled
      refine ⟨after, file.target sourceDirectory :: paths, ?_, fun place => ?_⟩
      · rw [writeAll, hWrite]
        simp only [hRest]
      · rw [hAfter, hMiddle]

end SourceFile

end RoutePaths
