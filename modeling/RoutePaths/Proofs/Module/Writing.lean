import RoutePaths.Proofs.Module.Emission

/-! How far the files of a list are written. The files in front of the first one that cannot be
written have their contents, those behind it are not touched, and what has been done for that one
file itself are at most directories on its way. -/
namespace RoutePaths.SourceFile
open FileTree

variable {sourceDirectory : String} {directory place : Place} {tree middle after : FileTree}
  {file : SourceFile} {files rest written tried : List SourceFile}

/-- The content of the last file that goes to a place. Different targets may lead there. -/
def lastContent? (sourceDirectory : String) (directory : Place) (files : List SourceFile)
    (place : Place) : Option ByteArray :=
  (files.reverse.find? (·.place sourceDirectory directory = place)).map fun file =>
    Utf8.encode file.content

/-- The place is on the way to one of the files, above it. -/
def IsAbove (sourceDirectory : String) (directory : Place) (files : List SourceFile)
    (place : Place) : Prop :=
  ∃ file ∈ files, IsOnWay (startOf directory (file.target sourceDirectory))
    (file.target sourceDirectory).parent.parts place

/-- Files have been written, the last one with a target where several have the same. All that may
be new besides them are directories above the files that have been tried, so that no scratch file
is left. -/
structure HasWritten (tree after : FileTree) (sourceDirectory : String) (directory : Place)
    (written tried : List SourceFile) : Prop where
  contents : ∀ place, after.contentAt? place =
    (lastContent? sourceDirectory directory written place).or (tree.contentAt? place)
  reads : ∀ file ∈ written, after.readBytes directory (file.target sourceDirectory) =
    .ok (lastContent? sourceDirectory directory written (file.place sourceDirectory directory))
  keeps : tree.Keeps after
  others : tree.Gains after (written.map (SourceFile.place sourceDirectory directory))
    (IsAbove sourceDirectory directory tried)

theorem lastContent?_cons (file : SourceFile) (rest : List SourceFile) (place : Place) :
    lastContent? sourceDirectory directory (file :: rest) place =
      (lastContent? sourceDirectory directory rest place).or
        (if file.place sourceDirectory directory = place then some (Utf8.encode file.content)
          else none) := by
  rw [lastContent?, List.reverse_cons, List.find?_append, List.find?_singleton, Option.map_or,
    ← lastContent?]
  by_cases hPlace : file.place sourceDirectory directory = place
  · simp [hPlace]
  · simp [hPlace]

theorem exists_lastContent? (h : file ∈ files) :
    ∃ content, lastContent? sourceDirectory directory files
      (file.place sourceDirectory directory) = some content := by
  rw [← Option.isSome_iff_exists, lastContent?, Option.isSome_map, List.find?_isSome]
  exact ⟨file, List.mem_reverse.mpr h, by simp⟩

theorem IsAbove.mono (h : IsAbove sourceDirectory directory files place) (hFiles : files ⊆ rest) :
    IsAbove sourceDirectory directory rest place := by
  obtain ⟨file, hFile, hWay⟩ := h
  exact ⟨file, hFiles hFile, hWay⟩

namespace HasWritten

/-- As long as nothing is written, there are at most new directories. -/
theorem of_gains (h : tree.Gains after [] (IsAbove sourceDirectory directory tried)) :
    HasWritten tree after sourceDirectory directory [] tried :=
  ⟨fun _ => h.contentAt? List.not_mem_nil, by simp, h.keeps, h⟩

/-- What is written behind a file is added to what the writing of the file does. -/
theorem cons (hOpen : tree.IsOpen directory)
    (hWrite : tree.write directory (file.target sourceDirectory) (Utf8.encode file.content) =
      (middle, .ok ()))
    (h : HasWritten middle after sourceDirectory directory written tried) :
    HasWritten tree after sourceDirectory directory (file :: written) (file :: tried) := by
  obtain ⟨hKept, hGained⟩ := gains_of_write (.here (hOpen.startOf _).self) (List.nil_append _).symm
    hWrite
  have hContents : ∀ place, after.contentAt? place =
      (lastContent? sourceDirectory directory (file :: written) place).or (tree.contentAt? place) := by
    intro place
    rw [h.contents, lastContent?_cons, Option.or_assoc, contentAt?_eq_of_write hWrite,
      SourceFile.place]
    congr 1
    split
    · rfl
    · rfl
  refine ⟨hContents, ?_, hKept.trans h.keeps, ?_⟩
  · rw [List.forall_mem_cons]
    constructor
    · obtain ⟨hNull, hFollow, -⟩ := readBytes_eq_some_iff.mp (readBytes_of_write hWrite hOpen)
      obtain ⟨content, hLast⟩ : ∃ content, lastContent? sourceDirectory directory (file :: written)
          (file.place sourceDirectory directory) = some content :=
        exists_lastContent? List.mem_cons_self
      rw [hLast, readBytes_eq_some_iff]
      refine ⟨hNull, follow_of_keeps hFollow h.keeps, ?_⟩
      rw [hContents, ← place, hLast]
      rfl
    · intro other hOther
      obtain ⟨content, hLast⟩ := exists_lastContent? hOther
      rw [h.reads other hOther, lastContent?_cons, hLast]
      rfl
  · refine (hGained.mono ?_ ?_).trans (h.others.mono ?_ ?_)
    · exact List.cons_subset_cons _ (List.nil_subset _)
    · exact fun place hPlace => ⟨file, List.mem_cons_self, hPlace⟩
    · exact List.subset_cons_self _ _
    · exact fun place hPlace => hPlace.mono (List.subset_cons_self _ _)

end HasWritten

/-- Either all files are written and the result is their targets, in order; or there is a first
file that cannot be written. Then every file has the content that it has after writing only those
in front of that one, and nothing but directories is new beside them. -/
theorem hasWritten_of_writeAll (sourceDirectory : String) (hOpen : tree.IsOpen directory)
    (files : List SourceFile) :
    (∃ after, writeAll sourceDirectory directory tree files =
        (after, .ok (files.map (·.target sourceDirectory))) ∧
      HasWritten tree after sourceDirectory directory files files) ∨
    ∃ front file rest before after obstacle, files = front ++ file :: rest ∧
      writeAll sourceDirectory directory tree front =
        (before, .ok (front.map (·.target sourceDirectory))) ∧
      writeAll sourceDirectory directory tree files =
        (after, .error (failureOf (file.target sourceDirectory) obstacle)) ∧
      (∀ place, after.contentAt? place = before.contentAt? place) ∧
      HasWritten tree after sourceDirectory directory front (front ++ [file]) := by
  induction files generalizing tree with
  | nil => exact Or.inl ⟨tree, rfl, .of_gains (.refl _ _ _)⟩
  | cons file rest ih =>
      rcases hWrite : tree.write directory (file.target sourceDirectory)
        (Utf8.encode file.content) with ⟨middle, obstacle | ⟨⟩⟩
      · have hGains := gains_of_write_error hWrite
        refine Or.inr ⟨[], file, rest, tree, middle, obstacle, rfl, rfl, ?_,
          fun place => hGains.contentAt? List.not_mem_nil, ?_⟩
        · rw [writeAll, hWrite]
        · exact .of_gains (hGains.mono (List.Subset.refl _) fun place hPlace =>
            ⟨file, List.mem_singleton_self _, hPlace⟩)
      · have hOpenAfter : middle.IsOpen directory :=
          hOpen.keeps (gains_of_write (.here (hOpen.startOf _).self) (List.nil_append _).symm hWrite).1
        rcases ih hOpenAfter with ⟨after, hRest, hWritten⟩ |
          ⟨front, failed, others, before, after, obstacle, rfl, hFront, hRest, hSame, hWritten⟩
        · refine Or.inl ⟨after, ?_, hWritten.cons hOpen hWrite⟩
          simp only [writeAll, hWrite, hRest, List.map_cons]
        · refine Or.inr ⟨file :: front, failed, others, before, after, obstacle, rfl, ?_, ?_, hSame,
            hWritten.cons hOpen hWrite⟩
          · simp only [writeAll, hWrite, hFront, List.map_cons]
          · simp only [writeAll, hWrite, hRest]

/-- A project with a file in its source directory. -/
def noteTree : FileTree :=
  ⟨[(["work"], .directory), (["work", "src"], .directory),
    (["work", "src", "Notes.py"], .file (Utf8.encode "kept"))]⟩

/-- Two contents for one target, a file below that target, and a file that is there already. -/
def noteFiles : List SourceFile :=
  [⟨[], "Routes.py", "first"⟩, ⟨[], "Routes.py", "second"⟩,
    ⟨["Routes.py", "Admin"], "__init__.py", "below"⟩, ⟨[], "Notes.py", "replaced"⟩]

/-- The second file is in the way of the third one, and the fourth one is left alone. -/
theorem hasWritten_of_writeAll_noteFiles :
    noteTree.IsOpen ["work"] ∧ ∃ after, writeAll "src" ["work"] noteTree noteFiles =
        (after, .error (.expected ⟨"src/Routes.py/Admin/__init__.py"⟩)) ∧
      after.readBytes ["work"] ⟨0, ["src", "Routes.py"]⟩ = .ok (some (Utf8.encode "second")) ∧
      after.contentAt? ["work", "src", "Notes.py"] = some (Utf8.encode "kept") := by
  have hOpen : noteTree.IsOpen ["work"] := by
    intro above hAbove
    rw [← List.mem_inits] at hAbove
    revert above
    decide
  have hResult : (writeAll "src" ["work"] noteTree noteFiles).2 =
      .error (.expected ⟨"src/Routes.py/Admin/__init__.py"⟩) :=
    rfl
  rcases hasWritten_of_writeAll "src" hOpen noteFiles with ⟨after, hAll, -⟩ |
    ⟨front, file, rest, before, after, obstacle, hFiles, -, hAll, -, hWritten⟩
  · rw [hAll] at hResult
    cases hResult
  · rw [hAll] at hResult
    have hTarget : (file.target "src").text = "src/Routes.py/Admin/__init__.py" := by
      cases obstacle <;> simp only [failureOf, Except.error.injEq, Failing.expected.injEq,
        WriteError.mk.injEq, reduceCtorEq] at hResult <;> exact hResult
    have hFront : front = noteFiles.take 2 := by
      have hBlocked : ∀ number < noteFiles.length,
          (noteFiles[number]?.map fun file => (file.target "src").text) =
            some "src/Routes.py/Admin/__init__.py" → number = 2 := by
        decide
      have hLength := hBlocked front.length (by simp [hFiles]) (by simp [hFiles, hTarget])
      rw [← hLength, hFiles, List.take_left]
    subst hFront
    refine ⟨hOpen, after, hAll.trans (by rw [← hResult]), ?_, ?_⟩
    · exact hWritten.reads _ (List.mem_cons_self ..)
    · exact hWritten.contents _

end RoutePaths.SourceFile
