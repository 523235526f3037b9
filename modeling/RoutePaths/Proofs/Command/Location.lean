import RoutePaths.Proofs.Command.Inspection
import RoutePaths.Proofs.Command.Regeneration
import Mathlib.Data.List.DropRight

/-! Where files are shown to be. The outline of a tree puts the components of a file behind the
text of the source directory, without the slashes at its end; when the file is written, they are
put behind its path. Slashes at the end make no difference to a path as long as something stands
in front of them. -/
namespace RoutePaths

namespace Command

variable {path : Option Path} {config : Config} {text : String} {generation : Generation}
  {file : SourceFile} {parts : List String}

theorem toList_withoutEndSlashes (sourceDirectory : String) :
    (withoutEndSlashes sourceDirectory).toList = sourceDirectory.toList.rdropWhile (· = '/') := by
  rw [withoutEndSlashes, String.toList_ofList]
  rfl

theorem exists_append_replicate (sourceDirectory : String) :
    ∃ count, sourceDirectory.toList =
      (withoutEndSlashes sourceDirectory).toList ++ List.replicate count '/' := by
  have hSlashes : sourceDirectory.toList.rtakeWhile (· = '/') =
      List.replicate (sourceDirectory.toList.rtakeWhile (· = '/')).length '/' := by
    rw [List.eq_replicate_iff]
    exact ⟨rfl, fun c hc => by simpa using List.mem_rtakeWhile_imp hc⟩
  refine ⟨(sourceDirectory.toList.rtakeWhile (· = '/')).length, ?_⟩
  rw [toList_withoutEndSlashes, ← hSlashes, List.rdropWhile_append_rtakeWhile]

/-- What is left has another character than slashes, if anything is left. -/
theorem exists_mem_withoutEndSlashes {sourceDirectory : String}
    (h : withoutEndSlashes sourceDirectory ≠ "") :
    ∃ c ∈ (withoutEndSlashes sourceDirectory).toList, c ≠ '/' := by
  have hNe : sourceDirectory.toList.rdropWhile (· = '/') ≠ [] := by
    rw [← toList_withoutEndSlashes]
    exact fun hNil => h (String.toList_eq_nil_iff.mp hNil)
  rw [toList_withoutEndSlashes]
  exact ⟨_, List.getLast_mem hNe, by simpa using List.rdropWhile_last_not _ _ hNe⟩

/-- The path that is shown has the components of the one that is written to. It starts at the
root whenever nothing but slashes stands in front of the components. -/
theorem read_intercalate_withoutEndSlashes (h : ∀ part ∈ parts, Path.IsPart part)
    (hParts : parts ≠ []) (sourceDirectory : String) :
    Path.read ("/".intercalate (withoutEndSlashes sourceDirectory :: parts)) =
      ⟨if withoutEndSlashes sourceDirectory = "" then 1 else (Path.read sourceDirectory).slashes,
        (Path.read sourceDirectory).parts ++ parts⟩ := by
  obtain ⟨count, hSource⟩ := exists_append_replicate sourceDirectory
  have hOther : withoutEndSlashes sourceDirectory ≠ "" → _ := exists_mem_withoutEndSlashes
  generalize withoutEndSlashes sourceDirectory = front at hSource hOther ⊢
  have hShown : ("/".intercalate (front :: parts)).toList =
      front.toList ++ '/' :: ("/".intercalate parts).toList := by
    rw [Path.toList_intercalate, Path.toList_intercalate, List.map_cons,
      List.intercalate_cons_of_ne_nil (by simpa using hParts), List.append_assoc,
      List.singleton_append]
  rw [Path.read, Path.read, hShown, hSource, Path.partsOf_append_cons, Path.partsOf_intercalate h,
    Path.partsOf_append_replicate]
  congr 1
  by_cases hEmpty : front = ""
  · rw [if_pos hEmpty, hEmpty, String.toList_empty, List.nil_append,
      List.takeWhile_cons_of_pos (by decide), Path.takeWhile_intercalate h]
    rfl
  · obtain ⟨c, hMem, hc⟩ := hOther hEmpty
    rw [if_neg hEmpty, Path.takeWhile_append_of_mem hMem hc, Path.takeWhile_append_of_mem hMem hc]

/-- The path that the outline of a tree shows for a file. -/
def shownPath (sourceDirectory : String) (file : SourceFile) : String :=
  "/".intercalate (withoutEndSlashes sourceDirectory :: file.directories ++ [file.filename])

theorem read_shownPath (h : file.IsVisible) (sourceDirectory : String) :
    Path.read (shownPath sourceDirectory file) =
      ⟨if withoutEndSlashes sourceDirectory = "" then 1 else (Path.read sourceDirectory).slashes,
        (Path.read sourceDirectory).parts ++ file.parts⟩ :=
  read_intercalate_withoutEndSlashes (fun part hPart => (h part hPart).isPart)
    (by simp [SourceFile.parts]) sourceDirectory

/-- Where only slashes are left out, it is their number that decides. -/
theorem slashes_eq_one_iff {sourceDirectory : String} (h : withoutEndSlashes sourceDirectory = "") :
    (Path.read sourceDirectory).slashes = 1 ↔ sourceDirectory ≠ "" ∧ sourceDirectory ≠ "//" := by
  obtain ⟨count, hSource⟩ := exists_append_replicate sourceDirectory
  rw [h, String.toList_empty, List.nil_append] at hSource
  have hText (other : Nat) : sourceDirectory = String.ofList (List.replicate other '/') ↔
      count = other := by
    rw [← String.toList_inj, hSource, String.toList_ofList]
    exact ⟨fun hSame => by simpa using congrArg List.length hSame, fun hSame => by rw [hSame]⟩
  have hNone : sourceDirectory = "" ↔ count = 0 := hText 0
  have hTwo : sourceDirectory = "//" ↔ count = 2 := hText 2
  rw [ne_eq, ne_eq, hNone, hTwo, Path.read, hSource, List.takeWhile_replicate, if_pos (by decide),
    List.length_replicate]
  exact Path.keptSlashes_eq_one_iff

/-- The path that is shown is the one that is written to, unless the source directory is empty or
consists of two slashes. -/
theorem read_shownPath_eq_target_iff (h : file.IsVisible) (sourceDirectory : String) :
    Path.read (shownPath sourceDirectory file) = file.target sourceDirectory ↔
      sourceDirectory ≠ "" ∧ sourceDirectory ≠ "//" := by
  rw [read_shownPath h, SourceFile.target_eq h, Path.mk.injEq]
  by_cases hEmpty : withoutEndSlashes sourceDirectory = ""
  · rw [if_pos hEmpty, ← slashes_eq_one_iff hEmpty]
    simp [eq_comm]
  · rw [if_neg hEmpty]
    have hNone : withoutEndSlashes "" = "" ∧ withoutEndSlashes "//" = "" := by decide
    refine iff_of_true ⟨rfl, rfl⟩ ⟨?_, ?_⟩
    · rintro rfl
      exact hEmpty hNone.1
    · rintro rfl
      exact hEmpty hNone.2

/-- The label for a file with its module. -/
def labelOf (sourceDirectory : String) (entry : SourceFile × Module) : String :=
  entry.2.dotted ++ " (" ++ shownPath sourceDirectory entry.1 ++ ")"

/-- The outline has a label for each file, and these are all its labels but those of functions. -/
theorem exists_labels_of_run (options : InspectOptions) (around : Surroundings)
    (hConfig : Config.resolve around.files around.directory options.config around.configVariable
      false = .ok (path, config))
    (hText : Table.load around.files around.directory around.input options.routes = .ok text)
    (hRun : Generation.run text config ModuleTree.byController = .ok generation)
    (hRoutes : generation.routes ≠ []) :
    ∃ outline, ((Command.inspectTree options).run around).results = [.outline outline] ∧
      (Outline.ofRecord outline).sections.map Prod.fst =
        generation.tree.entries.map (labelOf config.sourceDirectory) := by
  obtain ⟨notices, hInspected⟩ := exists_inspected hConfig hText hRun
  obtain ⟨hBuild, hFiles⟩ := Generation.build_and_files_of_run hRun
  have hContent := (ModuleTree.holds_of_build hBuild).hasContent_root.mpr hRoutes
  refine ⟨(moduleOutline config.sourceDirectory generation.tree.layout
    generation.tree.root).toRecord, ?_, ?_⟩
  · rw [Command.run, InspectOptions.showTree, hInspected]
    exact congrArg Report.results (if_pos hContent)
  · rw [Outline.ofRecord_toRecord, ModuleTree.sections_outline (ModuleTree.sound_of_build hBuild hFiles)
      (ModuleTree.filled_of_build hBuild) hContent config.sourceDirectory, List.map_map]
    rfl

/-- The outline shows for each module the path of its file. The path is the one that the file is
written to exactly if the source directory is neither empty nor two slashes. In these two cases
the path that is shown starts at the root, with a single slash. -/
theorem locations_of_run (options : InspectOptions) (around : Surroundings)
    (hConfig : Config.resolve around.files around.directory options.config around.configVariable
      false = .ok (path, config))
    (hText : Table.load around.files around.directory around.input options.routes = .ok text)
    (hRun : Generation.run text config ModuleTree.byController = .ok generation)
    (hRoutes : generation.routes ≠ []) :
    ∃ outline, ((Command.inspectTree options).run around).results = [.outline outline] ∧
      ∃ emitted : List (SourceFile × Module), emitted.map Prod.fst = generation.files ∧
        (∀ entry ∈ emitted, generation.tree.Prints entry.1 entry.2) ∧
        (Outline.ofRecord outline).sections.map Prod.fst =
          emitted.map (labelOf config.sourceDirectory) ∧
        ∀ file ∈ generation.files,
          (Path.read (shownPath config.sourceDirectory file) = file.target config.sourceDirectory ↔
            config.sourceDirectory ≠ "" ∧ config.sourceDirectory ≠ "//") ∧
          (config.sourceDirectory = "" ∨ config.sourceDirectory = "//" →
            Path.read (shownPath config.sourceDirectory file) =
              ⟨1, file.directories ++ [file.filename]⟩) := by
  obtain ⟨hBuild, hFiles⟩ := Generation.build_and_files_of_run hRun
  obtain ⟨outline, hResults, hLabels⟩ := exists_labels_of_run options around hConfig hText hRun hRoutes
  refine ⟨outline, hResults, generation.tree.entries, ModuleTree.files_eq_map_entries hFiles,
    fun entry => ModuleTree.prints_of_mem_entries hFiles, hLabels, fun file hFile => ?_⟩
  have hVisible := ModuleTree.isVisible_of_mem_files hBuild hFiles file hFile
  refine ⟨read_shownPath_eq_target_iff hVisible _, ?_⟩
  rintro (hSource | hSource)
  · rw [hSource]
    exact read_shownPath hVisible ""
  · rw [hSource]
    exact read_shownPath hVisible "//"

/-- Without settings, the files are written where they are shown. -/
theorem locations_of_run_pipedTable :
    ∃ generation, Config.resolve .empty [] none none false = .ok (none, Config.default) ∧
      Table.load .empty [] pipedTable.input "-" = .ok pipedTable.input ∧
      Generation.run pipedTable.input Config.default ModuleTree.byController = .ok generation ∧
      generation.routes = [Generation.actionRoute "admin/users#index"] ∧
      ∃ outline, ((Command.inspectTree ⟨"-", none⟩).run pipedTable).results = [.outline outline] ∧
        ∃ emitted : List (SourceFile × Module), emitted.map Prod.fst = generation.files ∧
          (Outline.ofRecord outline).sections.map Prod.fst = emitted.map (labelOf "./src") ∧
          ∀ file ∈ generation.files,
            Path.read (shownPath "./src" file) = file.target "./src" := by
  have hConfig : Config.resolve .empty [] none none false = .ok (none, Config.default) := rfl
  have hText : Table.load .empty [] pipedTable.input "-" = .ok pipedTable.input :=
    Table.load_standardInput _ _ (by decide +kernel) (by decide +kernel)
  obtain ⟨files, hRun, -⟩ := Generation.exists_run_adminTable
  obtain ⟨outline, hResults, emitted, hEmitted, -, hLabels, hPaths⟩ :=
    locations_of_run ⟨"-", none⟩ pipedTable hConfig hText hRun (List.cons_ne_nil _ _)
  have hSource : Config.default.sourceDirectory ≠ "" ∧ Config.default.sourceDirectory ≠ "//" := by
    decide
  exact ⟨_, hConfig, hText, hRun, rfl, outline, hResults, emitted, hEmitted, hLabels,
    fun file hFile => (hPaths file hFile).1.mpr hSource⟩

/-- Settings with an empty text as source directory. -/
def bareConfig : Config :=
  { Config.default with sourceDirectory := "" }

def bareText : String :=
  "\x7b\"source-directory\": \"\"\x7d"

/-- A project with these settings, and with a table at the standard input. -/
def bareProject : Surroundings where
  files := ⟨[(["work"], .directory), (["work", "railpath.json"], .file (Utf8.encode bareText))]⟩
  directory := ["work"]
  configVariable := none
  input := Generation.adminTable
  terminal := ⟨false, false, none⟩

/-- The files of the project are shown at the root, and written to the directory of the run. -/
theorem locations_bareProject :
    ∃ generation outline, Config.resolve bareProject.files bareProject.directory none none false =
        .ok (some ⟨1, ["work", "railpath.json"]⟩, bareConfig) ∧
      Generation.run bareProject.input bareConfig ModuleTree.byController = .ok generation ∧
      ((Command.inspectTree ⟨"-", none⟩).run bareProject).results = [.outline outline] ∧
      (Outline.ofRecord outline).sections.map Prod.fst =
        ["Routes (/Routes.py)", "Admin (/Admin/__init__.py)"] ∧
      generation.files.map (·.target bareConfig.sourceDirectory) =
        [Path.read "Routes.py", Path.read "Admin/__init__.py"] ∧
      Path.read "/Routes.py" ≠ Path.read "Routes.py" ∧
      Path.read "/Admin/__init__.py" ≠ Path.read "Admin/__init__.py" := by
  have hBytes : bareProject.files.readBytes bareProject.directory ⟨1, ["work", "railpath.json"]⟩ =
      .ok (some (Utf8.encode bareText)) := rfl
  have hDocument : Config.ofDocument ⟨1, ["work", "railpath.json"]⟩ bareText = .ok bareConfig :=
    rfl
  have hLoad : Config.load bareProject.files bareProject.directory ⟨1, ["work", "railpath.json"]⟩ =
      .ok bareConfig :=
    Config.load_eq_ok hBytes (FileTree.textOf_encode (by decide)) hDocument
  have hFind : Config.find? bareProject.files bareProject.directory none none =
      some ⟨1, ["work", "railpath.json"]⟩ := rfl
  have hConfig : Config.resolve bareProject.files bareProject.directory none none false =
      .ok (some ⟨1, ["work", "railpath.json"]⟩, bareConfig) := by
    rw [Config.resolve, hFind]
    dsimp only
    rw [hLoad]
    rfl
  have hText : Table.load bareProject.files bareProject.directory bareProject.input "-" =
      .ok bareProject.input :=
    Table.load_standardInput _ _ (by decide +kernel) (by decide +kernel)
  obtain ⟨files, hRun, -⟩ := Generation.exists_run_adminTable
  obtain ⟨-, hFiles⟩ := Generation.build_and_files_of_run hRun
  -- the source directory plays no part in the generation
  have hRunBare : Generation.run bareProject.input bareConfig ModuleTree.byController = _ := hRun
  obtain ⟨outline, hResults, hLabels⟩ :=
    exists_labels_of_run ⟨"-", none⟩ bareProject hConfig hText hRunBare (List.cons_ne_nil _ _)
  refine ⟨_, outline, hConfig, hRunBare, hResults, ?_, ?_, by decide, by decide⟩
  · rw [hLabels]
    dsimp only
    decide
  · dsimp only at hFiles ⊢
    rw [← (ModuleTree.files_eq_ok_iff.mp hFiles).2, List.map_map]
    decide

end Command

end RoutePaths
