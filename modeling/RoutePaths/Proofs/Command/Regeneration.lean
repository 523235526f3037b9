import RoutePaths.Proofs.Command.Sparing
import RoutePaths.Proofs.Config.Saving
import RoutePaths.Proofs.Generation.Names
import RoutePaths.Proofs.Module.Emission

/-! Generating twice. The files that are written are those that a dry run lists. As long as the
settings and the table are not among them, a second run reads what the first one has read, and
finds every file written. -/
namespace RoutePaths
open Result FileTree

variable {tree after : FileTree} {directory : Place}

namespace Config

variable {given fromEnvironment : Option String} {path : Path} {config : Config}

theorem findIn_congr {names : List String} (h : ∀ name ∈ names,
    after.contentAt? (directory ++ [name]) = tree.contentAt? (directory ++ [name])) :
    findIn after directory names = findIn tree directory names := by
  induction names with
  | nil => rfl
  | cons name rest ih =>
      rw [List.forall_mem_cons] at h
      rw [findIn, findIn, h.1, ih h.2]

theorem find?_congr (h : ∀ name ∈ fileNames,
    after.contentAt? (directory ++ [name]) = tree.contentAt? (directory ++ [name])) :
    find? after directory given fromEnvironment = find? tree directory given fromEnvironment := by
  rw [find?, find?]
  split
  · rfl
  · rfl
  · exact findIn_congr h

theorem exists_readBytes_of_load (h : load tree directory path = .ok config) :
    ∃ bytes, tree.readBytes directory path = .ok (some bytes) := by
  rw [load, bind_eq_ok_iff] at h
  obtain ⟨found, hFound, h⟩ := h
  cases found with
  | none => cases h
  | some bytes => exact ⟨bytes, mapError_eq_ok_iff.mp hFound⟩

/-- Settings are resolved as before if their file is left alone. -/
theorem resolve_of_keeps {found : Option Path}
    (h : resolve tree directory given fromEnvironment true = .ok (found, config))
    (hKeeps : tree.Keeps after)
    (hNames : ∀ name ∈ fileNames,
      after.contentAt? (directory ++ [name]) = tree.contentAt? (directory ++ [name]))
    (hSettings : ∀ path, find? tree directory given fromEnvironment = some path →
      after.contentAt? (placeOf directory path) = tree.contentAt? (placeOf directory path)) :
    resolve after directory given fromEnvironment true = .ok (found, config) := by
  rw [resolve, find?_congr hNames]
  rw [resolve] at h
  cases hFind : find? tree directory given fromEnvironment with
  | none => simp [hFind] at h
  | some path =>
      rw [hFind] at h
      dsimp only at h ⊢
      obtain ⟨settings, hLoad, -⟩ := map_eq_ok_iff.mp h
      obtain ⟨bytes, hBytes⟩ := exists_readBytes_of_load hLoad
      have hAfter := readBytes_of_keeps hBytes hKeeps (hSettings path hFind)
      rwa [load, hAfter, ← hBytes, ← load]

end Config

namespace Table

/-- A table is loaded as before if its file is left alone. -/
theorem load_of_keeps {input source text : String} (h : load tree directory input source = .ok text)
    (hKeeps : tree.Keeps after)
    (hTable : source ≠ standardInput → after.contentAt? (placeOf directory (.read source)) =
      tree.contentAt? (placeOf directory (.read source))) :
    load after directory input source = .ok text := by
  by_cases hSource : source = standardInput
  · rw [load, if_pos hSource] at h ⊢
    exact h
  · rw [load, if_neg hSource] at h ⊢
    obtain ⟨found, hFound, hText⟩ := bind_eq_ok_iff.mp h
    cases found with
    | none => cases hText
    | some bytes =>
        have hBytes := mapError_eq_ok_iff.mp hFound
        have hAfter := readBytes_of_keeps hBytes hKeeps (hTable hSource)
        dsimp only
        rwa [hAfter, ← hBytes]

theorem load_standardInput (tree : FileTree) (directory : Place) {input : String}
    (hBreaks : '\r' ∉ input.toList) (hBlank : Text.isAllBlank input.toList = false) :
    load tree directory input standardInput = .ok input := by
  have hText : String.ofList (Text.unifyBreaks input.toList) = input := by
    rw [Text.unifyBreaks_of_not_mem hBreaks, String.ofList_toList]
  rw [load, if_pos rfl, hText]
  exact if_neg (by simp [hBlank])

end Table

/-- No file is generated under a name that settings are looked for under. -/
theorem Layout.filename_not_mem_fileNames (layout : Layout) (branch : Branch) :
    layout.filename branch ∉ Config.fileNames := by
  have hLast : (layout.filename branch).toList.getLast? = some 'y' := by
    rw [Branch.filename_eq]
    split
    · rw [String.toList_append, List.getLast?_append]
      rfl
    · decide
  have hOther : ∀ name ∈ Config.fileNames, name.toList.getLast? ≠ some 'y' := by decide
  exact fun hMem => hOther _ hMem hLast

/-- The paths that a report lists. -/
def Report.listed (report : Report) : List String :=
  report.results.flatMap fun result =>
    match result with
    | .list items => items
    | _ => []

namespace Command

variable {options : GenerateOptions} {around : Surroundings} {config : Config}
  {generation : Generation} {notices : List Notice}

/-- The same options for a dry run. -/
def GenerateOptions.announcing (options : GenerateOptions) : GenerateOptions :=
  { options with dryRun := true }

/-- Neither the settings nor the table are at a place where a file goes. -/
structure GenerateOptions.ReadsElsewhere (options : GenerateOptions) (around : Surroundings) :
    Prop where
  settings : ∀ path, Config.find? around.files around.directory options.config
      around.configVariable = some path →
    ∀ target ∈ (options.announcing.run around).listed,
      placeOf around.directory (.read target) ≠ placeOf around.directory path
  table : options.routes ≠ Table.standardInput →
    ∀ target ∈ (options.announcing.run around).listed,
      placeOf around.directory (.read target) ≠ placeOf around.directory (.read options.routes)

/-- What a run that generates modules has done, compared with a dry run before it and with a
second run behind it. -/
structure GenerateOptions.Regenerates (options : GenerateOptions) (around : Surroundings) :
    Prop where
  announced : (options.announcing.run around).exit = 0
  changed : ∀ place, (options.run around).files.contentAt? place ≠ around.files.contentAt? place →
    ∃ target ∈ (options.announcing.run around).listed,
      place = placeOf around.directory (.read target)
  produced : ∃ config generation, options.Generates around config generation ∧
    (options.announcing.run around).listed = targets config generation ∧
    ∀ file ∈ generation.files, (options.run around).files.readBytes around.directory
      (.read (file.target config.sourceDirectory).text) = .ok (some (Utf8.encode file.content))
  scratch : ∀ folder name number,
    (options.run around).files.contentAt? (folder ++ [scratchName name number]) =
      around.files.contentAt? (folder ++ [scratchName name number])
  again : (options.run { around with files := (options.run around).files }).exit = 0 ∧
    ∀ place, (options.run { around with files := (options.run around).files }).files.get? place =
      (options.run around).files.get? place

theorem GenerateOptions.Generates.run_eq (h : options.Generates around config generation) :
    ∃ notices, options.run around = finish options around notices config generation := by
  obtain ⟨path, text, hConfig, hText, hRun⟩ := h
  rw [GenerateOptions.run, hConfig]
  dsimp only
  rw [hText]
  dsimp only
  rw [hRun]
  exact ⟨_, rfl⟩

theorem GenerateOptions.Generates.exists_run (h : options.Generates around config generation) :
    ∃ text, Generation.run text config ModuleTree.byController = .ok generation := by
  obtain ⟨path, text, hConfig, hText, hRun⟩ := h
  exact ⟨text, hRun⟩

theorem finish_announcing (hDry : options.dryRun = true) (around : Surroundings)
    (notices : List Notice) (config : Config) (generation : Generation) :
    (finish options around notices config generation).listed = targets config generation ∧
      (finish options around notices config generation).exit = 0 := by
  rw [finish]
  by_cases hFiles : generation.files = []
  · simp [hFiles, Report.listed, targets]
  · simp [hFiles, hDry, Report.listed]

/-- The end of a run that writes. Without files, nothing is written with success. -/
theorem finish_writing (hDry : options.dryRun = false) (around : Surroundings)
    (notices : List Notice) (config : Config) (generation : Generation) :
    let written := SourceFile.writeAll config.sourceDirectory around.directory around.files
      generation.files
    (finish options around notices config generation).files = written.1 ∧
      ((finish options around notices config generation).exit = 0 ↔
        ∃ paths, written.2 = .ok paths) := by
  dsimp only
  rw [finish]
  by_cases hFiles : generation.files = []
  · simp [hFiles, SourceFile.writeAll]
  · have hSome : generation.files.isEmpty = false := by simpa using hFiles
    rw [hSome, hDry, if_neg Bool.false_ne_true, if_neg Bool.false_ne_true, writeFiles]
    rcases SourceFile.writeAll config.sourceDirectory around.directory around.files
      generation.files with ⟨files, error | paths⟩
    · simp [Report.failed, Failure.exitCode_ne_zero]
    · simp

/-- A run gets to the same generation if what it reads is left alone. -/
theorem GenerateOptions.Generates.of_keeps (h : options.Generates around config generation)
    (hKeeps : around.files.Keeps after)
    (hNames : ∀ name ∈ Config.fileNames, after.contentAt? (around.directory ++ [name]) =
      around.files.contentAt? (around.directory ++ [name]))
    (hSettings : ∀ path, Config.find? around.files around.directory options.config
        around.configVariable = some path →
      after.contentAt? (placeOf around.directory path) =
        around.files.contentAt? (placeOf around.directory path))
    (hTable : options.routes ≠ Table.standardInput →
      after.contentAt? (placeOf around.directory (.read options.routes)) =
        around.files.contentAt? (placeOf around.directory (.read options.routes))) :
    options.Generates { around with files := after } config generation := by
  obtain ⟨path, text, hConfig, hText, hRun⟩ := h
  exact ⟨path, text, Config.resolve_of_keeps hConfig hKeeps hNames hSettings,
    Table.load_of_keeps hText hKeeps hTable, hRun⟩

/-- A place where a listed path leads to is that of a file. -/
theorem mem_targets_iff (hVisible : ∀ file ∈ generation.files, file.IsVisible) {place : Place} :
    (∃ target ∈ targets config generation, place = placeOf around.directory (.read target)) ↔
      place ∈ generation.files.map
        (SourceFile.place config.sourceDirectory around.directory) := by
  have hSame : ∀ file ∈ generation.files,
      placeOf around.directory (.read (file.target config.sourceDirectory).text) =
        file.place config.sourceDirectory around.directory := by
    intro file hFile
    rw [SourceFile.read_target (hVisible file hFile), SourceFile.place]
  simp only [targets, List.mem_map, exists_exists_and_eq_and]
  constructor
  · rintro ⟨file, hFile, hPlace⟩
    exact ⟨file, hFile, (hPlace.trans (hSame file hFile)).symm⟩
  · rintro ⟨file, hFile, hPlace⟩
    exact ⟨file, hFile, ((hSame file hFile).trans hPlace).symm⟩

/-- What a run that writes the files of a generation has done. -/
structure GenerateOptions.Emits (options : GenerateOptions) (around : Surroundings)
    (config : Config) (generation : Generation) : Prop where
  generates : options.Generates around config generation
  visible : ∀ file ∈ generation.files, file.IsVisible
  filenames : ∀ file ∈ generation.files, file.filename ∉ Config.fileNames
  keeps : around.files.Keeps (options.run around).files
  contents : ∀ place,
    place ∉ generation.files.map (SourceFile.place config.sourceDirectory around.directory) →
      (options.run around).files.contentAt? place = around.files.contentAt? place
  settled : ∀ file ∈ generation.files, SourceFile.IsSettledIn (options.run around).files
    config.sourceDirectory around.directory file

theorem exists_emits (hDry : options.dryRun = false)
    (hOpen : around.files.IsOpen around.directory) (hExit : (options.run around).exit = 0) :
    ∃ config generation, options.Emits around config generation := by
  rcases options.run_cases around with ⟨config, generation, notices, hGenerates, hRun⟩ |
    ⟨notices, failure, hRun⟩
  · obtain ⟨hFiles, hWrites⟩ := finish_writing hDry around notices config generation
    rw [← hRun] at hFiles hWrites
    obtain ⟨paths, hPaths⟩ := hWrites.mp hExit
    have hWritten : SourceFile.writeAll config.sourceDirectory around.directory around.files
        generation.files = ((options.run around).files, .ok paths) := by
      rw [hFiles, ← hPaths]
    obtain ⟨text, hGeneration⟩ := hGenerates.exists_run
    obtain ⟨hBuild, hTree⟩ := Generation.build_and_files_of_run hGeneration
    have hVisible := ModuleTree.isVisible_of_mem_files hBuild hTree
    obtain ⟨hKeeps, hContents, hSettled⟩ := SourceFile.effect_of_writeAll hWritten hOpen hVisible
      (ModuleTree.nodup_parts hBuild hTree)
    refine ⟨config, generation, hGenerates, hVisible, ?_, hKeeps, hContents, hSettled⟩
    intro file hFile
    obtain ⟨branch, -, -, rfl⟩ := (ModuleTree.mem_files_iff hTree).mp hFile
    exact Layout.filename_not_mem_fileNames _ branch
  · rw [hRun] at hExit
    exact absurd hExit failure.exitCode_ne_zero

namespace GenerateOptions.Emits

/-- The dry run lists the files of the generation. -/
theorem announcing (h : options.Emits around config generation) :
    (options.announcing.run around).listed = targets config generation ∧
      (options.announcing.run around).exit = 0 := by
  have hAnnouncing : options.announcing.Generates around config generation := h.generates
  obtain ⟨notices, hRun⟩ := hAnnouncing.run_eq
  rw [hRun]
  exact finish_announcing rfl around notices config generation

/-- Only where a listed path leads to has a file changed. -/
theorem changed (h : options.Emits around config generation) {place : Place}
    (hPlace : ∀ target ∈ (options.announcing.run around).listed,
      placeOf around.directory (.read target) ≠ place) :
    (options.run around).files.contentAt? place = around.files.contentAt? place := by
  apply h.contents
  rw [← mem_targets_iff h.visible, ← h.announcing.1]
  rintro ⟨target, hTarget, hSame⟩
  exact hPlace target hTarget hSame.symm

/-- No file has changed under a name that is not generated. -/
theorem unchanged (h : options.Emits around config generation) (folder : Place) {name : String}
    (hName : ∀ file ∈ generation.files, file.filename ≠ name) :
    (options.run around).files.contentAt? (folder ++ [name]) =
      around.files.contentAt? (folder ++ [name]) := by
  apply h.contents
  intro hPlace
  obtain ⟨file, hFile, hSame⟩ := List.mem_map.mp hPlace
  rw [SourceFile.place_concat (h.visible file hFile)] at hSame
  exact hName file hFile (by simpa using (List.append_inj' hSame rfl).2)

/-- A second run reads the same, so it generates the same. -/
theorem generates_again (h : options.Emits around config generation)
    (hElsewhere : options.ReadsElsewhere around) :
    options.Generates { around with files := (options.run around).files } config generation := by
  refine h.generates.of_keeps h.keeps ?_ ?_ ?_
  · intro name hName
    refine h.unchanged around.directory fun file hFile hSame => ?_
    exact h.filenames file hFile (hSame ▸ hName)
  · exact fun path hPath => h.changed (hElsewhere.settings path hPath)
  · exact fun hSource => h.changed (hElsewhere.table hSource)

/-- The second run finds every file written, so it changes nothing. -/
theorem again (h : options.Emits around config generation) (hDry : options.dryRun = false)
    (hElsewhere : options.ReadsElsewhere around) :
    (options.run { around with files := (options.run around).files }).exit = 0 ∧
      ∀ place, (options.run { around with files := (options.run around).files }).files.get? place =
        (options.run around).files.get? place := by
  obtain ⟨notices, hRun⟩ := (h.generates_again hElsewhere).run_eq
  obtain ⟨hFiles, hWrites⟩ := finish_writing hDry
    { around with files := (options.run around).files } notices config generation
  obtain ⟨last, paths, hWritten, hSame⟩ := SourceFile.writeAll_of_settled h.settled
  rw [← hRun, hWritten] at hFiles hWrites
  refine ⟨hWrites.mpr ⟨paths, rfl⟩, fun place => ?_⟩
  rw [hFiles, hSame]

end GenerateOptions.Emits

/-- A run that generates modules with success changes no file but those that a dry run lists.
Each of these has what was generated for it then, no scratch file is left, and a second run
changes nothing at all. Neither the settings nor the table may be replaced by the first run. -/
theorem regenerates_of_run (hDry : options.dryRun = false)
    (hOpen : around.files.IsOpen around.directory) (hElsewhere : options.ReadsElsewhere around)
    (hExit : (options.run around).exit = 0) : options.Regenerates around := by
  obtain ⟨config, generation, hEmits⟩ := exists_emits hDry hOpen hExit
  refine ⟨hEmits.announcing.2, ?_, ⟨config, generation, hEmits.generates, hEmits.announcing.1, ?_⟩,
    ?_, hEmits.again hDry hElsewhere⟩
  · intro place hChanged
    by_contra hNone
    apply hChanged
    apply hEmits.changed
    exact fun target hTarget hSame => hNone ⟨target, hTarget, hSame.symm⟩
  · intro file hFile
    rw [SourceFile.read_target (hEmits.visible file hFile)]
    exact (hEmits.settled file hFile).readBytes
  · intro folder name number
    refine hEmits.unchanged folder fun file hFile hSame => ?_
    have hVisible := (hEmits.visible file hFile).filename
    exact hVisible.2.1 (hSame ▸ scratchName_hidden name number)

/-- A project with settings, and with a table at the standard input. -/
def adminProject : Surroundings :=
  { CommandLine.keptProject with input := Generation.adminTable }

/-- The options that take the table from the standard input. -/
def pipedOptions : GenerateOptions :=
  ⟨"-", none, false⟩

theorem find?_adminProject : Config.find? adminProject.files adminProject.directory
    pipedOptions.config adminProject.configVariable = some ⟨1, ["work", "railpath.json"]⟩ :=
  rfl

/-- Where the files of a generation for the project go, apart from the source directory. -/
def adminNames : List (List String × String) :=
  [([], "Routes.py"), (["Admin"], "__init__.py")]

theorem exists_generates_adminProject :
    ∃ generation, pipedOptions.Generates adminProject Config.default generation ∧
      generation.files.map (fun file => (file.directories, file.filename)) = adminNames := by
  have hBytes : adminProject.files.readBytes adminProject.directory
      ⟨1, ["work", "railpath.json"]⟩ = .ok (some (Utf8.encode "{}")) := rfl
  have hLoad : Config.load adminProject.files adminProject.directory
      ⟨1, ["work", "railpath.json"]⟩ = .ok Config.default :=
    Config.load_eq_ok hBytes (textOf_encode (by decide)) rfl
  have hConfig : Config.resolve adminProject.files adminProject.directory pipedOptions.config
      adminProject.configVariable true =
        .ok (some ⟨1, ["work", "railpath.json"]⟩, Config.default) := by
    rw [Config.resolve, find?_adminProject]
    dsimp only
    rw [hLoad]
    rfl
  have hText : Table.load adminProject.files adminProject.directory adminProject.input
      pipedOptions.routes = .ok adminProject.input :=
    Table.load_standardInput _ _ (by decide +kernel) (by decide +kernel)
  obtain ⟨files, hRun, -⟩ := Generation.exists_run_adminTable
  obtain ⟨-, hFiles⟩ := Generation.build_and_files_of_run hRun
  refine ⟨_, ⟨_, _, hConfig, hText, hRun⟩, ?_⟩
  dsimp only at hFiles ⊢
  rw [← (ModuleTree.files_eq_ok_iff.mp hFiles).2, List.map_map]
  decide

theorem targets_adminProject
    (h : generation.files.map (fun file => (file.directories, file.filename)) = adminNames) :
    targets Config.default generation = ["src/Routes.py", "src/Admin/__init__.py"] := by
  have hTargets : targets Config.default generation =
      (generation.files.map fun file => (file.directories, file.filename)).map fun name =>
        ((Path.read Config.default.sourceDirectory).joinTexts (name.1 ++ [name.2])).text := by
    rw [targets, List.map_map]
    rfl
  rw [hTargets, h]
  decide

/-- Whatever the files hold, they can be written. -/
theorem exists_writeAll_adminProject {files : List SourceFile}
    (h : files.map (fun file => (file.directories, file.filename)) = adminNames) :
    ∃ paths, (SourceFile.writeAll Config.default.sourceDirectory adminProject.directory
      adminProject.files files).2 = .ok paths := by
  simp only [adminNames, List.map_eq_cons_iff, List.map_eq_nil_iff] at h
  obtain ⟨⟨_, _, content⟩, _, rfl, hFirst, ⟨_, _, other⟩, _, rfl, hSecond, rfl⟩ := h
  cases hFirst
  cases hSecond
  have hRoot : (SourceFile.mk [] "Routes.py" content).target Config.default.sourceDirectory =
      ⟨0, ["src", "Routes.py"]⟩ :=
    (by decide : (Path.read "./src").joinTexts ["Routes.py"] = ⟨0, ["src", "Routes.py"]⟩)
  have hAdmin : (SourceFile.mk ["Admin"] "__init__.py" other).target
      Config.default.sourceDirectory = ⟨0, ["src", "Admin", "__init__.py"]⟩ :=
    (by decide : (Path.read "./src").joinTexts ["Admin", "__init__.py"] =
      ⟨0, ["src", "Admin", "__init__.py"]⟩)
  simp only [SourceFile.writeAll, hRoot, hAdmin]
  exact ⟨[⟨0, ["src", "Routes.py"]⟩, ⟨0, ["src", "Admin", "__init__.py"]⟩], rfl⟩

/-- Two files are generated, and generated once more. -/
theorem regenerates_of_run_adminProject :
    pipedOptions.dryRun = false ∧ adminProject.files.IsOpen adminProject.directory ∧
      pipedOptions.ReadsElsewhere adminProject ∧ (pipedOptions.run adminProject).exit = 0 ∧
      pipedOptions.Regenerates adminProject ∧
      (pipedOptions.announcing.run adminProject).listed =
        ["src/Routes.py", "src/Admin/__init__.py"] := by
  have hOpen : adminProject.files.IsOpen adminProject.directory :=
    CommandLine.isRooted_keptProject.isOpen rfl
  obtain ⟨generation, hGenerates, hFiles⟩ := exists_generates_adminProject
  have hAnnouncing : pipedOptions.announcing.Generates adminProject Config.default generation :=
    hGenerates
  have hListed : (pipedOptions.announcing.run adminProject).listed =
      ["src/Routes.py", "src/Admin/__init__.py"] := by
    obtain ⟨notices, hRun⟩ := hAnnouncing.run_eq
    rw [hRun, (finish_announcing rfl adminProject notices Config.default generation).1,
      targets_adminProject hFiles]
  have hElsewhere : pipedOptions.ReadsElsewhere adminProject := by
    constructor
    · intro path hPath target hTarget
      rw [find?_adminProject] at hPath
      cases hPath
      rw [hListed] at hTarget
      revert target
      decide
    · intro hSource
      exact absurd rfl hSource
  have hExit : (pipedOptions.run adminProject).exit = 0 := by
    obtain ⟨notices, hRun⟩ := hGenerates.run_eq
    rw [hRun]
    exact (finish_writing rfl adminProject notices Config.default generation).2.mpr
      (exists_writeAll_adminProject hFiles)
  exact ⟨rfl, hOpen, hElsewhere, hExit, regenerates_of_run rfl hOpen hElsewhere hExit, hListed⟩

end Command

end RoutePaths
