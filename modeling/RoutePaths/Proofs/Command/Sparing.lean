import RoutePaths.Command.Run
import RoutePaths.Proofs.FileTree.Effect

/-! Runs that leave files alone. Commands that only look never write, and the others write
nothing before all that can be checked has been checked. A file of settings is looked for
before the directories on its way are made. A path that leads into a missing directory and back
up again names nothing then, and may name a file afterwards. -/
namespace RoutePaths
open FileTree

theorem Failure.exitCode_ne_zero (failure : Failure) : failure.exitCode ≠ 0 := by
  cases failure with
  | generation error =>
      cases error with
      | tree error => cases error <;> simp [Failure.exitCode, Failure.treeCode]
      | _ => simp [Failure.exitCode]
  | _ => simp [Failure.exitCode]

namespace Command

/-- The commands that only look. -/
inductive IsReadOnly : Command → Prop
  | inspectRoutes (options : InspectOptions) : IsReadOnly (.inspectRoutes options)
  | inspectTree (options : InspectOptions) : IsReadOnly (.inspectTree options)
  | showConfig (config : Option String) : IsReadOnly (.showConfig config)
  | dryRun {options : GenerateOptions} (h : options.dryRun = true) : IsReadOnly (.generate options)

/-- The settings and the table are there, and modules are generated for them. -/
def GenerateOptions.Generates (options : GenerateOptions) (around : Surroundings) (config : Config)
    (generation : Generation) : Prop :=
  ∃ path text,
    Config.resolve around.files around.directory options.config around.configVariable true =
      .ok (path, config) ∧
    Table.load around.files around.directory around.input options.routes = .ok text ∧
    Generation.run text config ModuleTree.byController = .ok generation

/-- The command fails with all files as they were, or it gets to the end of the generation. -/
theorem GenerateOptions.run_cases (options : GenerateOptions) (around : Surroundings) :
    (∃ config generation notices, options.Generates around config generation ∧
      options.run around = finish options around notices config generation) ∨
    ∃ notices failure, options.run around = .failed around.files notices failure := by
  rw [GenerateOptions.run]
  cases hConfig : Config.resolve around.files around.directory options.config
    around.configVariable true with
  | error error => exact Or.inr ⟨_, _, rfl⟩
  | ok found =>
      cases hText : Table.load around.files around.directory around.input options.routes with
      | error error => exact Or.inr ⟨_, _, rfl⟩
      | ok text =>
          dsimp only
          cases hRun : Generation.run text found.2 ModuleTree.byController with
          | error error => exact Or.inr ⟨_, _, rfl⟩
          | ok generation =>
              exact Or.inl ⟨found.2, generation, _, ⟨found.1, text, hConfig, hText, hRun⟩, rfl⟩

theorem files_finish {options : GenerateOptions} {around : Surroundings} {notices : List Notice}
    {config : Config} {generation : Generation}
    (h : generation.files = [] ∨ options.dryRun = true) :
    (finish options around notices config generation).files = around.files := by
  rw [finish]
  split
  · rfl
  · rename_i hFiles
    have hDry : options.dryRun = true := by
      apply h.resolve_left
      simpa using hFiles
    rw [if_pos hDry]

theorem files_inspected {options : InspectOptions} {around : Surroundings} {report : Report}
    (h : inspected options around = .error report) : report.files = around.files := by
  rw [inspected] at h
  split at h
  · cases h
    rfl
  · dsimp only at h
    split at h
    · cases h
      rfl
    · split at h
      · cases h
        rfl
      · cases h

theorem IsReadOnly.files_run {command : Command} (h : command.IsReadOnly) (around : Surroundings) :
    (command.run around).files = around.files := by
  cases h with
  | inspectRoutes options =>
      rw [run, InspectOptions.showRoutes]
      split
      · rename_i hReport
        exact files_inspected hReport
      · rfl
  | inspectTree options =>
      rw [run, InspectOptions.showTree]
      split
      · rename_i hReport
        exact files_inspected hReport
      · dsimp only
        split <;> rfl
  | showConfig config =>
      rw [run, showSettings]
      split <;> rfl
  | @dryRun options hDry =>
      rw [run]
      rcases options.run_cases around with ⟨config, generation, notices, -, hRun⟩ | ⟨_, _, hRun⟩
      · rw [hRun]
        exact files_finish (Or.inr hDry)
      · rw [hRun]
        rfl

/-- The command that makes a file of settings changes nothing, or it has found no file, or is
to replace it, and ends with writing. -/
theorem InitOptions.run_cases (options : InitOptions) (around : Surroundings) :
    ((options.run around).exit ≠ 0 ∧ (options.run around).files = around.files) ∨
    (options.force = false →
      around.files.find around.directory (options.path around.directory) = .ok none) ∧
      options.run around = writeSettings options around (options.path around.directory) := by
  rw [InitOptions.run]
  cases hFind : around.files.find around.directory (options.path around.directory) with
  | error obstacle => exact Or.inl ⟨by simp [Report.failed, Failure.exitCode_ne_zero], rfl⟩
  | ok found =>
      dsimp only
      split
      · exact Or.inl ⟨by simp, rfl⟩
      · rename_i hTaken
        split
        · exact Or.inl ⟨by simp, rfl⟩
        · refine Or.inr ⟨fun hForce => ?_, rfl⟩
          cases found with
          | none => rfl
          | some entry => simp [hForce] at hTaken

/-- Settings are written with success, or no file has been changed. -/
theorem writeSettings_cases (options : InitOptions) (around : Surroundings) (path : Path) :
    let written := options.settings.save around.files around.directory path
    (writeSettings options around path).files = written.1 ∧
      ((writeSettings options around path).exit = 0 ↔ written.2 = .ok ()) := by
  dsimp only
  rw [writeSettings]
  rcases options.settings.save around.files around.directory path with ⟨files, obstacle | ⟨⟩⟩
  · cases obstacle <;> simp [Report.failed, Failure.exitCode_ne_zero]
  · simp

end Command

/-- What a run leaves alone. -/
structure Command.Spares (command : Command) (around : Surroundings) (outcome : Outcome) : Prop where
  readOnly : command.IsReadOnly → outcome.files = around.files
  ungenerated : ∀ options, command = .generate options →
    (∀ config generation, options.Generates around config generation → generation.files = []) →
    outcome.files = around.files
  failedInit : ∀ options, command = .init options → outcome.exit ≠ 0 →
    ∀ place, outcome.files.contentAt? place = around.files.contentAt? place
  unforcedInit : ∀ options, command = .init options → options.force = false →
    around.files.IsRooted → around.files.isDirectoryAt around.directory = true →
    ∀ place content, around.files.contentAt? place = some content →
      outcome.files.contentAt? place = some content ∨
      place = placeOf around.directory (options.path around.directory) ∧
        around.files.locate around.directory (options.path around.directory) = .error .missing ∧
        ".." ∈ (options.path around.directory).parts

namespace Command

theorem files_generate {options : GenerateOptions} {around : Surroundings}
    (h : ∀ config generation, options.Generates around config generation → generation.files = []) :
    (options.run around).files = around.files := by
  rcases options.run_cases around with ⟨config, generation, notices, hGenerates, hRun⟩ | ⟨_, _, hRun⟩
  · rw [hRun]
    exact files_finish (Or.inl (h config generation hGenerates))
  · rw [hRun]
    rfl

theorem contentAt?_init {options : InitOptions} {around : Surroundings}
    (h : (options.run around).exit ≠ 0) (place : Place) :
    (options.run around).files.contentAt? place = around.files.contentAt? place := by
  rcases options.run_cases around with ⟨-, hFiles⟩ | ⟨-, hRun⟩
  · rw [hFiles]
  · obtain ⟨hFiles, hExit⟩ := writeSettings_cases options around (options.path around.directory)
    rw [hRun] at h
    rw [hRun, hFiles]
    by_contra hChanged
    exact h (hExit.mpr (eq_placeOf_of_write hChanged).1)

theorem contentAt?_unforcedInit {options : InitOptions} {around : Surroundings}
    (hForce : options.force = false) (hRooted : around.files.IsRooted)
    (hDirectory : around.files.isDirectoryAt around.directory = true) {place : Place}
    {content : ByteArray} (hContent : around.files.contentAt? place = some content) :
    (options.run around).files.contentAt? place = some content ∨
      place = placeOf around.directory (options.path around.directory) ∧
        around.files.locate around.directory (options.path around.directory) = .error .missing ∧
        ".." ∈ (options.path around.directory).parts := by
  rcases options.run_cases around with ⟨-, hFiles⟩ | ⟨hFind, hRun⟩
  · rw [hFiles]
    exact Or.inl hContent
  · obtain ⟨hFiles, -⟩ := writeSettings_cases options around (options.path around.directory)
    rw [hRun, hFiles, ← hContent]
    by_cases hChanged : (options.settings.save around.files around.directory
        (options.path around.directory)).1.contentAt? place = around.files.contentAt? place
    · exact Or.inl hChanged
    · obtain ⟨hWritten, hPlace⟩ := eq_placeOf_of_write hChanged
      refine Or.inr ⟨hPlace, locate_of_overwritten hRooted hDirectory hWritten (hFind hForce) ?_⟩
      rw [← hPlace]
      rw [contentAt?] at hContent
      split at hContent
      · rename_i hEntry
        rw [hEntry]
        rfl
      · cases hContent

end Command

namespace CommandLine

variable {words : List String} {shown : GlobalOptions} {command : Command}

theorem files_execute (h : read? words = some (.run shown command)) (around : Surroundings) :
    (execute words around).exit = (command.run around).exit ∧
      (execute words around).files = (command.run around).files := by
  rw [execute, h]
  exact ⟨rfl, rfl⟩

/-- Every command line spares what its command does not have to write. Commands that only look,
and generations that fail or have no files, leave everything as it was. The command that makes
a file of settings changes no file if it fails. Unless it is told to replace files, the only
file that it can change is one to which its path leads through a missing directory. -/
theorem execute_spares (h : read? words = some (.run shown command)) (around : Surroundings) :
    command.Spares around (execute words around) := by
  obtain ⟨hExit, hFiles⟩ := files_execute h around
  refine ⟨?_, ?_, ?_, ?_⟩
  · intro hReadOnly
    rw [hFiles]
    exact hReadOnly.files_run around
  · rintro options rfl hNone
    rw [hFiles]
    exact Command.files_generate hNone
  · rintro options rfl hFailed place
    rw [hExit] at hFailed
    rw [hFiles]
    exact Command.contentAt?_init hFailed place
  · rintro options rfl hForce hRooted hDirectory place content hContent
    rw [hFiles]
    exact Command.contentAt?_unforcedInit hForce hRooted hDirectory hContent

/-- A project that has a file of settings. -/
def keptProject : Surroundings where
  files := ⟨[(["work"], .directory), (["work", "railpath.json"], .file (Utf8.encode "{}"))]⟩
  directory := ["work"]
  configVariable := none
  input := ""
  terminal := ⟨false, false, none⟩

theorem isRooted_keptProject : keptProject.files.IsRooted :=
  isRooted_of_entries (by decide)

/-- The options of the command that makes a file of settings at a path. -/
def initAt (path : String) : Command.InitOptions :=
  ⟨"Routes", "", "./src", some path, false⟩

/-- A second file of settings in a new directory leaves the first one alone. -/
theorem execute_spares_keptProject :
    read? ["init", "--config", "conf/railpath.json"] =
        some (.run ⟨false, false, false, false, false⟩ (.init (initAt "conf/railpath.json"))) ∧
      (initAt "conf/railpath.json").force = false ∧
      keptProject.files.IsRooted ∧ keptProject.files.isDirectoryAt keptProject.directory = true ∧
      keptProject.files.contentAt? ["work", "railpath.json"] = some (Utf8.encode "{}") ∧
      (execute ["init", "--config", "conf/railpath.json"] keptProject).exit = 0 ∧
      (execute ["init", "--config", "conf/railpath.json"] keptProject).files.contentAt?
        ["work", "railpath.json"] = some (Utf8.encode "{}") := by
  have hRead : read? ["init", "--config", "conf/railpath.json"] =
      some (.run ⟨false, false, false, false, false⟩ (.init (initAt "conf/railpath.json"))) := by
    decide
  have hDirectory : keptProject.files.isDirectoryAt keptProject.directory = true := rfl
  have hContent : keptProject.files.contentAt? ["work", "railpath.json"] =
      some (Utf8.encode "{}") := rfl
  have hSpares := execute_spares hRead keptProject
  have hKept := hSpares.unforcedInit _ rfl rfl isRooted_keptProject hDirectory _ _ hContent
  refine ⟨hRead, rfl, isRooted_keptProject, hDirectory, hContent, rfl, hKept.resolve_right ?_⟩
  rintro ⟨-, -, hUp⟩
  revert hUp
  decide

/-- A path through a directory that is missing yet: the file that it leads to in the end is not
found before it is written over. -/
theorem execute_overwrites :
    read? ["init", "--config", "missing/../railpath.json"] =
        some (.run ⟨false, false, false, false, false⟩
          (.init (initAt "missing/../railpath.json"))) ∧
      (initAt "missing/../railpath.json").force = false ∧
      keptProject.files.IsRooted ∧ keptProject.files.isDirectoryAt keptProject.directory = true ∧
      keptProject.files.contentAt? ["work", "railpath.json"] = some (Utf8.encode "{}") ∧
      (execute ["init", "--config", "missing/../railpath.json"] keptProject).exit = 0 ∧
      (execute ["init", "--config", "missing/../railpath.json"] keptProject).files.contentAt?
        ["work", "railpath.json"] ≠ some (Utf8.encode "{}") := by
  refine ⟨by decide, rfl, isRooted_keptProject, rfl, rfl, rfl, ?_⟩
  have hSave : ((initAt "missing/../railpath.json").settings.save keptProject.files
      keptProject.directory (.read "missing/../railpath.json")).2 = .ok () := by
    rfl
  have hFiles : (execute ["init", "--config", "missing/../railpath.json"] keptProject).files =
      ((initAt "missing/../railpath.json").settings.save keptProject.files
        keptProject.directory (.read "missing/../railpath.json")).1 := by
    rfl
  have hWritten := contentAt?_of_write hSave
  have hPlace : placeOf keptProject.directory (.read "missing/../railpath.json") =
      ["work", "railpath.json"] := by
    decide
  rw [hPlace, ← Config.save, ← hFiles] at hWritten
  rw [hWritten]
  intro hSame
  have hText := String.toByteArray_inj.mp (Option.some_inj.mp hSame)
  -- a document ends with a line feed
  have hFeed : '\n' ∈ "{}".toList := by
    rw [← hText, Config.document, String.toList_append]
    exact List.mem_append_right _ (by decide)
  revert hFeed
  decide

end CommandLine

end RoutePaths
