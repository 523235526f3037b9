import RoutePaths.Proofs.Command.Sparing
import RoutePaths.Proofs.Config.Notation

/-! New settings are loaded from the file that they are made in. They are always written in the
first notation, so that a suffix which stands for the second one has them read in a notation that
they were not written in. -/
namespace RoutePaths

namespace Command

variable {options : InitOptions} {around : Surroundings}

/-- What is loaded after the command has succeeded is the document of the new settings. -/
theorem InitOptions.load_run (hOpen : around.files.IsOpen around.directory)
    (hExit : (options.run around).exit = 0) :
    Config.load (options.run around).files around.directory (options.path around.directory) =
      (Config.ofDocument (options.path around.directory) options.settings.document).mapError
        .expected := by
  rcases options.run_cases around with ⟨hFailed, -⟩ | ⟨-, hRun⟩
  · exact absurd hExit hFailed
  · obtain ⟨hFiles, hWritten⟩ :=
      writeSettings_cases options around (options.path around.directory)
    rw [hRun] at hExit ⊢
    rw [hFiles]
    obtain ⟨after, hSave⟩ : ∃ after, options.settings.save around.files around.directory
        (options.path around.directory) = (after, .ok ()) := ⟨_, Prod.ext rfl (hWritten.mp hExit)⟩
    rw [hSave]
    exact Config.load_eq_ofDocument (FileTree.readBytes_of_write hSave hOpen)
      (FileTree.textOf_encode (Config.return_not_mem_document Config.isJson_named))

end Command

namespace CommandLine

variable {words : List String} {shown : GlobalOptions} {options : Command.InitOptions}
  {around : Surroundings}

theorem load_execute (hRead : read? words = some (.run shown (.init options)))
    (hOpen : around.files.IsOpen around.directory) (hExit : (execute words around).exit = 0) :
    Config.load (execute words around).files around.directory (options.path around.directory) =
      (Config.ofDocument (options.path around.directory) options.settings.document).mapError
        .expected := by
  obtain ⟨hSameExit, hFiles⟩ := files_execute hRead around
  rw [hSameExit] at hExit
  rw [hFiles]
  exact Command.InitOptions.load_run hOpen hExit

/-- A project without settings. -/
def freshProject : Surroundings where
  files := Config.workTree
  directory := ["work"]
  configVariable := none
  input := ""
  terminal := ⟨false, false, none⟩

theorem isOpen_freshProject : freshProject.files.IsOpen freshProject.directory := by
  have hWork : freshProject.files.isDirectoryAt ([] ++ ["work"]) = true := rfl
  exact (FileTree.isOpen_top freshProject.files).concat hWork

/-- The options to make a file of settings whose suffix stands for the second notation. -/
def yamlOptions (sourceDirectory : String) : Command.InitOptions :=
  ⟨"Routes", "", sourceDirectory, some "railpath.yaml", false⟩

/-- The words for these options. -/
def yamlWords (sourceDirectory : String) : List String :=
  ["init", "--config", "railpath.yaml", "--source-directory", sourceDirectory]

theorem path_yamlOptions (sourceDirectory : String) :
    (yamlOptions sourceDirectory).path freshProject.directory = .read "railpath.yaml" :=
  rfl

/-- A source directory with a quote, with a control character, and with characters that end a
line. -/
def oddDirectory : String :=
  "./src/é\"\\\x01\n\u2028"

end CommandLine

end RoutePaths
