import RoutePaths.Proofs.Config.Saving
import RoutePaths.Proofs.Yaml.Record

/-! Settings are written in the first notation and may be read in the second one. The record is
the same in both, but a text with a character above the basic plane is read as no text. -/
namespace RoutePaths.Config
open Yaml

/-- The settings of a project that has chosen its names, and takes every route. -/
def named (sourceDirectory moduleName packages : String) : Config :=
  ⟨sourceDirectory, moduleName, packages, .one Inclusion.wildcard, []⟩

/-- The faults of names that are no texts any more. -/
def brokenNames (config : Config) : Value.Faults :=
  ([("source-directory", config.sourceDirectory), ("module-name", config.moduleName),
    ("module-prefix", config.packages)].filter fun entry => ¬ IsBasic entry.2).map fun entry =>
      ⟨[entry.1], .brokenText⟩

variable {record : Value} {name text sourceDirectory moduleName packages : String} {config : Config}

theorem isEmpty_brokenNames : config.brokenNames.isEmpty ↔
    IsBasic config.sourceDirectory ∧ IsBasic config.moduleName ∧ IsBasic config.packages := by
  simp [brokenNames]

/-- A setting that was written as a text. -/
theorem textAt_heard (h : record.get? name = some (Content.text text).heard) (fallback : String) :
    textAt record name fallback =
      if IsBasic text then .ok text else .error [⟨[name], .brokenText⟩] := by
  rw [textAt, setting?_of_get? h, Content.heard]
  dsimp only
  split
  · rename_i hBasic
    rw [ofPoints_of_isBasic hBasic]
    rfl
  · rename_i hBasic
    rw [ofPoints_of_not_isBasic hBasic]
    rfl

/-- The fields of the settings behind the first one. -/
def laterFields (moduleName packages : String) : List FlatField :=
  [("module-name", .text moduleName), ("module-prefix", .text packages),
    ("include", .text Inclusion.wildcard), ("exclude", .noFields)]

/-- The record that is read for the settings. -/
def heardRecord (sourceDirectory moduleName packages : String) : Value :=
  .record ((("source-directory", Content.text sourceDirectory) ::
    laterFields moduleName packages).map heardField)

theorem ofRecord_heardRecord : ofRecord (heardRecord sourceDirectory moduleName packages) =
    if (named sourceDirectory moduleName packages).brokenNames.isEmpty then
      .ok (named sourceDirectory moduleName packages)
    else .error (named sourceDirectory moduleName packages).brokenNames := by
  have hSource : (heardRecord sourceDirectory moduleName packages).get? "source-directory" =
      some (Content.text sourceDirectory).heard := rfl
  have hModule : (heardRecord sourceDirectory moduleName packages).get? "module-name" =
      some (Content.text moduleName).heard := rfl
  have hPackages : (heardRecord sourceDirectory moduleName packages).get? "module-prefix" =
      some (Content.text packages).heard := rfl
  have hInclude : includeAt (heardRecord sourceDirectory moduleName packages) =
      .ok (.one Inclusion.wildcard) := rfl
  have hExclude : excludeAt (heardRecord sourceDirectory moduleName packages) = .ok [] := rfl
  rw [ofRecord, textAt_heard hSource, textAt_heard hModule, textAt_heard hPackages, hInclude,
    hExclude]
  by_cases hSourceBasic : IsBasic sourceDirectory <;> by_cases hModuleBasic : IsBasic moduleName <;>
    by_cases hPackagesBasic : IsBasic packages <;>
    simp [brokenNames, named, hSourceBasic, hModuleBasic, hPackagesBasic, Value.faultsOf]

/-- The names of the settings in their document. -/
def settingNames : List String :=
  ["source-directory", "module-name", "module-prefix", "include", "exclude"]

theorem read?_named : Yaml.read? (named sourceDirectory moduleName packages).document =
    some (heardRecord sourceDirectory moduleName packages) := by
  have hNames : ∀ name ∈ settingNames,
      (Json.quote true name.toList).length ≤ 1024 ∧ IsBasic name := by
    decide
  have hDistinct : settingNames.Nodup := by decide
  have hDocument : (named sourceDirectory moduleName packages).document =
      String.ofList (style.chars 0 (.record ((("source-directory", Content.text sourceDirectory) ::
        laterFields moduleName packages).map toField)) ++ ['\n']) := by
    rw [String.ofList_append]
    rfl
  rw [hDocument]
  exact read?_record (fun field hField => hNames field.1 (List.mem_map_of_mem hField)) hDistinct rfl
    (List.forall_mem_singleton.mpr (Or.inr rfl))

theorem isJson_named : (named sourceDirectory moduleName packages).IsJson :=
  ⟨List.nodup_nil, fun _ h => absurd h List.not_mem_nil⟩

variable {path : Path}

/-- Read in the second notation, the settings come back if all names are basic. -/
theorem ofDocument_named (hSuffix : path.suffix = ".yaml" ∨ path.suffix = ".yml") :
    ofDocument path (named sourceDirectory moduleName packages).document =
      if (named sourceDirectory moduleName packages).brokenNames.isEmpty then
        .ok (named sourceDirectory moduleName packages)
      else
        .error (.refused path.text (named sourceDirectory moduleName packages).brokenNames) := by
  have hRead : readDocument path (named sourceDirectory moduleName packages).document =
      .ok (heardRecord sourceDirectory moduleName packages) := by
    delta readDocument
    rw [read?_named, ofPath_eq_yaml_iff.mpr hSuffix]
  have hRecord : ofDocument path (named sourceDirectory moduleName packages).document =
      (ofRecord (heardRecord sourceDirectory moduleName packages)).mapError
        (.refused path.text) := by
    rw [ofDocument, hRead]
    rfl
  rw [hRecord, ofRecord_heardRecord]
  split <;> rfl

end RoutePaths.Config
