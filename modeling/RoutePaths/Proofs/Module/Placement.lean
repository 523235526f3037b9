import RoutePaths.Proofs.Module.Documentation
import RoutePaths.Proofs.Name.Dotted
import RoutePaths.Proofs.Path

/-! Where the files of a tree are put. Whatever a rule says, directories have names of modules,
so no file leaves the source directory, and no file is in the way of another one. -/
namespace RoutePaths
open Result

namespace Name

theorem ne_empty_of_isCapital {name : String} (h : IsCapital name.toList) : name ≠ "" := by
  rintro rfl
  exact h

theorem isWordChar_of_mem_isCapital {text : List Char} (h : IsCapital text) :
    ∀ c ∈ text, isWordChar c = true := by
  cases text with
  | nil => exact h.elim
  | cons c rest => exact List.forall_mem_cons.mpr ⟨isWordChar_of_isUpper h.1, h.2⟩

theorem not_mem_of_isCapital {text : List Char} (h : IsCapital text) {c : Char}
    (hOther : isWordChar c = false) : c ∉ text := by
  intro hMem
  rw [isWordChar_of_mem_isCapital h c hMem] at hOther
  cases hOther

end Name

namespace Path

/-- A text without dots and slashes can be seen among others. -/
theorem isVisible_of_not_mem {name : String} (hName : name ≠ "") (hDot : '.' ∉ name.toList)
    (hSlash : '/' ∉ name.toList) : IsVisible name :=
  ⟨hName, fun hHead => hDot (List.mem_of_mem_head? hHead), hSlash⟩

theorem isVisible_pascal (text : String) : IsVisible (Name.pascal text) := by
  have hCapital := Name.isCapital_pascal text
  exact isVisible_of_not_mem (Name.ne_empty_of_isCapital hCapital)
    (Name.not_mem_of_isCapital hCapital (by decide)) (Name.not_mem_of_isCapital hCapital (by decide))

theorem isVisible_of_isLegal {name : String} (h : Name.isLegal name = true) : IsVisible name := by
  have hIdentifier := Name.isIdentifier_of_isLegal h
  refine isVisible_of_not_mem ?_ (Text.not_mem_of_isIdentifier hIdentifier (by decide))
    (Text.not_mem_of_isIdentifier hIdentifier (by decide))
  rintro rfl
  cases hIdentifier

/-- A name stays visible with an ending. -/
theorem IsVisible.append {name ending : String} (h : IsVisible name)
    (hEnding : '/' ∉ ending.toList) : IsVisible (name ++ ending) := by
  obtain ⟨c, rest, hChars⟩ := List.exists_cons_of_ne_nil h.isPart.toList_ne_nil
  have hHead := h.2.1
  refine ⟨?_, ?_, ?_⟩
  · intro hEmpty
    exact h.1 (String.append_eq_empty_iff.mp hEmpty).1
  · rw [String.toList_append, hChars]
    rwa [hChars] at hHead
  · rw [String.toList_append, List.mem_append, not_or]
    exact ⟨h.2.2, hEnding⟩

end Path

namespace SourceFile

/-- The components of the path of a file below the source directory. -/
def parts (file : SourceFile) : List String :=
  file.directories ++ [file.filename]

/-- All components of the path below the source directory can be seen. -/
def IsVisible (file : SourceFile) : Prop :=
  ∀ part ∈ file.parts, Path.IsVisible part

/-- Neither of two files lies at the place of the other one or below it. -/
def Apart (first second : SourceFile) : Prop :=
  ¬ first.parts <+: second.parts ∧ ¬ second.parts <+: first.parts

variable {file : SourceFile}

theorem IsVisible.directories (h : file.IsVisible) : ∀ name ∈ file.directories, Path.IsVisible name :=
  fun name hName => h name (List.mem_append_left _ hName)

theorem IsVisible.filename (h : file.IsVisible) : Path.IsVisible file.filename :=
  h _ (List.mem_append_right _ (List.mem_singleton_self _))

theorem read_relativePath (h : file.IsVisible) :
    Path.read file.relativePath = ⟨0, file.parts⟩ :=
  Path.read_intercalate fun part hPart => (h part hPart).isPart

/-- The target is the source directory with the components of the file behind it. -/
theorem target_eq (h : file.IsVisible) (sourceDirectory : String) :
    file.target sourceDirectory =
      ⟨(Path.read sourceDirectory).slashes, (Path.read sourceDirectory).parts ++ file.parts⟩ :=
  Path.joinTexts_eq _ fun part hPart => (h part hPart).isPart

end SourceFile

namespace Layout

/-- All components of the file of a module can be seen. -/
theorem IsLegal.isVisible {layout : Layout} (hLegal : layout.IsLegal) (branch : Branch) :
    (branch.file layout).IsVisible := by
  have hParts : (branch.file layout).parts = branch.path ++ [layout.filename branch] := by
    rw [SourceFile.parts, Branch.file, Branch.directories_eq_path]
  rw [SourceFile.IsVisible, hParts, List.forall_mem_append, List.forall_mem_singleton, Branch.filename_eq]
  constructor
  · exact List.forall_mem_map.mpr fun component _ => Path.isVisible_pascal component
  · split
    · exact (Path.isVisible_of_isLegal hLegal.rootName).append (by decide)
    · exact ⟨by decide, by decide, by decide⟩

/-- The name of a file has a dot in it, as no name of a directory has. -/
theorem filename_not_mem_path (layout : Layout) (branch other : Branch) :
    layout.filename branch ∉ other.path := by
  have hDot : '.' ∈ (layout.filename branch).toList := by
    rw [Branch.filename_eq]
    split
    · rw [String.toList_append]
      exact List.mem_append_right _ (by decide)
    · decide
  intro hMem
  obtain ⟨component, -, hName⟩ := List.mem_map.mp hMem
  rw [← hName] at hDot
  exact Name.not_mem_of_isCapital (Name.isCapital_pascal component) (by decide) hDot

theorem eq_path_of_prefix {layout : Layout} {branch other : Branch}
    (h : (branch.file layout).parts <+: (other.file layout).parts) : branch.path = other.path := by
  simp only [SourceFile.parts, Branch.file, Branch.directories_eq_path] at h
  rcases List.prefix_concat_iff.mp h with hSame | hBelow
  · exact (List.append_inj' hSame rfl).1
  · have hMem : layout.filename branch ∈ other.path := by
      apply hBelow.subset
      exact List.mem_append_right _ (List.mem_singleton_self _)
    exact absurd hMem (layout.filename_not_mem_path branch other)

end Layout

namespace ModuleTree

variable {packages rootName : String} {rule : NamespaceRule} {routes : List Route}
  {tree : ModuleTree} {files : List SourceFile}

theorem isVisible_of_mem_files (hBuild : build packages rootName rule routes = .ok tree)
    (hFiles : tree.files = .ok files) :
    ∀ file ∈ files, file.IsVisible := by
  intro file hFile
  obtain ⟨branch, -, -, rfl⟩ := (mem_files_iff hFiles).mp hFile
  exact (isLegal_of_build hBuild).isVisible branch

/-- No file is in the way of another one. -/
theorem pairwise_apart (hBuild : build packages rootName rule routes = .ok tree)
    (hFiles : tree.files = .ok files) : files.Pairwise SourceFile.Apart := by
  have hPaths : (tree.modules.filter (·.hasContent)).Pairwise fun branch other =>
      branch.path ≠ other.path :=
    List.pairwise_map.mp ((holds_of_build hBuild).grown.nodup_paths.sublist
      (List.filter_sublist.map Branch.path))
  rw [← (files_eq_ok_iff.mp hFiles).2, List.pairwise_map]
  refine hPaths.imp fun hPath => ⟨?_, ?_⟩
  · exact fun hPrefix => hPath (Layout.eq_path_of_prefix hPrefix)
  · exact fun hPrefix => hPath (Layout.eq_path_of_prefix hPrefix).symm

theorem nodup_parts (hBuild : build packages rootName rule routes = .ok tree)
    (hFiles : tree.files = .ok files) : (files.map SourceFile.parts).Nodup := by
  rw [List.nodup_iff_pairwise_ne, List.pairwise_map]
  refine (pairwise_apart hBuild hFiles).imp fun hApart hSame => hApart.1 ?_
  exact hSame ▸ List.prefix_refl _

/-- The files of a tree are put below the source directory, each at a place of its own. Their
directories have names of letters and digits, whatever components a rule comes up with; the
path of no file leads through another file; and a target is the source directory with the
components of the file behind it. -/
theorem files_inside (hBuild : build packages rootName rule routes = .ok tree)
    (hFiles : tree.files = .ok files) :
    (∀ file ∈ files,
      (∀ name ∈ file.directories, name ≠ "" ∧ ∀ c ∈ name.toList, c.isAlphanum = true) ∧
      (file.filename = rootName ++ ".py" ∧ '/' ∉ file.filename.toList ∧
          '\\' ∉ file.filename.toList ∨
        file.filename = "__init__.py")) ∧
    (files.map (·.relativePath)).Nodup ∧
    (files.Pairwise fun first second =>
      ¬ (Path.read first.relativePath).parts <+: (Path.read second.relativePath).parts ∧
      ¬ (Path.read second.relativePath).parts <+: (Path.read first.relativePath).parts) ∧
    ∀ sourceDirectory : String,
      (files.map (·.target sourceDirectory)).Nodup ∧
      ∀ file ∈ files, file.target sourceDirectory =
        ⟨(Path.read sourceDirectory).slashes,
          (Path.read sourceDirectory).parts ++ file.directories ++ [file.filename]⟩ := by
  have hLegal := isLegal_of_build hBuild
  have hVisible := isVisible_of_mem_files hBuild hFiles
  have hNodup := nodup_parts hBuild hFiles
  rw [List.nodup_iff_pairwise_ne, List.pairwise_map] at hNodup
  refine ⟨?_, ?_, ?_, fun sourceDirectory => ⟨?_, ?_⟩⟩
  · intro file hFile
    obtain ⟨branch, -, -, rfl⟩ := (mem_files_iff hFiles).mp hFile
    constructor
    · intro name hName
      rw [Branch.file, Branch.directories_eq_path] at hName
      obtain ⟨component, -, rfl⟩ := List.mem_map.mp hName
      have hCapital := Name.isCapital_pascal component
      exact ⟨Name.ne_empty_of_isCapital hCapital, Name.isWordChar_of_mem_isCapital hCapital⟩
    · rw [Branch.file, Branch.filename_eq, rootName_of_build hBuild]
      split
      · have hIdentifier := Name.isIdentifier_of_isLegal hLegal.rootName
        rw [rootName_of_build hBuild] at hIdentifier
        refine Or.inl ⟨rfl, ?_, ?_⟩
        · rw [String.toList_append, List.mem_append, not_or]
          exact ⟨Text.not_mem_of_isIdentifier hIdentifier (by decide), by decide⟩
        · rw [String.toList_append, List.mem_append, not_or]
          exact ⟨Text.not_mem_of_isIdentifier hIdentifier (by decide), by decide⟩
      · exact Or.inr rfl
  · rw [List.nodup_iff_pairwise_ne, List.pairwise_map]
    refine hNodup.imp_of_mem fun hFirst hSecond hNe hSame => hNe ?_
    have hRead := congrArg Path.read hSame
    rw [SourceFile.read_relativePath (hVisible _ hFirst),
      SourceFile.read_relativePath (hVisible _ hSecond)] at hRead
    exact congrArg Path.parts hRead
  · refine (pairwise_apart hBuild hFiles).imp_of_mem fun hFirst hSecond hApart => ?_
    rw [SourceFile.read_relativePath (hVisible _ hFirst),
      SourceFile.read_relativePath (hVisible _ hSecond)]
    exact hApart
  · rw [List.nodup_iff_pairwise_ne, List.pairwise_map]
    refine hNodup.imp_of_mem fun hFirst hSecond hNe hSame => hNe ?_
    rw [SourceFile.target_eq (hVisible _ hFirst), SourceFile.target_eq (hVisible _ hSecond)] at hSame
    exact List.append_cancel_left (congrArg Path.parts hSame)
  · intro file hFile
    rw [SourceFile.target_eq (hVisible file hFile), SourceFile.parts, List.append_assoc]

/-- A rule whose components would lead out of any directory, if they were taken for names. -/
def climbingRule : NamespaceRule :=
  byName [("users", ["..", "a/b", ""])]

def climbingRows : List Route :=
  [⟨"status", "GET", "/status", [.literal "status"], "status#show", 2, false⟩,
    ⟨"users", "GET", "/users", [.literal "users"], "users#index", 3, false⟩]

def climbingTree : ModuleTree :=
  ⟨⟨["app"], "Routes"⟩, .node [] [climbingRows[0]]
    [.node [".."] [] [.node ["..", "a/b"] [] [.node ["..", "a/b", ""] [climbingRows[1]] []]]]⟩

/-- The components become names of directories, and the files stay below the source
directory, which itself is reached by two dots. -/
theorem files_inside_climbingRows :
    build "app" "Routes" climbingRule climbingRows = .ok climbingTree ∧
      ∃ files, climbingTree.files = .ok files ∧
        files.map (·.relativePath) =
          ["Routes.py", "Module/__init__.py", "Module/AB/__init__.py",
            "Module/AB/Module/__init__.py"] ∧
        (files.map (·.target "../src/")).Nodup ∧
        ∀ file ∈ files, file.target "../src/" = ⟨0, ["..", "src"] ++ file.directories ++ [file.filename]⟩ := by
  have hStatus : climbingRule climbingRows[0] = .ok [] := rfl
  have hUsers : climbingRule climbingRows[1] = .ok ["..", "a/b", ""] := rfl
  have hGrow : grow climbingRule [] emptyRoot climbingRows = .ok climbingTree.root := by
    refine grow_cons_eq_ok_iff.mpr ⟨by decide, [], hStatus, ?_⟩
    exact grow_cons_eq_ok_iff.mpr ⟨by decide, ["..", "a/b", ""], hUsers, rfl⟩
  have hLayout : layout? "app" "Routes" = .ok climbingTree.layout := rfl
  have hBuild : build "app" "Routes" climbingRule climbingRows = .ok climbingTree := by
    rw [build, hLayout, hGrow]
    rfl
  obtain ⟨files, hFiles⟩ := exists_eq_ok_of_isOk (by decide : climbingTree.files.isOk = true)
  obtain ⟨-, -, -, hTargets⟩ := files_inside hBuild hFiles
  refine ⟨hBuild, files, hFiles, ?_, hTargets "../src/"⟩
  rw [← (files_eq_ok_iff.mp hFiles).2, List.map_map]
  decide

end ModuleTree

end RoutePaths
