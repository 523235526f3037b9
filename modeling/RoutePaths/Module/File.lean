import RoutePaths.Module.Grouping
import RoutePaths.Module.Printer
import RoutePaths.Path

/-! The files of a module tree. The root module is a single file, and every
other module is a package of its own, so that a package and a module never
claim one path. -/
namespace RoutePaths

/-- A generated file, addressed from the source directory. -/
structure SourceFile where
  directories : List String
  filename : String
  content : String
  deriving DecidableEq, Repr

/-- The path below the source directory. -/
def SourceFile.relativePath (file : SourceFile) : String :=
  "/".intercalate (file.directories ++ [file.filename])

/-- Where the file is put, below the given source directory. -/
def SourceFile.target (file : SourceFile) (sourceDirectory : String) : Path :=
  (Path.read sourceDirectory).joinTexts (file.directories ++ [file.filename])

namespace Layout

/-- The directories of the file of a module. -/
def directories (branch : Branch) : List String :=
  if branch.isRoot then [] else branch.path

/-- The name of the file of a module. -/
def filename (layout : Layout) (branch : Branch) : String :=
  if branch.isRoot then layout.rootName ++ ".py" else "__init__.py"

end Layout

namespace SourceFile

/-- The file of a module. -/
def ofBranch (layout : Layout) (branch : Branch) : Except Collision SourceFile := do
  let module ← Module.ofBranch layout branch
  return ⟨Layout.directories branch, layout.filename branch, module.print⟩

end SourceFile

/-- The files of a tree, each before those of the child modules. Modules
without a route in or below them have none. -/
def ModuleTree.files (tree : ModuleTree) : Except Collision (List SourceFile) :=
  (tree.modules.filter (·.hasContent)).mapM (SourceFile.ofBranch tree.layout)

end RoutePaths
