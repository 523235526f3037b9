import RoutePaths.Config.Basic
import RoutePaths.Module.File
import RoutePaths.Table.Basic

/-! From a table to files. The table is read, routes are selected and grouped
into modules, and the modules are written down. Any error after the reading
means that there are no files at all. -/
namespace RoutePaths

/-- What a table becomes under given settings. The diagnostics belong to the
whole table, the routes are the selected ones. -/
structure Generation where
  diagnostics : List Diagnostic
  routes : List Route
  tree : ModuleTree
  files : List SourceFile
  deriving Repr

namespace Generation

/-- Why nothing is generated. -/
inductive Error where
  | pattern (error : Pattern.Error)
  | tree (error : ModuleTree.Error)
  | collision (clash : Collision)
  deriving DecidableEq, Repr

/-- The wording of an error. -/
def Error.message : Error → String
  | pattern error => error.message
  | tree error => error.message
  | collision clash => clash.message

/-- Generates the files for a table. -/
def run (text : String) (config : Config) (rule : ModuleTree.NamespaceRule) :
    Except Error Generation := do
  let table := Table.read text
  let routes ← (config.selection.apply table.routes).mapError .pattern
  let tree ← (ModuleTree.build config.packages config.moduleName rule routes).mapError .tree
  let files ← tree.files.mapError .collision
  return ⟨table.diagnostics, routes, tree, files⟩

end Generation

end RoutePaths
