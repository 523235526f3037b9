import RoutePaths.Proofs.Function.Docstring
import RoutePaths.Proofs.Generation.Row
import RoutePaths.Proofs.Module.Documentation
import RoutePaths.Proofs.Table.Routes

/-! The docstrings in the files for a table. Whatever the text of the table is, it
breaks no line of a docstring, and nothing in it but a verb can end a docstring
early. -/
namespace RoutePaths
open Result Text

theorem Route.IsTabular.isOneLine_action {route : Route} (h : route.IsTabular) :
    IsOneLine route.action.toList := by
  obtain ⟨words, hWords, hAction⟩ := h.action
  rw [hAction]
  exact isOneLine_intercalate fun word hWord => (hWords word hWord).2.isOneLine

namespace Docstring

/-- How the docstring of a function stands in the text of a file. -/
structure StandsIn (content : String) (function : Function) : Prop where
  printed : ∃ before after, content =
    before ++ Function.docQuote ++ between function ++ Function.docQuote ++ after
  summary : IsOneLine (Function.summary function.route).toList
  lines : ∀ route ∈ function.routes, IsOneLine (Function.docLine route).toList
  inert : IsInert (between function).toList ↔ ∀ route ∈ function.routes, IsInert route.verb.toList
  closed : (∀ route ∈ function.routes, IsInert route.verb.toList) → ∀ rest,
    closeQuotes ((between function).toList ++ closing ++ rest) =
      some ((between function).toList, rest)

theorem standsIn_print {module : Module} {function : Function} (h : function ∈ module.functions)
    (hRoutes : ∀ route ∈ function.routes, route.IsTabular) : StandsIn module.print function := by
  refine ⟨exists_print h, ?_, ?_, isInert_between_iff function, ?_⟩
  · exact isOneLine_summary (hRoutes _ (List.mem_cons_self ..)).name.isOneLine
  · intro route hRoute
    have hTabular := hRoutes route hRoute
    exact isOneLine_docLine hTabular.verb.isOneLine hTabular.uri.isOneLine hTabular.isOneLine_action
  · intro hVerbs rest
    exact closeQuotes_between hVerbs rest

/-- In all files for a table, docstrings have exactly the line breaks that they are
printed with, and they end where they are meant to end unless a verb ends them. -/
theorem standsIn_of_run {text : String} {config : Config} {rule : ModuleTree.NamespaceRule}
    {generation : Generation} (hRun : Generation.run text config rule = .ok generation) :
    ∀ file ∈ generation.files, ∃ branch ∈ generation.tree.modules, ∃ module,
      Module.ofBranch generation.tree.layout branch = .ok module ∧ file.content = module.print ∧
        ∀ function ∈ module.functions, StandsIn file.content function := by
  simp only [Generation.run, Selection.apply, bind_eq_ok_iff, mapError_eq_ok_iff, pure, Except.pure,
    Except.ok.injEq] at hRun
  obtain ⟨_, ⟨checked, -, rfl⟩, tree, hBuild, files, hFiles, rfl⟩ := hRun
  obtain ⟨hFree, rfl⟩ := ModuleTree.files_eq_ok_iff.mp hFiles
  have hHolds := ModuleTree.holds_of_build hBuild
  intro file hFile
  obtain ⟨branch, hBranch, rfl⟩ := List.mem_map.mp hFile
  obtain ⟨hBranch, hContent⟩ := List.mem_filter.mp hBranch
  have hPrint : (branch.file tree.layout).content = (branch.contents tree.layout).print := by
    rw [Branch.file]
  rw [hPrint]
  refine ⟨branch, hBranch, branch.contents tree.layout,
    Module.ofBranch_eq_ok_iff.mpr ⟨hFree branch hBranch hContent, rfl⟩, rfl, ?_⟩
  intro function hFunction
  apply standsIn_print hFunction
  intro route hRoute
  have hMem := (Branch.sublist_routes hFunction).subset hRoute
  rw [hHolds.routes_eq hBranch] at hMem
  exact Table.isTabular_of_mem_routes (List.mem_of_mem_filter (List.mem_of_mem_filter hMem))

/-- A row with the given verb. -/
def userEntry (verb : String) : Table.Entry :=
  ⟨some "users", verb, "/users", ["users#index"]⟩

def userLine (verb : String) : String :=
  " users " ++ verb ++ " /users users#index"

/-- The table of that row alone. -/
def userTable (verb : String) : String :=
  Table.print "Prefix Verb URI Pattern Controller#Action" [userLine verb] true

def userRoute (verb : String) : Route :=
  ⟨"users", verb, "/users", [.literal "users"], "users#index", 2, false⟩

def userTree (verb : String) : ModuleTree :=
  ⟨⟨[], "Routes"⟩, .node [] [userRoute verb] []⟩

/-- A table of one row is generated like any other. -/
theorem run_userTable {verb : String} (hValid : (userEntry verb).IsValid)
    (hPrints : (userEntry verb).Prints (userLine verb)) {files : List SourceFile}
    (hFiles : (userTree verb).files = .ok files) :
    Generation.run (userTable verb) Config.default ModuleTree.byController =
      .ok ⟨[], [userRoute verb], userTree verb, files⟩ := by
  have hRule : ModuleTree.namespaceOfAction "users#index".toList = .ok [] := rfl
  have hTree : userTree verb = Generation.rowTree (userRoute verb) [] := rfl
  rw [hTree] at hFiles ⊢
  exact Generation.run_row hValid hPrints rfl Generation.read_users rfl hRule hFiles

/-- The docstring for an ordinary verb. -/
theorem standsIn_of_run_get :
    ∃ generation, Generation.run (userTable "GET") Config.default ModuleTree.byController =
        .ok generation ∧
      generation.files.map (·.filename) = ["Routes.py"] ∧
      ∀ file ∈ generation.files, ∃ branch ∈ generation.tree.modules, ∃ module,
        Module.ofBranch generation.tree.layout branch = .ok module ∧ file.content = module.print ∧
          ∀ function ∈ module.functions, StandsIn file.content function := by
  have hValid : (userEntry "GET").IsValid :=
    ⟨by decide, by decide, by decide, by decide, ⟨_, Generation.read_users⟩, by decide, by decide, by decide⟩
  have hPrints : (userEntry "GET").Prints (userLine "GET") :=
    ⟨1, _, .more _ 0 (.more _ 0 (.more _ 0 (.last _))), by decide⟩
  obtain ⟨files, hFiles⟩ := exists_eq_ok_of_isOk (by decide : (userTree "GET").files.isOk = true)
  have hRun := run_userTable hValid hPrints hFiles
  refine ⟨_, hRun, ?_, standsIn_of_run hRun⟩
  show files.map (·.filename) = _
  rw [← (ModuleTree.files_eq_ok_iff.mp hFiles).2, List.map_map]
  decide

/-- The function for a row whose verb is three double quotes. -/
def quotedFunction : Function :=
  ⟨"users", [], userRoute "\"\"\"", [], Function.bodyOf [.literal "users"]⟩

/-- Such a verb ends the docstring that it stands in. -/
theorem closeQuotes_quotedFunction :
    ∃ generation, Generation.run (userTable "\"\"\"") Config.default ModuleTree.byController =
        .ok generation ∧
      ∃ branch ∈ generation.tree.modules, ∃ module,
        Module.ofBranch generation.tree.layout branch = .ok module ∧
          quotedFunction ∈ module.functions ∧ closing <:+: (between quotedFunction).toList ∧
          closeQuotes ((between quotedFunction).toList ++ closing) =
            some ("Path of route \x60\x60users\x60\x60.\n\n    \x60\x60".toList,
              " /users\x60\x60 -> \x60\x60users#index\x60\x60\n    \"\"\"".toList) := by
  have hValid : (userEntry "\"\"\"").IsValid :=
    ⟨by decide, by decide, by decide, by decide, ⟨_, Generation.read_users⟩, by decide, by decide, by decide⟩
  have hPrints : (userEntry "\"\"\"").Prints (userLine "\"\"\"") :=
    ⟨1, _, .more _ 0 (.more _ 0 (.more _ 0 (.last _))), by decide⟩
  obtain ⟨files, hFiles⟩ :=
    exists_eq_ok_of_isOk (by decide : (userTree "\"\"\"").files.isOk = true)
  have hFree := (ModuleTree.files_eq_ok_iff.mp hFiles).1 _ (Branch.mem_walk_self _) rfl
  have hFunctions : (userTree "\"\"\"").root.functions = [quotedFunction] := rfl
  refine ⟨_, run_userTable hValid hPrints hFiles, _, Branch.mem_walk_self _, _,
    Module.ofBranch_eq_ok_iff.mpr ⟨hFree, rfl⟩, ?_, by decide, by decide⟩
  show quotedFunction ∈ (userTree "\"\"\"").root.functions
  rw [hFunctions]
  exact List.mem_singleton_self quotedFunction

end Docstring

end RoutePaths
