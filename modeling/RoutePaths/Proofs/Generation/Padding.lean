import RoutePaths.Proofs.Generation.Names
import RoutePaths.Proofs.Module.Renumbering

/-! Generation for tables with blank lines, repeated headers and banners. Such lines may
stand anywhere behind the first one, and what is generated does not depend on them. -/
namespace RoutePaths
open Result

/-- The same routes are selected in every numbering. -/
theorem Selection.apply_renumber (selection : Selection) (numbering : Nat → Nat)
    (routes : List Route) :
    Alike Eq (fun kept other => other = kept.map (·.renumber numbering)) (selection.apply routes)
      (selection.apply (routes.map (·.renumber numbering))) := by
  rw [apply, apply]
  cases selection.check with
  | error error => exact .error rfl
  | ok checked =>
      refine .ok ?_
      rw [List.filter_map]
      rfl

namespace Generation

/-- Errors of one kind. They say the same, but for the numbers of lines and for what
collides. -/
inductive Error.SameKind : Error → Error → Prop
  | pattern (error : Pattern.Error) : SameKind (.pattern error) (.pattern error)
  | tree {error other : ModuleTree.Error} (h : ModuleTree.Error.SameButLines error other) :
      SameKind (.tree error) (.tree other)
  | collision (clash other : Collision) : SameKind (.collision clash) (.collision other)

/-- The one generation is the other in a different numbering of lines. The files are the
same, byte for byte. -/
structure Renumbered (numbering : Nat → Nat) (generation other : Generation) : Prop where
  files : other.files = generation.files
  routes : other.routes = generation.routes.map (·.renumber numbering)
  diagnostics : other.diagnostics = generation.diagnostics.map (·.renumber numbering)
  tree : other.tree = generation.tree.renumber numbering

variable {text padded first : String} {rest : List String} {padding : Table.Padding}
  {rule : ModuleTree.NamespaceRule}

/-- Lines that are no rows change neither whether there is a generation nor, if there is
none, the kind of the error. They change nothing in a generation but the numbers of the
lines behind them, which grow by as much as was put in. -/
theorem run_padded (config : Config) (hRule : ModuleTree.IgnoresLines rule)
    (hLayout : padding.IsLayout) (hText : Table.linesOf text = first :: rest)
    (hPadded : Table.linesOf padded = first :: padding.apply 2 rest) :
    Alike Error.SameKind (Renumbered padding.numbering) (run text config rule)
      (run padded config rule) := by
  have hSelection := config.selection.apply_renumber padding.numbering (Table.read text).routes
  rw [run, run, Table.read_padded hLayout hText hPadded]
  refine (hSelection.mapError ?_).bind ?_
  · rintro error _ rfl
    exact .pattern error
  · rintro kept _ rfl
    have hBuild := ModuleTree.build_renumber padding.numbering hRule config.packages
      config.moduleName kept
    refine (hBuild.mapError fun _ _ hSame => .tree hSame).bind ?_
    rintro tree _ rfl
    have hFiles := ModuleTree.files_renumber padding.numbering tree
    refine (hFiles.mapError fun clash other _ => .collision clash other).bind ?_
    rintro files _ rfl
    exact .ok ⟨rfl, rfl, rfl, rfl⟩

/-- A banner and a blank line in front of a row, and a header behind it. -/
def bannerPadding : Table.Padding
  | 2 => ["Routes for Shop::Engine:", "  "]
  | 3 => ["Prefix Verb URI Pattern"]
  | _ => []

def bannerTable : String :=
  "Prefix Verb URI Pattern Controller#Action\nRoutes for Shop::Engine:\n  \n" ++
    actionLine "admin/users#index" ++ "\nPrefix Verb URI Pattern"

/-- The route stands on the fourth line then, and the files are the same. -/
theorem run_padded_bannerTable :
    bannerPadding.IsLayout ∧
      ∃ generation other,
        run adminTable Config.default ModuleTree.byController = .ok generation ∧
        run bannerTable Config.default ModuleTree.byController = .ok other ∧
        generation.files.map (·.directories) = [[], ["Admin"]] ∧
        other.files = generation.files ∧
        other.routes = [{ actionRoute "admin/users#index" with line := 4 }] := by
  have hLayout : bannerPadding.IsLayout := by
    intro number line hLine
    rw [← Table.isLayout_iff]
    unfold bannerPadding at hLine
    split at hLine
    · rcases List.mem_pair.mp hLine with rfl | rfl <;> decide
    · rw [List.mem_singleton.mp hLine]
      decide
    · cases hLine
  have hText : Table.linesOf adminTable =
      ["Prefix Verb URI Pattern Controller#Action", actionLine "admin/users#index"] := by
    decide +kernel
  have hPadded : Table.linesOf bannerTable = "Prefix Verb URI Pattern Controller#Action" ::
      bannerPadding.apply 2 [actionLine "admin/users#index"] := by
    decide +kernel
  obtain ⟨files, hRun, hDirectories⟩ := exists_run_adminTable
  obtain ⟨other, hOther, hSame⟩ := (run_padded Config.default ModuleTree.ignoresLines_byController
    hLayout hText hPadded).exists_of_ok hRun
  exact ⟨hLayout, _, other, hRun, hOther, hDirectories, hSame.files, hSame.routes⟩

end Generation

end RoutePaths
