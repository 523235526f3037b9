import RoutePaths.Proofs.Command.Inspection
import RoutePaths.Proofs.Module.Appending

/-! Where the spelling of a namespace comes from. A module is spelled as in the first row of
the table that goes to it or below it, component by component, and this spelling is what is
dropped from the names of its routes. A row that spells the namespace in another way keeps the
front of its name. -/
namespace RoutePaths
open Result

namespace Branch

/-- Below the top module, each module has the namespace of its parent with one component behind
it, and this is the component for its path. -/
inductive Spelled (componentAt : List String → String) : Branch → Prop
  | node {parts : List String} {routes : List Route} {children : List Branch}
    (longer : ∀ child ∈ children, child.namespaceOf = parts ++ [componentAt child.path])
    (below : ∀ child ∈ children, Spelled componentAt child) :
    Spelled componentAt (.node parts routes children)

variable {componentAt other : List String → String} {branch : Branch}

theorem spelled_fresh (componentAt : List String → String) (parts : List String) :
    (fresh parts).Spelled componentAt :=
  .node (by simp) (by simp)

/-- Only the components for modules below the top one count. -/
theorem Spelled.congr (h : branch.Spelled componentAt)
    (hSame : ∀ child ∈ branch.children, ∀ lower ∈ child.walk,
      componentAt lower.path = other lower.path) : branch.Spelled other := by
  induction h with
  | @node parts routes children longer below ih =>
      refine .node (fun child hChild => ?_) fun child hChild => ?_
      · rw [longer child hChild, hSame child hChild child child.mem_walk_self]
      · refine ih child hChild fun inner hInner lower hLower => ?_
        exact hSame child hChild lower (mem_walk_trans (mem_walk_of_mem_children hInner) hLower)

/-- A change of one child that keeps its namespace, or a new child. -/
theorem Spelled.alter {parts : List String} {routes : List Route} {children : List Branch}
    {picks : Branch → Bool} {new : Branch} {change : Branch → Branch}
    (h : (Branch.node parts routes children).Spelled componentAt)
    (hKeeps : ∀ child, (change child).namespaceOf = child.namespaceOf)
    (hPicked : ∀ child ∈ children, picks child = true → (change child).Spelled componentAt)
    (hNew : (∀ child ∈ children, picks child = false) →
      new.namespaceOf = parts ++ [componentAt new.path] ∧ (change new).Spelled componentAt) :
    (Branch.node parts routes (Branch.alter picks new change children)).Spelled componentAt := by
  have hPath (child : Branch) : (change child).path = child.path := by
    rw [path, path, hKeeps]
  cases h with
  | node longer below =>
      rcases alter_cases picks new change children with
        ⟨before, child, after, rfl, hPicks, hAlter⟩ | ⟨hNone, hAlter⟩
      · have hChild := hPicked child (by simp) hPicks
        rw [hAlter]
        simp only [List.forall_mem_append, List.forall_mem_cons] at longer below
        refine .node ?_ ?_
        · simp only [List.forall_mem_append, List.forall_mem_cons, hKeeps, hPath]
          exact longer
        · simp only [List.forall_mem_append, List.forall_mem_cons]
          exact ⟨below.1, hChild, below.2.2⟩
      · obtain ⟨hLonger, hBelow⟩ := hNew hNone
        rw [hAlter]
        refine .node ?_ ?_
        · simp only [List.forall_mem_append, List.forall_mem_singleton, hKeeps, hPath]
          exact ⟨longer, hLonger⟩
        · simp only [List.forall_mem_append, List.forall_mem_singleton]
          exact ⟨below, hBelow⟩

/-- An inserted route makes modules that are spelled as its own components, where there are none
yet. -/
theorem Spelled.insert {route : Route} {components : List String} (h : branch.Spelled componentAt)
    (hGrown : branch.Grown)
    (hMissing : ∀ front component, front ++ [component] <+: components →
      branch.moduleAt? ((front ++ [component]).map Name.pascal) = none →
        componentAt (branch.path ++ (front ++ [component]).map Name.pascal) = component) :
    (branch.insert route components).Spelled componentAt := by
  induction components generalizing branch with
  | nil =>
      cases h with
      | node longer below => exact .node longer below
  | cons component deeper ih =>
      cases hGrown with
      | @node parts routes children lengths distinct grown =>
          have hInner {child : Branch} (hSpelled : child.Spelled componentAt)
              (hChild : child.Grown)
              (hPath : child.path = parts.map Name.pascal ++ [Name.pascal component])
              (hNone : ∀ names, child.moduleAt? names = none →
                moduleAt? (Name.pascal component :: names) (.node parts routes children) = none) :
              (child.insert route deeper).Spelled componentAt := by
            refine ih hSpelled hChild fun front last hFront hMissed => ?_
            rw [hPath, List.append_assoc, List.singleton_append, ← List.map_cons]
            exact hMissing (component :: front) last (List.cons_prefix_cons.mpr ⟨rfl, hFront⟩)
              (hNone _ hMissed)
          refine h.alter (namespaceOf_insert route deeper) (fun child hChild hFor => ?_)
            fun hNone => ?_
          · have hPath := (path_eq_of_isFor (lengths child hChild)).mp hFor
            have hFind := find?_isNamed (fun child hChild => exists_path_eq (lengths child hChild))
              distinct hChild hPath
            have hBelow : child.Spelled componentAt := by
              cases h with
              | node longer below => exact below child hChild
            refine hInner hBelow (grown child hChild) hPath fun names hMissed => ?_
            rw [moduleAt?, Branch.children, hFind]
            exact hMissed
          · have hFind : children.find? (isNamed (Name.pascal component)) = none :=
              List.find?_eq_none.mpr fun child hChild => Bool.eq_false_iff.mp (hNone child hChild)
            have hPath : (fresh (parts ++ [component])).path =
                parts.map Name.pascal ++ [Name.pascal component] := List.map_append
            -- Nothing below the missing child is there, so the route spells all of it.
            have hAbsent (names : List String) :
                moduleAt? (Name.pascal component :: names) (.node parts routes children) = none := by
              rw [moduleAt?, Branch.children, hFind]
            refine ⟨congrArg (parts ++ [·]) ?_, hInner (spelled_fresh componentAt _)
              (grown_fresh _) hPath fun names _ => hAbsent names⟩
            rw [hPath]
            exact (hMissing [] component (List.prefix_append [component] deeper)
              (hAbsent [])).symm

/-- The namespace for a path, from the components for the paths on the way to it. -/
def spelledBelow (componentAt : List String → String) (base : List String) :
    List String → List String
  | [] => []
  | name :: deeper =>
    componentAt (base ++ [name]) :: spelledBelow componentAt (base ++ [name]) deeper

theorem Spelled.namespaceOf_eq (h : branch.Spelled componentAt) (hGrown : branch.Grown) :
    ∀ lower ∈ branch.walk, ∃ names, lower.path = branch.path ++ names ∧
      lower.namespaceOf = branch.namespaceOf ++ spelledBelow componentAt branch.path names := by
  induction h with
  | @node parts routes children longer below ih =>
      cases hGrown with
      | node lengths distinct grown =>
          intro lower hLower
          rw [walk_node] at hLower
          rcases List.mem_cons.mp hLower with rfl | hLower
          · exact ⟨[], by rw [List.append_nil], by rw [spelledBelow, List.append_nil]⟩
          · obtain ⟨child, hChild, hLower⟩ := List.mem_flatMap.mp hLower
            obtain ⟨names, hPath, hNames⟩ := ih child hChild (grown child hChild) lower hLower
            obtain ⟨name, hName⟩ : ∃ name, child.path = parts.map Name.pascal ++ [name] :=
              exists_path_eq (lengths child hChild)
            refine ⟨name :: names, ?_, ?_⟩
            · rw [hPath, hName, List.append_assoc, List.singleton_append]
              rfl
            · rw [hNames, longer child hChild, hName, List.append_assoc, List.singleton_append]
              rfl

end Branch

namespace ModuleTree

/-- The namespace of the first row that the rule sends to the module at a path or below it. -/
def firstThrough? (rule : NamespaceRule) (rows : List Route) (path : List String) :
    Option (List String) :=
  rows.findSome? fun row =>
    (rule row).toOption.filter fun parts => path.isPrefixOf (parts.map Name.pascal)

/-- The last component of a path as it is spelled in the first row through it. -/
def componentAt (rule : NamespaceRule) (rows : List Route) (path : List String) : String :=
  ((firstThrough? rule rows path).bind fun parts => parts[path.length - 1]?).getD ""

/-- The namespace of the module at a path. Each component is spelled as in the first row that
goes that far. -/
def spelling (rule : NamespaceRule) (rows : List Route) (path : List String) : List String :=
  Branch.spelledBelow (componentAt rule rows) [] path

/-- The name of the function for a row: its own, without the namespace in front as the first
rows spell it. -/
def IsFunctionName (rule : NamespaceRule) (rows : List Route) (row : Route) (name : String) :
    Prop :=
  ∃ parts, rule row = .ok parts ∧
    name = Function.nameFor (spelling rule rows (parts.map Name.pascal)) row.name

variable {packages rootName : String} {rule : NamespaceRule} {rows before after : List Route}
  {row : Route} {parts path : List String} {tree : ModuleTree}

theorem firstThrough?_isSome_iff :
    (firstThrough? rule rows path).isSome = true ↔
      ∃ row ∈ rows, ∃ names, target? rule row = some names ∧ path <+: names := by
  rw [firstThrough?, List.findSome?_isSome_iff]
  refine exists_congr fun row => and_congr_right fun _ => ?_
  rw [Option.isSome_filter, Option.any_eq_true]
  simp only [target?_eq_some_iff, List.isPrefixOf_iff_prefix]
  constructor
  · rintro ⟨parts, hRule, hPrefix⟩
    refine ⟨_, ⟨parts, ?_, rfl⟩, hPrefix⟩
    cases hRow : rule row with
    | error error => rw [hRow] at hRule; cases hRule
    | ok found => rw [hRow] at hRule; cases hRule; rfl
  · rintro ⟨_, ⟨parts, hRule, rfl⟩, hPrefix⟩
    exact ⟨parts, by rw [hRule]; rfl, hPrefix⟩

/-- Rows behind the first one through a path do not count. -/
theorem componentAt_append (h : (firstThrough? rule before path).isSome = true) :
    componentAt rule (before ++ after) path = componentAt rule before path := by
  obtain ⟨parts, hParts⟩ := Option.isSome_iff_exists.mp h
  rw [componentAt, componentAt, firstThrough?, List.findSome?_append, ← firstThrough?, hParts]
  rfl

/-- The first row through a path spells its last component. -/
theorem componentAt_concat {front : List String} {component : String}
    (hNone : firstThrough? rule rows ((front ++ [component]).map Name.pascal) = none)
    (hRule : rule row = .ok parts) (hFront : front ++ [component] <+: parts) :
    componentAt rule (rows ++ [row]) ((front ++ [component]).map Name.pascal) = component := by
  have hFirst : firstThrough? rule [row] ((front ++ [component]).map Name.pascal) = some parts := by
    have hPrefix := List.isPrefixOf_iff_prefix.mpr (hFront.map Name.pascal)
    rw [firstThrough?, List.findSome?_singleton, hRule]
    exact Option.filter_some_pos hPrefix
  obtain ⟨deeper, rfl⟩ := hFront
  rw [componentAt, firstThrough?, List.findSome?_append, ← firstThrough?, hNone, Option.none_or,
    ← firstThrough?, hFirst]
  simp

/-- On the way of an earlier row, later rows do not count. -/
theorem spelling_append (hRow : row ∈ before) (hRule : rule row = .ok parts) :
    spelling rule (before ++ after) (parts.map Name.pascal) =
      spelling rule before (parts.map Name.pascal) := by
  have hBelow (base names : List String) (hNames : base ++ names <+: parts.map Name.pascal) :
      Branch.spelledBelow (componentAt rule (before ++ after)) base names =
        Branch.spelledBelow (componentAt rule before) base names := by
    induction names generalizing base with
    | nil => rfl
    | cons name deeper ih =>
        rw [List.append_cons] at hNames
        have hSome : (firstThrough? rule before (base ++ [name])).isSome = true :=
          firstThrough?_isSome_iff.mpr ⟨row, hRow, _, target?_eq_some_iff.mpr ⟨parts, hRule, rfl⟩,
            (List.prefix_append _ _).trans hNames⟩
        rw [Branch.spelledBelow, Branch.spelledBelow, componentAt_append hSome, ih _ hNames]
  exact hBelow [] _ (List.prefix_refl _)

/-- Where there is no module, no row goes through. -/
theorem Holds.firstThrough?_eq_none (h : Holds rule tree.root rows)
    (hNone : tree.root.moduleAt? path = none) : firstThrough? rule rows path = none := by
  rw [← Option.not_isSome_iff_eq_none, firstThrough?_isSome_iff]
  rintro ⟨row, hRow, names, hTarget, hPrefix⟩
  obtain ⟨parts, hRule, rfl⟩ := target?_eq_some_iff.mp hTarget
  obtain ⟨front, hFront, rfl⟩ := List.prefix_map_iff.mp hPrefix
  obtain ⟨branch, hBranch, hPath⟩ := h.exists_path_eq hRow hRule hFront
  obtain ⟨names, hNames, hFound⟩ := h.grown.exists_moduleAt? branch hBranch
  rw [h.path_root, List.nil_append, hPath] at hNames
  rw [hNames, hFound] at hNone
  cases hNone

/-- A row is put into the tree with its own spelling where no earlier row went. -/
theorem Holds.spelled_insert (h : Holds rule tree.root rows) (hFilled : tree.root.Filled)
    (hSpelled : tree.root.Spelled (componentAt rule rows)) (hRule : rule row = .ok parts) :
    (tree.root.insert row parts).Spelled (componentAt rule (rows ++ [row])) := by
  have hKept : tree.root.Spelled (componentAt rule (rows ++ [row])) := by
    refine hSpelled.congr fun child hChild lower hLower => ?_
    have hMem := Branch.mem_walk_trans (Branch.mem_walk_of_mem_children hChild) hLower
    have hContent : child.hasContent = true := by
      rw [← hFilled.emitting_eq] at hChild
      exact (List.mem_filter.mp hChild).2
    have hBelow := hFilled.of_mem_walk (Branch.mem_walk_of_mem_children hChild)
    obtain ⟨earlier, hEarlier, deeper, hTarget⟩ :=
      (h.hasContent_iff hMem).mp (hBelow.hasContent_of_mem_walk hContent hLower)
    exact (componentAt_append (firstThrough?_isSome_iff.mpr
      ⟨earlier, hEarlier, _, hTarget, List.prefix_append _ _⟩)).symm
  refine hKept.insert h.grown fun front component hFront hNone => ?_
  rw [h.path_root, List.nil_append]
  exact componentAt_concat (h.firstThrough?_eq_none hNone) hRule hFront

theorem spelled_of_build (hBuild : build packages rootName rule rows = .ok tree) :
    tree.root.Spelled (componentAt rule rows) := by
  induction rows using List.reverseRecOn generalizing tree with
  | nil =>
      simp only [build, grow, bind_eq_ok_iff, pure, Except.pure, Except.ok.injEq] at hBuild
      obtain ⟨layout, -, root, rfl, rfl⟩ := hBuild
      exact Branch.spelled_fresh _ []
  | append_singleton rows row ih =>
      obtain ⟨before, parts, hBefore, hRule, rfl⟩ := exists_build_of_concat hBuild
      exact (holds_of_build hBefore).spelled_insert (filled_of_build hBefore) (ih hBefore) hRule

theorem namespaceOf_eq_spelling (hBuild : build packages rootName rule rows = .ok tree)
    {branch : Branch} (hBranch : branch ∈ tree.modules) :
    branch.namespaceOf = spelling rule rows branch.path := by
  have hHolds := holds_of_build hBuild
  obtain ⟨names, hPath, hNames⟩ :=
    (spelled_of_build hBuild).namespaceOf_eq hHolds.grown branch hBranch
  rw [hHolds.path_root, List.nil_append] at hPath
  rw [hNames, hHolds.top, hHolds.path_root, List.nil_append, hPath, spelling]

/-- If the rows spell alike, the first spelling is that of each row. -/
theorem spelling_eq (hBuild : build packages rootName rule rows = .ok tree)
    (hAlike : SpelledAlike rule rows) (hRow : row ∈ rows) (hRule : rule row = .ok parts) :
    spelling rule rows (parts.map Name.pascal) = parts := by
  obtain ⟨branch, hBranch, hPath⟩ :=
    (holds_of_build hBuild).exists_path_eq hRow hRule (List.prefix_refl parts)
  have hSpells := (spelledFrom_of_build hBuild hAlike).spells hAlike (fun _ h => h) hRow hRule
  rw [← hPath, ← namespaceOf_eq_spelling hBuild hBranch]
  exact hSpells branch hBranch parts (List.prefix_refl parts) hPath

theorem isFunctionName_functionName (hBuild : build packages rootName rule rows = .ok tree)
    {branch : Branch} (hBranch : branch ∈ tree.modules) (hRow : row ∈ branch.routes) :
    IsFunctionName rule rows row (branch.functionName row) := by
  rw [(holds_of_build hBuild).routes_eq hBranch, List.mem_filter, decide_eq_true_eq] at hRow
  obtain ⟨parts, hRule, hPath⟩ := target?_eq_some_iff.mp hRow.2
  refine ⟨parts, hRule, ?_⟩
  rw [hPath, ← namespaceOf_eq_spelling hBuild hBranch]
  rfl

/-- The function of a row is named after the row and the first spelling of its namespace, in the
list of the routes and in the files alike. Rows behind it never change that name. It is the name
that the row has on its own, if all rows spell alike. -/
theorem functionNames_of_build (hBuild : build packages rootName rule rows = .ok tree) :
    ((Command.routeGrid tree).rows = tree.shownRoutes.map Command.ShownRoute.cells ∧
      (tree.shownRoutes.map (·.route)).Perm rows ∧
      ∀ line ∈ tree.shownRoutes, IsFunctionName rule rows line.route line.function.name) ∧
    (∀ files, tree.files = .ok files → tree.entries.map Prod.fst = files ∧
      ∀ entry ∈ tree.entries, tree.Prints entry.1 entry.2 ∧
        ∀ function ∈ entry.2.functions, ∀ row ∈ function.routes,
          IsFunctionName rule rows row function.name) ∧
    (∀ before after, before ++ after = rows → ∀ row ∈ before, ∀ name,
      IsFunctionName rule rows row name ↔ IsFunctionName rule before row name) ∧
    (SpelledAlike rule rows → ∀ row ∈ rows, ∀ name, IsFunctionName rule rows row name ↔
      ∃ parts, rule row = .ok parts ∧ name = Function.nameFor parts row.name) := by
  refine ⟨⟨rows_routeGrid tree, ?_, ?_⟩, ?_, ?_, ?_⟩
  · rw [map_route_shownRoutes]
    exact (holds_of_build hBuild).all
  · intro line hLine
    obtain ⟨branch, hBranch, row, hRow, rfl⟩ := mem_shownRoutes_iff.mp hLine
    rw [(Branch.functionOf_mem hRow).2.1]
    exact isFunctionName_functionName hBuild hBranch hRow
  · intro files hFiles
    refine ⟨files_eq_map_entries hFiles, fun entry hEntry =>
      ⟨prints_of_mem_entries hFiles hEntry, fun function hFunction row hRow => ?_⟩⟩
    obtain ⟨branch, hBranch, -, rfl⟩ := mem_entries_iff.mp hEntry
    obtain ⟨first, hFirst, rfl⟩ := Branch.mem_functions_iff.mp hFunction
    rw [Function.routes_forGroup hFirst, List.mem_filter, decide_eq_true_eq] at hRow
    rw [Function.name_forGroup, ← hRow.2]
    exact isFunctionName_functionName hBuild hBranch hRow.1
  · rintro before after rfl row hRow name
    refine exists_congr fun parts => and_congr_right fun hRule => ?_
    rw [spelling_append hRow hRule]
  · intro hAlike row hRow name
    refine exists_congr fun parts => and_congr_right fun hRule => ?_
    rw [spelling_eq hBuild hAlike hRow hRule]

/-- Rows whose namespaces are spelled in two ways, and share a module. -/
def versionRows : List Route :=
  [⟨"health", "GET", "/health", [.literal "health"], "apiV1/health#show", 2, false⟩,
    ⟨"api_v1_users", "GET", "/users", [.literal "users"], "api_v1/users#index", 3, false⟩]

def versionTree : ModuleTree :=
  ⟨⟨[], "Routes"⟩, .node [] [] [.node ["apiV1"] versionRows []]⟩

theorem build_versionRows : build "" "Routes" byController versionRows = .ok versionTree := by
  have hHealth : byController versionRows[0] = .ok ["apiV1"] := rfl
  have hUsers : byController versionRows[1] = .ok ["api_v1"] := rfl
  have hLayout : layout? "" "Routes" = .ok versionTree.layout := rfl
  have hGrow : grow byController [] emptyRoot versionRows = .ok versionTree.root := by
    refine grow_cons_eq_ok_iff.mpr ⟨by decide, ["apiV1"], hHealth, ?_⟩
    exact grow_cons_eq_ok_iff.mpr ⟨by decide, ["api_v1"], hUsers, rfl⟩
  rw [build, hLayout, hGrow]
  rfl

theorem functionNames_of_build_versionRows :
    build "" "Routes" byController versionRows = .ok versionTree ∧
      versionTree.shownRoutes.map (·.route) = versionRows ∧
      (∀ line ∈ versionTree.shownRoutes,
        IsFunctionName byController versionRows line.route line.function.name) ∧
      spelling byController versionRows ["ApiV1"] = ["apiV1"] ∧
      ∃ files, versionTree.files = .ok files ∧ versionTree.entries.map Prod.fst = files := by
  obtain ⟨files, hFiles⟩ := exists_eq_ok_of_isOk (by decide : versionTree.files.isOk = true)
  obtain ⟨⟨-, -, hShown⟩, hEmitted, -, -⟩ := functionNames_of_build build_versionRows
  exact ⟨build_versionRows, rfl, hShown, rfl, files, hFiles, (hEmitted files hFiles).1⟩

/-- The second row has its namespace in front of its name, but the first row spells that
namespace in another way, and nothing is dropped. -/
theorem functionName_ne_own :
    build "" "Routes" byController versionRows = .ok versionTree ∧
      byController versionRows[1] = .ok ["api_v1"] ∧
      Function.nameFor ["api_v1"] versionRows[1].name = "users" ∧
      versionTree.shownRoutes.map (·.function.name) = ["health", "api_v1_users"] ∧
      versionTree.entries.flatMap (fun entry => entry.2.functions.map (·.name)) =
        ["health", "api_v1_users"] :=
  ⟨build_versionRows, rfl, by decide, by decide, by decide⟩

end ModuleTree

end RoutePaths
