import RoutePaths.Proofs.Firsts
import RoutePaths.Proofs.Module.Location
import RoutePaths.Proofs.Module.Spelling

/-! Trees as groupings of their rows. Each row is in the module at the path of its namespace,
and the modules stand in the order in which the rows first need them. -/
namespace RoutePaths
open Firsts Result

namespace Branch

/-- The names of the child modules, in their order. -/
def childNames (branch : Branch) : List String :=
  branch.children.filterMap (·.path.getLast?)

/-- The names of the child modules at a path below a module. -/
def childNamesAt (names : List String) (branch : Branch) : List String :=
  match moduleAt? names branch with
  | some other => other.childNames
  | none => []

/-- The name that follows on a path behind its first names. -/
def nextName? (front path : List String) : Option String :=
  if front.isPrefixOf path then path[front.length]? else none

theorem nextName?_nil_right (front : List String) : nextName? front [] = none := by
  cases front <;> rfl

theorem nextName?_cons (name first : String) (deeper rest : List String) :
    nextName? (name :: deeper) (first :: rest) =
      if name = first then nextName? deeper rest else none := by
  by_cases hName : name = first
  · simp [nextName?, hName]
  · simp [nextName?, hName]

theorem mem_childNames_iff {branch : Branch} {name : String} :
    name ∈ branch.childNames ↔ ∃ child ∈ branch.children, child.isNamed name = true := by
  simp [childNames, isNamed, List.mem_filterMap]

theorem childNamesAt_node_cons (parts : List String) (routes : List Route) (children : List Branch)
    (name : String) (deeper : List String) :
    childNamesAt (name :: deeper) (.node parts routes children) =
      match children.find? (isNamed name) with
      | some child => childNamesAt deeper child
      | none => [] := by
  rw [childNamesAt, moduleAt?, Branch.children]
  cases children.find? (isNamed name) <;> rfl

theorem childNamesAt_fresh (parts names : List String) : childNamesAt names (fresh parts) = [] := by
  cases names <;> rfl

/-- Changing the child of a name adds the name behind the others, unless it is there. -/
theorem childNames_alter {parts : List String} {routes : List Route} {name : String} {new : Branch}
    {change : Branch → Branch} (hPath : ∀ branch, (change branch).path = branch.path)
    (hNew : isNamed name new = true) (children : List Branch) :
    childNames (.node parts routes (alter (isNamed name) new change children)) =
      childNames (.node parts routes children) ++
        [name].filter (· ∉ childNames (.node parts routes children)) := by
  have hMem : name ∈ childNames (.node parts routes children) ↔
      ∃ child ∈ children, child.isNamed name = true := mem_childNames_iff
  rw [isNamed, beq_iff_eq] at hNew
  rcases alter_cases (isNamed name) new change children with
    ⟨before, child, after, rfl, hChild, hAlter⟩ | ⟨hNone, hAlter⟩
  · have hThere := hMem.mpr ⟨child, by simp, hChild⟩
    rw [hAlter, List.filter_cons_of_neg (by simpa using hThere), List.filter_nil, List.append_nil]
    simp [childNames, Branch.children, List.filterMap_append, List.filterMap_cons, hPath]
  · have hMissing : name ∉ childNames (.node parts routes children) := by
      rw [hMem]
      rintro ⟨child, hChild, hNamed⟩
      rw [hNone child hChild] at hNamed
      cases hNamed
    rw [hAlter, List.filter_cons_of_pos (by simpa using hMissing), List.filter_nil]
    simp [childNames, Branch.children, List.filterMap_append, hPath, hNew]

/-- A route that is inserted adds one name to those at each path on its way, unless the name is
there. -/
theorem childNamesAt_insert (route : Route) (components names : List String) (branch : Branch) :
    childNamesAt names (branch.insert route components) =
      childNamesAt names branch ++
        (nextName? names (components.map Name.pascal)).toList.filter
          (· ∉ childNamesAt names branch) := by
  induction components generalizing branch names with
  | nil =>
      obtain ⟨parts, routes, children⟩ := branch
      rw [List.map_nil, nextName?_nil_right]
      cases names with
      | nil => exact (List.append_nil _).symm
      | cons name deeper =>
          rw [insert, childNamesAt_node_cons, childNamesAt_node_cons]
          exact (List.append_nil _).symm
  | cons component deeper ih =>
      obtain ⟨parts, routes, children⟩ := branch
      have hNew : isNamed (Name.pascal component) (fresh (parts ++ [component])) = true := by
        simp [isNamed, path, fresh, namespaceOf]
      cases names with
      | nil => exact childNames_alter (path_insert route deeper) hNew children
      | cons name below =>
          have hFind := find?_alter (path_insert route deeper) hNew children name
          rw [insert, childNamesAt_node_cons, childNamesAt_node_cons, List.map_cons, nextName?_cons]
          rw [show isFor component = isNamed (Name.pascal component) from rfl, hFind]
          by_cases hName : name = Name.pascal component
          · rw [if_pos hName, if_pos hName, hName]
            cases children.find? (isNamed (Name.pascal component)) with
            | some child => simp [ih]
            | none => simp [ih, childNamesAt_fresh]
          · rw [if_neg hName, if_neg hName]
            exact (List.append_nil _).symm

end Branch

namespace ModuleTree
open Branch

variable {packages rootName : String} {rule : NamespaceRule} {rows : List Route} {tree : ModuleTree}

/-- For each row that goes into a module below the given path, the next name on its way. -/
def nextNames (rule : NamespaceRule) (names : List String) (rows : List Route) : List String :=
  rows.filterMap fun row => (target? rule row).bind (nextName? names)

theorem nextNames_concat {row : Route} {parts : List String} (hRule : rule row = .ok parts)
    (names : List String) (rows : List Route) :
    nextNames rule names (rows ++ [row]) =
      nextNames rule names rows ++ (nextName? names (parts.map Name.pascal)).toList := by
  have hTarget : target? rule row = some (parts.map Name.pascal) :=
    target?_eq_some_iff.mpr ⟨parts, hRule, rfl⟩
  rw [nextNames, List.filterMap_append, List.filterMap_cons, hTarget, Option.bind_some]
  cases nextName? names (parts.map Name.pascal) <;> rfl

/-- At each path the children stand in the order in which the rows first need them. -/
def Ordered (rule : NamespaceRule) (root : Branch) (rows : List Route) : Prop :=
  ∀ names, childNamesAt names root = firsts id (nextNames rule names rows)

theorem ordered_emptyRoot (rule : NamespaceRule) : Ordered rule emptyRoot [] :=
  fun names => childNamesAt_fresh [] names

theorem Ordered.insert {root : Branch} (h : Ordered rule root rows) {row : Route}
    {parts : List String} (hRule : rule row = .ok parts) :
    Ordered rule (root.insert row parts) (rows ++ [row]) := by
  intro names
  rw [childNamesAt_insert, h names, nextNames_concat hRule]
  cases nextName? names (parts.map Name.pascal) with
  | none => simp
  | some name => exact (firsts_id_concat _ name).symm

/-- Growing a tree keeps its children in order. -/
theorem ordered_of_grow {seen rest : List Route} {root final : Branch}
    (hGrow : grow rule seen root rest = .ok final) (h : Ordered rule root seen.reverse) :
    Ordered rule final (seen.reverse ++ rest) := by
  induction rest generalizing seen root with
  | nil =>
      cases hGrow
      rwa [List.append_nil]
  | cons route rest ih =>
      obtain ⟨-, parts, hRule, hRest⟩ := grow_cons_eq_ok_iff.mp hGrow
      have hStep := h.insert hRule
      rw [← List.reverse_cons] at hStep
      have hFinal := ih hRest hStep
      rwa [List.reverse_cons, List.append_assoc, List.singleton_append] at hFinal

theorem ordered_of_build (hBuild : build packages rootName rule rows = .ok tree) :
    Ordered rule tree.root rows := by
  simp only [build, bind_eq_ok_iff, pure, Except.pure, Except.ok.injEq] at hBuild
  obtain ⟨layout, -, root, hGrow, rfl⟩ := hBuild
  exact ordered_of_grow hGrow (ordered_emptyRoot rule)

/-- In a tree that has grown, children go by the last component of their paths. -/
theorem childNames_eq_map {branch : Branch} (h : branch.Grown) (layout : Layout) :
    branch.childNames = branch.children.map layout.name := by
  have hName : ∀ child ∈ branch.children, child.path.getLast? = some (layout.name child) := by
    intro child hChild
    obtain ⟨name, hPath⟩ := h.exists_path_child hChild
    rw [layout.name_of_isNamed (isNamed_of_path_eq hPath), hPath, List.getLast?_concat]
  rw [childNames, List.filterMap_congr hName, List.filterMap_eq_map']

theorem Holds.map_name_children (h : Holds rule tree.root rows) (hOrdered : Ordered rule tree.root rows)
    {branch : Branch} (hBranch : branch ∈ tree.modules) :
    branch.children.map tree.layout.name = firsts id (nextNames rule branch.path rows) := by
  obtain ⟨names, hPath, hFound⟩ := h.grown.exists_moduleAt? branch hBranch
  rw [h.path_root, List.nil_append] at hPath
  rw [← childNames_eq_map (h.grown.of_mem_walk hBranch), hPath, ← hOrdered names, childNamesAt, hFound]

/-- The modules of a tree are the groups of its rows: how they are named, which rows they hold
and in which order they stand follows from the namespaces of the rows. -/
structure Groups (packages rootName : String) (namespaceFor : Route → List String)
    (rows : List Route) (tree : ModuleTree) : Prop where
  root : tree.root.path = []
  distinct : (tree.modules.map Branch.path).Nodup
  path : ∀ branch ∈ tree.modules, branch.path = branch.namespaceOf.map Name.pascal
  child : ∀ branch ∈ tree.modules, ∀ child ∈ branch.children,
    child.path = branch.path ++ [tree.layout.name child] ∧
      (∃ component, child.namespaceOf = branch.namespaceOf ++ [component]) ∧
      branch.children.find? (isNamed (tree.layout.name child)) = some child
  qualified : ∀ branch ∈ tree.modules, tree.layout.qualified branch =
    Name.dottedParts packages ++ if branch.path = [] then [rootName] else branch.path
  routes : ∀ branch ∈ tree.modules,
    branch.routes = rows.filter fun row => (namespaceFor row).map Name.pascal = branch.path
  placed : ∀ row ∈ rows, ∃ branch ∈ tree.modules, branch.path = (namespaceFor row).map Name.pascal
  children : ∀ branch ∈ tree.modules, branch.children.map tree.layout.name =
    firsts id (rows.filterMap fun row => nextName? branch.path ((namespaceFor row).map Name.pascal))
  content : ∀ branch ∈ tree.modules, branch.path ≠ [] → branch.hasContent = true

/-- A child goes by its name, which is the last component of its path and tells it from the other
children. -/
theorem Holds.of_mem_children (h : Holds rule tree.root rows) {branch child : Branch}
    (hBranch : branch ∈ tree.modules) (hChild : child ∈ branch.children) :
    child.path = branch.path ++ [tree.layout.name child] ∧
      (∃ component, child.namespaceOf = branch.namespaceOf ++ [component]) ∧
      branch.children.find? (isNamed (tree.layout.name child)) = some child := by
  cases h.grown.of_mem_walk hBranch with
  | @node parts routes children longer distinct below =>
      obtain ⟨name, hPath⟩ := Branch.exists_path_eq (longer child hChild)
      have hFind := find?_isNamed (fun child hChild => Branch.exists_path_eq (longer child hChild))
        distinct hChild hPath
      rw [tree.layout.name_of_isNamed (isNamed_of_path_eq hPath)]
      exact ⟨hPath, longer child hChild, hFind⟩

/-- A tree can be built of rows that the rule has an answer for, if no two of them share a name
and a verb. -/
theorem exists_build (hRootName : Name.isLegal rootName = true)
    (hPackages : Name.isDotted packages = true) (hRule : ∀ row ∈ rows, ∃ parts, rule row = .ok parts)
    (hDistinct : (rows.map fun row => (row.name, row.verb)).Nodup) :
    ∃ tree, build packages rootName rule rows = .ok tree := by
  have hPairs : rows.Pairwise fun earlier row => sameEntry row earlier = false := by
    refine (List.pairwise_map.mp hDistinct).imp ?_
    intro earlier row hNe
    rw [← Bool.not_eq_true, sameEntry, Bool.and_eq_true, beq_iff_eq, beq_iff_eq]
    rintro ⟨hName, hVerb⟩
    exact hNe (by rw [hName, hVerb])
  have hNone : ∀ row ∈ rows, ∀ earlier ∈ [], sameEntry row earlier = false := by simp
  obtain ⟨root, hGrow⟩ : ∃ root, grow rule [] emptyRoot rows = .ok root :=
    exists_grow_iff.mpr ⟨hRule, hNone, hPairs⟩
  have hLayout : layout? packages rootName = .ok ⟨Name.dottedParts packages, rootName⟩ :=
    layout?_eq_ok_iff.mpr ⟨hRootName, hPackages, rfl⟩
  refine ⟨⟨⟨Name.dottedParts packages, rootName⟩, root⟩, ?_⟩
  simp only [build, bind_eq_ok_iff, pure, Except.pure, Except.ok.injEq]
  exact ⟨_, hLayout, root, hGrow, rfl⟩

/-- Rows of which no two share a name and a verb are grouped into the modules of a tree, whatever
their namespaces are. -/
theorem exists_build_groups {namespaceFor : Route → List String}
    (hRootName : Name.isLegal rootName = true) (hPackages : Name.isDotted packages = true)
    (hRule : ∀ row ∈ rows, rule row = .ok (namespaceFor row))
    (hDistinct : (rows.map fun row => (row.name, row.verb)).Nodup) :
    ∃ tree, build packages rootName rule rows = .ok tree ∧
      Groups packages rootName namespaceFor rows tree := by
  obtain ⟨tree, hBuild⟩ := exists_build hRootName hPackages
    (fun row hRow => ⟨_, hRule row hRow⟩) hDistinct
  have hHolds := holds_of_build hBuild
  have hTarget : ∀ row ∈ rows, target? rule row = some ((namespaceFor row).map Name.pascal) :=
    fun row hRow => target?_eq_some_iff.mpr ⟨_, hRule row hRow, rfl⟩
  refine ⟨tree, hBuild, ?_⟩
  constructor
  case root => exact hHolds.path_root
  case distinct => exact hHolds.grown.nodup_paths
  case path => exact fun branch _ => rfl
  case child => exact fun branch hBranch child hChild => hHolds.of_mem_children hBranch hChild
  case qualified =>
    intro branch _
    rw [Layout.qualified_eq, packages_of_build hBuild, rootName_of_build hBuild]
  case routes =>
    intro branch hBranch
    rw [hHolds.routes_eq hBranch]
    apply List.filter_congr
    intro row hRow
    rw [hTarget row hRow, decide_eq_decide, Option.some.injEq]
  case placed =>
    intro row hRow
    exact hHolds.exists_path_eq hRow (hRule row hRow) (List.prefix_refl _)
  case children =>
    intro branch hBranch
    rw [hHolds.map_name_children (ordered_of_build hBuild) hBranch, nextNames]
    congr 1
    apply List.filterMap_congr
    intro row hRow
    rw [hTarget row hRow, Option.bind_some]
  case content =>
    intro branch hBranch hPath
    refine (filled_of_build hBuild).hasContent_of_ne hBranch ?_
    rintro rfl
    exact hPath hHolds.path_root

/-- Rows of four modules. Two of them spell one namespace in different ways, and the module
between two others is needed before it has rows of its own. -/
def mixedRows : List Route :=
  [⟨"root", "GET", "/", [], "home#index", 2, false⟩,
    ⟨"sales", "GET", "/sales", [.literal "sales"], "admin/reports/sales#index", 3, false⟩,
    ⟨"status", "GET", "/status", [.literal "status"], "api_v1/status#show", 4, false⟩,
    ⟨"admins", "GET", "/admins", [.literal "admins"], "admin/users#index", 5, false⟩,
    ⟨"health", "GET", "/health", [.literal "health"], "apiV1/health#show", 6, false⟩]

/-- The namespaces of the rows. -/
def mixedNamespace (row : Route) : List String :=
  (byController row).toOption.getD []

theorem exists_build_groups_mixedRows :
    Name.isLegal "Routes" = true ∧ Name.isDotted "my.app" = true ∧
      (∀ row ∈ mixedRows, byController row = .ok (mixedNamespace row)) ∧
      (mixedRows.map fun row => (row.name, row.verb)).Nodup ∧
      ∃ tree, build "my.app" "Routes" byController mixedRows = .ok tree ∧
        Groups "my.app" "Routes" mixedNamespace mixedRows tree ∧
        tree.root.children.map tree.layout.name = ["Admin", "ApiV1"] := by
  have hRootName : Name.isLegal "Routes" = true := by decide
  have hPackages : Name.isDotted "my.app" = true := by decide
  have hRule : ∀ row ∈ mixedRows, byController row = .ok (mixedNamespace row) := by decide
  have hDistinct : (mixedRows.map fun row => (row.name, row.verb)).Nodup := by decide
  obtain ⟨tree, hBuild, hGroups⟩ := exists_build_groups hRootName hPackages hRule hDistinct
  refine ⟨hRootName, hPackages, hRule, hDistinct, tree, hBuild, hGroups, ?_⟩
  rw [hGroups.children tree.root tree.root.mem_walk_self, hGroups.root]
  decide

end ModuleTree

end RoutePaths
