import RoutePaths.Module.Grouping
import RoutePaths.Proofs.Module.Insertion
import RoutePaths.Proofs.Result
import Mathlib.Data.List.Nodup

/-! Trees of modules as they grow. Every module is told by its path, so that
the routes of a module are those that the rule sends to its path. -/
namespace RoutePaths
open Result

namespace Branch

/-- The shape that trees keep while they grow: the namespace of a child has one
component more than that of its parent, and no two children of a module share
a path. -/
inductive Grown : Branch → Prop
  | node {parts : List String} {routes : List Route} {children : List Branch}
    (longer : ∀ child ∈ children, ∃ component, child.namespaceOf = parts ++ [component])
    (distinct : (children.map path).Nodup)
    (below : ∀ child ∈ children, Grown child) : Grown (.node parts routes children)

theorem grown_fresh (parts : List String) : (fresh parts).Grown :=
  .node (by simp) List.nodup_nil (by simp)

theorem path_eq_of_isFor {component : String} {parts : List String} {child : Branch}
    (hLonger : ∃ other, child.namespaceOf = parts ++ [other]) :
    isFor component child = true ↔ child.path = parts.map Name.pascal ++ [Name.pascal component] := by
  obtain ⟨other, hOther⟩ := hLonger
  simp [isFor, path, hOther]

/-- Inserting a route keeps the shape of the tree. -/
theorem Grown.insert {branch : Branch} (h : branch.Grown) (route : Route)
    (components : List String) : (branch.insert route components).Grown := by
  induction components generalizing branch with
  | nil =>
      cases h with
      | node longer distinct below => exact .node longer distinct below
  | cons component deeper ih =>
      cases h with
      | @node parts routes children longer distinct below =>
          rw [Branch.insert]
          rcases alter_cases (isFor component) (fresh (parts ++ [component]))
            (Branch.insert route deeper) children with
            ⟨before, child, after, rfl, -, hAlter⟩ | ⟨hNone, hAlter⟩
          · rw [hAlter]
            simp only [List.forall_mem_append, List.forall_mem_cons] at longer below
            refine .node ?_ ?_ ?_
            · simp only [List.forall_mem_append, List.forall_mem_cons, namespaceOf_insert]
              exact longer
            · rw [List.map_append, List.map_cons, path_insert, ← List.map_cons, ← List.map_append]
              exact distinct
            · simp only [List.forall_mem_append, List.forall_mem_cons]
              exact ⟨below.1, ih below.2.1, below.2.2⟩
          · rw [hAlter]
            refine .node ?_ ?_ ?_
            · simp only [List.forall_mem_append, List.forall_mem_singleton, namespaceOf_insert]
              exact ⟨longer, component, rfl⟩
            · rw [List.map_append, List.map_singleton, path_insert, List.nodup_append']
              refine ⟨distinct, List.nodup_singleton _, ?_⟩
              intro other hOther hNew
              obtain ⟨child, hChild, rfl⟩ := List.mem_map.mp hOther
              have hPath : child.path = parts.map Name.pascal ++ [Name.pascal component] := by
                rw [List.mem_singleton.mp hNew]
                simp [path, fresh, namespaceOf]
              have hFor := (path_eq_of_isFor (longer child hChild)).mpr hPath
              rw [hNone child hChild] at hFor
              cases hFor
            · simp only [List.forall_mem_append, List.forall_mem_singleton]
              exact ⟨below, ih (grown_fresh _)⟩

/-- Among children of one module, a child is found by the last component of its
path. -/
theorem find?_isNamed {base : List String} {children : List Branch}
    (hPaths : ∀ child ∈ children, ∃ name, child.path = base ++ [name])
    (hDistinct : (children.map path).Nodup) {child : Branch} (hChild : child ∈ children)
    {name : String} (hName : child.path = base ++ [name]) :
    children.find? (isNamed name) = some child := by
  induction children with
  | nil => cases hChild
  | cons first rest ih =>
      rw [List.forall_mem_cons] at hPaths
      rw [List.map_cons, List.nodup_cons] at hDistinct
      rcases List.mem_cons.mp hChild with rfl | hRest
      · exact List.find?_cons_of_pos (by simp [isNamed, hName])
      · obtain ⟨other, hOther⟩ := hPaths.1
        have hNe : other ≠ name := by
          rintro rfl
          exact hDistinct.1 (List.mem_map.mpr ⟨child, hRest, hName.trans hOther.symm⟩)
        rw [List.find?_cons_of_neg (by simp [isNamed, hOther, hNe])]
        exact ih hPaths.2 hDistinct.2 hRest

theorem exists_path_eq {parts : List String} {child : Branch}
    (hLonger : ∃ component, child.namespaceOf = parts ++ [component]) :
    ∃ name, child.path = parts.map Name.pascal ++ [name] := by
  obtain ⟨component, hComponent⟩ := hLonger
  exact ⟨Name.pascal component, by simp [path, hComponent]⟩

/-- Every module is found at its path. -/
theorem Grown.exists_moduleAt? {branch : Branch} (h : branch.Grown) :
    ∀ other ∈ branch.walk,
      ∃ names, other.path = branch.path ++ names ∧ moduleAt? names branch = some other := by
  induction h with
  | @node parts routes children longer distinct below ih =>
      intro other hOther
      rw [walk_node] at hOther
      rcases List.mem_cons.mp hOther with rfl | hOther
      · exact ⟨[], by simp, rfl⟩
      · obtain ⟨child, hChild, hOther⟩ := List.mem_flatMap.mp hOther
        obtain ⟨names, hPath, hFound⟩ := ih child hChild other hOther
        obtain ⟨name, hName⟩ := exists_path_eq (longer child hChild)
        have hFind := find?_isNamed (fun child hChild => exists_path_eq (longer child hChild))
          distinct hChild hName
        refine ⟨name :: names, ?_, ?_⟩
        · rw [hPath, hName, List.append_assoc]
          rfl
        · rw [moduleAt?, Branch.children, hFind]
          exact hFound

/-- Every module lies at its path, and what is found below it is found there. -/
theorem Grown.exists_routesAt {branch : Branch} (h : branch.Grown) :
    ∀ other ∈ branch.walk,
      ∃ names, other.path = branch.path ++ names ∧
        ∀ deeper, routesAt (names ++ deeper) branch = routesAt deeper other := by
  intro other hOther
  obtain ⟨names, hPath, hFound⟩ := h.exists_moduleAt? other hOther
  exact ⟨names, hPath, routesAt_append hFound⟩

/-- No two modules of the tree share a path. -/
theorem Grown.nodup_paths {branch : Branch} (h : branch.Grown) : (branch.walk.map path).Nodup := by
  induction h with
  | @node parts routes children longer distinct below ih =>
      have hBelow {child : Branch} (hChild : child ∈ children) {names : List String}
          (hNames : names ∈ child.walk.map path) : ∃ rest, names = child.path ++ rest := by
        obtain ⟨other, hOther, rfl⟩ := List.mem_map.mp hNames
        obtain ⟨rest, hRest, -⟩ := (below child hChild).exists_routesAt other hOther
        exact ⟨rest, hRest⟩
      rw [walk_node, List.map_cons, List.nodup_cons, List.map_flatMap]
      constructor
      · intro hMem
        obtain ⟨child, hChild, hNames⟩ := List.mem_flatMap.mp hMem
        obtain ⟨rest, hRest⟩ := hBelow hChild hNames
        obtain ⟨name, hName⟩ := exists_path_eq (longer child hChild)
        have hLength := congrArg List.length hRest
        rw [hName] at hLength
        simp only [path, namespaceOf, List.length_append, List.length_cons] at hLength
        omega
      · rw [List.nodup_flatMap]
        refine ⟨ih, (List.pairwise_map.mp distinct).imp_of_mem ?_⟩
        intro child other hChild hOther hNe names hNames hNames'
        obtain ⟨rest, hRest⟩ := hBelow hChild hNames
        obtain ⟨rest', hRest'⟩ := hBelow hOther hNames'
        obtain ⟨name, hName⟩ := exists_path_eq (longer child hChild)
        obtain ⟨name', hName'⟩ := exists_path_eq (longer other hOther)
        have hLength : child.path.length = other.path.length := by
          rw [hName, hName', List.length_append, List.length_append]
          rfl
        exact hNe (List.append_inj (hRest.symm.trans hRest') hLength).1

end Branch

namespace ModuleTree

/-- Where a rule sends a route: the path of a module, if the rule has an
answer. -/
def target? (rule : NamespaceRule) (route : Route) : Option (List String) :=
  (rule route).toOption.map (·.map Name.pascal)

theorem target?_eq_some_iff {rule : NamespaceRule} {route : Route} {names : List String} :
    target? rule route = some names ↔
      ∃ parts, rule route = .ok parts ∧ parts.map Name.pascal = names := by
  unfold target?
  cases rule route with
  | error error => simp [Except.toOption]
  | ok parts => simp [Except.toOption]

/-- The tree holds the given rows, and each of them where the rule sends it. -/
structure Holds (rule : NamespaceRule) (root : Branch) (rows : List Route) : Prop where
  top : root.namespaceOf = []
  grown : root.Grown
  found : ∀ names, root.routesAt names = rows.filter (target? rule · = some names)
  all : root.allRoutes.Perm rows
  nodup : rows.Nodup

theorem holds_emptyRoot (rule : NamespaceRule) : Holds rule emptyRoot [] where
  top := rfl
  grown := Branch.grown_fresh []
  found names := Branch.routesAt_fresh [] names
  all := List.Perm.refl _
  nodup := List.nodup_nil

theorem Holds.insert {rule : NamespaceRule} {root : Branch} {rows : List Route}
    (h : Holds rule root rows) {route : Route} {parts : List String}
    (hRule : rule route = .ok parts) (hNew : route ∉ rows) :
    Holds rule (root.insert route parts) (rows ++ [route]) where
  top := by rw [Branch.namespaceOf_insert, h.top]
  grown := h.grown.insert route parts
  found names := by
    have hTarget : target? rule route = some (parts.map Name.pascal) :=
      target?_eq_some_iff.mpr ⟨parts, hRule, rfl⟩
    rw [Branch.routesAt_insert, h.found, List.filter_append]
    congr 1
    by_cases hNames : names = parts.map Name.pascal
    · simp [hNames, hTarget]
    · simp [hTarget, hNames, Ne.symm hNames]
  all := by
    refine (Branch.perm_allRoutes_insert route parts root).trans ?_
    exact (h.all.cons route).trans (List.perm_append_singleton route rows).symm
  nodup := by
    rw [← List.concat_eq_append]
    exact h.nodup.concat hNew

theorem grow_cons_eq_ok_iff {rule : NamespaceRule} {seen rest : List Route} {root final : Branch}
    {route : Route} :
    grow rule seen root (route :: rest) = .ok final ↔
      seen.find? (sameEntry route) = none ∧
        ∃ parts, rule route = .ok parts ∧
          grow rule (route :: seen) (root.insert route parts) rest = .ok final := by
  rw [grow]
  cases seen.find? (sameEntry route) with
  | some first => simp
  | none =>
      cases rule route with
      | error error => simp
      | ok parts => simp

/-- A tree can be grown exactly if the rule has an answer for each route and no
two routes are the same to the table. -/
theorem exists_grow_iff {rule : NamespaceRule} {routes seen : List Route} {root : Branch} :
    (∃ final, grow rule seen root routes = .ok final) ↔
      (∀ route ∈ routes, ∃ parts, rule route = .ok parts) ∧
        (∀ route ∈ routes, ∀ earlier ∈ seen, sameEntry route earlier = false) ∧
        routes.Pairwise fun earlier route => sameEntry route earlier = false := by
  induction routes generalizing seen root with
  | nil => simp [grow]
  | cons route rest ih =>
      simp only [grow_cons_eq_ok_iff, List.find?_eq_none, List.forall_mem_cons, List.pairwise_cons,
        Bool.not_eq_true]
      constructor
      · rintro ⟨final, hNew, parts, hRule, hRest⟩
        obtain ⟨hRules, hSeen, hPairs⟩ := ih.mp ⟨final, hRest⟩
        refine ⟨⟨⟨parts, hRule⟩, hRules⟩, ⟨hNew, ?_⟩, ?_, hPairs⟩
        · exact fun later hLater earlier hEarlier =>
            hSeen later hLater earlier (List.mem_cons_of_mem _ hEarlier)
        · exact fun later hLater => hSeen later hLater route (List.mem_cons_self ..)
      · rintro ⟨⟨⟨parts, hRule⟩, hRules⟩, ⟨hNew, hSeen⟩, hLater, hPairs⟩
        have hAll : ∀ later ∈ rest, ∀ earlier ∈ route :: seen, sameEntry later earlier = false :=
          fun later hMem => List.forall_mem_cons.mpr ⟨hLater later hMem, hSeen later hMem⟩
        obtain ⟨final, hRest⟩ := ih.mpr ⟨hRules, hAll, hPairs⟩
        exact ⟨final, hNew, parts, hRule, hRest⟩

/-- Growing a tree keeps what it holds, and adds the given rows. -/
theorem holds_of_grow {rule : NamespaceRule} {rest seen : List Route} {root final : Branch}
    (hGrow : grow rule seen root rest = .ok final) (h : Holds rule root seen.reverse) :
    Holds rule final (seen.reverse ++ rest) := by
  induction rest generalizing seen root with
  | nil =>
      cases hGrow
      rwa [List.append_nil]
  | cons route rest ih =>
      obtain ⟨hFind, parts, hRule, hRest⟩ := grow_cons_eq_ok_iff.mp hGrow
      have hNew : route ∉ seen.reverse := by
        intro hMem
        have hSame := List.find?_eq_none.mp hFind route (List.mem_reverse.mp hMem)
        simp [sameEntry] at hSame
      have hStep := h.insert hRule hNew
      rw [← List.reverse_cons] at hStep
      have hFinal := ih hRest hStep
      rwa [List.reverse_cons, List.append_assoc, List.singleton_append] at hFinal

/-- The tree of routes holds them all. -/
theorem holds_of_build {packages rootName : String} {rule : NamespaceRule} {routes : List Route}
    {tree : ModuleTree} (hBuild : build packages rootName rule routes = .ok tree) :
    Holds rule tree.root routes := by
  simp only [build, bind_eq_ok_iff, pure, Except.pure, Except.ok.injEq] at hBuild
  obtain ⟨layout, -, root, hGrow, rfl⟩ := hBuild
  exact holds_of_grow hGrow (holds_emptyRoot rule)

variable {rule : NamespaceRule} {tree : ModuleTree} {rows : List Route}

theorem Holds.path_root (h : Holds rule tree.root rows) : tree.root.path = [] := by
  rw [Branch.path, h.top]
  rfl

/-- The routes at a path below a module are those that the rule sends there. -/
theorem Holds.routesAt_eq (h : Holds rule tree.root rows) {branch : Branch}
    (hBranch : branch ∈ tree.modules) (deeper : List String) :
    branch.routesAt deeper = rows.filter (target? rule · = some (branch.path ++ deeper)) := by
  obtain ⟨names, hPath, hRoutes⟩ := h.grown.exists_routesAt branch hBranch
  rw [h.path_root, List.nil_append] at hPath
  rw [← hRoutes, h.found, hPath]

/-- The routes of a module are those that the rule sends to its path. -/
theorem Holds.routes_eq (h : Holds rule tree.root rows) {branch : Branch}
    (hBranch : branch ∈ tree.modules) :
    branch.routes = rows.filter (target? rule · = some branch.path) := by
  have hRoutes := h.routesAt_eq hBranch []
  rwa [List.append_nil] at hRoutes

end ModuleTree

end RoutePaths
