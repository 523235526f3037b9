import RoutePaths.Proofs.Module.Growth

/-! Which modules of a tree have content, and which children a module binds. Both
are decided by where the rule sends the rows. -/
namespace RoutePaths
open Result

namespace Branch

theorem hasContent_of_mem_children {branch child : Branch} (hChild : child ∈ branch.children)
    (hContent : child.hasContent = true) : branch.hasContent = true := by
  obtain ⟨parts, routes, children⟩ := branch
  rw [hasContent, Bool.or_eq_true, anyContent_iff]
  exact Or.inr ⟨child, hChild, hContent⟩

/-- Where routes are found below a module, the module has content. -/
theorem hasContent_of_routesAt {branch : Branch} {names : List String}
    (h : branch.routesAt names ≠ []) : branch.hasContent = true := by
  induction names generalizing branch with
  | nil => exact hasContent_iff.mpr ⟨branch, mem_walk_self branch, h⟩
  | cons name deeper ih =>
      rw [routesAt] at h
      split at h
      · rename_i child hFind
        exact hasContent_of_mem_children (List.mem_of_find?_eq_some hFind) (ih h)
      · exact absurd rfl h

theorem mem_walk_of_mem_children {branch child : Branch} (hChild : child ∈ branch.children) :
    child ∈ branch.walk := by
  obtain ⟨parts, routes, children⟩ := branch
  rw [walk_node]
  exact List.mem_cons_of_mem _ (List.mem_flatMap.mpr ⟨child, hChild, mem_walk_self child⟩)

/-- The modules below one that has grown have grown too. -/
theorem Grown.of_mem_walk {branch other : Branch} (h : branch.Grown)
    (hOther : other ∈ branch.walk) : other.Grown := by
  induction h with
  | @node parts routes children longer distinct below ih =>
      rw [walk_node] at hOther
      rcases List.mem_cons.mp hOther with rfl | hOther
      · exact .node longer distinct below
      · obtain ⟨child, hChild, hBelow⟩ := List.mem_flatMap.mp hOther
        exact ih child hChild hBelow

theorem Grown.exists_path_child {branch child : Branch} (h : branch.Grown)
    (hChild : child ∈ branch.children) : ∃ name, child.path = branch.path ++ [name] := by
  cases h with
  | node longer distinct below => exact exists_path_eq (longer child hChild)

/-- No module but the top one is without routes in it or below it. -/
inductive Filled : Branch → Prop
  | node {parts : List String} {routes : List Route} {children : List Branch}
    (content : ∀ child ∈ children, child.hasContent = true)
    (below : ∀ child ∈ children, Filled child) : Filled (.node parts routes children)

theorem filled_fresh (parts : List String) : (fresh parts).Filled :=
  .node (by simp) (by simp)

theorem hasContent_insert (route : Route) (components : List String) (branch : Branch) :
    (branch.insert route components).hasContent = true := by
  have hMem : route ∈ (branch.insert route components).allRoutes :=
    (perm_allRoutes_insert route components branch).mem_iff.mpr (List.mem_cons_self ..)
  obtain ⟨other, hOther, hRoute⟩ := List.mem_flatMap.mp hMem
  exact hasContent_iff.mpr ⟨other, hOther, List.ne_nil_of_mem hRoute⟩

/-- A route is put into a module that has content from then on, and so have all modules
on the way to it. -/
theorem Filled.insert {branch : Branch} (h : branch.Filled) (route : Route)
    (components : List String) : (branch.insert route components).Filled := by
  induction components generalizing branch with
  | nil =>
      cases h with
      | node content below => exact .node content below
  | cons component deeper ih =>
      cases h with
      | @node parts routes children content below =>
          rw [Branch.insert]
          rcases alter_cases (isFor component) (fresh (parts ++ [component]))
            (Branch.insert route deeper) children with
            ⟨before, child, after, rfl, -, hAlter⟩ | ⟨-, hAlter⟩
          · simp only [List.forall_mem_append, List.forall_mem_cons] at content below
            rw [hAlter]
            refine .node ?_ ?_
            · simp only [List.forall_mem_append, List.forall_mem_cons]
              exact ⟨content.1, hasContent_insert route deeper child, content.2.2⟩
            · simp only [List.forall_mem_append, List.forall_mem_cons]
              exact ⟨below.1, ih below.2.1, below.2.2⟩
          · rw [hAlter]
            refine .node ?_ ?_
            · simp only [List.forall_mem_append, List.forall_mem_singleton]
              exact ⟨content, hasContent_insert route deeper _⟩
            · simp only [List.forall_mem_append, List.forall_mem_singleton]
              exact ⟨below, ih (filled_fresh _)⟩

theorem Filled.of_mem_walk {branch other : Branch} (h : branch.Filled)
    (hOther : other ∈ branch.walk) : other.Filled := by
  induction h with
  | @node parts routes children content below ih =>
      rw [walk_node] at hOther
      rcases List.mem_cons.mp hOther with rfl | hOther
      · exact .node content below
      · obtain ⟨child, hChild, hBelow⟩ := List.mem_flatMap.mp hOther
        exact ih child hChild hBelow

/-- Something is generated for all children. -/
theorem Filled.emitting_eq {branch : Branch} (h : branch.Filled) :
    branch.emitting = branch.children := by
  cases h with
  | node content below => exact List.filter_eq_self.mpr content

/-- If the top module has content, all modules below it have. -/
theorem Filled.hasContent_of_mem_walk {branch other : Branch} (h : branch.Filled)
    (hContent : branch.hasContent = true) (hOther : other ∈ branch.walk) :
    other.hasContent = true := by
  induction h with
  | @node parts routes children content below ih =>
      rw [walk_node] at hOther
      rcases List.mem_cons.mp hOther with rfl | hOther
      · exact hContent
      · obtain ⟨child, hChild, hBelow⟩ := List.mem_flatMap.mp hOther
        exact ih child hChild (content child hChild) hBelow

/-- Below the top module, no module is empty. -/
theorem Filled.hasContent_of_ne {branch other : Branch} (h : branch.Filled)
    (hOther : other ∈ branch.walk) (hNe : other ≠ branch) : other.hasContent = true := by
  cases h with
  | node content below =>
      rw [walk_node] at hOther
      rcases List.mem_cons.mp hOther with rfl | hOther
      · exact absurd rfl hNe
      · obtain ⟨child, hChild, hBelow⟩ := List.mem_flatMap.mp hOther
        exact (below child hChild).hasContent_of_mem_walk (content child hChild) hBelow

theorem Filled.filter_walk {branch : Branch} (h : branch.Filled)
    (hContent : branch.hasContent = true) : branch.walk.filter (·.hasContent) = branch.walk :=
  List.filter_eq_self.mpr fun _ hOther => h.hasContent_of_mem_walk hContent hOther

theorem isNamed_of_path_eq {branch : Branch} {base : List String} {name : String}
    (h : branch.path = base ++ [name]) : branch.isNamed name = true := by
  simp [isNamed, h]

end Branch

namespace Layout

/-- The last component of a full name is that of the path. -/
theorem name_of_isNamed (layout : Layout) {branch : Branch} {name : String}
    (h : branch.isNamed name = true) : layout.name branch = name := by
  rw [Branch.isNamed, beq_iff_eq] at h
  have hBranch : branch.isRoot = false := by
    rw [Branch.isRoot, decide_eq_false_iff_not]
    intro hRoot
    rw [Branch.path, hRoot] at h
    cases h
  rw [Layout.name, Layout.qualified, hBranch, List.getLastD_eq_getLast?, if_neg Bool.false_ne_true,
    List.getLast?_append, h]
  rfl

end Layout

namespace ModuleTree

variable {rule : NamespaceRule} {tree : ModuleTree} {rows : List Route} {branch : Branch}

/-- What every insertion keeps is kept while a tree grows. -/
theorem grow_induction {P : Branch → Prop}
    (hInsert : ∀ (root : Branch) (route : Route) (parts : List String), P root →
      P (root.insert route parts))
    {seen rest : List Route} {root final : Branch} (hGrow : grow rule seen root rest = .ok final)
    (hRoot : P root) : P final := by
  induction rest generalizing seen root with
  | nil =>
      cases hGrow
      exact hRoot
  | cons route rest ih =>
      obtain ⟨-, parts, -, hRest⟩ := grow_cons_eq_ok_iff.mp hGrow
      exact ih hRest (hInsert root route parts hRoot)

theorem filled_of_build {packages rootName : String}
    (hBuild : build packages rootName rule rows = .ok tree) : tree.root.Filled := by
  simp only [build, bind_eq_ok_iff, pure, Except.pure, Except.ok.injEq] at hBuild
  obtain ⟨layout, -, root, hGrow, rfl⟩ := hBuild
  exact grow_induction (fun _ route parts h => h.insert route parts) hGrow
    (Branch.filled_fresh [])

/-- The root module has content exactly if there are routes at all. -/
theorem Holds.hasContent_root (h : Holds rule tree.root rows) :
    tree.root.hasContent = true ↔ rows ≠ [] := by
  rw [Branch.hasContent_iff]
  constructor
  · rintro ⟨other, hOther, hRoutes⟩ rfl
    exact hRoutes (List.flatMap_eq_nil_iff.mp h.all.eq_nil other hOther)
  · intro hRows
    by_contra hNone
    have hEmpty : tree.root.allRoutes = [] := by
      rw [Branch.allRoutes, List.flatMap_eq_nil_iff]
      intro other hOther
      by_contra hRoutes
      exact hNone ⟨other, hOther, hRoutes⟩
    have hPerm := h.all
    rw [hEmpty] at hPerm
    exact hRows hPerm.nil_eq.symm

/-- A module has content exactly if the rule sends a row to it or below it. -/
theorem Holds.hasContent_iff (h : Holds rule tree.root rows) (hBranch : branch ∈ tree.modules) :
    branch.hasContent = true ↔
      ∃ row ∈ rows, ∃ deeper, target? rule row = some (branch.path ++ deeper) := by
  constructor
  · intro hContent
    obtain ⟨other, hOther, hRoutes⟩ := Branch.hasContent_iff.mp hContent
    obtain ⟨row, hRow⟩ := List.exists_mem_of_ne_nil _ hRoutes
    obtain ⟨deeper, hPath, -⟩ := (h.grown.of_mem_walk hBranch).exists_routesAt other hOther
    rw [h.routes_eq (Branch.mem_walk_trans hBranch hOther), List.mem_filter,
      decide_eq_true_eq] at hRow
    exact ⟨row, hRow.1, deeper, by rw [hRow.2, hPath]⟩
  · rintro ⟨row, hRow, deeper, hTarget⟩
    apply Branch.hasContent_of_routesAt
    rw [h.routesAt_eq hBranch deeper]
    exact List.ne_nil_of_mem (List.mem_filter.mpr ⟨hRow, by simpa using hTarget⟩)

/-- The children that a module binds are those to which, or below which, the rule
sends a row. -/
theorem Holds.mem_names_iff (h : Holds rule tree.root rows) (hBranch : branch ∈ tree.modules)
    (layout : Layout) {name : String} :
    name ∈ branch.emitting.map layout.name ↔
      ∃ row ∈ rows, ∃ deeper, target? rule row = some (branch.path ++ name :: deeper) := by
  have hGrown := h.grown.of_mem_walk hBranch
  constructor
  · intro hName
    obtain ⟨child, hChild, rfl⟩ := List.mem_map.mp hName
    obtain ⟨hChild, hContent⟩ := List.mem_filter.mp hChild
    obtain ⟨last, hPath⟩ := hGrown.exists_path_child hChild
    have hMem := Branch.mem_walk_trans hBranch (Branch.mem_walk_of_mem_children hChild)
    obtain ⟨row, hRow, deeper, hTarget⟩ := (h.hasContent_iff hMem).mp hContent
    refine ⟨row, hRow, deeper, ?_⟩
    rw [hTarget, hPath, layout.name_of_isNamed (Branch.isNamed_of_path_eq hPath)]
    simp
  · rintro ⟨row, hRow, deeper, hTarget⟩
    have hFound : branch.routesAt (name :: deeper) ≠ [] := by
      rw [h.routesAt_eq hBranch]
      exact List.ne_nil_of_mem (List.mem_filter.mpr ⟨hRow, by simpa using hTarget⟩)
    rw [Branch.routesAt] at hFound
    split at hFound
    · rename_i child hFind
      refine List.mem_map.mpr ⟨child, List.mem_filter.mpr ⟨List.mem_of_find?_eq_some hFind, ?_⟩, ?_⟩
      · exact Branch.hasContent_of_routesAt hFound
      · exact layout.name_of_isNamed (List.find?_some hFind)
    · exact absurd rfl hFound

/-- No two children are bound to one name. -/
theorem Holds.nodup_names (h : Holds rule tree.root rows) (hBranch : branch ∈ tree.modules)
    (layout : Layout) : (branch.emitting.map layout.name).Nodup := by
  have hGrown := h.grown.of_mem_walk hBranch
  have hPaths : (branch.emitting.map layout.name).map (fun name => branch.path ++ [name]) =
      branch.emitting.map Branch.path := by
    rw [List.map_map]
    apply List.map_congr_left
    intro child hChild
    obtain ⟨name, hPath⟩ := hGrown.exists_path_child (List.mem_of_mem_filter hChild)
    rw [Function.comp_apply, layout.name_of_isNamed (Branch.isNamed_of_path_eq hPath), hPath]
  have hDistinct : (branch.children.map Branch.path).Nodup := by
    cases hGrown with
    | node longer distinct below => exact distinct
  apply List.Nodup.of_map (fun name => branch.path ++ [name])
  rw [hPaths]
  exact hDistinct.sublist (List.filter_sublist.map Branch.path)

end ModuleTree

end RoutePaths
