import RoutePaths.Module.Tree
import Mathlib.Data.List.Perm.Basic

/-! Putting routes into a tree of modules. The routes of the tree as a whole,
and those found at a path, each gain the new route and nothing else. -/
namespace RoutePaths.Branch

/-- Induction over a module and the modules below it. -/
@[elab_as_elim]
theorem induction_on_children {P : Branch → Prop}
    (node : ∀ parts routes children, (∀ child ∈ children, P child) →
      P (.node parts routes children))
    (branch : Branch) : P branch :=
  match branch with
  | .node parts routes children =>
    node parts routes children fun child _ => induction_on_children node child

theorem walkAll_eq_flatMap (branches : List Branch) : walkAll branches = branches.flatMap walk := by
  induction branches with
  | nil => rfl
  | cons child rest ih => rw [walkAll, List.flatMap_cons, ih]

@[simp] theorem walk_node (parts : List String) (routes : List Route) (children : List Branch) :
    walk (.node parts routes children) = .node parts routes children :: children.flatMap walk := by
  rw [walk, walkAll_eq_flatMap]

theorem anyContent_iff {branches : List Branch} :
    anyContent branches = true ↔ ∃ child ∈ branches, child.hasContent = true := by
  induction branches with
  | nil => simp [anyContent]
  | cons child rest ih => simp [anyContent, ih]

/-- A module has content exactly if some module of its walk has routes. -/
theorem hasContent_iff {branch : Branch} :
    branch.hasContent = true ↔ ∃ other ∈ branch.walk, other.routes ≠ [] := by
  induction branch using induction_on_children with
  | node parts routes children ih =>
      rw [hasContent, walk_node, Bool.or_eq_true, anyContent_iff, List.exists_mem_cons_iff]
      refine or_congr ?_ ?_
      · simp [Branch.routes]
      · simp only [List.mem_flatMap]
        constructor
        · rintro ⟨child, hChild, hContent⟩
          obtain ⟨other, hOther, hRoutes⟩ := (ih child hChild).mp hContent
          exact ⟨other, ⟨child, hChild, hOther⟩, hRoutes⟩
        · rintro ⟨other, ⟨child, hChild, hOther⟩, hRoutes⟩
          exact ⟨child, hChild, (ih child hChild).mpr ⟨other, hOther, hRoutes⟩⟩

theorem mem_walk_self (branch : Branch) : branch ∈ branch.walk := by
  cases branch
  rw [walk_node]
  exact List.mem_cons_self ..

theorem mem_walk_trans {top branch other : Branch} (hBranch : branch ∈ top.walk)
    (hOther : other ∈ branch.walk) : other ∈ top.walk := by
  induction top using induction_on_children with
  | node parts routes children ih =>
      rw [walk_node] at hBranch
      rcases List.mem_cons.mp hBranch with rfl | hBranch
      · exact hOther
      · obtain ⟨child, hChild, hBelow⟩ := List.mem_flatMap.mp hBranch
        rw [walk_node]
        exact List.mem_cons_of_mem _ (List.mem_flatMap.mpr ⟨child, hChild, ih child hChild hBelow⟩)

/-- Changing a child changes the first one that the test picks, or adds a
changed new one. -/
theorem alter_cases (picks : Branch → Bool) (new : Branch) (change : Branch → Branch)
    (children : List Branch) :
    (∃ before child after, children = before ++ child :: after ∧ picks child = true ∧
        alter picks new change children = before ++ change child :: after) ∨
      (∀ child ∈ children, picks child = false) ∧
        alter picks new change children = children ++ [change new] := by
  induction children with
  | nil => exact Or.inr ⟨by simp, rfl⟩
  | cons child rest ih =>
      rw [alter]
      cases hPicks : picks child with
      | true => exact Or.inl ⟨[], child, rest, rfl, hPicks, rfl⟩
      | false =>
          rcases ih with ⟨before, picked, after, rfl, hPicked, hAlter⟩ | ⟨hNone, hAlter⟩
          · refine Or.inl ⟨child :: before, picked, after, rfl, hPicked, ?_⟩
            simp [hAlter]
          · refine Or.inr ⟨?_, by simp [hAlter]⟩
            intro other hOther
            rcases List.mem_cons.mp hOther with rfl | hOther
            · exact hPicks
            · exact hNone other hOther

/-- What is inserted into a module changes no namespace of it. -/
theorem namespaceOf_insert (route : Route) (components : List String) (branch : Branch) :
    (branch.insert route components).namespaceOf = branch.namespaceOf := by
  cases branch
  cases components <;> rfl

theorem path_insert (route : Route) (components : List String) (branch : Branch) :
    (branch.insert route components).path = branch.path := by
  rw [path, namespaceOf_insert, path]

/-- The routes of a module and of all modules below it. -/
def allRoutes (branch : Branch) : List Route :=
  branch.walk.flatMap routes

@[simp] theorem allRoutes_node (parts : List String) (routes : List Route)
    (children : List Branch) :
    allRoutes (.node parts routes children) = routes ++ children.flatMap allRoutes := by
  rw [allRoutes, walk_node, List.flatMap_cons, List.flatMap_assoc]
  rfl

/-- A route that is inserted is there once, and nothing is lost. -/
theorem perm_allRoutes_insert (route : Route) (components : List String) (branch : Branch) :
    (branch.insert route components).allRoutes.Perm (route :: branch.allRoutes) := by
  induction components generalizing branch with
  | nil =>
      cases branch
      rw [insert, allRoutes_node, allRoutes_node, List.append_assoc]
      exact List.perm_middle
  | cons component deeper ih =>
      obtain ⟨parts, routes, children⟩ := branch
      rw [insert, allRoutes_node, allRoutes_node]
      refine List.Perm.trans (List.Perm.append_left _ ?_) List.perm_middle
      rcases alter_cases (isFor component) (fresh (parts ++ [component])) (insert route deeper)
        children with ⟨before, child, after, rfl, -, hAlter⟩ | ⟨-, hAlter⟩
      · rw [hAlter, List.flatMap_append, List.flatMap_append, List.flatMap_cons, List.flatMap_cons]
        exact (List.Perm.append_left _ ((ih child).append_right _)).trans List.perm_middle
      · rw [hAlter, List.flatMap_append, List.flatMap_singleton]
        have hFresh := ih (fresh (parts ++ [component]))
        exact (List.Perm.append_left _ hFresh).trans List.perm_append_comm

/-- The last component of the path is the given one. -/
def isNamed (name : String) (branch : Branch) : Bool :=
  branch.path.getLast? == some name

/-- The routes at a path below a module. There are none where there is no
module. -/
def routesAt : List String → Branch → List Route
  | [], branch => branch.routes
  | name :: deeper, branch =>
    match branch.children.find? (isNamed name) with
    | some child => routesAt deeper child
    | none => []

theorem routesAt_node_cons (parts : List String) (routes : List Route) (children : List Branch)
    (name : String) (deeper : List String) :
    routesAt (name :: deeper) (.node parts routes children) =
      match children.find? (isNamed name) with
      | some child => routesAt deeper child
      | none => [] :=
  rfl

theorem routesAt_fresh (parts names : List String) : routesAt names (fresh parts) = [] := by
  cases names <;> rfl

/-- The module at a path below a module. -/
def moduleAt? : List String → Branch → Option Branch
  | [], branch => some branch
  | name :: deeper, branch =>
    match branch.children.find? (isNamed name) with
    | some child => moduleAt? deeper child
    | none => none

theorem routesAt_append {names : List String} {branch other : Branch}
    (h : moduleAt? names branch = some other) (deeper : List String) :
    routesAt (names ++ deeper) branch = routesAt deeper other := by
  induction names generalizing branch with
  | nil =>
      cases h
      rfl
  | cons name rest ih =>
      rw [moduleAt?] at h
      rw [List.cons_append, routesAt]
      cases hFind : branch.children.find? (isNamed name) with
      | none =>
          rw [hFind] at h
          cases h
      | some child =>
          rw [hFind] at h
          exact ih h

/-- Changing the child of a name concerns the search for that name only. -/
theorem find?_alter {name : String} {new : Branch} {change : Branch → Branch}
    (hPath : ∀ branch, (change branch).path = branch.path) (hNew : isNamed name new = true)
    (children : List Branch) (other : String) :
    (alter (isNamed name) new change children).find? (isNamed other) =
      if other = name then some (change ((children.find? (isNamed name)).getD new))
      else children.find? (isNamed other) := by
  have hNamed (name : String) (branch : Branch) :
      isNamed name (change branch) = isNamed name branch := by
    rw [isNamed, hPath, isNamed]
  have hOther {branch : Branch} (hBranch : isNamed name branch = true) :
      isNamed other branch = decide (other = name) := by
    rw [isNamed, beq_iff_eq] at hBranch
    rw [isNamed, hBranch]
    by_cases hEq : name = other
    · simp [hEq]
    · simp [hEq, Ne.symm hEq]
  induction children with
  | nil =>
      rw [alter, List.find?_cons, hNamed, hOther hNew]
      by_cases hEq : other = name <;> simp [hEq]
  | cons child rest ih =>
      rw [alter]
      cases hChild : isNamed name child with
      | true =>
          rw [if_pos rfl, List.find?_cons, List.find?_cons, List.find?_cons, hNamed, hOther hChild,
            hChild]
          by_cases hEq : other = name <;> simp [hEq]
      | false =>
          rw [if_neg Bool.false_ne_true, List.find?_cons, List.find?_cons, List.find?_cons, ih,
            hChild]
          by_cases hEq : other = name
          · simp [hEq, hChild]
          · simp [hEq]

/-- A route that is inserted is found behind the others at its path, and
nowhere else. -/
theorem routesAt_insert (route : Route) (components names : List String) (branch : Branch) :
    routesAt names (branch.insert route components) =
      routesAt names branch ++ if names = components.map Name.pascal then [route] else [] := by
  induction components generalizing branch names with
  | nil =>
      obtain ⟨parts, routes, children⟩ := branch
      cases names with
      | nil => rfl
      | cons name deeper => exact (List.append_nil _).symm
  | cons component deeper ih =>
      obtain ⟨parts, routes, children⟩ := branch
      cases names with
      | nil => simp [insert, routesAt, Branch.routes]
      | cons name below =>
          have hNew : isNamed (Name.pascal component) (fresh (parts ++ [component])) = true := by
            simp [isNamed, path, fresh, namespaceOf]
          have hFind := find?_alter (path_insert route deeper) hNew children name
          rw [insert, routesAt_node_cons, routesAt_node_cons]
          rw [show isFor component = isNamed (Name.pascal component) from rfl, hFind]
          by_cases hName : name = Name.pascal component
          · rw [if_pos hName, hName]
            cases children.find? (isNamed (Name.pascal component)) with
            | some child => simp [ih]
            | none => simp [ih, routesAt_fresh]
          · rw [if_neg hName]
            simp [hName]

end RoutePaths.Branch
