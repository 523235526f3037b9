import RoutePaths.Proofs.Module.Content

/-! The spelling of namespaces. A module is told by its path, and it keeps the
namespace of the route that first needed it, even if later routes spell that
namespace in another way. If all routes spell alike, no module tells them apart. -/
namespace RoutePaths
open Result

namespace Branch

/-- The modules on the way of a namespace are spelled as in that namespace. -/
def Spells (parts : List String) (branch : Branch) : Prop :=
  ∀ other ∈ branch.walk, ∀ front, front <+: parts → other.path = front.map Name.pascal →
    other.namespaceOf = front

theorem walk_fresh (parts : List String) : (fresh parts).walk = [fresh parts] :=
  walk_node parts [] []

theorem spells_fresh {parts front : List String} (h : front <+: parts) :
    (fresh front).Spells parts := by
  intro other hOther below hBelow hPath
  rw [walk_fresh, List.mem_singleton] at hOther
  subst hOther
  have hLength := congrArg List.length hPath
  rw [path, List.length_map, List.length_map] at hLength
  have hPrefix := List.prefix_of_prefix_length_le h hBelow (Nat.le_of_eq hLength)
  exact hPrefix.eq_of_length hLength

/-- A module below changed children is below an unchanged child, or below the
changed one. -/
theorem mem_flatMap_alter {picks : Branch → Bool} {new other : Branch} {change : Branch → Branch}
    {children : List Branch} (hOther : other ∈ (alter picks new change children).flatMap walk) :
    other ∈ children.flatMap walk ∨
      (∃ child ∈ children, picks child = true ∧ other ∈ (change child).walk) ∨
      other ∈ (change new).walk := by
  obtain ⟨child, hChild, hBelow⟩ := List.mem_flatMap.mp hOther
  rcases alter_cases picks new change children with
    ⟨before, picked, after, rfl, hPicks, hAlter⟩ | ⟨-, hAlter⟩
  · rw [hAlter, List.mem_append, List.mem_cons] at hChild
    rcases hChild with hChild | rfl | hChild
    · exact Or.inl (List.mem_flatMap.mpr ⟨child, by simp [hChild], hBelow⟩)
    · exact Or.inr (Or.inl ⟨picked, by simp, hPicks, hBelow⟩)
    · exact Or.inl (List.mem_flatMap.mpr ⟨child, by simp [hChild], hBelow⟩)
  · rw [hAlter, List.mem_append, List.mem_singleton] at hChild
    rcases hChild with hChild | rfl
    · exact Or.inl (List.mem_flatMap.mpr ⟨child, hChild, hBelow⟩)
    · exact Or.inr (Or.inr hBelow)

/-- On its way, an inserted route makes modules that are spelled as its namespace,
provided that those that are there already are spelled so too. -/
theorem Grown.namespaceOf_of_mem_insert {route : Route} {parts components : List String}
    {branch : Branch} (h : branch.Grown) (hSpells : branch.Spells parts)
    (hParts : branch.namespaceOf ++ components = parts) {other : Branch}
    (hOther : other ∈ (branch.insert route components).walk) :
    (∃ old ∈ branch.walk, old.namespaceOf = other.namespaceOf) ∨ other.namespaceOf <+: parts := by
  induction components generalizing branch with
  | nil =>
      obtain ⟨names, routes, children⟩ := branch
      rw [Branch.insert, walk_node] at hOther
      rcases List.mem_cons.mp hOther with rfl | hOther
      · exact Or.inl ⟨_, mem_walk_self _, rfl⟩
      · refine Or.inl ⟨other, ?_, rfl⟩
        rw [walk_node]
        exact List.mem_cons_of_mem _ hOther
  | cons component deeper ih =>
      cases h with
      | @node names routes children longer distinct below =>
          have hFront : names ++ [component] <+: parts := by
            refine ⟨deeper, ?_⟩
            rw [← hParts, namespaceOf, List.append_assoc, List.singleton_append]
          have hBelow {child : Branch} (hChild : child ∈ children) {old : Branch}
              (hOld : old ∈ child.walk) : old ∈ (Branch.node names routes children).walk :=
            mem_walk_trans (mem_walk_of_mem_children hChild) hOld
          rw [Branch.insert, walk_node] at hOther
          rcases List.mem_cons.mp hOther with rfl | hOther
          · exact Or.inl ⟨_, mem_walk_self _, rfl⟩
          rcases mem_flatMap_alter hOther with hOld | ⟨child, hChild, hFor, hOther⟩ | hOther
          · obtain ⟨child, hChild, hOld⟩ := List.mem_flatMap.mp hOld
            exact Or.inl ⟨other, hBelow hChild hOld, rfl⟩
          · have hName : child.namespaceOf = names ++ [component] := by
              apply hSpells child (hBelow hChild child.mem_walk_self) _ hFront
              rw [(path_eq_of_isFor (longer child hChild)).mp hFor, List.map_append,
                List.map_singleton]
            have hInner : child.Spells parts := fun old hOld => hSpells old (hBelow hChild hOld)
            have hNext : child.namespaceOf ++ deeper = parts := by
              rw [hName, ← hParts, namespaceOf, List.append_assoc, List.singleton_append]
            rcases ih (below child hChild) hInner hNext hOther with ⟨old, hOld, hSame⟩ | hPrefix
            · exact Or.inl ⟨old, hBelow hChild hOld, hSame⟩
            · exact Or.inr hPrefix
          · have hNext : (fresh (names ++ [component])).namespaceOf ++ deeper = parts := by
              rw [← hParts, fresh, namespaceOf, namespaceOf, List.append_assoc,
                List.singleton_append]
            rcases ih (grown_fresh _) (spells_fresh hFront) hNext hOther with
              ⟨old, hOld, hSame⟩ | hPrefix
            · rw [walk_fresh, List.mem_singleton] at hOld
              subst hOld
              exact Or.inr (hSame ▸ hFront)
            · exact Or.inr hPrefix

/-- Where routes are found below a module, there is a module at every path on the
way to them. -/
theorem Grown.exists_mem_walk {branch : Branch} (h : branch.Grown) {names front : List String}
    (hRoutes : branch.routesAt names ≠ []) (hFront : front <+: names) :
    ∃ other ∈ branch.walk, other.path = branch.path ++ front := by
  induction names generalizing branch front with
  | nil =>
      rw [List.prefix_nil] at hFront
      exact ⟨branch, branch.mem_walk_self, by rw [hFront, List.append_nil]⟩
  | cons name deeper ih =>
      rcases List.prefix_cons_iff.mp hFront with rfl | ⟨below, rfl, hBelow⟩
      · exact ⟨branch, branch.mem_walk_self, by rw [List.append_nil]⟩
      · rw [routesAt] at hRoutes
        split at hRoutes
        · rename_i child hFind
          have hChild := List.mem_of_find?_eq_some hFind
          have hWalk := mem_walk_of_mem_children hChild
          obtain ⟨other, hOther, hPath⟩ := ih (h.of_mem_walk hWalk) hRoutes hBelow
          obtain ⟨last, hLast⟩ := h.exists_path_child hChild
          have hNamed := List.find?_some hFind
          rw [isNamed, hLast, List.getLast?_concat, beq_iff_eq, Option.some.injEq] at hNamed
          refine ⟨other, mem_walk_trans hWalk hOther, ?_⟩
          rw [hPath, hLast, hNamed, List.append_assoc, List.singleton_append]
        · exact absurd rfl hRoutes

end Branch

namespace ModuleTree

/-- Whenever the namespaces of two routes, or the starts of them, belong to one
module, they are the same. -/
def SpelledAlike (rule : NamespaceRule) (rows : List Route) : Prop :=
  ∀ first ∈ rows, ∀ second ∈ rows, ∀ parts others, rule first = .ok parts →
    rule second = .ok others → ∀ front back, front <+: parts → back <+: others →
      front.map Name.pascal = back.map Name.pascal → front = back

/-- Every module but the root module is spelled as in the namespace of some row. -/
def SpelledFrom (rule : NamespaceRule) (rows : List Route) (root : Branch) : Prop :=
  ∀ branch ∈ root.walk, branch.namespaceOf = [] ∨
    ∃ row ∈ rows, ∃ parts, rule row = .ok parts ∧ branch.namespaceOf <+: parts

variable {rule : NamespaceRule} {rows : List Route} {tree : ModuleTree} {root : Branch}

/-- A module that is spelled as in one of the rows is spelled as in all of them, if
they spell alike. -/
theorem SpelledFrom.spells (h : SpelledFrom rule rows root) {all : List Route}
    (hAlike : SpelledAlike rule all) (hRows : ∀ row ∈ rows, row ∈ all) {row : Route}
    (hRow : row ∈ all) {parts : List String} (hRule : rule row = .ok parts) :
    root.Spells parts := by
  intro other hOther front hFront hPath
  rcases h other hOther with hTop | ⟨earlier, hEarlier, others, hOthers, hPrefix⟩
  · rw [Branch.path, hTop, List.map_nil, eq_comm, List.map_eq_nil_iff] at hPath
    rw [hTop, hPath]
  · exact hAlike earlier (hRows earlier hEarlier) row hRow others parts hOthers hRule _ _ hPrefix
      hFront hPath

theorem SpelledFrom.insert (h : SpelledFrom rule rows root) (hGrown : root.Grown)
    (hTop : root.namespaceOf = []) {row : Route} {parts : List String}
    (hAlike : SpelledAlike rule (rows ++ [row])) (hRule : rule row = .ok parts) :
    SpelledFrom rule (rows ++ [row]) (root.insert row parts) := by
  have hSpells : root.Spells parts :=
    h.spells hAlike (fun earlier => List.mem_append_left _) (by simp) hRule
  intro branch hBranch
  rcases hGrown.namespaceOf_of_mem_insert hSpells (by rw [hTop, List.nil_append]) hBranch with
    ⟨old, hOld, hSame⟩ | hPrefix
  · rw [← hSame]
    rcases h old hOld with hNone | ⟨earlier, hEarlier, hParts⟩
    · exact Or.inl hNone
    · exact Or.inr ⟨earlier, by simp [hEarlier], hParts⟩
  · exact Or.inr ⟨row, by simp, parts, hRule, hPrefix⟩

theorem SpelledAlike.subset {some : List Route} (h : SpelledAlike rule rows)
    (hSome : ∀ row ∈ some, row ∈ rows) : SpelledAlike rule some := by
  intro first hFirst second hSecond
  exact h first (hSome first hFirst) second (hSome second hSecond)

/-- Growing a tree from rows that spell alike adds no other spelling. -/
theorem spelledFrom_of_grow {rest seen : List Route} {root final : Branch}
    (hGrow : grow rule seen root rest = .ok final) (hGrown : root.Grown)
    (hTop : root.namespaceOf = []) (hAlike : SpelledAlike rule (seen.reverse ++ rest))
    (h : SpelledFrom rule seen.reverse root) : SpelledFrom rule (seen.reverse ++ rest) final := by
  induction rest generalizing seen root with
  | nil =>
      cases hGrow
      rwa [List.append_nil]
  | cons route rest ih =>
      obtain ⟨-, parts, hRule, hRest⟩ := grow_cons_eq_ok_iff.mp hGrow
      rw [List.append_cons] at hAlike ⊢
      have hFirst : SpelledAlike rule (seen.reverse ++ [route]) :=
        hAlike.subset fun row hRow => List.mem_append_left _ hRow
      have hStep := h.insert hGrown hTop hFirst hRule
      rw [← List.reverse_cons] at hAlike hStep ⊢
      exact ih hRest (hGrown.insert route parts) (by rw [Branch.namespaceOf_insert, hTop]) hAlike
        hStep

theorem spelledFrom_of_build {packages rootName : String}
    (hBuild : build packages rootName rule rows = .ok tree) (hAlike : SpelledAlike rule rows) :
    SpelledFrom rule rows tree.root := by
  simp only [build, bind_eq_ok_iff, pure, Except.pure, Except.ok.injEq] at hBuild
  obtain ⟨layout, -, root, hGrow, rfl⟩ := hBuild
  refine spelledFrom_of_grow hGrow (Branch.grown_fresh []) rfl hAlike ?_
  intro branch hBranch
  rw [emptyRoot, Branch.walk_fresh, List.mem_singleton] at hBranch
  subst hBranch
  exact Or.inl rfl

/-- Every start of the namespace of a row has a module. -/
theorem Holds.exists_path_eq (h : Holds rule tree.root rows) {row : Route} (hRow : row ∈ rows)
    {parts front : List String} (hRule : rule row = .ok parts) (hFront : front <+: parts) :
    ∃ branch ∈ tree.modules, branch.path = front.map Name.pascal := by
  have hFound : tree.root.routesAt (parts.map Name.pascal) ≠ [] := by
    rw [h.found]
    refine List.ne_nil_of_mem (List.mem_filter.mpr ⟨hRow, ?_⟩)
    rw [decide_eq_true_eq]
    exact target?_eq_some_iff.mpr ⟨parts, hRule, rfl⟩
  obtain ⟨branch, hBranch, hPath⟩ := h.grown.exists_mem_walk hFound (hFront.map Name.pascal)
  refine ⟨branch, hBranch, ?_⟩
  rw [hPath, Branch.path, h.top]
  rfl

end ModuleTree

end RoutePaths
