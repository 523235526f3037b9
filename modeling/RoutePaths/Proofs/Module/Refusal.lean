import RoutePaths.Proofs.Module.Location

/-! Why no tree is built. The names of the root module and of the packages are looked at first,
and the routes one by one after that. The first route with the name and the verb of an earlier
one is refused, wherever the two would go in the tree. -/
namespace RoutePaths
open Result

namespace Name

/-- A name that a module can have: an identifier that is no keyword. -/
def IsModuleName (name : String) : Prop :=
  Text.isIdentifier name.toList = true ∧ name ∉ keywords

/-- A path that packages can have: such names, joined by dots, or nothing. -/
def IsPackagePath (path : String) : Prop :=
  path = "" ∨ ∃ names, names ≠ [] ∧ (∀ name ∈ names, IsModuleName name) ∧
    path = ".".intercalate names

theorem isLegal_iff_isModuleName {name : String} : isLegal name = true ↔ IsModuleName name := by
  simp [isLegal, IsModuleName]

theorem intercalate_dottedParts {path : String} (h : path ≠ "") :
    dottedParts path ≠ [] ∧ path = ".".intercalate (dottedParts path) := by
  rw [dottedParts, if_neg h]
  refine ⟨by simp, ?_⟩
  rw [← String.toList_inj, String.toList_intercalate, List.map_map]
  simp only [Function.comp_def, String.toList_ofList, List.map_id']
  exact (List.intercalate_splitOn '.').symm

theorem isDotted_iff_isPackagePath {path : String} : isDotted path = true ↔ IsPackagePath path := by
  rw [isDotted_iff]
  constructor
  · intro h
    by_cases hEmpty : path = ""
    · exact Or.inl hEmpty
    · obtain ⟨hSome, hPath⟩ := intercalate_dottedParts hEmpty
      exact Or.inr ⟨_, hSome, fun name hName => isLegal_iff_isModuleName.mp (h name hName), hPath⟩
  · rintro (rfl | ⟨names, -, hNames, rfl⟩)
    · simp [dottedParts]
    · rw [dottedParts_intercalate fun name hName => (hNames name hName).1]
      exact fun name hName => isLegal_iff_isModuleName.mpr (hNames name hName)

end Name

namespace ModuleTree

/-- What a table tells routes apart by. -/
def keyOf (route : Route) : String × String :=
  (route.name, route.verb)

/-- The second route is the first one to have the name and the verb of an earlier route, and the
first route is the earlier one. No two routes in front of the second one agree. -/
def FirstRepeat (routes : List Route) (earlier again : Route) : Prop :=
  ∃ before between after, routes = before ++ earlier :: between ++ again :: after ∧
    keyOf again = keyOf earlier ∧ ((before ++ earlier :: between).map keyOf).Nodup

variable {routes seen rest : List Route} {route earlier again : Route} {rule : NamespaceRule}
  {packages rootName : String}

theorem sameEntry_iff : sameEntry again earlier = true ↔ keyOf again = keyOf earlier := by
  simp [sameEntry, keyOf]

theorem sameEntry_eq_false_iff :
    sameEntry again earlier = false ↔ keyOf earlier ≠ keyOf again := by
  rw [← Bool.not_eq_true, sameEntry_iff, eq_comm]

theorem FirstRepeat.not_nodup (h : FirstRepeat routes earlier again) :
    ¬ (routes.map keyOf).Nodup := by
  obtain ⟨before, between, after, rfl, hSame, -⟩ := h
  intro hNodup
  rw [List.map_append, List.map_cons, List.nodup_append'] at hNodup
  refine hNodup.2.2 ?_ (List.mem_cons_self ..)
  rw [hSame]
  simp

/-- Routes that agree on nothing do not reach beyond a route that repeats one in front of it. -/
theorem length_le_of_nodup {front back other more : List Route}
    (hSplit : front ++ route :: back = other ++ more) (hRoute : keyOf route ∈ front.map keyOf)
    (hOther : (other.map keyOf).Nodup) : other.length ≤ front.length := by
  by_contra hLonger
  have hFront : front ++ [route] <+: front ++ route :: back := ⟨back, by simp⟩
  have hPrefix : front ++ [route] <+: other := by
    refine List.prefix_of_prefix_length_le hFront (hSplit ▸ List.prefix_append other more) ?_
    simp only [List.length_append, List.length_singleton]
    omega
  have hNodup := hOther.sublist (hPrefix.sublist.map keyOf)
  rw [List.map_append, List.nodup_append'] at hNodup
  exact hNodup.2.2 hRoute (by simp)

theorem FirstRepeat.unique {earlier' again' : Route} (h : FirstRepeat routes earlier again)
    (h' : FirstRepeat routes earlier' again') : earlier = earlier' ∧ again = again' := by
  obtain ⟨before, between, after, rfl, hSame, hNodup⟩ := h
  obtain ⟨before', between', after', hSplit, hSame', hNodup'⟩ := h'
  have hMem : keyOf again ∈ (before ++ earlier :: between).map keyOf := by simp [hSame]
  have hMem' : keyOf again' ∈ (before' ++ earlier' :: between').map keyOf := by simp [hSame']
  have hLength := Nat.le_antisymm (length_le_of_nodup hSplit.symm hMem' hNodup)
    (length_le_of_nodup hSplit hMem hNodup')
  obtain ⟨hFront, hBack⟩ := List.append_inj hSplit hLength
  obtain ⟨rfl, -⟩ := List.cons.inj hBack
  refine ⟨List.inj_on_of_nodup_map hNodup (by simp) ?_ (hSame.symm.trans hSame'), rfl⟩
  rw [hFront]
  simp

/-- A tree grows up to the first route that repeats one of those that have been put into it. The
rule has an answer for every route. -/
theorem grow_cases (hRule : ∀ route, ∃ parts, rule route = .ok parts) (root : Branch)
    (hSeen : (seen.reverse.map keyOf).Nodup) :
    (∃ final, grow rule seen root rest = .ok final) ∨
      ∃ earlier again, FirstRepeat (seen.reverse ++ rest) earlier again ∧
        grow rule seen root rest =
          .error (.ambiguous again.name again.verb earlier.line again.line) := by
  induction rest generalizing seen root with
  | nil => exact Or.inl ⟨root, rfl⟩
  | cons route rest ih =>
      cases hFind : seen.find? (sameEntry route) with
      | some earlier =>
          obtain ⟨before, between, hSplit⟩ :=
            List.append_of_mem (List.mem_reverse.mpr (List.mem_of_find?_eq_some hFind))
          refine Or.inr ⟨earlier, route, ⟨before, between, rest, by rw [hSplit], ?_, ?_⟩, ?_⟩
          · exact sameEntry_iff.mp (List.find?_some hFind)
          · rwa [← hSplit]
          · rw [grow, hFind]
      | none =>
          obtain ⟨parts, hParts⟩ := hRule route
          have hNew : ((route :: seen).reverse.map keyOf).Nodup := by
            rw [List.reverse_cons, List.map_append, List.map_singleton, ← List.concat_eq_append]
            refine hSeen.concat ?_
            rw [List.mem_map]
            rintro ⟨earlier, hEarlier, hSame⟩
            exact List.find?_eq_none.mp hFind earlier (List.mem_reverse.mp hEarlier)
              (sameEntry_iff.mpr hSame.symm)
          have hStep := ih (root.insert route parts) hNew
          rw [List.reverse_cons, List.append_assoc, List.singleton_append] at hStep
          rwa [grow, hFind, hParts]

theorem nodup_of_grow {root final : Branch} (h : grow rule [] root routes = .ok final) :
    (routes.map keyOf).Nodup := by
  obtain ⟨-, -, hPairs⟩ := exists_grow_iff.mp ⟨final, h⟩
  exact List.pairwise_map.mpr (hPairs.imp sameEntry_eq_false_iff.mp)

/-- Names that are in order leave everything to the routes. -/
theorem layout?_cases (packages rootName : String) :
    (¬ Name.IsModuleName rootName ∧ layout? packages rootName = .error (.badRootName rootName)) ∨
      (Name.IsModuleName rootName ∧ ¬ Name.IsPackagePath packages ∧
        layout? packages rootName = .error (.badPackages packages)) ∨
      (Name.IsModuleName rootName ∧ Name.IsPackagePath packages ∧
        ∃ layout, layout? packages rootName = .ok layout) := by
  rw [← Name.isLegal_iff_isModuleName, ← Name.isDotted_iff_isPackagePath, layout?]
  cases Name.isLegal rootName <;> cases Name.isDotted packages <;> simp

/-- Building ends in one of four ways, whatever the namespaces are. The root module and the
packages have to have names that modules can have. Then there is a tree, unless two routes have
the same name and verb; and then the first route to repeat an earlier one is reported, with the
lines of the two. -/
theorem build_ends (packages rootName : String) (namespaceFor : Route → List String)
    (routes : List Route) :
    let built := build packages rootName (fun route => .ok (namespaceFor route)) routes
    (built = .error (.badRootName rootName) ↔ ¬ Name.IsModuleName rootName) ∧
      (built = .error (.badPackages packages) ↔
        Name.IsModuleName rootName ∧ ¬ Name.IsPackagePath packages) ∧
      ((∃ name verb first second, built = .error (.ambiguous name verb first second)) ↔
        Name.IsModuleName rootName ∧ Name.IsPackagePath packages ∧
          ¬ (routes.map keyOf).Nodup) ∧
      (∀ name verb first second, built = .error (.ambiguous name verb first second) ↔
        Name.IsModuleName rootName ∧ Name.IsPackagePath packages ∧
          ∃ earlier again, FirstRepeat routes earlier again ∧ again.name = name ∧
            again.verb = verb ∧ earlier.line = first ∧ again.line = second) ∧
      ((∃ tree, built = .ok tree) ↔
        Name.IsModuleName rootName ∧ Name.IsPackagePath packages ∧
          (routes.map keyOf).Nodup) := by
  intro built
  have hBuilt : built = (do
      let layout ← layout? packages rootName
      let root ← grow (fun route => .ok (namespaceFor route)) [] emptyRoot routes
      return ⟨layout, root⟩) := rfl
  rcases layout?_cases packages rootName with
    ⟨hRoot, hLayout⟩ | ⟨hRoot, hPackages, hLayout⟩ | ⟨hRoot, hPackages, layout, hLayout⟩
  · have hError : built = .error (.badRootName rootName) := by rw [hBuilt, hLayout]; rfl
    simp [hError, hRoot]
  · have hError : built = .error (.badPackages packages) := by rw [hBuilt, hLayout]; rfl
    simp [hError, hRoot, hPackages]
  · have hStart : (([] : List Route).reverse.map keyOf).Nodup := List.nodup_nil
    rcases grow_cases (fun route => ⟨namespaceFor route, rfl⟩) emptyRoot hStart with
      ⟨root, hGrow⟩ | ⟨earlier, again, hRepeat, hGrow⟩
    · have hOk : built = .ok ⟨layout, root⟩ := by rw [hBuilt, hLayout, hGrow]; rfl
      have hNodup := nodup_of_grow hGrow
      have hNone : ∀ earlier again, ¬ FirstRepeat routes earlier again :=
        fun earlier again hRepeat => hRepeat.not_nodup hNodup
      simp [hOk, hRoot, hPackages, hNodup, hNone]
    · have hError : built =
          .error (.ambiguous again.name again.verb earlier.line again.line) := by
        rw [hBuilt, hLayout, hGrow]; rfl
      simp only [List.reverse_nil, List.nil_append] at hRepeat
      have hNodup : ¬ (routes.map keyOf).Nodup := hRepeat.not_nodup
      refine ⟨by simp [hError, hRoot], by simp [hError, hPackages], ?_, ?_, ?_⟩
      · simp [hError, hRoot, hPackages, hNodup]
      · intro name verb first second
        simp only [hError, Except.error.injEq, Error.ambiguous.injEq, hRoot, hPackages, true_and]
        constructor
        · exact fun h => ⟨earlier, again, hRepeat, h⟩
        · rintro ⟨earlier', again', hRepeat', h⟩
          obtain ⟨rfl, rfl⟩ := hRepeat.unique hRepeat'
          exact h
      · simp [hError, hNodup]

end ModuleTree

end RoutePaths
