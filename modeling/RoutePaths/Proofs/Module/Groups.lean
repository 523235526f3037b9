import RoutePaths.Module.Basic
import RoutePaths.Proofs.Firsts
import RoutePaths.Proofs.Result
import Mathlib.Data.List.Induction

/-! The groups of the rows of a module. There is one for each function name,
and it holds all rows of that name, in table order. Grouping fails exactly if
some row has the function name of an earlier one without repeating its
route. -/
namespace RoutePaths
open Firsts Result

/-- The names of the functions of a module, by its rows. -/
def Branch.functionName (branch : Branch) (route : Route) : String :=
  Function.nameFor branch.namespaceOf route.name

namespace RouteGroup

/-- The row is a further one for the route of another: it took its name from
the row above, and it has the name and the path of the other row. -/
def Repeats (row first : Route) : Prop :=
  row.inherited = true ∧ first.name = row.name ∧ first.segments = row.segments

theorem admits_iff {group : RouteGroup} {route : Route} :
    group.admits route = true ↔ Repeats route group.first := by
  simp [admits, Repeats, and_assoc]

/-- The group that a row starts among given rows. -/
def ofFirst (nameOf : Route → String) (routes : List Route) (first : Route) : RouteGroup :=
  ⟨nameOf first, first, (routes.filter (nameOf · = nameOf first)).tail⟩

/-- The groups of rows, one for each name that a row has. -/
def groupsOf (nameOf : Route → String) (routes : List Route) : List RouteGroup :=
  (firsts nameOf routes).map (ofFirst nameOf routes)

/-- Every row repeats the first one of its name, or is that row. -/
def Agree (nameOf : Route → String) (routes : List Route) : Prop :=
  ∀ before row after first, routes = before ++ row :: after →
    before.find? (nameOf · = nameOf row) = some first → Repeats row first

variable {module name : String} {route : Route} {groups : List RouteGroup}

/-- A row of a new name starts a group, behind all others. -/
theorem add_of_not_mem (h : name ∉ groups.map (·.name)) :
    add module name route groups = .ok (groups ++ [⟨name, route, []⟩]) := by
  induction groups with
  | nil => rfl
  | cons group rest ih =>
      rw [List.map_cons, List.mem_cons, not_or] at h
      rw [add, if_neg (Ne.symm h.1), ih h.2]
      rfl

/-- A row joins the group of its name, if the group admits it. -/
theorem add_of_mem {group : RouteGroup} (hNodup : (groups.map (·.name)).Nodup)
    (hMem : group ∈ groups) :
    add module group.name route groups =
      if group.admits route then
        .ok (groups.map fun other =>
          if other.name = group.name then { other with others := other.others ++ [route] }
          else other)
      else .error ⟨module, group.name, .route group.first.label, .route route.label⟩ := by
  induction groups with
  | nil => cases hMem
  | cons head rest ih =>
      rw [List.map_cons, List.nodup_cons] at hNodup
      rcases List.mem_cons.mp hMem with rfl | hRest
      · have hOthers : (rest.map fun other =>
            if other.name = group.name then { other with others := other.others ++ [route] }
            else other) = rest := by
          refine (List.map_congr_left fun other hOther => ?_).trans (List.map_id rest)
          rw [if_neg fun hEq => hNodup.1 (List.mem_map.mpr ⟨other, hOther, hEq⟩)]
          rfl
        rw [add, if_pos rfl, List.map_cons, if_pos rfl, hOthers]
      · have hNe : head.name ≠ group.name := fun hEq =>
          hNodup.1 (List.mem_map.mpr ⟨group, hRest, hEq.symm⟩)
        rw [add, if_neg hNe, ih hNodup.2 hRest, List.map_cons, if_neg hNe]
        split <;> rfl

variable {nameOf : Route → String} {routes : List Route}

theorem map_name_groupsOf :
    (groupsOf nameOf routes).map (·.name) = (firsts nameOf routes).map nameOf := by
  rw [groupsOf, List.map_map]
  rfl

theorem map_first_groupsOf :
    (groupsOf nameOf routes).map (·.first) = firsts nameOf routes := by
  rw [groupsOf, List.map_map]
  exact List.map_id _

/-- What a further row changes in the groups. -/
theorem groupsOf_concat :
    groupsOf nameOf (routes ++ [route]) =
      if nameOf route ∈ routes.map nameOf then
        (groupsOf nameOf routes).map fun group =>
          if group.name = nameOf route then { group with others := group.others ++ [route] }
          else group
      else groupsOf nameOf routes ++ [⟨nameOf route, route, []⟩] := by
  have hKept (first : Route) (hFirst : first ∈ firsts nameOf routes) :
      ofFirst nameOf (routes ++ [route]) first =
        if nameOf first = nameOf route then
          { ofFirst nameOf routes first with
            others := (ofFirst nameOf routes first).others ++ [route] }
        else ofFirst nameOf routes first := by
    have hNe : routes.filter (nameOf · = nameOf first) ≠ [] :=
      List.ne_nil_of_mem (List.mem_filter.mpr ⟨mem_of_mem_firsts nameOf hFirst, by simp⟩)
    by_cases hName : nameOf first = nameOf route
    · rw [if_pos hName]
      simp only [ofFirst, List.filter_append, List.tail_append_of_ne_nil hNe]
      simp [hName]
    · have hNone : [route].filter (nameOf · = nameOf first) = [] := by
        simpa using fun hEq => hName hEq.symm
      rw [if_neg hName]
      simp only [ofFirst, List.filter_append, hNone, List.append_nil]
  rw [groupsOf, firsts_concat]
  split
  · rw [List.append_nil, groupsOf, List.map_map]
    exact List.map_congr_left hKept
  · rename_i hNew
    have hEmpty : routes.filter (nameOf · = nameOf route) = [] := by
      rw [List.filter_eq_nil_iff]
      intro other hOther
      rw [decide_eq_true_eq]
      exact fun hEq => hNew (List.mem_map.mpr ⟨other, hOther, hEq⟩)
    rw [List.map_append, groupsOf]
    congr 1
    · apply List.map_congr_left
      intro first hFirst
      rw [hKept first hFirst, if_neg]
      exact fun hEq => hNew (List.mem_map.mpr ⟨first, mem_of_mem_firsts nameOf hFirst, hEq⟩)
    · simp [ofFirst, hEmpty]

/-- Rows agree if they do with others behind them. -/
theorem Agree.of_append {more : List Route} (h : Agree nameOf (routes ++ more)) :
    Agree nameOf routes := by
  rintro before row after first rfl hFirst
  exact h before row (after ++ more) first (by simp) hFirst

theorem agree_concat :
    Agree nameOf (routes ++ [route]) ↔
      Agree nameOf routes ∧
        ∀ first, routes.find? (nameOf · = nameOf route) = some first → Repeats route first := by
  constructor
  · intro hAgree
    exact ⟨hAgree.of_append, fun first hFirst => hAgree routes route [] first rfl hFirst⟩
  · rintro ⟨hAgree, hLast⟩ before row after first hSplit hFirst
    rcases List.eq_nil_or_concat' after with rfl | ⟨init, last, rfl⟩
    · obtain ⟨rfl, hRow⟩ := List.append_inj' hSplit rfl
      cases hRow
      exact hLast first hFirst
    · rw [← List.cons_append, ← List.append_assoc] at hSplit
      exact hAgree before row init first (List.append_inj_left' hSplit rfl) hFirst

/-- Adding a row to the groups of others gives the groups of all, if the row
may join its group. -/
theorem add_groupsOf_eq_ok_iff :
    add module (nameOf route) route (groupsOf nameOf routes) = .ok groups ↔
      (∀ first, routes.find? (nameOf · = nameOf route) = some first → Repeats route first) ∧
        groupsOf nameOf (routes ++ [route]) = groups := by
  rw [groupsOf_concat]
  split
  · rename_i hMem
    obtain ⟨other, hOther, hName⟩ := List.mem_map.mp hMem
    obtain ⟨first, hFirst, hKey⟩ := exists_mem_firsts nameOf hOther
    rw [hName] at hKey
    have hFind := (mem_firsts_iff nameOf).mp hFirst
    have hGroup : ofFirst nameOf routes first ∈ groupsOf nameOf routes :=
      List.mem_map.mpr ⟨first, hFirst, rfl⟩
    have hNodup : ((groupsOf nameOf routes).map (·.name)).Nodup := by
      rw [map_name_groupsOf]
      exact nodup_map_firsts nameOf routes
    have hGroupName : (ofFirst nameOf routes first).name = nameOf route := hKey
    have hAdd : add module (ofFirst nameOf routes first).name route (groupsOf nameOf routes) = _ :=
      add_of_mem hNodup hGroup
    rw [hGroupName] at hAdd
    rw [hKey] at hFind
    rw [hAdd, hFind]
    split
    · rename_i hAdmits
      have hRepeats : Repeats route first := admits_iff.mp hAdmits
      simp [hRepeats]
    · rename_i hNot
      have hRepeats : ¬ Repeats route first := fun h => hNot (admits_iff.mpr h)
      simp [hRepeats]
  · rename_i hNew
    have hNone : routes.find? (nameOf · = nameOf route) = none := by
      rw [List.find?_eq_none]
      intro other hOther hEq
      exact hNew (List.mem_map.mpr ⟨other, hOther, by simpa using hEq⟩)
    have hFresh : nameOf route ∉ (groupsOf nameOf routes).map (·.name) := by
      rw [map_name_groupsOf]
      intro hMem
      obtain ⟨first, hFirst, hEq⟩ := List.mem_map.mp hMem
      exact hNew (List.mem_map.mpr ⟨first, mem_of_mem_firsts nameOf hFirst, hEq⟩)
    rw [add_of_not_mem hFresh, hNone]
    simp

/-- Grouping succeeds exactly if rows of one function name repeat one route,
and then the result are the groups of the rows. -/
theorem ofRoutes_eq_ok_iff {branch : Branch} :
    ofRoutes module branch.namespaceOf routes = .ok groups ↔
      Agree branch.functionName routes ∧ groupsOf branch.functionName routes = groups := by
  induction routes using List.reverseRecOn generalizing groups with
  | nil =>
      have hAgree : Agree branch.functionName [] := by
        intro before row after first hSplit
        exact absurd hSplit (by simp)
      simp [ofRoutes, pure, Except.pure, hAgree, groupsOf, firsts]
  | append_singleton routes route ih =>
      have hStep : ofRoutes module branch.namespaceOf (routes ++ [route]) =
          ofRoutes module branch.namespaceOf routes >>=
            add module (branch.functionName route) route := by
        simp [ofRoutes, Branch.functionName, List.foldlM_append]
      rw [hStep, bind_eq_ok_iff, agree_concat]
      simp only [ih]
      constructor
      · rintro ⟨_, ⟨hAgree, rfl⟩, hAdd⟩
        obtain ⟨hLast, hGroups⟩ := add_groupsOf_eq_ok_iff.mp hAdd
        exact ⟨⟨hAgree, hLast⟩, hGroups⟩
      · rintro ⟨⟨hAgree, hLast⟩, hGroups⟩
        exact ⟨_, ⟨hAgree, rfl⟩, add_groupsOf_eq_ok_iff.mpr ⟨hLast, hGroups⟩⟩

/-- A group consists of all rows of its name. -/
theorem first_cons_others {first : Route} (hFirst : first ∈ firsts nameOf routes) :
    first :: (ofFirst nameOf routes first).others = routes.filter (nameOf · = nameOf first) := by
  apply List.cons_head?_tail
  rw [List.head?_filter]
  exact (mem_firsts_iff nameOf).mp hFirst

/-- In rows that agree, the others of a group repeat its first row. -/
theorem Agree.repeats (hAgree : Agree nameOf routes) {first row : Route}
    (hFirst : first ∈ firsts nameOf routes) (hRow : row ∈ (ofFirst nameOf routes first).others) :
    Repeats row first := by
  obtain ⟨hName, before, after, rfl, hBefore⟩ :=
    List.find?_eq_some_iff_append.mp ((mem_firsts_iff nameOf).mp hFirst)
  have hNone : before.filter (nameOf · = nameOf first) = [] := by
    rw [List.filter_eq_nil_iff]
    intro other hOther
    simpa using hBefore other hOther
  have hOthers : (ofFirst nameOf (before ++ first :: after) first).others =
      after.filter (nameOf · = nameOf first) := by
    simp [ofFirst, hNone]
  rw [hOthers, List.mem_filter, decide_eq_true_eq] at hRow
  obtain ⟨front, back, rfl⟩ := List.append_of_mem hRow.1
  refine hAgree (before ++ first :: front) row back first (by simp) ?_
  have hFind : before.find? (nameOf · = nameOf row) = none := by
    rw [List.find?_eq_none]
    intro other hOther
    rw [hRow.2]
    simpa using hBefore other hOther
  rw [List.find?_append, hFind, List.find?_cons_of_pos (by simpa using hRow.2.symm)]
  rfl

/-- Rows that agree and have one function name have one route name. -/
theorem Agree.name_eq (hAgree : Agree nameOf routes) {first second : Route}
    (hFirst : first ∈ routes) (hSecond : second ∈ routes) (hName : nameOf first = nameOf second) :
    first.name = second.name := by
  have hOne {row : Route} (hRow : row ∈ routes) :
      ∃ leader, routes.find? (nameOf · = nameOf row) = some leader ∧ leader.name = row.name := by
    obtain ⟨leader, hLeader, hKey⟩ := exists_mem_firsts nameOf hRow
    have hFind := (mem_firsts_iff nameOf).mp hLeader
    refine ⟨leader, by rw [← hKey, hFind], ?_⟩
    have hGroup : row ∈ leader :: (ofFirst nameOf routes leader).others := by
      rw [first_cons_others hLeader, List.mem_filter]
      exact ⟨hRow, by simpa using hKey.symm⟩
    rcases List.mem_cons.mp hGroup with rfl | hOther
    · rfl
    · exact (hAgree.repeats hLeader hOther).2.1
  obtain ⟨leader, hFind, hLeader⟩ := hOne hFirst
  obtain ⟨other, hFind', hOther⟩ := hOne hSecond
  rw [hName, hFind', Option.some.injEq] at hFind
  rw [← hLeader, ← hOther, hFind]

/-- Rows still agree when those of some names are left out. The first row of a
function name is then left out with all others of that name, or with none. -/
theorem Agree.filter (hAgree : Agree nameOf routes) (selects : String → Bool) :
    Agree nameOf (routes.filter (selects ·.name)) := by
  intro before row after first hSplit hFirst
  obtain ⟨front, back, rfl, rfl, hBack⟩ := List.filter_eq_append_iff.mp hSplit
  obtain ⟨passed, later, rfl, hPassed, hRow, -⟩ := List.filter_eq_cons_iff.mp hBack
  have hEarlier : (front ++ passed).filter (selects ·.name) = front.filter (selects ·.name) := by
    rw [List.filter_append, List.filter_eq_nil_iff.mpr hPassed, List.append_nil]
  rw [← hEarlier] at hFirst
  have hKey := List.find?_some hFirst
  obtain ⟨leader, hLeader⟩ :
      ∃ leader, (front ++ passed).find? (nameOf · = nameOf row) = some leader := by
    rw [← Option.isSome_iff_exists, List.find?_isSome]
    exact ⟨first, List.mem_of_mem_filter (List.mem_of_find?_eq_some hFirst), hKey⟩
  have hRepeats := hAgree (front ++ passed) row later leader (by simp) hLeader
  obtain ⟨hName, skipped, others, hSkip, hSkipped⟩ := List.find?_eq_some_iff_append.mp hLeader
  have hKept : (leader :: others).filter (selects ·.name) =
      leader :: others.filter (selects ·.name) := by
    apply List.filter_cons_of_pos
    rw [hRepeats.2.1]
    exact hRow
  have hNone : (skipped.filter (selects ·.name)).find? (nameOf · = nameOf row) = none := by
    rw [List.find?_eq_none]
    intro other hOther
    simpa using hSkipped other (List.mem_of_mem_filter hOther)
  rw [hSkip, List.filter_append, hKept, List.find?_append, hNone,
    List.find?_cons_of_pos (by simpa using hName)] at hFirst
  cases hFirst
  exact hRepeats

end RouteGroup

end RoutePaths
