import RoutePaths.Proofs.Function.Parameters

/-! Claiming names one by one. All claims are granted exactly if they are for
different names that nobody held before. Which of two claims comes first only
matters for the message. -/
namespace RoutePaths
open Association Result

namespace Claims

variable {claims after : Claims} {module name : String} {owner : Owner}
  {entries : List (String × Owner)}

theorem add_eq_ok_iff :
    claims.add module name owner = .ok after ↔
      name ∉ claims.map Prod.fst ∧ (name, owner) :: claims = after := by
  rw [← lookup_eq_none_iff_not_mem, add]
  cases claims.lookup name with
  | none => simp
  | some first => simp

/-- Claims several names, in order. -/
def addAll (claims : Claims) (module : String) (entries : List (String × Owner)) :
    Except Collision Claims :=
  entries.foldlM (fun claims entry => claims.add module entry.1 entry.2) claims

theorem addAll_cons (entry : String × Owner) :
    claims.addAll module (entry :: entries) =
      claims.add module entry.1 entry.2 >>= fun after => after.addAll module entries :=
  List.foldlM_cons ..

theorem addAll_singleton (entry : String × Owner) :
    claims.addAll module [entry] = claims.add module entry.1 entry.2 := by
  rw [addAll_cons]
  exact bind_pure _

theorem addAll_append (others : List (String × Owner)) :
    claims.addAll module (entries ++ others) =
      claims.addAll module entries >>= fun after => after.addAll module others :=
  List.foldlM_append ..

theorem addAll_eq_ok_iff :
    claims.addAll module entries = .ok after ↔
      ((entries.map Prod.fst).Nodup ∧ ∀ name ∈ entries.map Prod.fst, name ∉ claims.map Prod.fst) ∧
        entries.reverse ++ claims = after := by
  induction entries generalizing claims with
  | nil => simp [addAll, pure, Except.pure]
  | cons entry rest ih =>
      rw [addAll_cons, bind_eq_ok_iff, List.map_cons, List.nodup_cons, List.forall_mem_cons,
        List.reverse_cons, List.append_assoc, List.singleton_append]
      simp only [add_eq_ok_iff, ih]
      constructor
      · rintro ⟨_, ⟨hFresh, rfl⟩, ⟨hNodup, hRest⟩, hAfter⟩
        refine ⟨⟨⟨fun hMem => ?_, hNodup⟩, hFresh, fun name hName hHeld => ?_⟩, hAfter⟩
        · exact hRest _ hMem (List.mem_cons_self ..)
        · exact hRest name hName (List.mem_cons_of_mem _ hHeld)
      · rintro ⟨⟨⟨hNew, hNodup⟩, hFresh, hRest⟩, hAfter⟩
        refine ⟨_, ⟨hFresh, rfl⟩, ⟨hNodup, fun name hName hHeld => ?_⟩, hAfter⟩
        rcases List.mem_cons.mp hHeld with rfl | hHeld
        · exact hNew hName
        · exact hRest name hName hHeld

/-- Beside the helpers, any names can be claimed of which none is claimed
twice. -/
theorem addAll_helpers_iff (module : String) :
    (∃ after, helpers.addAll module entries = .ok after) ↔
      (Name.reserved ++ entries.map Prod.fst).Nodup := by
  have hNames : helpers.map Prod.fst = Name.reserved := by decide
  have hReserved : Name.reserved.Nodup := by decide
  simp only [addAll_eq_ok_iff, exists_and_left, exists_eq', and_true, hNames]
  rw [List.nodup_append']
  constructor
  · rintro ⟨hNodup, hFresh⟩
    exact ⟨hReserved, hNodup, fun name hHeld hName => hFresh name hName hHeld⟩
  · rintro ⟨-, hNodup, hDisjoint⟩
    exact ⟨hNodup, fun name hName hHeld => hDisjoint hHeld hName⟩

end Claims

namespace Function

/-- The function for a group, whether or not its parameters have different
names. -/
def forGroup (group : RouteGroup) : Function :=
  ⟨group.name, parametersOf group.first.segments, group.first, group.others,
    bodyOf group.first.segments⟩

theorem ofGroup_eq_ok_iff {module : String} {group : RouteGroup} {function : Function} :
    ofGroup module group = .ok function ↔
      (parameterNames group.first.segments).Nodup ∧ forGroup group = function := by
  simp only [ofGroup, bind_eq_ok_iff, parameters?_eq_ok_iff, pure, Except.pure, Except.ok.injEq]
  constructor
  · rintro ⟨_, ⟨⟨hNodup, -⟩, rfl⟩, hFunction⟩
    exact ⟨hNodup, hFunction⟩
  · rintro ⟨hNodup, hFunction⟩
    exact ⟨_, ⟨⟨hNodup, fun name hName => List.not_mem_nil⟩, rfl⟩, hFunction⟩

/-- What a function claims: the class of its parameters, then its name. -/
def entries (function : Function) : List (String × Owner) :=
  function.paramsClass?.toList.map (·, .parameters function.route.label) ++
    [(function.name, .route function.route.label)]

theorem claim_eq_addAll (module : String) (claims : Claims) (function : Function) :
    claim module claims function = claims.addAll module function.entries := by
  rw [claim, entries, Claims.addAll_append]
  cases function.paramsClass? with
  | none =>
      show claims.add module function.name (.route function.route.label) =
        claims.addAll module [(function.name, .route function.route.label)]
      rw [Claims.addAll_singleton]
  | some name =>
      rw [Option.toList_some, List.map_singleton, Claims.addAll_singleton]
      simp only [Claims.addAll_singleton]

end Function

namespace Module

variable {layout : Layout} {parent : Branch} {claims after : Claims} {module : String}

/-- What a child module claims in its parent. -/
def childEntry (layout : Layout) (child : Branch) : String × Owner :=
  (layout.name child, .childModule (layout.dotted child))

theorem claimChildren_eq_ok_iff {children : List Branch} :
    claimChildren layout parent claims children = .ok after ↔
      (∀ child ∈ children, ¬ (parent.isRoot = true ∧ layout.name child = layout.name parent)) ∧
        claims.addAll (layout.dotted parent) (children.map (childEntry layout)) = .ok after := by
  induction children generalizing claims with
  | nil => simp [claimChildren, Claims.addAll, pure, Except.pure]
  | cons child rest ih =>
      rw [claimChildren, List.forall_mem_cons, List.map_cons, Claims.addAll_cons]
      by_cases hClash : parent.isRoot = true ∧ layout.name child = layout.name parent
      · rw [if_pos (by simpa using hClash)]
        simp [hClash]
      · rw [if_neg (by simpa using hClash)]
        simp only [bind_eq_ok_iff, ih, childEntry]
        constructor
        · rintro ⟨claimed, hChild, hRest, hAll⟩
          exact ⟨⟨hClash, hRest⟩, claimed, hChild, hAll⟩
        · rintro ⟨⟨-, hRest⟩, claimed, hChild, hAll⟩
          exact ⟨claimed, hChild, hRest, hAll⟩

/-- Functions are made exactly if each of them can be made, and they can claim
their names all together. -/
theorem functionsOf_eq_ok_iff {groups : List RouteGroup} {functions : List Function} :
    functionsOf module claims groups = .ok functions ↔
      (∀ group ∈ groups, (Function.parameterNames group.first.segments).Nodup) ∧
        groups.map Function.forGroup = functions ∧
        ∃ after, claims.addAll module (functions.flatMap Function.entries) = .ok after := by
  induction groups generalizing claims functions with
  | nil =>
      simp only [functionsOf, Except.ok.injEq, List.not_mem_nil, false_implies, implies_true,
        List.map_nil, true_and, iff_self_and]
      rintro rfl
      exact ⟨claims, rfl⟩
  | cons group rest ih =>
      simp only [functionsOf, bind_eq_ok_iff, Function.ofGroup_eq_ok_iff, Function.claim_eq_addAll,
        ih, pure, Except.pure, Except.ok.injEq, List.forall_mem_cons, List.map_cons]
      constructor
      · rintro ⟨_, ⟨hGroup, rfl⟩, claimed, hClaim, _, ⟨hRest, rfl, after, hAfter⟩, rfl⟩
        refine ⟨⟨hGroup, hRest⟩, rfl, after, ?_⟩
        rw [List.flatMap_cons, Claims.addAll_append, hClaim]
        exact hAfter
      · rintro ⟨⟨hGroup, hRest⟩, rfl, after, hAfter⟩
        rw [List.flatMap_cons, Claims.addAll_append, bind_eq_ok_iff] at hAfter
        obtain ⟨claimed, hClaim, hAfter⟩ := hAfter
        exact ⟨_, ⟨hGroup, rfl⟩, claimed, hClaim, _, ⟨hRest, rfl, after, hAfter⟩, rfl⟩

end Module

end RoutePaths
