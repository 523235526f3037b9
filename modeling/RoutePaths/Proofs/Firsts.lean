import Mathlib.Data.List.Nodup
import Mathlib.Data.List.Perm.Basic

/-! The items of a list that are the first ones of their key. They stand in
the order of the list, and every key of the list is the key of one of them. -/
namespace RoutePaths.Firsts

variable {α β : Type} [DecidableEq β] (key : α → β)

/-- The items whose key no earlier item has. -/
def firsts : List α → List α
  | [] => []
  | item :: rest => item :: (firsts rest).filter (key · ≠ key item)

theorem firsts_sublist (items : List α) : (firsts key items).Sublist items := by
  induction items with
  | nil => exact List.Sublist.slnil
  | cons item rest ih => exact (List.filter_sublist.trans ih).cons_cons item

theorem nodup_map_firsts (items : List α) : ((firsts key items).map key).Nodup := by
  induction items with
  | nil => exact List.nodup_nil
  | cons item rest ih =>
      rw [firsts, List.map_cons, List.nodup_cons]
      constructor
      · intro hMem
        obtain ⟨other, hOther, hKey⟩ := List.mem_map.mp hMem
        rw [List.mem_filter, decide_eq_true_eq] at hOther
        exact hOther.2 hKey
      · exact ih.sublist (List.filter_sublist.map key)

/-- The first item of a key is the one that a search for the key finds. -/
theorem mem_firsts_iff {items : List α} {item : α} :
    item ∈ firsts key items ↔ items.find? (key · = key item) = some item := by
  induction items with
  | nil => simp [firsts]
  | cons head rest ih =>
      rw [firsts, List.mem_cons, List.mem_filter, ih, decide_eq_true_eq]
      by_cases hKey : key head = key item
      · rw [List.find?_cons_of_pos (by simpa using hKey), Option.some.injEq]
        constructor
        · rintro (rfl | ⟨-, hNe⟩)
          · rfl
          · exact absurd hKey.symm hNe
        · exact fun hEq => Or.inl hEq.symm
      · rw [List.find?_cons_of_neg (by simpa using hKey)]
        constructor
        · rintro (rfl | ⟨hFind, -⟩)
          · exact absurd rfl hKey
          · exact hFind
        · exact fun hFind => Or.inr ⟨hFind, fun hEq => hKey hEq.symm⟩

theorem mem_of_mem_firsts {items : List α} {item : α} (h : item ∈ firsts key items) :
    item ∈ items :=
  (firsts_sublist key items).subset h

/-- Every item has a first one of its key. -/
theorem exists_mem_firsts {items : List α} {item : α} (h : item ∈ items) :
    ∃ first ∈ firsts key items, key first = key item := by
  obtain ⟨first, hFirst⟩ : ∃ first, items.find? (key · = key item) = some first := by
    rw [← Option.isSome_iff_exists, List.find?_isSome]
    exact ⟨item, h, by simp⟩
  have hKey : key first = key item := by simpa using List.find?_some hFirst
  exact ⟨first, (mem_firsts_iff key).mpr (by rwa [hKey]), hKey⟩

/-- A further item changes nothing unless its key is a new one. -/
theorem firsts_concat (items : List α) (item : α) :
    firsts key (items ++ [item]) =
      firsts key items ++ if key item ∈ items.map key then [] else [item] := by
  induction items with
  | nil => simp [firsts]
  | cons head rest ih =>
      rw [List.cons_append, firsts, firsts, ih, List.filter_append, List.cons_append]
      by_cases hRest : key item ∈ rest.map key
      · have hAll : key item ∈ (head :: rest).map key := List.mem_cons_of_mem _ hRest
        rw [if_pos hRest, if_pos hAll, List.filter_nil]
      · by_cases hHead : key item = key head
        · have hAll : key item ∈ (head :: rest).map key := by
            rw [hHead]
            exact List.mem_cons_self ..
          rw [if_neg hRest, if_pos hAll, List.filter_cons_of_neg (by simpa using hHead),
            List.filter_nil]
        · have hAll : key item ∉ (head :: rest).map key := by
            rw [List.map_cons, List.mem_cons, not_or]
            exact ⟨hHead, hRest⟩
          rw [if_neg hRest, if_neg hAll, List.filter_cons_of_pos (by simpa using hHead),
            List.filter_nil]

/-- A further item comes behind the others unless it is there already. -/
theorem firsts_id_concat (items : List β) (item : β) :
    firsts id (items ++ [item]) = firsts id items ++ [item].filter (· ∉ firsts id items) := by
  have hMem : item ∈ firsts id items ↔ item ∈ items := by
    refine ⟨mem_of_mem_firsts id, fun h => ?_⟩
    obtain ⟨first, hFirst, rfl⟩ := exists_mem_firsts id h
    exact hFirst
  rw [firsts_concat, List.map_id, id_eq]
  by_cases hThere : item ∈ items
  · rw [if_pos hThere, List.filter_cons_of_neg (by simpa [hMem] using hThere), List.filter_nil]
  · rw [if_neg hThere, List.filter_cons_of_pos (by simpa [hMem] using hThere), List.filter_nil]

/-- Further items come behind the first ones that are there already. -/
theorem firsts_append_prefixed (items more : List α) : firsts key items <+: firsts key (items ++ more) := by
  induction items with
  | nil => exact List.nil_prefix
  | cons item rest ih =>
      rw [List.cons_append, firsts, firsts, List.cons_prefix_cons]
      exact ⟨rfl, ih.filter _⟩

/-- Items that are changed without their keys keep their order. -/
theorem firsts_map {change : α → α} (h : ∀ item, key (change item) = key item) (items : List α) :
    firsts key (items.map change) = (firsts key items).map change := by
  induction items with
  | nil => rfl
  | cons item rest ih =>
      rw [List.map_cons, firsts, firsts, ih, List.map_cons, List.filter_map]
      simp only [Function.comp_def, h]

/-- A selection that takes all items of a key or none keeps or drops the first
item with the others. -/
theorem firsts_filter {items : List α} {keeps : α → Bool}
    (h : ∀ first ∈ items, ∀ second ∈ items, key first = key second → keeps first = keeps second) :
    firsts key (items.filter keeps) = (firsts key items).filter keeps := by
  induction items with
  | nil => rfl
  | cons item rest ih =>
      have hRest : ∀ first ∈ rest, ∀ second ∈ rest, key first = key second →
          keeps first = keeps second := fun first hFirst second hSecond =>
        h first (List.mem_cons_of_mem _ hFirst) second (List.mem_cons_of_mem _ hSecond)
      rw [firsts]
      cases hItem : keeps item with
      | true =>
          rw [List.filter_cons_of_pos hItem, List.filter_cons_of_pos hItem, firsts, ih hRest,
            List.filter_comm]
      | false =>
          rw [List.filter_cons_of_neg (by simp [hItem]), List.filter_cons_of_neg (by simp [hItem]),
            ih hRest, List.filter_filter]
          apply List.filter_congr
          intro other hOther
          have hMem := List.mem_cons_of_mem item (mem_of_mem_firsts key hOther)
          cases hKeeps : keeps other with
          | false => rfl
          | true =>
              have hNe : key other ≠ key item := fun hKey => by
                have hSame := h other hMem item (List.mem_cons_self ..) hKey
                rw [hKeeps, hItem] at hSame
                cases hSame
              simp [hNe]

/-- Items sorted by their keys are the same items. -/
theorem perm_flatMap_filter {keys : List β} {items : List α} (hNodup : keys.Nodup)
    (hKeys : ∀ item ∈ items, key item ∈ keys) :
    (keys.flatMap fun k => items.filter (key · = k)).Perm items := by
  induction items with
  | nil => simp
  | cons item rest ih =>
      rw [List.forall_mem_cons] at hKeys
      obtain ⟨before, after, rfl⟩ := List.append_of_mem hKeys.1
      have hOther {k : β} (hk : k ∈ before ++ after) : key item ≠ k := by
        rintro rfl
        exact (List.nodup_cons.mp (List.nodup_middle.mp hNodup)).1 hk
      have hSame (part : List β) (hPart : ∀ k ∈ part, k ∈ before ++ after) :
          (part.flatMap fun k => (item :: rest).filter (key · = k)) =
            part.flatMap fun k => rest.filter (key · = k) :=
        List.flatMap_congr fun k hk =>
          List.filter_cons_of_neg (by simpa using hOther (hPart k hk))
      have hRest := ih hKeys.2
      rw [List.flatMap_append, List.flatMap_cons] at hRest ⊢
      rw [hSame before fun k hk => List.mem_append_left _ hk,
        hSame after fun k hk => List.mem_append_right _ hk, List.filter_cons_of_pos (by simp)]
      exact List.perm_middle.trans (hRest.cons item)

/-- Items gathered behind the first ones of their keys are the same items. -/
theorem perm_flatMap_firsts (items : List α) :
    ((firsts key items).flatMap fun first => items.filter (key · = key first)).Perm items := by
  have hKeys : ∀ item ∈ items, key item ∈ (firsts key items).map key := by
    intro item hItem
    obtain ⟨first, hFirst, hKey⟩ := exists_mem_firsts key hItem
    exact List.mem_map.mpr ⟨first, hFirst, hKey⟩
  have hPerm := perm_flatMap_filter key (nodup_map_firsts key items) hKeys
  rwa [List.flatMap_map] at hPerm

end RoutePaths.Firsts
