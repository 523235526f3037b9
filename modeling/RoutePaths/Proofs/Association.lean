import Mathlib.Data.List.Nodup

/-! Looking names up in lists of pairs. The first pair of a name counts. -/
namespace RoutePaths.Association

variable {β : Type}

theorem lookup_eq_none_iff_not_mem {entries : List (String × β)} {key : String} :
    entries.lookup key = none ↔ key ∉ entries.map Prod.fst := by
  rw [List.lookup_eq_none_iff, List.mem_map]
  simp only [bne_iff_ne, ne_eq, not_exists, not_and]
  constructor
  · intro h entry hEntry hKey
    exact h entry hEntry hKey.symm
  · intro h entry hEntry hKey
    exact h entry hEntry hKey.symm

/-- Among different keys, each one finds its own value. -/
theorem lookup_map_of_nodup {α : Type} (key : α → String) (value : α → β) {items : List α}
    (hNodup : (items.map key).Nodup) {item : α} (hItem : item ∈ items) :
    (items.map fun item => (key item, value item)).lookup (key item) = some (value item) := by
  induction items with
  | nil => cases hItem
  | cons first rest ih =>
      rw [List.map_cons, List.nodup_cons] at hNodup
      rw [List.map_cons, List.lookup_cons]
      rcases List.mem_cons.mp hItem with rfl | hRest
      · simp
      · have hNe : key item ≠ key first := by
          intro hEq
          exact hNodup.1 (hEq ▸ List.mem_map_of_mem hRest)
        rw [beq_eq_false_iff_ne.mpr hNe]
        exact ih hNodup.2 hRest

end RoutePaths.Association
