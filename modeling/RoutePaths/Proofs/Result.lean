import Mathlib.Data.List.Forall2

/-! When computations that may fail succeed, and what becomes of their
errors. -/
namespace RoutePaths.Result

variable {ε α β : Type}

theorem bind_eq_ok_iff {first : Except ε α} {next : α → Except ε β} {result : β} :
    (first >>= next) = .ok result ↔ ∃ value, first = .ok value ∧ next value = .ok result := by
  cases first with
  | error error => simp [bind, Except.bind]
  | ok value => simp [bind, Except.bind]

theorem bind_eq_error_iff {first : Except ε α} {next : α → Except ε β} {error : ε} :
    (first >>= next) = .error error ↔
      first = .error error ∨ ∃ value, first = .ok value ∧ next value = .error error := by
  cases first with
  | error error => simp [bind, Except.bind]
  | ok value => simp [bind, Except.bind]

theorem map_eq_ok_iff {first : Except ε α} {f : α → β} {result : β} :
    first.map f = .ok result ↔ ∃ value, first = .ok value ∧ f value = result := by
  cases first with
  | error error => simp [Except.map]
  | ok value => simp [Except.map]

theorem exists_eq_ok_of_isOk {first : Except ε α} (h : first.isOk = true) :
    ∃ value, first = .ok value := by
  cases first with
  | error error => cases h
  | ok value => exact ⟨value, rfl⟩

theorem exists_eq_error_of_isOk {first : Except ε α} (h : first.isOk = false) :
    ∃ error, first = .error error := by
  cases first with
  | error error => exact ⟨error, rfl⟩
  | ok value => cases h

theorem mapError_eq_ok_iff {ε' : Type} {rename : ε → ε'} {first : Except ε α} {value : α} :
    first.mapError rename = .ok value ↔ first = .ok value := by
  cases first <;> simp [Except.mapError]

theorem mapError_eq_error_iff {ε' : Type} {rename : ε → ε'} {first : Except ε α} {error : ε'} :
    first.mapError rename = .error error ↔
      ∃ cause, first = .error cause ∧ rename cause = error := by
  cases first <;> simp [Except.mapError]

/-- Renaming errors goes through all steps of a computation. -/
theorem mapError_bind {ε' : Type} {rename : ε → ε'} {first : Except ε α} {next : α → Except ε β} :
    (first >>= next).mapError rename =
      first.mapError rename >>= fun value => (next value).mapError rename := by
  cases first <;> rfl

theorem mapError_mapM {ε' : Type} {rename : ε → ε'} {f : α → Except ε β} {items : List α} :
    (items.mapM f).mapError rename = items.mapM fun item => (f item).mapError rename := by
  induction items with
  | nil => rfl
  | cons item rest ih =>
      rw [List.mapM_cons, List.mapM_cons, mapError_bind]
      simp only [mapError_bind, ih]
      rfl

theorem mapError_foldlM {ε' : Type} {rename : ε → ε'} {f : β → α → Except ε β} {start : β}
    {items : List α} :
    (items.foldlM f start).mapError rename =
      items.foldlM (fun state item => (f state item).mapError rename) start := by
  induction items generalizing start with
  | nil => rfl
  | cons item rest ih =>
      rw [List.foldlM_cons, List.foldlM_cons, mapError_bind]
      simp only [ih]

/-- Two computations end alike: both succeed, with related values, or both fail, with
related errors. -/
inductive Alike {δ : Type} (errors : ε → δ → Prop) (values : α → β → Prop) :
    Except ε α → Except δ β → Prop
  | ok {value : α} {other : β} (h : values value other) : Alike errors values (.ok value) (.ok other)
  | error {error : ε} {other : δ} (h : errors error other) :
      Alike errors values (.error error) (.error other)

theorem Alike.exists_of_ok {δ : Type} {errors : ε → δ → Prop} {values : α → β → Prop}
    {first : Except ε α} {second : Except δ β} (h : Alike errors values first second) {value : α}
    (hFirst : first = .ok value) : ∃ other, second = .ok other ∧ values value other := by
  subst hFirst
  cases h with
  | ok hValues => exact ⟨_, rfl, hValues⟩

theorem Alike.bind {δ γ κ : Type} {errors : ε → δ → Prop} {values : α → β → Prop}
    {results : γ → κ → Prop} {first : Except ε α} {second : Except δ β} {next : α → Except ε γ}
    {other : β → Except δ κ} (h : Alike errors values first second)
    (hNext : ∀ value value', values value value' → Alike errors results (next value) (other value')) :
    Alike errors results (first >>= next) (second >>= other) := by
  cases h with
  | ok hValues => exact hNext _ _ hValues
  | error hErrors => exact .error hErrors

theorem Alike.mapError {δ ε' δ' : Type} {errors : ε → δ → Prop} {others : ε' → δ' → Prop}
    {values : α → β → Prop} {first : Except ε α} {second : Except δ β} {rename : ε → ε'}
    {rename' : δ → δ'} (h : Alike errors values first second)
    (hErrors : ∀ error error', errors error error' → others (rename error) (rename' error')) :
    Alike others values (first.mapError rename) (second.mapError rename') := by
  cases h with
  | ok hValues => exact .ok hValues
  | error hCauses => exact .error (hErrors _ _ hCauses)

/-- A list is processed as a whole exactly if each item is. -/
theorem mapM_eq_ok_iff {f : α → Except ε β} {items : List α} {results : List β} :
    items.mapM f = .ok results ↔
      List.Forall₂ (fun item result => f item = .ok result) items results := by
  induction items generalizing results with
  | nil => simp [pure, Except.pure, eq_comm]
  | cons item rest ih =>
      rw [List.mapM_cons, bind_eq_ok_iff, List.forall₂_cons_left_iff]
      simp only [bind_eq_ok_iff, ih, pure, Except.pure, Except.ok.injEq]
      constructor
      · rintro ⟨first, hFirst, others, hOthers, rfl⟩
        exact ⟨first, others, hFirst, hOthers, rfl⟩
      · rintro ⟨first, others, hFirst, hOthers, rfl⟩
        exact ⟨first, hFirst, others, hOthers, rfl⟩

theorem mapM_eq_ok_map {f : α → Except ε β} {g : α → β} {items : List α}
    (h : ∀ item ∈ items, f item = .ok (g item)) : items.mapM f = .ok (items.map g) := by
  rw [mapM_eq_ok_iff, List.forall₂_map_right_iff, List.forall₂_same]
  exact h

theorem mapM_eq_some_map {f : α → Option β} {g : α → β} {items : List α}
    (h : ∀ item ∈ items, f item = some (g item)) : items.mapM f = some (items.map g) := by
  induction items with
  | nil => rfl
  | cons item rest ih =>
      rw [List.mapM_cons, h item (List.mem_cons_self ..),
        ih fun other hOther => h other (List.mem_cons_of_mem _ hOther)]
      rfl

/-- A list as a whole has results exactly if each item has one. -/
theorem exists_mapM_eq_ok_iff {f : α → Except ε β} {items : List α} :
    (∃ results, items.mapM f = .ok results) ↔ ∀ item ∈ items, ∃ result, f item = .ok result := by
  induction items with
  | nil => simp [pure, Except.pure]
  | cons item rest ih =>
      simp only [List.mapM_cons, bind_eq_ok_iff, pure, Except.pure, Except.ok.injEq,
        List.forall_mem_cons, ← ih]
      constructor
      · rintro ⟨_, first, hFirst, others, hOthers, rfl⟩
        exact ⟨⟨first, hFirst⟩, others, hOthers⟩
      · rintro ⟨⟨first, hFirst⟩, others, hOthers⟩
        exact ⟨_, first, hFirst, others, hOthers, rfl⟩

/-- The error of a list is that of the first item that has no result. -/
theorem mapM_eq_error_iff {f : α → Except ε β} {items : List α} {error : ε} :
    items.mapM f = .error error ↔
      ∃ before bad after, items = before ++ bad :: after ∧
        (∀ item ∈ before, ∃ result, f item = .ok result) ∧ f bad = .error error := by
  constructor
  · intro h
    induction items with
    | nil => cases h
    | cons item rest ih =>
        rw [List.mapM_cons, bind_eq_error_iff] at h
        rcases h with hFirst | ⟨first, hFirst, hRest⟩
        · exact ⟨[], item, rest, rfl, by simp, hFirst⟩
        · rw [bind_eq_error_iff] at hRest
          rcases hRest with hRest | ⟨_, -, hNever⟩
          · obtain ⟨before, bad, after, rfl, hBefore, hBad⟩ := ih hRest
            exact ⟨item :: before, bad, after, rfl,
              List.forall_mem_cons.mpr ⟨⟨first, hFirst⟩, hBefore⟩, hBad⟩
          · cases hNever
  · rintro ⟨before, bad, after, rfl, hBefore, hBad⟩
    obtain ⟨results, hResults⟩ := exists_mapM_eq_ok_iff.mpr hBefore
    rw [List.mapM_append, hResults, List.mapM_cons, hBad]
    rfl

/-- Every result belongs to an item. -/
theorem exists_mem_of_forall₂ {R : α → β → Prop} {items : List α} {results : List β}
    (h : List.Forall₂ R items results) {result : β} (hResult : result ∈ results) :
    ∃ item ∈ items, R item result := by
  induction h with
  | nil => simp at hResult
  | @cons item first items results hFirst _ ih =>
      rcases List.mem_cons.mp hResult with rfl | hResult
      · exact ⟨item, List.mem_cons_self .., hFirst⟩
      · obtain ⟨other, hOther, hRelated⟩ := ih hResult
        exact ⟨other, List.mem_cons_of_mem _ hOther, hRelated⟩

/-- If each item and its result are two views of one thing, so are the lists. -/
theorem exists_map_of_forall₂ {γ : Type} {R : α → β → Prop} {P : γ → Prop} {f : γ → α} {g : γ → β}
    {items : List α} {results : List β} (h : List.Forall₂ R items results)
    (hView : ∀ item ∈ items, ∀ result, R item result → ∃ x, P x ∧ f x = item ∧ g x = result) :
    ∃ xs : List γ, (∀ x ∈ xs, P x) ∧ xs.map f = items ∧ xs.map g = results := by
  induction h with
  | nil => exact ⟨[], by simp, rfl, rfl⟩
  | @cons item result items results hFirst _ ih =>
      obtain ⟨x, hx, rfl, rfl⟩ := hView item (List.mem_cons_self ..) result hFirst
      obtain ⟨xs, hxs, rfl, rfl⟩ := ih fun other hOther => hView other (List.mem_cons_of_mem _ hOther)
      refine ⟨x :: xs, ?_, rfl, rfl⟩
      intro y hy
      rcases List.mem_cons.mp hy with rfl | hy
      · exact hx
      · exact hxs y hy

end RoutePaths.Result
