/-
Working through a list with steps that may fail: the whole succeeds exactly if every step does,
and its results are those of the steps, in order (`mapM_eq_ok_iff`); else it fails as the first step
that does (`mapM_eq_error_iff`).
-/
import Mathlib.Data.List.Forall2

namespace HdWallet

theorem bind_eq_ok_iff {x : Except ε α} {f : α → Except ε β} {b : β} :
    (x >>= f) = .ok b ↔ ∃ a, x = .ok a ∧ f a = .ok b := by
  cases x with
  | error e =>
    constructor
    · intro h
      cases h
    · rintro ⟨a, h, -⟩
      cases h
  | ok a =>
    constructor
    · intro h
      exact ⟨a, rfl, h⟩
    · rintro ⟨a, h, hf⟩
      cases h
      exact hf

theorem ok_bind (a : α) (f : α → Except ε β) : (Except.ok a >>= f) = f a := rfl

theorem map_eq_ok_iff {x : Except ε α} {f : α → β} {b : β} :
    x.map f = .ok b ↔ ∃ a, x = .ok a ∧ f a = b := by
  cases x with
  | error e => simp [Except.map]
  | ok a => simp [Except.map]

theorem map_eq_error_iff {x : Except ε α} {f : α → β} {e : ε} :
    x.map f = .error e ↔ x = .error e := by
  cases x with
  | error e' => simp [Except.map]
  | ok a => simp [Except.map]

section

variable {f : α → Except ε β}

/-- **The results of a list are those of its items.** -/
theorem mapM_eq_ok_iff {items : List α} {results : List β} :
    items.mapM f = .ok results ↔
      List.Forall₂ (fun item result => f item = .ok result) items results := by
  induction items generalizing results with
  | nil =>
    rw [List.mapM_nil, List.forall₂_nil_left_iff]
    exact ⟨fun h => (Except.ok.inj h).symm, fun h => congrArg _ h.symm⟩
  | cons item items ih =>
    simp only [List.mapM_cons, bind_eq_ok_iff, ih, List.forall₂_cons_left_iff]
    constructor
    · rintro ⟨first, hfirst, rest, hrest, h⟩
      exact ⟨first, rest, hfirst, hrest, (Except.ok.inj h).symm⟩
    · rintro ⟨first, rest, hfirst, hrest, rfl⟩
      exact ⟨first, hfirst, rest, hrest, rfl⟩

theorem mapM_cons_eq_error_iff {item : α} {items : List α} {e : ε} :
    (item :: items).mapM f = .error e ↔
      f item = .error e ∨ (∃ result, f item = .ok result) ∧ items.mapM f = .error e := by
  rw [List.mapM_cons]
  cases f item with
  | error e' => simp [bind, Except.bind]
  | ok result => cases items.mapM f <;> simp [bind, Except.bind, pure, Except.pure]

/-- **A list fails as the first of its items that does.** -/
theorem mapM_eq_error_iff {items : List α} {e : ε} :
    items.mapM f = .error e ↔
      ∃ before item after, items = before ++ item :: after ∧
        (∀ earlier ∈ before, ∃ result, f earlier = .ok result) ∧ f item = .error e := by
  induction items with
  | nil =>
    constructor
    · intro h
      cases h
    · rintro ⟨before, item, after, hitems, -⟩
      simp at hitems
  | cons item items ih =>
    rw [mapM_cons_eq_error_iff, ih]
    constructor
    · rintro (hitem | ⟨hitem, before, other, after, rfl, hbefore, hother⟩)
      · exact ⟨[], item, items, rfl, by simp, hitem⟩
      · exact ⟨item :: before, other, after, rfl, List.forall_mem_cons.2 ⟨hitem, hbefore⟩, hother⟩
    · rintro ⟨before, other, after, hitems, hbefore, hother⟩
      cases before with
      | nil =>
        obtain ⟨rfl, -⟩ := List.cons.inj hitems
        exact .inl hother
      | cons first before =>
        obtain ⟨rfl, rfl⟩ := List.cons.inj hitems
        obtain ⟨hfirst, hbefore⟩ := List.forall_mem_cons.1 hbefore
        exact .inr ⟨hfirst, before, other, after, rfl, hbefore, hother⟩

theorem exists_of_mem_results {items : List α} {results : List β}
    (h : List.Forall₂ (fun item result => f item = .ok result) items results) {result : β}
    (hr : result ∈ results) : ∃ item ∈ items, f item = .ok result := by
  induction h with
  | nil => simp at hr
  | cons hitem _ ih =>
    rcases List.mem_cons.1 hr with rfl | hr
    · exact ⟨_, List.mem_cons_self, hitem⟩
    · obtain ⟨item, hmem, hitem⟩ := ih hr
      exact ⟨item, List.mem_cons_of_mem _ hmem, hitem⟩

/-- Steps that all succeed. -/
theorem mapM_eq_ok {g : α → β} {items : List α} (h : ∀ item ∈ items, f item = .ok (g item)) :
    items.mapM f = .ok (items.map g) := by
  rw [mapM_eq_ok_iff, List.forall₂_map_right_iff, List.forall₂_same]
  exact h

end

end HdWallet
