import Mathlib.Data.List.Forall2

/-!
# Lists related item by item

Laws of `List.Forall₂` for readers and writers of lists.
-/

namespace FleetWatch

variable {α β γ : Type} {R S : α → β → Prop} {xs : List α} {ys : List β}

theorem exists_forall₂ : (∃ ys, List.Forall₂ R xs ys) ↔ ∀ x ∈ xs, ∃ y, R x y := by
  induction xs with
  | nil => simp
  | cons x xs ih =>
    rw [List.forall_mem_cons, ← ih]
    constructor
    · rintro ⟨_, _ | ⟨here, rest⟩⟩
      exact ⟨⟨_, here⟩, ⟨_, rest⟩⟩
    · rintro ⟨⟨y, here⟩, ⟨ys, rest⟩⟩
      exact ⟨y :: ys, .cons here rest⟩

theorem forall_mem_of_forall₂ {P : α → Prop} (all : List.Forall₂ R xs ys)
    (each : ∀ x y, R x y → P x) : ∀ x ∈ xs, P x :=
  ((List.forall₂_and_left xs ys).1 (all.imp fun x y holds => ⟨each x y holds, holds⟩)).1

theorem forall_mem_of_forall₂_right {P : β → Prop} (all : List.Forall₂ R xs ys)
    (each : ∀ x y, R x y → P y) : ∀ y ∈ ys, P y :=
  forall_mem_of_forall₂ (R := fun y x => R x y) all.flip fun y x => each x y

theorem exists_getElem?_of_forall₂ (all : List.Forall₂ R xs ys) {k : Nat} {x : α}
    (item : xs[k]? = some x) : ∃ y, ys[k]? = some y ∧ R x y := by
  obtain ⟨bound, rfl⟩ := List.getElem?_eq_some_iff.1 item
  have bound' : k < ys.length := all.length_eq ▸ bound
  exact ⟨ys[k], List.getElem?_eq_getElem bound', all.get bound bound'⟩

theorem map_eq_of_forall₂ {f : α → γ} {g : β → γ} (all : List.Forall₂ R xs ys)
    (each : ∀ x y, R x y → g y = f x) : ys.map g = xs.map f := by
  have same : List.Forall₂ Eq (ys.map g) (xs.map f) := by
    rw [List.forall₂_map_left_iff, List.forall₂_map_right_iff]
    exact (all.imp each).flip
  rwa [List.forall₂_eq_eq_eq] at same

theorem forall₂_congr_left (each : ∀ x ∈ xs, ∀ y, R x y ↔ S x y) (ys : List β) :
    List.Forall₂ R xs ys ↔ List.Forall₂ S xs ys := by
  induction xs generalizing ys with
  | nil => simp
  | cons x xs ih =>
    obtain ⟨first, others⟩ := List.forall_mem_cons.1 each
    cases ys with
    | nil => simp
    | cons y ys => rw [List.forall₂_cons, List.forall₂_cons, first y, ih others ys]

theorem exists_of_forall₂_append {xs ys : List α} {zs : List β}
    (all : List.Forall₂ R (xs ++ ys) zs) :
    ∃ us vs, zs = us ++ vs ∧ List.Forall₂ R xs us ∧ List.Forall₂ R ys vs := by
  induction xs generalizing zs with
  | nil => exact ⟨[], zs, rfl, .nil, all⟩
  | cons x xs ih =>
    cases all with
    | @cons _ z _ zs first others =>
      obtain ⟨us, vs, rfl, before, behind⟩ := ih others
      exact ⟨z :: us, vs, rfl, .cons first before, behind⟩

end FleetWatch
