import Mathlib.Data.List.Forall2
import Mathlib.Data.List.Sort

/-!
# Lists gone through

A list gone through with a function that may give nothing, or throw, gives the list of
the results, one for each element in order.

## Main results

* `List.mapM_eq_some_iff`, `List.mapM_eq_ok_iff` — what going through a list gives.
* `List.exists_mapM_eq_some` — a bound good for every element is good for the list.
* `List.forall₂_insertionSort` — related lists stay related when sorted by one key.
-/

namespace List

universe u v

variable {α : Type u} {β : Type v}

theorem mapM_eq_some_iff {f : α → Option β} {xs : List α} {ys : List β} :
    xs.mapM f = some ys ↔ Forall₂ (fun x y => f x = some y) xs ys := by
  induction xs generalizing ys with
  | nil => simp [eq_comm]
  | cons x xs ih =>
      rw [mapM_cons, Option.bind_eq_bind, Option.bind_eq_some_iff]
      simp only [Option.bind_eq_bind, Option.bind_eq_some_iff, ih]
      constructor
      · rintro ⟨y, hy, ys, hys, ⟨⟩⟩
        exact .cons hy hys
      · rintro (_ | ⟨hy, hys⟩)
        exact ⟨_, hy, _, hys, rfl⟩

theorem mapM_eq_ok_iff {ε : Type v} {f : α → Except ε β} {xs : List α} {ys : List β} :
    xs.mapM f = .ok ys ↔ Forall₂ (fun x y => f x = .ok y) xs ys := by
  induction xs generalizing ys with
  | nil =>
      rw [mapM_nil, forall₂_nil_left_iff]
      exact ⟨fun h => (Except.ok.inj h).symm, fun h => h ▸ rfl⟩
  | cons x xs ih =>
      rw [mapM_cons]
      constructor
      · intro h
        cases hx : f x with
        | error e =>
            rw [hx] at h
            cases h
        | ok y =>
            rw [hx] at h
            cases hxs : xs.mapM f with
            | error e =>
                rw [hxs] at h
                cases h
            | ok zs =>
                rw [hxs] at h
                cases h
                exact .cons hx (ih.mp hxs)
      · rintro (_ | ⟨hy, hys⟩)
        rw [hy, ih.mpr hys]
        rfl

/-- Where every element gives something from some bound on, the list does. -/
theorem exists_mapM_eq_some {f : ℕ → α → Option β}
    (hmono : ∀ x d d' y, f d x = some y → d ≤ d' → f d' x = some y) {xs : List α}
    (h : ∀ x ∈ xs, ∃ d y, f d x = some y) : ∃ d ys, xs.mapM (f d) = some ys := by
  induction xs with
  | nil => exact ⟨0, [], rfl⟩
  | cons x xs ih =>
      obtain ⟨d, y, hy⟩ := h x mem_cons_self
      obtain ⟨d', ys, hys⟩ := ih fun x hx => h x (mem_cons_of_mem _ hx)
      refine ⟨max d d', y :: ys, mapM_eq_some_iff.mpr (.cons ?_ ?_)⟩
      · exact hmono x d _ y hy (Nat.le_max_left _ _)
      · exact (mapM_eq_some_iff.mp hys).imp fun x y hxy =>
          hmono x d' _ y hxy (Nat.le_max_right _ _)

theorem map_eq_map_of_forall₂ {γ : Type*} {f : α → γ} {g : β → γ} {as : List α} {bs : List β}
    (h : Forall₂ (fun a b => f a = g b) as bs) : as.map f = bs.map g := by
  induction h with
  | nil => rfl
  | cons hab _ ih => rw [map_cons, map_cons, hab, ih]

theorem forall_mem_of_forall₂ {P : β → Prop} {as : List α} {bs : List β}
    (h : Forall₂ (fun _ b => P b) as bs) : ∀ b ∈ bs, P b := by
  induction h with
  | nil => simp
  | cons hb _ ih => simpa using ⟨hb, ih⟩

theorem exists_of_forall₂ {R : α → β → Prop} {as : List α} {bs : List β} (h : Forall₂ R as bs)
    {a : α} (ha : a ∈ as) : ∃ b, R a b := by
  induction h with
  | nil => cases ha
  | @cons _ b _ _ hab _ ih =>
      rcases mem_cons.mp ha with rfl | ha
      · exact ⟨b, hab⟩
      · exact ih ha

/-- Related lists are related as members of the lists. -/
theorem forall₂_and_mem {R : α → β → Prop} {as : List α} {bs : List β} (h : Forall₂ R as bs) :
    Forall₂ (fun a b => R a b ∧ b ∈ bs) as bs := by
  induction h with
  | nil => exact .nil
  | cons hab _ ih =>
      exact .cons ⟨hab, mem_cons_self⟩ (ih.imp fun _ _ h => ⟨h.1, mem_cons_of_mem _ h.2⟩)

section

variable {κ : Type*} {r : κ → κ → Prop} [DecidableRel r] {R : α → β → Prop} {key : α → κ}
  {key' : β → κ}

theorem forall₂_orderedInsert (hkey : ∀ a b, R a b → key a = key' b) {a : α} {b : β}
    (hab : R a b) {as : List α} {bs : List β} (h : Forall₂ R as bs) :
    Forall₂ R (as.orderedInsert (fun x y => r (key x) (key y)) a)
      (bs.orderedInsert (fun x y => r (key' x) (key' y)) b) := by
  induction h with
  | nil => exact .cons hab .nil
  | @cons x y as bs hxy h ih =>
      rw [orderedInsert, orderedInsert, hkey a b hab, hkey x y hxy]
      split
      · exact .cons hab (.cons hxy h)
      · exact .cons hxy ih

/-- Lists related element by element stay so when both are sorted by the same key. -/
theorem forall₂_insertionSort (hkey : ∀ a b, R a b → key a = key' b) {as : List α} {bs : List β}
    (h : Forall₂ R as bs) :
    Forall₂ R (as.insertionSort fun x y => r (key x) (key y))
      (bs.insertionSort fun x y => r (key' x) (key' y)) := by
  induction h with
  | nil => exact .nil
  | cons hab _ ih => exact forall₂_orderedInsert hkey hab ih

end

end List
