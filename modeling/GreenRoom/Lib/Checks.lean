import Mathlib.Data.List.Basic

/-!
# Chains of checks

A function that throws at the first check that fails returns only if all of them pass.

## Main results

* `Except.bind_eq_ok` — inversion of a chain of checks that returns.
* `Except.ite_throw_bind` — a check that throws was passed.
* `Except.forM_eq_ok` — a loop of checks passes if each of them does.
* `Except.mapM_eq_self` — checks that let every element through let the list through.
-/

/-- A chain of checks returns if each of them does. -/
theorem Except.bind_eq_ok {ε α β : Type} {x : Except ε α} {f : α → Except ε β} {b : β} :
    (x >>= f) = .ok b ↔ ∃ a, x = .ok a ∧ f a = .ok b := by
  cases x with
  | error e => exact iff_of_false (by rintro ⟨⟩) (by simp)
  | ok a => exact ⟨fun h => ⟨a, rfl, h⟩, fun ⟨_, ha, h⟩ => Except.ok.inj ha ▸ h⟩

/-- Checks that let every element through as it is let the list through. -/
theorem Except.mapM_eq_self {ε α : Type} {f : α → Except ε α} (hf : ∀ a b, f a = .ok b → b = a)
    {l l' : List α} (h : l.mapM f = .ok l') : l' = l := by
  induction l generalizing l' with
  | nil => exact (Except.ok.inj h).symm
  | cons a l ih =>
      rw [List.mapM_cons] at h
      obtain ⟨b, hb, h⟩ := Except.bind_eq_ok.mp h
      obtain ⟨l₁, hl₁, h⟩ := Except.bind_eq_ok.mp h
      rw [← Except.ok.inj h, hf a b hb, ih hl₁]

/-- A check that throws was passed. -/
theorem Except.ite_throw_bind {ε α β : Type} {c : Prop} [Decidable c] {e : ε} {f : α → Except ε β}
    {x : Except ε β} {b : β} : ((if c then throw e >>= f else x) = .ok b) ↔ ¬ c ∧ x = .ok b := by
  split
  · next hc => exact iff_of_false (by rintro ⟨⟩) fun h => h.1 hc
  · next hc => simp [hc]

/-- A loop of checks passes if each of them does. -/
theorem Except.forM_eq_ok {ε α : Type} {f : α → Except ε Unit} {l : List α} :
    l.forM f = .ok () ↔ ∀ a ∈ l, f a = .ok () := by
  induction l with
  | nil => exact iff_of_true rfl (by rintro _ ⟨⟩)
  | cons a l ih =>
      show (f a >>= fun _ => l.forM f) = .ok () ↔ _
      rw [Except.bind_eq_ok, List.forall_mem_cons, ← ih]
      exact ⟨fun ⟨_, ha, hl⟩ => ⟨ha, hl⟩, fun ⟨ha, hl⟩ => ⟨(), ha, hl⟩⟩
