import GreenRoom.Lib.Program
import Mathlib.Logic.Relation

/-!
# Programs that are interrupted

Between two statements of a program anything may stop it for good, and what a statement
has done may be done although the statement fails.  What such a program is asked for is
an invariant that every single statement keeps, and a condition on the end if it gets
there.

## Main definitions

* `Program.Advances` — one statement of a program that may fail, before or after its effect.
* `Program.Guards I Q` — every statement keeps `I`, and a program that returns ends in `Q`.
* `Program.Each R` — every statement, wherever it is executed, relates its two states by `R`.

## Main results

* `Program.Guards.advance` — a statement leaves a program that guards as much.
* `Program.Guards.bind`, `.statement`, `.attempt`, … — the rules.
* `Program.Each.advance`, `.bind`, `.statement`, … — the same for `Each`.
* `Program.advances_of_run` — an execution under faults is one of the interrupted ones.
-/

namespace Program

variable {σ ε α β : Type}

/-- One statement is executed.  It may fail for any reason, also with its effect made. -/
inductive Advances : Program σ ε α → σ → Program σ ε α → σ → Prop
  | done {β : Type} {exec : σ → Except ε (β × σ)} {next : Except ε β → Program σ ε α} {s s' : σ}
      {b : β} : exec s = .ok (b, s') → Advances (.stmt exec next) s (next (.ok b)) s'
  | failed {β : Type} {exec : σ → Except ε (β × σ)} {next : Except ε β → Program σ ε α} (s : σ)
      (e : ε) : Advances (.stmt exec next) s (next (.error e)) s
  | lost {β : Type} {exec : σ → Except ε (β × σ)} {next : Except ε β → Program σ ε α} {s s' : σ}
      {b : β} (e : ε) : exec s = .ok (b, s') → Advances (.stmt exec next) s (next (.error e)) s'

/-- Every statement keeps `I`, and what returns ends in `Q`. -/
def Guards (I : σ → Prop) (Q : α → σ → Prop) : Program σ ε α → σ → Prop
  | .pure a, s => Q a s
  | .throw _, _ => True
  | .stmt exec next, s =>
    (∀ e, (next (.error e)).Guards I Q s) ∧
      ∀ b s', exec s = .ok (b, s') → I s' ∧ (next (.ok b)).Guards I Q s' ∧
        ∀ e, (next (.error e)).Guards I Q s'

variable {I : σ → Prop} {Q : α → σ → Prop}

theorem Guards.advance {p p' : Program σ ε α} {s s' : σ} (h : p.Guards I Q s) (hI : I s)
    (hstep : p.Advances s p' s') : p'.Guards I Q s' ∧ I s' := by
  cases hstep with
  | done hexec =>
      obtain ⟨hI', hnext, -⟩ := h.2 _ _ hexec
      exact ⟨hnext, hI'⟩
  | failed _ e => exact ⟨h.1 e, hI⟩
  | lost e hexec =>
      obtain ⟨hI', -, herror⟩ := h.2 _ _ hexec
      exact ⟨herror e, hI'⟩

theorem Guards.mono {Q' : α → σ → Prop} (hQ : ∀ a s, Q a s → Q' a s) {p : Program σ ε α} {s : σ}
    (h : p.Guards I Q s) : p.Guards I Q' s := by
  induction p generalizing s with
  | pure a => exact hQ a s h
  | throw e => exact trivial
  | stmt exec next ih =>
      refine ⟨fun e => ih _ (h.1 e), fun b s' hexec => ?_⟩
      obtain ⟨hI, hnext, herror⟩ := h.2 b s' hexec
      exact ⟨hI, ih _ hnext, fun e => ih _ (herror e)⟩

theorem Guards.bind {Q : β → σ → Prop} {p : Program σ ε α} {f : α → Program σ ε β} {s : σ}
    (h : p.Guards I (fun a => (f a).Guards I Q) s) : (p >>= f).Guards I Q s := by
  induction p generalizing s with
  | pure a => exact h
  | throw e => exact trivial
  | stmt exec next ih =>
      refine ⟨fun e => ih _ (h.1 e), fun b s' hexec => ?_⟩
      obtain ⟨hI, hnext, herror⟩ := h.2 b s' hexec
      exact ⟨hI, ih _ hnext, fun e => ih _ (herror e)⟩

theorem Guards.statement {exec : σ → Except ε (α × σ)} {s : σ}
    (h : ∀ a s', exec s = .ok (a, s') → I s' ∧ Q a s') : (statement exec).Guards I Q s := by
  refine ⟨fun e => trivial, fun a s' hexec => ?_⟩
  obtain ⟨hI, hQ⟩ := h a s' hexec
  exact ⟨hI, hQ, fun e => trivial⟩

theorem Guards.require {Q : Unit → σ → Prop} {condition : Prop} [Decidable condition] {e : ε}
    {s : σ} (h : condition → Q () s) : (require condition e).Guards I Q s := by
  unfold Program.require
  split
  · next hcondition => exact h hcondition
  · exact trivial

theorem Guards.onlyIf {Q : Unit → σ → Prop} {condition : Bool} {p : Program σ ε Unit} {s : σ}
    (h : condition = true → p.Guards I Q s) (h' : condition = false → Q () s) :
    (onlyIf condition p).Guards I Q s := by
  unfold Program.onlyIf
  split
  · next hcondition => exact h hcondition
  · next hcondition => exact h' (Bool.not_eq_true _ ▸ hcondition)

theorem Guards.orThrow {o : Option α} {e : ε} {s : σ} (h : ∀ a, o = some a → Q a s) :
    (orThrow o e).Guards I Q s := by
  cases o with
  | none => exact trivial
  | some a => exact h a rfl

theorem Guards.ofExcept {r : Except ε α} {s : σ} (h : ∀ a, r = .ok a → Q a s) :
    (ofExcept r).Guards I Q s := by
  cases r with
  | error e => exact trivial
  | ok a => exact h a rfl

/-- `try p catch handler`, where the handler can start from any state that keeps `I`. -/
theorem Guards.attempt {p : Program σ ε α} {handler : ε → Program σ ε α} {s : σ}
    (h : p.Guards I Q s) (hI : I s) (hhandler : ∀ e s, I s → (handler e).Guards I Q s) :
    (p.attempt handler).Guards I Q s := by
  induction p generalizing s with
  | pure a => exact h
  | throw e => exact hhandler e s hI
  | stmt exec next ih =>
      refine ⟨fun e => ih _ (h.1 e) hI, fun b s' hexec => ?_⟩
      obtain ⟨hI', hnext, herror⟩ := h.2 b s' hexec
      exact ⟨hI', ih _ hnext hI', fun e => ih _ (herror e) hI'⟩

/-- An execution that returns, statement by statement. -/
theorem advances_of_run {faults : ℕ → Option ε} {p : Program σ ε α} {n : ℕ} {s s' : σ} {a : α}
    (h : p.run faults n s = (.ok a, s')) :
    Relation.ReflTransGen (fun x y : Program σ ε α × σ => x.1.Advances x.2 y.1 y.2) (p, s)
      (.pure a, s') := by
  induction p generalizing n s with
  | pure b =>
      obtain ⟨hb, rfl⟩ := Prod.mk.inj h
      rw [Except.ok.inj hb]
  | throw e => cases (Prod.mk.inj h).1
  | stmt exec next ih =>
      rw [run] at h
      split at h
      · exact .head (.failed s _) (ih _ h)
      · split at h
        · exact .head (.failed s _) (ih _ h)
        · next hexec => exact .head (.done hexec) (ih _ h)

/-! ## What each statement does -/

/-- Every statement relates the state before and the state after, and those may be any: other
programs may be executed in between. -/
def Each (R : σ → σ → Prop) : Program σ ε α → Prop
  | .pure _ => True
  | .throw _ => True
  | .stmt exec next => (∀ s b s', exec s = .ok (b, s') → R s s') ∧ ∀ r, (next r).Each R

section

variable {R : σ → σ → Prop}

theorem Each.advance {p p' : Program σ ε α} {s s' : σ} (h : p.Each R) (hrefl : R s s)
    (hstep : p.Advances s p' s') : p'.Each R ∧ R s s' := by
  cases hstep with
  | done hexec => exact ⟨h.2 _, h.1 _ _ _ hexec⟩
  | failed _ e => exact ⟨h.2 _, hrefl⟩
  | lost e hexec => exact ⟨h.2 _, h.1 _ _ _ hexec⟩

theorem Each.bind {p : Program σ ε α} {f : α → Program σ ε β} (hp : p.Each R)
    (hf : ∀ a, (f a).Each R) : (p >>= f).Each R := by
  induction p with
  | pure a => exact hf a
  | throw e => exact trivial
  | stmt exec next ih => exact ⟨hp.1, fun r => ih r (hp.2 r)⟩

theorem Each.attempt {p : Program σ ε α} {handler : ε → Program σ ε α} (hp : p.Each R)
    (hhandler : ∀ e, (handler e).Each R) : (p.attempt handler).Each R := by
  induction p with
  | pure a => exact trivial
  | throw e => exact hhandler e
  | stmt exec next ih => exact ⟨hp.1, fun r => ih r (hp.2 r)⟩

theorem Each.statement {exec : σ → Except ε (α × σ)}
    (h : ∀ s a s', exec s = .ok (a, s') → R s s') : (statement exec).Each R := by
  refine ⟨h, fun r => ?_⟩
  cases r <;> exact trivial

theorem Each.require (condition : Prop) [Decidable condition] (e : ε) :
    (require condition e : Program σ ε Unit).Each R := by
  unfold Program.require
  split <;> exact trivial

theorem Each.orThrow (o : Option α) (e : ε) : (orThrow o e : Program σ ε α).Each R := by
  cases o <;> exact trivial

theorem Each.ofExcept (r : Except ε α) : (ofExcept r : Program σ ε α).Each R := by
  cases r <;> exact trivial

theorem Each.onlyIf {condition : Bool} {p : Program σ ε Unit} (hp : p.Each R) :
    (onlyIf condition p).Each R := by
  unfold Program.onlyIf
  split
  · exact hp
  · exact trivial

end

end Program
