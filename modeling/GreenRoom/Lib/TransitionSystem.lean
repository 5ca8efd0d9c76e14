import Mathlib.Logic.Relation

/-!
# Labelled transition systems

A program that takes one step after another, with other programs stepping in
between, is a transition system: a set of initial states and a labelled step
relation.  What holds in every reachable state is proved once per step, by an
inductive invariant; what is never undone is proved once per step, by
stability along runs.

## Main definitions

* `TransitionSystem σ ℓ` — initial states and a labelled step relation.
* `TransitionSystem.Run` — a finite run, with its labels in order.
* `TransitionSystem.Reachable` — the states some run from an initial state ends in.
* `TransitionSystem.Inductive` — an invariant kept by every step.
* `TransitionSystem.restrict` — the system whose steps all meet a condition.
-/

universe u v

/-- A labelled transition system over states `σ` and labels `ℓ`. -/
structure TransitionSystem (σ : Type u) (ℓ : Type v) where
  /-- The states a run may start in. -/
  init : σ → Prop
  /-- `step s l t`: from `s`, doing `l`, the system may move to `t`. -/
  step : σ → ℓ → σ → Prop

namespace TransitionSystem

variable {σ : Type u} {ℓ : Type v} {T : TransitionSystem σ ℓ}

/-- `T.Run s ls t`: the steps labelled `ls`, in order, lead from `s` to `t`. -/
inductive Run (T : TransitionSystem σ ℓ) : σ → List ℓ → σ → Prop
  | nil (s : σ) : Run T s [] s
  | cons {s t u : σ} {l : ℓ} {ls : List ℓ} :
      T.step s l t → Run T t ls u → Run T s (l :: ls) u

/-- The states in which some run from an initial state ends. -/
def Reachable (T : TransitionSystem σ ℓ) (s : σ) : Prop :=
  ∃ s₀ ls, T.init s₀ ∧ T.Run s₀ ls s

theorem Run.single {s t : σ} {l : ℓ} (h : T.step s l t) : T.Run s [l] t :=
  .cons h (.nil t)

theorem Run.append {s t u : σ} {ls ms : List ℓ} (h : T.Run s ls t) (h' : T.Run t ms u) :
    T.Run s (ls ++ ms) u := by
  induction h with
  | nil => exact h'
  | cons hstep _ ih => exact .cons hstep (ih h')

/-- Induction along a run, one more step at its end. -/
theorem Run.induction_end {s t : σ} {ls : List ℓ} (h : T.Run s ls t)
    {motive : List ℓ → σ → Prop} (nil : motive [] s)
    (step : ∀ ls t l u, T.Run s ls t → motive ls t → T.step t l u → motive (ls ++ [l]) u) :
    motive ls t := by
  have hsuffix : ∀ {m u : σ} {ks : List ℓ}, T.Run m ks u → ∀ js, T.Run s js m → motive js m →
      motive (js ++ ks) u := by
    intro m u ks hrun
    induction hrun with
    | nil m =>
        intro js _ hm
        rwa [List.append_nil]
    | @cons m m' u l ks hst _ ih =>
        intro js hjs hm
        have hnext := ih (js ++ [l]) (hjs.append (.single hst)) (step js m l m' hjs hm hst)
        rwa [List.append_assoc] at hnext
  exact hsuffix h [] (.nil s) nil

theorem Reachable.of_init {s : σ} (h : T.init s) : T.Reachable s := ⟨s, [], h, .nil s⟩

theorem Reachable.run {s t : σ} {ls : List ℓ} (h : T.Reachable s) (h' : T.Run s ls t) :
    T.Reachable t := by
  obtain ⟨s₀, ks, h₀, hr⟩ := h
  exact ⟨s₀, ks ++ ls, h₀, hr.append h'⟩

theorem Reachable.step {s t : σ} {l : ℓ} (h : T.Reachable s) (h' : T.step s l t) :
    T.Reachable t :=
  h.run (.single h')

/-! ## Invariants -/

/-- What one step keeps, a run keeps. -/
theorem Run.preserves {I : σ → Prop} (hstep : ∀ s l t, I s → T.step s l t → I t)
    {s t : σ} {ls : List ℓ} (h : T.Run s ls t) (hs : I s) : I t := by
  induction h with
  | nil => exact hs
  | cons hst _ ih => exact ih (hstep _ _ _ hs hst)

/-- An invariant that holds initially and is kept by every step. -/
structure Inductive (T : TransitionSystem σ ℓ) (I : σ → Prop) : Prop where
  init : ∀ s, T.init s → I s
  step : ∀ s l t, I s → T.step s l t → I t

/-- An inductive invariant holds in every reachable state. -/
theorem Inductive.reachable {I : σ → Prop} (h : T.Inductive I) {s : σ} (hs : T.Reachable s) :
    I s := by
  obtain ⟨s₀, ls, h₀, hr⟩ := hs
  exact hr.preserves h.step (h.init s₀ h₀)

/-- Strengthening: an invariant may use another one that is already inductive. -/
theorem Inductive.and {I J : σ → Prop} (hI : T.Inductive I) (hinit : ∀ s, T.init s → J s)
    (hstep : ∀ s l t, I s → J s → T.step s l t → J t) : T.Inductive fun s => I s ∧ J s where
  init s hs := ⟨hI.init s hs, hinit s hs⟩
  step s l t hs hst := ⟨hI.step s l t hs.1 hst, hstep s l t hs.1 hs.2 hst⟩

/-- Stability: under an inductive invariant, what one step keeps is kept by every
run that starts in a reachable state. -/
theorem Inductive.stable {I P : σ → Prop} (hI : T.Inductive I)
    (hstep : ∀ s l t, I s → P s → T.step s l t → P t) {s t : σ} {ls : List ℓ}
    (hs : T.Reachable s) (hr : T.Run s ls t) (hp : P s) : P t := by
  have h : I t ∧ P t :=
    hr.preserves (I := fun s => I s ∧ P s)
      (fun s l t h hst => ⟨hI.step s l t h.1 hst, hstep s l t h.1 h.2 hst⟩)
      ⟨hI.reachable hs, hp⟩
  exact h.2

/-- Stability along the runs whose labels all meet a condition. -/
theorem Inductive.stable_on {I P : σ → Prop} {ok : ℓ → Prop} (hI : T.Inductive I)
    (hstep : ∀ s l t, I s → ok l → P s → T.step s l t → P t) {s t : σ} {ls : List ℓ}
    (hs : T.Reachable s) (hr : T.Run s ls t) (hok : ∀ l ∈ ls, ok l) (hp : P s) : P t := by
  have hs' := hI.reachable hs
  clear hs
  induction hr with
  | nil s => exact hp
  | cons hst _ ih =>
      refine ih (fun l hl => hok l (List.mem_cons_of_mem _ hl)) ?_ (hI.step _ _ _ hs' hst)
      exact hstep _ _ _ hs' (hok _ List.mem_cons_self) hp hst

/-- A relation between the two ends of every step, kept by composition, relates the
two ends of every run that starts in a reachable state. -/
theorem Inductive.relates {I : σ → Prop} {R : σ → σ → Prop} (hI : T.Inductive I)
    (hrefl : ∀ s, R s s) (htrans : ∀ s t u, R s t → R t u → R s u)
    (hstep : ∀ s l t, I s → T.step s l t → R s t) {s t : σ} {ls : List ℓ}
    (hs : T.Reachable s) (hr : T.Run s ls t) : R s t := by
  have hs' := hI.reachable hs
  clear hs
  induction hr with
  | nil s => exact hrefl s
  | cons hst _ ih =>
      exact htrans _ _ _ (hstep _ _ _ hs' hst) (ih (hI.step _ _ _ hs' hst))

/-! ## Systems with restricted steps -/

/-- The system that only takes the steps meeting `ok`. -/
def restrict (T : TransitionSystem σ ℓ) (ok : σ → ℓ → Prop) : TransitionSystem σ ℓ where
  init := T.init
  step s l t := ok s l ∧ T.step s l t

theorem Run.of_restrict {ok : σ → ℓ → Prop} {s t : σ} {ls : List ℓ}
    (h : (T.restrict ok).Run s ls t) : T.Run s ls t := by
  induction h with
  | nil s => exact .nil s
  | cons hst _ ih => exact .cons hst.2 ih

theorem Reachable.of_restrict {ok : σ → ℓ → Prop} {s : σ} (h : (T.restrict ok).Reachable s) :
    T.Reachable s := by
  obtain ⟨s₀, ls, h₀, hr⟩ := h
  exact ⟨s₀, ls, h₀, hr.of_restrict⟩

/-- An invariant of the unrestricted system is one of the restricted system. -/
theorem Inductive.restrict {I : σ → Prop} (h : T.Inductive I) (ok : σ → ℓ → Prop) :
    (T.restrict ok).Inductive I where
  init := h.init
  step s l t hs hst := h.step s l t hs hst.2

/-- A run all of whose states meet `P`. -/
def RunIn (T : TransitionSystem σ ℓ) (P : σ → Prop) (s : σ) (ls : List ℓ) (t : σ) : Prop :=
  (T.restrict fun s _ => P s).Run s ls t ∧ P t

theorem RunIn.nil {P : σ → Prop} {s : σ} (h : P s) : T.RunIn P s [] s := ⟨.nil s, h⟩

theorem RunIn.snoc {P : σ → Prop} {s t u : σ} {l : ℓ} {ls : List ℓ} (h : T.RunIn P s ls t)
    (hstep : T.step t l u) (hu : P u) : T.RunIn P s (ls ++ [l]) u :=
  ⟨h.1.append (.single ⟨h.2, hstep⟩), hu⟩

end TransitionSystem
