import GreenRoom.Lib.Program

/-!
# Executions with one failing statement

Programs executed with their statements counted, where the world makes one statement
fail: the `failing`-th, counted from the start.  A number past the end makes none fail.

## Main definitions

* `Program.execute` — the result, the number of the next statement, and the state.
* `Program.Clean` — the execution that no fault disturbs, with its length.
* `Program.Strict` — programs that only read and throw at any fault.
* `Program.Always` — programs all of whose statements relate their ends.
* `Program.CommitsAt` — programs with a first statement that cannot be taken back.
* `Program.finallyDo` — `try … finally …`.

## Main results

* `Program.Clean.execute`, `clean_of_execute` — a fault outside an execution does not
  disturb it.
* `Program.Clean.stops` — a fault inside a strict program is thrown.
* `Program.CommitsAt.bind_left`, `CommitsAt.bind_right` — where a sequence commits.
-/

namespace Program

variable {σ ε α β : Type}

/-- Execute from the `n`-th statement on, making the `failing`-th fail with `fault`. -/
def execute (failing : ℕ) (fault : ε) : Program σ ε α → ℕ → σ → Except ε α × ℕ × σ
  | .pure a, n, s => (.ok a, n, s)
  | .throw e, n, s => (.error e, n, s)
  | .stmt exec next, n, s =>
    if n = failing then (next (.error fault)).execute failing fault (n + 1) s
    else match exec s with
      | .error e => (next (.error e)).execute failing fault (n + 1) s
      | .ok (b, s') => (next (.ok b)).execute failing fault (n + 1) s'

variable {failing : ℕ} {fault : ε}

theorem execute_bind (p : Program σ ε α) (f : α → Program σ ε β) (n : ℕ) (s : σ) :
    (p >>= f).execute failing fault n s =
      match p.execute failing fault n s with
      | (.ok a, m, t) => (f a).execute failing fault m t
      | (.error e, m, t) => (.error e, m, t) := by
  change (p.bind f).execute failing fault n s = _
  induction p generalizing n s with
  | pure a => rfl
  | throw e => rfl
  | stmt exec next ih =>
      simp only [Program.bind, execute]
      split
      · exact ih _ _ _
      · split
        · exact ih _ _ _
        · exact ih _ _ _

theorem execute_attempt (handler : ε → Program σ ε α) (p : Program σ ε α) (n : ℕ) (s : σ) :
    (p.attempt handler).execute failing fault n s =
      match p.execute failing fault n s with
      | (.ok a, m, t) => (.ok a, m, t)
      | (.error e, m, t) => (handler e).execute failing fault m t := by
  induction p generalizing n s with
  | pure a => rfl
  | throw e => rfl
  | stmt exec next ih =>
      simp only [attempt, execute]
      split
      · exact ih _ _ _
      · split
        · exact ih _ _ _
        · exact ih _ _ _

section

variable {p : Program σ ε α} {f : α → Program σ ε β} {n m : ℕ} {s t : σ}

theorem execute_bind_ok {a : α} (h : p.execute failing fault n s = (.ok a, m, t)) :
    (p >>= f).execute failing fault n s = (f a).execute failing fault m t := by
  rw [execute_bind, h]

theorem execute_bind_error {e : ε} (h : p.execute failing fault n s = (.error e, m, t)) :
    (p >>= f).execute failing fault n s = (.error e, m, t) := by
  rw [execute_bind, h]

/-- Statements are counted upwards. -/
theorem le_execute {r : Except ε α} (h : p.execute failing fault n s = (r, m, t)) : n ≤ m := by
  induction p generalizing n s with
  | pure a => simp only [execute, Prod.mk.injEq] at h; omega
  | throw e => simp only [execute, Prod.mk.injEq] at h; omega
  | stmt exec next ih =>
      simp only [execute] at h
      split at h
      · have := ih _ h; omega
      · split at h
        · have := ih _ h; omega
        · have := ih _ h; omega

end

/-- What an execution returns, some execution returns. -/
theorem returns_of_execute {p : Program σ ε α} {n m : ℕ} {s t : σ} {a : α}
    (h : p.execute failing fault n s = (.ok a, m, t)) : p.Returns s a t := by
  induction p generalizing n s with
  | pure b =>
      simp only [execute, Prod.mk.injEq, Except.ok.injEq] at h
      obtain ⟨rfl, -, rfl⟩ := h
      exact .pure _ _
  | throw e => simp [execute] at h
  | stmt exec next ih =>
      rw [execute] at h
      split at h
      · exact .failed _ (ih _ h)
      · split at h
        · exact .failed _ (ih _ h)
        · next hexec => exact .done hexec (ih _ h)

/-- A program that only reads ends in the state it started in, whatever fails. -/
theorem ReadOnly.execute {p : Program σ ε α} (hp : p.ReadOnly) {n m : ℕ} {s t : σ}
    {r : Except ε α} (h : p.execute failing fault n s = (r, m, t)) : t = s := by
  induction hp generalizing n s with
  | pure a => exact (congrArg (fun x => x.2.2) h).symm
  | throw e => exact (congrArg (fun x => x.2.2) h).symm
  | stmt hexec _ ih =>
      rw [Program.execute] at h
      split at h
      · exact ih _ h
      · split at h
        · exact ih _ h
        · next hok => exact (ih _ h).trans (hexec _ _ _ hok)

/-! ## The undisturbed execution -/

/-- `p.Clean s a k t`: undisturbed, `p` leads from `s` to `t` in `k` statements and
returns `a`. -/
inductive Clean : Program σ ε α → σ → α → ℕ → σ → Prop
  | pure (a : α) (s : σ) : Clean (.pure a) s a 0 s
  | done {β : Type} {exec : σ → Except ε (β × σ)} {next : Except ε β → Program σ ε α}
      {s s₁ t : σ} {b : β} {a : α} {k : ℕ} :
      exec s = .ok (b, s₁) → Clean (next (.ok b)) s₁ a k t → Clean (.stmt exec next) s a (k + 1) t
  | failed {β : Type} {exec : σ → Except ε (β × σ)} {next : Except ε β → Program σ ε α}
      {s t : σ} {e : ε} {a : α} {k : ℕ} :
      exec s = .error e → Clean (next (.error e)) s a k t → Clean (.stmt exec next) s a (k + 1) t

theorem Clean.execute {p : Program σ ε α} {s t : σ} {a : α} {k n : ℕ} (h : p.Clean s a k t)
    (hn : failing < n ∨ n + k ≤ failing) : p.execute failing fault n s = (.ok a, n + k, t) := by
  induction h generalizing n with
  | pure a s => rfl
  | done hexec _ ih =>
      rw [Program.execute, if_neg (by omega)]
      simp only [hexec]
      rw [ih (by omega)]
      congr 2
      omega
  | failed hexec _ ih =>
      rw [Program.execute, if_neg (by omega)]
      simp only [hexec]
      rw [ih (by omega)]
      congr 2
      omega

/-- An execution that ends before the fault, or starts after it, is undisturbed. -/
theorem clean_of_execute {p : Program σ ε α} {s t : σ} {a : α} {n m : ℕ}
    (h : p.execute failing fault n s = (.ok a, m, t)) (hm : failing < n ∨ m ≤ failing) :
    p.Clean s a (m - n) t := by
  induction p generalizing n s with
  | pure b =>
      simp only [Program.execute, Prod.mk.injEq, Except.ok.injEq] at h
      obtain ⟨rfl, rfl, rfl⟩ := h
      rw [Nat.sub_self]
      exact .pure _ _
  | throw e => simp [Program.execute] at h
  | stmt exec next ih =>
      have hlt : n + 1 ≤ m := by
        rw [Program.execute] at h
        split at h
        · exact le_execute h
        · split at h
          · exact le_execute h
          · exact le_execute h
      rw [Program.execute, if_neg (by omega)] at h
      have hk : m - n = m - (n + 1) + 1 := by omega
      rw [hk]
      split at h
      · next hexec => exact .failed hexec (ih _ h (by omega))
      · next hexec => exact .done hexec (ih _ h (by omega))

@[simp] theorem clean_pure {a b : α} {s t : σ} {k : ℕ} :
    (Pure.pure a : Program σ ε α).Clean s b k t ↔ b = a ∧ k = 0 ∧ t = s := by
  constructor
  · rintro ⟨⟩
    exact ⟨rfl, rfl, rfl⟩
  · rintro ⟨rfl, rfl, rfl⟩
    exact .pure _ _

@[simp] theorem clean_throw {e : ε} {a : α} {s t : σ} {k : ℕ} :
    ¬ (Program.throw e : Program σ ε α).Clean s a k t := by
  rintro ⟨⟩

theorem clean_bind {p : Program σ ε α} {f : α → Program σ ε β} {s t : σ} {b : β} {k : ℕ} :
    (p >>= f).Clean s b k t ↔
      ∃ a i u j, p.Clean s a i u ∧ (f a).Clean u b j t ∧ k = i + j := by
  change (p.bind f).Clean s b k t ↔ _
  constructor
  · intro h
    induction p generalizing s k with
    | pure a => exact ⟨a, 0, s, k, .pure _ _, h, by omega⟩
    | throw e => exact absurd h clean_throw
    | stmt exec next ih =>
        cases h with
        | done hexec h =>
            obtain ⟨a, i, u, j, hp, hf, rfl⟩ := ih _ h
            exact ⟨a, i + 1, u, j, .done hexec hp, hf, by omega⟩
        | failed hexec h =>
            obtain ⟨a, i, u, j, hp, hf, rfl⟩ := ih _ h
            exact ⟨a, i + 1, u, j, .failed hexec hp, hf, by omega⟩
  · rintro ⟨a, i, u, j, hp, hf, rfl⟩
    induction hp with
    | pure a s => rw [Nat.zero_add]; exact hf
    | done hexec _ ih =>
        rw [Nat.add_right_comm]
        exact .done hexec (ih hf)
    | failed hexec _ ih =>
        rw [Nat.add_right_comm]
        exact .failed hexec (ih hf)

/-- A sequence, one execution after the other. -/
theorem Clean.bind {p : Program σ ε α} {f : α → Program σ ε β} {s u t : σ} {a : α} {b : β}
    {i j : ℕ} (hp : p.Clean s a i u) (hf : (f a).Clean u b j t) :
    (p >>= f).Clean s b (i + j) t :=
  clean_bind.mpr ⟨a, i, u, j, hp, hf, rfl⟩

/-- A sequence whose first program reads what `Q` allows, in `n` statements. -/
theorem clean_bind_reads {p : Program σ ε α} {f : α → Program σ ε β} {s t : σ} {b : β}
    {k n : ℕ} {Q : α → Prop} (hp : ∀ a i u, p.Clean s a i u ↔ Q a ∧ i = n ∧ u = s) :
    (p >>= f).Clean s b k t ↔ ∃ a, Q a ∧ ∃ j, (f a).Clean s b j t ∧ k = n + j := by
  simp only [clean_bind, hp]
  constructor
  · rintro ⟨a, _, _, j, ⟨ha, rfl, rfl⟩, h, rfl⟩
    exact ⟨a, ha, j, h, rfl⟩
  · rintro ⟨a, ha, j, h, rfl⟩
    exact ⟨a, n, s, j, ⟨ha, rfl, rfl⟩, h, rfl⟩

@[simp] theorem clean_statement {exec : σ → Except ε (α × σ)} {s t : σ} {a : α} {k : ℕ} :
    (statement exec).Clean s a k t ↔ exec s = .ok (a, t) ∧ k = 1 := by
  constructor
  · intro h
    cases h with
    | done hexec h => cases h; exact ⟨hexec, rfl⟩
    | failed hexec h => exact absurd h clean_throw
  · rintro ⟨hexec, rfl⟩
    exact .done hexec (.pure _ _)

@[simp] theorem clean_require {condition : Prop} [Decidable condition] {e : ε} {s t : σ}
    {a : Unit} {k : ℕ} : (require condition e : Program σ ε Unit).Clean s a k t ↔
      condition ∧ k = 0 ∧ t = s := by
  unfold require
  split
  · next h => exact clean_pure.trans (by simp [h])
  · next h => exact iff_of_false clean_throw fun hc => h hc.1

theorem clean_require_bind {condition : Prop} [Decidable condition] {e : ε}
    {f : Unit → Program σ ε β} {s t : σ} {b : β} {k : ℕ} :
    (require condition e >>= f).Clean s b k t ↔ condition ∧ (f ()).Clean s b k t := by
  unfold require
  split
  · next h => exact (and_iff_right h).symm
  · next h => exact iff_of_false clean_throw fun hc => h hc.1

theorem clean_orThrow_bind {o : Option α} {e : ε} {f : α → Program σ ε β} {s t : σ} {b : β}
    {k : ℕ} : (orThrow o e >>= f).Clean s b k t ↔ ∃ a, o = some a ∧ (f a).Clean s b k t := by
  cases o with
  | none => exact iff_of_false clean_throw (by simp)
  | some a => exact ⟨fun h => ⟨a, rfl, h⟩, fun ⟨_, ha, h⟩ => Option.some.inj ha ▸ h⟩

/-- What returns without a handler returns with it. -/
theorem Clean.attempt {p : Program σ ε α} {handler : ε → Program σ ε α} {s t : σ} {a : α}
    {k : ℕ} (h : p.Clean s a k t) : (p.attempt handler).Clean s a k t := by
  induction h with
  | pure a s => exact .pure a s
  | done hexec _ ih => exact .done hexec ih
  | failed hexec _ ih => exact .failed hexec ih

/-- A handler that always throws does not help a program return. -/
theorem clean_attempt {p : Program σ ε α} {handler : ε → Program σ ε α}
    (hthrow : ∀ e s a k t, ¬ (handler e).Clean s a k t) {s t : σ} {a : α} {k : ℕ} :
    (p.attempt handler).Clean s a k t ↔ p.Clean s a k t := by
  refine ⟨fun h => ?_, Clean.attempt⟩
  induction p generalizing s k with
  | pure b => exact h
  | throw e => exact absurd h (hthrow e s a k t)
  | stmt exec next ih =>
      cases h with
      | done hexec h => exact .done hexec (ih _ h)
      | failed hexec h => exact .failed hexec (ih _ h)

/-! ## Programs that only read and throw at a fault -/

/-- Every statement leaves the state alone, and its failure is thrown. -/
inductive Strict : Program σ ε α → Prop
  | pure (a : α) : Strict (.pure a)
  | throw (e : ε) : Strict (.throw e)
  | stmt {β : Type} {exec : σ → Except ε (β × σ)} {next : Except ε β → Program σ ε α} :
      (∀ s b s', exec s = .ok (b, s') → s' = s) → (∀ b, Strict (next (.ok b))) →
        (∀ e, ∃ e', next (.error e) = .throw e') → Strict (.stmt exec next)

theorem Strict.bind {p : Program σ ε α} {f : α → Program σ ε β} (hp : p.Strict)
    (hf : ∀ a, (f a).Strict) : (p >>= f).Strict := by
  change (p.bind f).Strict
  induction hp with
  | pure a => exact hf a
  | throw e => exact .throw e
  | stmt hexec _ hthrow ih =>
      refine .stmt hexec ih fun e => ?_
      obtain ⟨e', he⟩ := hthrow e
      exact ⟨e', by rw [he]; rfl⟩

theorem Strict.statement {exec : σ → Except ε (α × σ)}
    (h : ∀ s b s', exec s = .ok (b, s') → s' = s) : (statement exec).Strict :=
  .stmt h (fun b => .pure b) fun e => ⟨e, rfl⟩

theorem Strict.require (condition : Prop) [Decidable condition] (e : ε) :
    (require condition e : Program σ ε Unit).Strict := by
  unfold Program.require
  split
  · exact .pure _
  · exact .throw _

theorem Strict.readOnly {p : Program σ ε α} (hp : p.Strict) : p.ReadOnly := by
  induction hp with
  | pure a => exact .pure a
  | throw e => exact .throw e
  | stmt hexec _ hthrow ih =>
      refine .stmt hexec fun r => ?_
      cases r with
      | ok b => exact ih b
      | error e =>
          obtain ⟨e', he⟩ := hthrow e
          rw [he]
          exact .throw e'

/-- A strict program throws at a fault, and has changed nothing. -/
theorem Clean.stops {p : Program σ ε α} {s t : σ} {a : α} {k n : ℕ} (h : p.Clean s a k t)
    (hp : p.Strict) (hn : n ≤ failing) (hk : failing < n + k) :
    ∃ e m, failing < m ∧ p.execute failing fault n s = (.error e, m, s) := by
  induction h generalizing n with
  | pure a s => omega
  | @done β exec next s s₁ t b a k hexec _ ih =>
      cases hp with
      | stmt hread hstrict hthrow =>
          obtain rfl := hread _ _ _ hexec
          rw [Program.execute]
          split
          · obtain ⟨e', he⟩ := hthrow fault
            refine ⟨e', n + 1, by omega, ?_⟩
            rw [he, Program.execute]
          · obtain ⟨e, m, hm, hstop⟩ := ih (hstrict b) (n := n + 1) (by omega) (by omega)
            exact ⟨e, m, hm, by simp only [hexec, hstop]⟩
  | @failed β exec next s t e a k hexec hclean ih =>
      cases hp with
      | stmt hread hstrict hthrow =>
          obtain ⟨e', he⟩ := hthrow e
          rw [he] at hclean
          exact absurd hclean clean_throw

/-! ## What every statement keeps -/

/-- Every statement leads from a state to one related by `R`. -/
inductive Always (R : σ → σ → Prop) : Program σ ε α → Prop
  | pure (a : α) : Always R (.pure a)
  | throw (e : ε) : Always R (.throw e)
  | stmt {β : Type} {exec : σ → Except ε (β × σ)} {next : Except ε β → Program σ ε α} :
      (∀ s b s', exec s = .ok (b, s') → R s s') → (∀ r, Always R (next r)) →
        Always R (.stmt exec next)

section

variable {R : σ → σ → Prop}

theorem Always.bind {p : Program σ ε α} {f : α → Program σ ε β} (hp : p.Always R)
    (hf : ∀ a, (f a).Always R) : (p >>= f).Always R := by
  change (p.bind f).Always R
  induction hp with
  | pure a => exact hf a
  | throw e => exact .throw e
  | stmt hexec _ ih => exact .stmt hexec ih

theorem Always.statement {exec : σ → Except ε (α × σ)}
    (h : ∀ s b s', exec s = .ok (b, s') → R s s') : (statement exec).Always R :=
  .stmt h fun
    | .ok a => .pure a
    | .error e => .throw e

theorem Always.require (condition : Prop) [Decidable condition] (e : ε) :
    (require condition e : Program σ ε Unit).Always R := by
  unfold Program.require
  split
  · exact .pure _
  · exact .throw _

theorem Always.mono {R' : σ → σ → Prop} (h : ∀ s t, R s t → R' s t) {p : Program σ ε α}
    (hp : p.Always R) : p.Always R' := by
  induction hp with
  | pure a => exact .pure a
  | throw e => exact .throw e
  | stmt hexec _ ih => exact .stmt (fun s b s' hs => h _ _ (hexec s b s' hs)) ih

theorem ReadOnly.always (hrefl : ∀ s, R s s) {p : Program σ ε α} (hp : p.ReadOnly) :
    p.Always R := by
  induction hp with
  | pure a => exact .pure a
  | throw e => exact .throw e
  | stmt hexec _ ih => exact .stmt (fun s b s' hs => hexec s b s' hs ▸ hrefl s) ih

/-- Whatever fails, an execution relates its ends. -/
theorem Always.execute (hrefl : ∀ s, R s s) (htrans : ∀ s t u, R s t → R t u → R s u)
    {p : Program σ ε α} (hp : p.Always R) {n m : ℕ} {s t : σ} {r : Except ε α}
    (h : p.execute failing fault n s = (r, m, t)) : R s t := by
  induction hp generalizing n s with
  | pure a =>
      simp only [Program.execute, Prod.mk.injEq] at h
      exact h.2.2 ▸ hrefl s
  | throw e =>
      simp only [Program.execute, Prod.mk.injEq] at h
      exact h.2.2 ▸ hrefl s
  | stmt hexec _ ih =>
      rw [Program.execute] at h
      split at h
      · exact ih _ h
      · split at h
        · exact ih _ h
        · next hok => exact htrans _ _ _ (hexec _ _ _ hok) (ih _ h)

end

section

variable {p : Program σ ε α} {Done : σ → Prop} {n : ℕ} {s : σ}

/-- What follows a program leaves what is done done. -/
theorem done_bind {f : α → Program σ ε β} (h : Done (p.execute failing fault n s).2.2)
    (hf : ∀ a, (f a).Always fun s t => Done s → Done t) :
    Done ((p >>= f).execute failing fault n s).2.2 := by
  rw [execute_bind]
  rcases hp : p.execute failing fault n s with ⟨e | a, m, t⟩ <;> rw [hp] at h
  · exact h
  · exact (hf a).execute (fun _ h => h) (fun _ _ _ h h' hs => h' (h hs)) rfl h

theorem done_attempt {handler : ε → Program σ ε α} (h : Done (p.execute failing fault n s).2.2)
    (hh : ∀ e, (handler e).Always fun s t => Done s → Done t) :
    Done ((p.attempt handler).execute failing fault n s).2.2 := by
  rw [execute_attempt]
  rcases hp : p.execute failing fault n s with ⟨e | a, m, t⟩ <;> rw [hp] at h
  · exact (hh e).execute (fun _ h => h) (fun _ _ _ h h' hs => h' (h hs)) rfl h
  · exact h

end

/-! ## Cleaning up -/

/-- The result of a program, thrown errors included. -/
def capture (p : Program σ ε α) : Program σ ε (Except ε α) :=
  (p >>= fun a => .pure (.ok a)).attempt fun e => .pure (.error e)

/-- `try p finally cleanup`. -/
def finallyDo (p : Program σ ε α) (cleanup : Program σ ε Unit) : Program σ ε α :=
  p.capture >>= fun r => cleanup >>= fun _ => ofExcept r

theorem execute_capture (p : Program σ ε α) (n : ℕ) (s : σ) :
    p.capture.execute failing fault n s =
      (.ok (p.execute failing fault n s).1, (p.execute failing fault n s).2) := by
  rw [capture, execute_attempt, execute_bind]
  rcases p.execute failing fault n s with ⟨_ | a, m, t⟩ <;> rfl

theorem clean_capture {p : Program σ ε α} {s t : σ} {a : α} {k : ℕ} :
    p.capture.Clean s (.ok a) k t ↔ p.Clean s a k t := by
  constructor
  · intro h
    induction p generalizing s k with
    | pure b =>
        cases h
        exact .pure _ _
    | throw e => cases h
    | stmt exec next ih =>
        cases h with
        | done hexec h => exact .done hexec (ih _ h)
        | failed hexec h => exact .failed hexec (ih _ h)
  · intro h
    induction h with
    | pure a s => exact .pure _ _
    | done hexec _ ih => exact .done hexec ih
    | failed hexec _ ih => exact .failed hexec ih

/-- Undisturbed, the program returns and then the cleanup does. -/
theorem clean_finallyDo {p : Program σ ε α} {cleanup : Program σ ε Unit} {s t : σ} {a : α}
    {k : ℕ} : (p.finallyDo cleanup).Clean s a k t ↔
      ∃ i u j, p.Clean s a i u ∧ cleanup.Clean u () j t ∧ k = i + j := by
  constructor
  · intro h
    obtain ⟨r, i, u, j, hp, hrest, rfl⟩ := clean_bind.mp h
    obtain ⟨_, i', v, j', hc, hr, rfl⟩ := clean_bind.mp hrest
    cases r with
    | error e => exact absurd hr clean_throw
    | ok b =>
        obtain ⟨rfl, rfl, rfl⟩ := clean_pure.mp hr
        exact ⟨i, u, i', clean_capture.mp hp, hc, by omega⟩
  · rintro ⟨i, u, j, hp, hc, rfl⟩
    have hrest : (cleanup >>= fun _ => ofExcept (.ok a)).Clean u a (j + 0) t :=
      hc.bind (clean_pure.mpr ⟨rfl, rfl, rfl⟩)
    exact (clean_capture.mpr hp).bind hrest

/-- A program whose cleanup only reads and returns unless disturbed: where it throws, the
program has thrown or the fault is in the cleanup. -/
theorem execute_finallyDo_error {p : Program σ ε α} {cleanup : Program σ ε Unit} {n m : ℕ}
    {s t : σ} {e : ε} (hread : cleanup.ReadOnly) (hc : ∀ s, ∃ k, cleanup.Clean s () k s)
    (h : (p.finallyDo cleanup).execute failing fault n s = (.error e, m, t)) :
    ∃ r m', p.execute failing fault n s = (r, m', t) ∧ (failing < m' → ∃ e', r = .error e') := by
  rcases hp : p.execute failing fault n s with ⟨r, m', u⟩
  have hcapture := @execute_capture _ _ _ failing fault p n s
  rw [finallyDo, execute_bind, hcapture, hp] at h
  dsimp only at h
  rw [execute_bind] at h
  rcases hcleanup : cleanup.execute failing fault m' u with ⟨_ | _, m₁, u₁⟩
  · obtain rfl := hread.execute hcleanup
    rw [hcleanup] at h
    obtain rfl : u₁ = t := congrArg (fun x => x.2.2) h
    refine ⟨r, m', rfl, fun hlt => ?_⟩
    obtain ⟨k, hclean⟩ := hc u₁
    rw [hclean.execute (.inl hlt)] at hcleanup
    cases hcleanup
  · obtain rfl := hread.execute hcleanup
    rw [hcleanup] at h
    cases r with
    | error e' =>
        obtain rfl : u₁ = t := congrArg (fun x => x.2.2) h
        exact ⟨_, m', rfl, fun _ => ⟨e', rfl⟩⟩
    | ok a => cases h

theorem ReadOnly.finallyDo {cleanup : Program σ ε Unit} {p : Program σ ε α}
    (hp : p.ReadOnly) (hc : cleanup.ReadOnly) : (p.finallyDo cleanup).ReadOnly :=
  ((hp.bind fun _ => .pure _).attempt fun _ => .pure _).bind fun r =>
    hc.bind fun _ => .ofExcept r

/-! ## The first statement that cannot be taken back -/

/-- From `s`, the statement `k` of `p` makes `Done` hold for good.  If it or one before
it fails, `p` throws and has changed nothing. -/
structure CommitsAt (fault : ε) (p : Program σ ε α) (s : σ) (k : ℕ) (Done : σ → Prop) :
    Prop where
  early : ∀ failing n, n ≤ failing → failing ≤ n + k →
    ∃ e m, failing < m ∧ p.execute failing fault n s = (.error e, m, s)
  late : ∀ failing n, failing < n ∨ n + k < failing →
    Done (p.execute failing fault n s).2.2

section

variable {p : Program σ ε α} {f : α → Program σ ε β} {s t : σ} {Done : σ → Prop} {i k : ℕ}

/-- A statement that commits. -/
theorem CommitsAt.statement {exec : σ → Except ε (α × σ)} {a : α} (h : exec s = .ok (a, t))
    (hdone : Done t) : (statement exec).CommitsAt fault s 0 Done where
  early failing n hn hk := by
    obtain rfl : failing = n := by omega
    exact ⟨fault, failing + 1, by omega, by simp [Program.statement, Program.execute]⟩
  late failing n hn := by
    rw [(clean_statement.mpr ⟨h, rfl⟩).execute (by omega)]
    exact hdone

/-- What follows a program that commits does not take it back. -/
theorem CommitsAt.bind_left (hp : p.CommitsAt fault s k Done)
    (hf : ∀ a, (f a).Always fun s t => Done s → Done t) :
    (p >>= f).CommitsAt fault s k Done where
  early failing n hn hk := by
    obtain ⟨e, m, hm, h⟩ := hp.early failing n hn hk
    exact ⟨e, m, hm, execute_bind_error h⟩
  late failing n hn := done_bind (hp.late failing n hn) hf

/-- What goes before a program that commits, where it throws at any fault. -/
theorem CommitsAt.bind_right {a : α} (hstrict : p.Strict) (hp : p.Clean s a i s)
    (hf : (f a).CommitsAt fault s k Done) : (p >>= f).CommitsAt fault s (i + k) Done where
  early failing n hn hk := by
    by_cases hi : n + i ≤ failing
    · obtain ⟨e, m, hm, h⟩ := hf.early failing (n + i) hi (by omega)
      exact ⟨e, m, hm, (execute_bind_ok (hp.execute (.inr hi))).trans h⟩
    · obtain ⟨e, m, hm, h⟩ := hp.stops hstrict hn (by omega)
      exact ⟨e, m, hm, execute_bind_error h⟩
  late failing n hn := by
    rw [execute_bind_ok (hp.execute (by omega))]
    exact hf.late failing (n + i) (by omega)

end

end Program
