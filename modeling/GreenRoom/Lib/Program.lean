import Mathlib.Control.Basic
import Mathlib.Data.Nat.Notation

/-!
# Programs of statements that may fail

A program works on a state by executing statements one after another.  A statement
answers and changes the state, or it fails and leaves the state as it was; a
program sees the failure and may go on.  Besides failing for its own reasons a
statement may be made to fail by the world around it: by a fault.

## Main definitions

* `Program σ ε α` — programs on states `σ` with errors `ε` and results `α`.
* `Program.run` — execution under given faults.
* `Program.Returns` — the executions that return, under any faults.
* `Program.Throws` — the execution that throws, without faults.
* `Program.ReadOnly` — programs that leave the state alone.
* `Program.Keeps` — programs all of whose executions relate their ends.

## Main results

* `Program.returns_of_run` — what `run` returns, some execution returns.
* `Program.returns_bind`, `returns_query`, … — inversion of an execution that returns.
* `Program.throws_of_run` — what `run` throws without faults, the execution throws.
* `Program.Throws.bind`, `throws_query`, … — inversion of an execution that throws.
-/

/-- Programs on states `σ` with errors `ε`, returning an `α`. -/
inductive Program (σ ε : Type) (α : Type) : Type 1
  | pure (a : α)
  | throw (e : ε)
  | stmt {β : Type} (exec : σ → Except ε (β × σ)) (next : Except ε β → Program σ ε α)

namespace Program

variable {σ ε α β : Type}

/-- Sequencing: an error ends the first program and the whole. -/
protected def bind : Program σ ε α → (α → Program σ ε β) → Program σ ε β
  | .pure a, f => f a
  | .throw e, _ => .throw e
  | .stmt exec next, f => .stmt exec fun r => (next r).bind f

instance : Monad (Program σ ε) where
  pure := .pure
  bind := .bind

/-- `try p catch handler`. -/
def attempt (handler : ε → Program σ ε α) : Program σ ε α → Program σ ε α
  | .pure a => .pure a
  | .throw e => handler e
  | .stmt exec next => .stmt exec fun r => (next r).attempt handler

/-- One statement; its failure is thrown. -/
def statement (exec : σ → Except ε (α × σ)) : Program σ ε α :=
  .stmt exec fun
    | .ok a => .pure a
    | .error e => .throw e

/-- A statement that reads. -/
def query (read : σ → α) : Program σ ε α := statement fun s => .ok (read s, s)

/-- A statement that writes. -/
def write (f : σ → σ) : Program σ ε Unit := statement fun s => .ok ((), f s)

/-- `if (!condition) throw e`. -/
def require (condition : Prop) [Decidable condition] (e : ε) : Program σ ε Unit :=
  if condition then .pure () else .throw e

/-- `if (condition) { p }`. -/
def onlyIf (condition : Bool) (p : Program σ ε Unit) : Program σ ε Unit :=
  if condition then p else .pure ()

/-- The value, or `e` if it is undefined. -/
def orThrow (a : Option α) (e : ε) : Program σ ε α :=
  match a with
  | some a => .pure a
  | none => .throw e

/-- The value, or the error thrown. -/
def ofExcept : Except ε α → Program σ ε α
  | .ok a => .pure a
  | .error e => .throw e

/-! ## Execution -/

/-- Execute, making the `n`-th statement fail if `faults n` names an error. -/
def run (faults : ℕ → Option ε) : Program σ ε α → ℕ → σ → Except ε α × σ
  | .pure a, _, s => (.ok a, s)
  | .throw e, _, s => (.error e, s)
  | .stmt exec next, n, s =>
    match faults n with
    | some e => (next (.error e)).run faults (n + 1) s
    | none =>
      match exec s with
      | .error e => (next (.error e)).run faults (n + 1) s
      | .ok (b, s') => (next (.ok b)).run faults (n + 1) s'

/-- `p.Returns s a s'`: from `s`, some execution of `p` returns `a` and ends in `s'`.
A statement may fail in it at any time. -/
inductive Returns : Program σ ε α → σ → α → σ → Prop
  | pure (a : α) (s : σ) : Returns (.pure a) s a s
  | done {β : Type} {exec : σ → Except ε (β × σ)} {next : Except ε β → Program σ ε α}
      {s s₁ s' : σ} {b : β} {a : α} :
      exec s = .ok (b, s₁) → Returns (next (.ok b)) s₁ a s' → Returns (.stmt exec next) s a s'
  | failed {β : Type} {exec : σ → Except ε (β × σ)} {next : Except ε β → Program σ ε α}
      {s s' : σ} {a : α} (e : ε) :
      Returns (next (.error e)) s a s' → Returns (.stmt exec next) s a s'

theorem returns_of_run {faults : ℕ → Option ε} {p : Program σ ε α} {n : ℕ} {s s' : σ} {a : α}
    (h : p.run faults n s = (.ok a, s')) : p.Returns s a s' := by
  induction p generalizing n s with
  | pure b =>
      simp only [run, Prod.mk.injEq, Except.ok.injEq] at h
      obtain ⟨rfl, rfl⟩ := h
      exact .pure _ _
  | throw e => simp [run] at h
  | stmt exec next ih =>
      rw [run] at h
      split at h
      · exact .failed _ (ih _ h)
      · split at h
        · exact .failed _ (ih _ h)
        · next hexec => exact .done hexec (ih _ h)

/-- What `p` returns, `try p catch handler` returns. -/
theorem run_attempt {faults : ℕ → Option ε} {p : Program σ ε α} {handler : ε → Program σ ε α}
    {n : ℕ} {s s' : σ} {a : α} (h : p.run faults n s = (.ok a, s')) :
    (p.attempt handler).run faults n s = (.ok a, s') := by
  induction p generalizing n s with
  | pure b => exact h
  | throw e => cases (Prod.mk.inj h).1
  | stmt exec next ih =>
      rw [run] at h
      rw [attempt, run]
      split at h
      · exact ih _ h
      · split at h
        · exact ih _ h
        · exact ih _ h

/-- Where `p` has returned, what follows it is executed. -/
theorem run_bind {faults : ℕ → Option ε} {p : Program σ ε α} {f : α → Program σ ε β} {n : ℕ}
    {s s' : σ} {a : α} (h : p.run faults n s = (.ok a, s')) :
    ∃ m, (p >>= f).run faults n s = (f a).run faults m s' := by
  change ∃ m, (p.bind f).run faults n s = _
  induction p generalizing n s with
  | pure b =>
      obtain ⟨hb, rfl⟩ := Prod.mk.inj h
      obtain rfl := Except.ok.inj hb
      exact ⟨n, rfl⟩
  | throw e => cases (Prod.mk.inj h).1
  | stmt exec next ih =>
      rw [run] at h
      rw [Program.bind, run]
      split at h
      · exact ih _ h
      · split at h
        · exact ih _ h
        · exact ih _ h

/-! ## Inversion of executions that return -/

@[simp] theorem returns_pure {a b : α} {s s' : σ} :
    (Pure.pure a : Program σ ε α).Returns s b s' ↔ b = a ∧ s' = s := by
  constructor
  · rintro ⟨⟩
    exact ⟨rfl, rfl⟩
  · rintro ⟨rfl, rfl⟩
    exact .pure _ _

@[simp] theorem returns_throw {e : ε} {a : α} {s s' : σ} :
    ¬ (Program.throw e : Program σ ε α).Returns s a s' := by
  rintro ⟨⟩

@[simp] theorem returns_bind {p : Program σ ε α} {f : α → Program σ ε β} {s s' : σ} {b : β} :
    (p >>= f).Returns s b s' ↔ ∃ a s₁, p.Returns s a s₁ ∧ (f a).Returns s₁ b s' := by
  change (p.bind f).Returns s b s' ↔ _
  constructor
  · intro h
    induction p generalizing s with
    | pure a => exact ⟨a, s, .pure _ _, h⟩
    | throw e => exact absurd h returns_throw
    | stmt exec next ih =>
        cases h with
        | done hexec h =>
            obtain ⟨a, s₁, hp, hf⟩ := ih _ h
            exact ⟨a, s₁, .done hexec hp, hf⟩
        | failed e h =>
            obtain ⟨a, s₁, hp, hf⟩ := ih _ h
            exact ⟨a, s₁, .failed e hp, hf⟩
  · rintro ⟨a, s₁, hp, hf⟩
    induction hp with
    | pure a s => exact hf
    | done hexec _ ih => exact .done hexec (ih hf)
    | failed e _ ih => exact .failed e (ih hf)

@[simp] theorem returns_statement {exec : σ → Except ε (α × σ)} {s s' : σ} {a : α} :
    (statement exec).Returns s a s' ↔ exec s = .ok (a, s') := by
  constructor
  · intro h
    cases h with
    | done hexec h => cases h; exact hexec
    | failed e h => exact absurd h returns_throw
  · exact fun h => .done h (.pure _ _)

@[simp] theorem returns_query {read : σ → α} {s s' : σ} {a : α} :
    (query read : Program σ ε α).Returns s a s' ↔ a = read s ∧ s' = s := by
  rw [query, returns_statement, Except.ok.injEq, Prod.mk.injEq, eq_comm, @eq_comm _ s]

@[simp] theorem returns_write {f : σ → σ} {s s' : σ} {a : Unit} :
    (write f : Program σ ε Unit).Returns s a s' ↔ s' = f s := by
  rw [write, returns_statement, Except.ok.injEq, Prod.mk.injEq, @eq_comm _ (f s)]
  exact and_iff_right rfl

@[simp] theorem returns_require {condition : Prop} [Decidable condition] {e : ε} {s s' : σ}
    {a : Unit} : (require condition e : Program σ ε Unit).Returns s a s' ↔
      condition ∧ s' = s := by
  unfold require
  split
  · next h => exact returns_pure.trans (by simp [h])
  · next h => simp [h]

@[simp] theorem returns_onlyIf {condition : Bool} {p : Program σ ε Unit} {s s' : σ} {a : Unit} :
    (onlyIf condition p).Returns s a s' ↔
      (condition = true ∧ p.Returns s a s') ∨ (condition = false ∧ s' = s) := by
  cases condition with
  | true => simp [onlyIf]
  | false => exact returns_pure.trans (by simp)

@[simp] theorem returns_orThrow {o : Option α} {e : ε} {s s' : σ} {a : α} :
    (orThrow o e : Program σ ε α).Returns s a s' ↔ o = some a ∧ s' = s := by
  cases o with
  | none => simp [orThrow]
  | some b => exact returns_pure.trans (by rw [Option.some.injEq, @eq_comm _ a])

@[simp] theorem returns_ofExcept {r : Except ε α} {s s' : σ} {a : α} :
    (ofExcept r : Program σ ε α).Returns s a s' ↔ r = .ok a ∧ s' = s := by
  cases r with
  | error e => simp [ofExcept]
  | ok b => exact returns_pure.trans (by rw [Except.ok.injEq, @eq_comm _ a])

/-- What `try p catch handler` returns, `p` returns or the handler does. -/
theorem Returns.attempt {p : Program σ ε α} {handler : ε → Program σ ε α} {s s' : σ} {a : α}
    (h : (p.attempt handler).Returns s a s') :
    p.Returns s a s' ∨ ∃ e s₁, (handler e).Returns s₁ a s' := by
  induction p generalizing s with
  | pure b => exact .inl h
  | throw e => exact .inr ⟨e, s, h⟩
  | stmt exec next ih =>
      cases h with
      | done hexec h => exact (ih _ h).imp (.done hexec) id
      | failed e h => exact (ih _ h).imp (.failed e) id

/-! ## Executions that throw -/

/-- `p.Throws s e`: from `s`, without faults, `p` throws `e`. -/
inductive Throws : Program σ ε α → σ → ε → Prop
  | throw (e : ε) (s : σ) : Throws (.throw e) s e
  | done {β : Type} {exec : σ → Except ε (β × σ)} {next : Except ε β → Program σ ε α}
      {s s₁ : σ} {b : β} {e : ε} :
      exec s = .ok (b, s₁) → Throws (next (.ok b)) s₁ e → Throws (.stmt exec next) s e
  | failed {β : Type} {exec : σ → Except ε (β × σ)} {next : Except ε β → Program σ ε α}
      {s : σ} {e e' : ε} :
      exec s = .error e' → Throws (next (.error e')) s e → Throws (.stmt exec next) s e

theorem throws_of_run {p : Program σ ε α} {n : ℕ} {s s' : σ} {e : ε}
    (h : p.run (fun _ => none) n s = (.error e, s')) : p.Throws s e := by
  induction p generalizing n s with
  | pure b => simp [run] at h
  | throw e' =>
      simp only [run, Prod.mk.injEq, Except.error.injEq] at h
      obtain ⟨rfl, rfl⟩ := h
      exact .throw _ _
  | stmt exec next ih =>
      simp only [run] at h
      split at h
      · next hexec => exact .failed hexec (ih _ h)
      · next hexec => exact .done hexec (ih _ h)

/-- Without faults, a program throws or returns. -/
theorem throws_or_returns (p : Program σ ε α) (s : σ) :
    (∃ e, p.Throws s e) ∨ ∃ a s', p.Returns s a s' := by
  rcases h : p.run (fun _ => none) 0 s with ⟨e | a, s'⟩
  · exact .inl ⟨e, throws_of_run h⟩
  · exact .inr ⟨a, s', returns_of_run h⟩

@[simp] theorem throws_pure {a : α} {s : σ} {e : ε} :
    ¬ (Pure.pure a : Program σ ε α).Throws s e := by
  rintro ⟨⟩

@[simp] theorem throws_throw {e e' : ε} {s : σ} :
    (Program.throw e : Program σ ε α).Throws s e' ↔ e' = e := by
  constructor
  · rintro ⟨⟩
    rfl
  · rintro rfl
    exact .throw _ _

/-- The first program throws, or it returns and the second throws. -/
theorem Throws.bind {p : Program σ ε α} {f : α → Program σ ε β} {s : σ} {e : ε}
    (h : (p >>= f).Throws s e) : p.Throws s e ∨ ∃ a s₁, p.Returns s a s₁ ∧ (f a).Throws s₁ e := by
  change (p.bind f).Throws s e at h
  induction p generalizing s with
  | pure a => exact .inr ⟨a, s, .pure _ _, h⟩
  | throw e' => exact .inl (throws_throw.mpr (by cases h; rfl))
  | stmt exec next ih =>
      cases h with
      | done hexec h =>
          rcases ih _ h with h | ⟨a, s₁, hp, hf⟩
          · exact .inl (.done hexec h)
          · exact .inr ⟨a, s₁, .done hexec hp, hf⟩
      | failed hexec h =>
          rcases ih _ h with h | ⟨a, s₁, hp, hf⟩
          · exact .inl (.failed hexec h)
          · exact .inr ⟨a, s₁, .failed _ hp, hf⟩

@[simp] theorem throws_statement {exec : σ → Except ε (α × σ)} {s : σ} {e : ε} :
    (statement exec).Throws s e ↔ exec s = .error e := by
  constructor
  · intro h
    cases h with
    | done hexec h => exact absurd h throws_pure
    | failed hexec h => rw [hexec, throws_throw.mp h]
  · exact fun h => .failed h (.throw _ _)

@[simp] theorem throws_query {read : σ → α} {s : σ} {e : ε} :
    ¬ (query read : Program σ ε α).Throws s e := by
  rw [query, throws_statement]
  rintro ⟨⟩

@[simp] theorem throws_require {condition : Prop} [Decidable condition] {e e' : ε} {s : σ} :
    (require condition e : Program σ ε Unit).Throws s e' ↔ ¬ condition ∧ e' = e := by
  unfold require
  split
  · next h => exact iff_of_false throws_pure fun hn => hn.1 h
  · next h => simp [h]

@[simp] theorem throws_ofExcept {r : Except ε α} {s : σ} {e : ε} :
    (ofExcept r : Program σ ε α).Throws s e ↔ r = .error e := by
  cases r with
  | error e' => simp [ofExcept, eq_comm]
  | ok b => exact iff_of_false throws_pure (by simp)

section

variable {f : α → Program σ ε β} {s : σ} {e : ε}

/-- A read does not throw. -/
theorem Throws.of_query {read : σ → α} (h : (query read >>= f).Throws s e) :
    (f (read s)).Throws s e := by
  rcases h.bind with h | ⟨a, s', hread, h⟩
  · exact absurd h throws_query
  · obtain ⟨rfl, rfl⟩ := returns_query.mp hread
    exact h

theorem Throws.of_orThrow {o : Option α} {a : α} {e' : ε} (h : (orThrow o e' >>= f).Throws s e)
    (ho : o = some a) : (f a).Throws s e := by
  subst ho
  exact h

theorem Throws.of_require {condition : Prop} [Decidable condition] {e' : ε}
    {f : Unit → Program σ ε β} (h : (require condition e' >>= f).Throws s e) (hc : condition) :
    (f ()).Throws s e := by
  rw [require, if_pos hc] at h
  exact h

theorem Throws.of_ofExcept {r : Except ε α} {a : α} (h : (ofExcept r >>= f).Throws s e)
    (hr : r = .ok a) : (f a).Throws s e := by
  subst hr
  exact h

end

/-! ## Executions without faults -/

theorem run_of_throws {p : Program σ ε α} {s : σ} {e : ε} (h : p.Throws s e) (n : ℕ) :
    ∃ s', p.run (fun _ => none) n s = (.error e, s') := by
  induction h generalizing n with
  | throw e s => exact ⟨s, rfl⟩
  | done hexec _ ih =>
      simp only [run, hexec]
      exact ih (n + 1)
  | failed hexec _ ih =>
      simp only [run, hexec]
      exact ih (n + 1)

/-- `p.Runs s a s'`: from `s`, without faults, `p` returns `a` and ends in `s'`. -/
def Runs (p : Program σ ε α) (s : σ) (a : α) (s' : σ) : Prop :=
  ∀ n, p.run (fun _ => none) n s = (.ok a, s')

namespace Runs

theorem pure (a : α) (s : σ) : (Pure.pure a : Program σ ε α).Runs s a s := fun _ => rfl

theorem bind {p : Program σ ε α} {f : α → Program σ ε β} {s s₁ s' : σ} {a : α} {b : β}
    (hp : p.Runs s a s₁) (hf : (f a).Runs s₁ b s') : (p >>= f).Runs s b s' := by
  intro n
  obtain ⟨m, hm⟩ := run_bind (f := f) (hp n)
  rw [hm]
  exact hf m

theorem statement {exec : σ → Except ε (α × σ)} {s s' : σ} {a : α} (h : exec s = .ok (a, s')) :
    (Program.statement exec).Runs s a s' := by
  intro n
  simp only [Program.statement, run, h]

theorem query (read : σ → α) (s : σ) : (Program.query read : Program σ ε α).Runs s (read s) s :=
  statement rfl

theorem require {condition : Prop} [Decidable condition] {e : ε} {s : σ} (h : condition) :
    (Program.require condition e).Runs s () s := by
  rw [Program.require, if_pos h]
  exact .pure () s

theorem orThrow {o : Option α} {e : ε} {s : σ} {a : α} (h : o = some a) :
    (Program.orThrow o e).Runs s a s := by
  subst h
  exact .pure a s

theorem ofExcept {r : Except ε α} {s : σ} {a : α} (h : r = .ok a) :
    (Program.ofExcept r).Runs s a s := by
  subst h
  exact .pure a s

/-- What has run has not thrown. -/
theorem not_throws {p : Program σ ε α} {s s' : σ} {a : α} {e : ε} (h : p.Runs s a s') :
    ¬ p.Throws s e := by
  intro hthrows
  obtain ⟨s₁, hrun⟩ := run_of_throws hthrows 0
  rw [h 0] at hrun
  cases hrun

theorem returns {p : Program σ ε α} {s s' : σ} {a : α} (h : p.Runs s a s') : p.Returns s a s' :=
  returns_of_run (h 0)

end Runs

/-! ## Programs that only read -/

/-- Every statement leaves the state as it was. -/
inductive ReadOnly : Program σ ε α → Prop
  | pure (a : α) : ReadOnly (.pure a)
  | throw (e : ε) : ReadOnly (.throw e)
  | stmt {β : Type} {exec : σ → Except ε (β × σ)} {next : Except ε β → Program σ ε α} :
      (∀ s b s', exec s = .ok (b, s') → s' = s) → (∀ r, ReadOnly (next r)) →
        ReadOnly (.stmt exec next)

theorem ReadOnly.bind {p : Program σ ε α} {f : α → Program σ ε β} (hp : p.ReadOnly)
    (hf : ∀ a, (f a).ReadOnly) : (p >>= f).ReadOnly := by
  change (p.bind f).ReadOnly
  induction hp with
  | pure a => exact hf a
  | throw e => exact .throw e
  | stmt hexec _ ih => exact .stmt hexec ih

theorem ReadOnly.attempt {p : Program σ ε α} {handler : ε → Program σ ε α} (hp : p.ReadOnly)
    (hh : ∀ e, (handler e).ReadOnly) : (p.attempt handler).ReadOnly := by
  induction hp with
  | pure a => exact .pure a
  | throw e => exact hh e
  | stmt hexec _ ih => exact .stmt hexec ih

theorem ReadOnly.query (read : σ → α) : (query read : Program σ ε α).ReadOnly := by
  refine .stmt (fun s b s' h => ?_) fun r => ?_
  · cases h; rfl
  · cases r
    · exact .throw _
    · exact .pure _

theorem ReadOnly.require (condition : Prop) [Decidable condition] (e : ε) :
    (require condition e : Program σ ε Unit).ReadOnly := by
  unfold Program.require
  split
  · exact .pure _
  · exact .throw _

theorem ReadOnly.orThrow (o : Option α) (e : ε) : (orThrow o e : Program σ ε α).ReadOnly := by
  cases o
  · exact .throw _
  · exact .pure _

theorem ReadOnly.ofExcept (r : Except ε α) : (ofExcept r : Program σ ε α).ReadOnly := by
  cases r
  · exact .throw _
  · exact .pure _

/-! ## What all statements keep -/

/-- Every execution that returns leads from a state to one related by `R`. -/
def Keeps (R : σ → σ → Prop) (p : Program σ ε α) : Prop :=
  ∀ s a s', p.Returns s a s' → R s s'

section

variable {R : σ → σ → Prop}

theorem Keeps.bind (htrans : ∀ s t u, R s t → R t u → R s u) {p : Program σ ε α}
    {f : α → Program σ ε β} (hp : p.Keeps R) (hf : ∀ a, (f a).Keeps R) : (p >>= f).Keeps R := by
  intro s b s' h
  obtain ⟨a, s₁, hp', hf'⟩ := returns_bind.mp h
  exact htrans _ _ _ (hp _ _ _ hp') (hf a _ _ _ hf')

theorem Keeps.mono {R' : σ → σ → Prop} (h : ∀ s t, R s t → R' s t) {p : Program σ ε α}
    (hp : p.Keeps R) : p.Keeps R' := fun s a s' h' => h s s' (hp s a s' h')

theorem Keeps.statement {exec : σ → Except ε (α × σ)}
    (h : ∀ s a s', exec s = .ok (a, s') → R s s') : (statement exec).Keeps R :=
  fun _ _ _ h' => h _ _ _ (returns_statement.mp h')

theorem Keeps.onlyIf (hrefl : ∀ s, R s s) {condition : Bool} {p : Program σ ε Unit}
    (hp : p.Keeps R) : (onlyIf condition p).Keeps R := by
  intro s a s' h
  rcases returns_onlyIf.mp h with ⟨-, h⟩ | ⟨-, rfl⟩
  · exact hp _ _ _ h
  · exact hrefl _

end

/-- A program that only reads ends in the state it started in. -/
theorem ReadOnly.returns {p : Program σ ε α} (hp : p.ReadOnly) {s s' : σ} {a : α}
    (h : p.Returns s a s') : s' = s := by
  induction h with
  | pure a s => rfl
  | done hexec _ ih =>
      cases hp with
      | stmt hstmt hnext => exact (ih (hnext _)).trans (hstmt _ _ _ hexec)
  | failed e _ ih =>
      cases hp with
      | stmt hstmt hnext => exact ih (hnext _)

theorem ReadOnly.keeps {p : Program σ ε α} (hp : p.ReadOnly) {R : σ → σ → Prop}
    (hrefl : ∀ s, R s s) : p.Keeps R := by
  intro s a s' h
  rw [hp.returns h]
  exact hrefl s

end Program
