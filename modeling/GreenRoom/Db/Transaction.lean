import GreenRoom.Lib.Program

/-!
# Transactions

`withImmediateTransaction` of `db/transaction.ts`.  A connection has the state that
is stored and, inside a transaction, the state its statements see; `ROLLBACK`
returns to what is stored.  `BEGIN`, `COMMIT` and every statement in between may
fail.  Immediate transactions exclude each other, so a transaction is one step of
the database.

## Main results

* `transact_error` — a transaction that throws leaves the stored state as it was.
* `returns_of_transact` — a transaction that returns is an execution of its action.
* `throws_of_transact` — a transaction without faults throws what its action throws.
-/

namespace GreenRoom

variable {σ ε α : Type}

structure Connection (σ : Type) where
  stored : σ
  /-- What the statements of the open transaction see. -/
  transaction : Option σ := none

/-- Which steps of a transaction are made to fail. -/
structure Faults (ε : Type) where
  beginError : Option ε := none
  statementError : ℕ → Option ε := fun _ => none
  commitError : Option ε := none

def withImmediateTransaction (faults : Faults ε) (action : Program σ ε α)
    (database : Connection σ) : Except ε α × Connection σ :=
  match database.transaction with
  | some s =>
    let (result, s') := action.run faults.statementError 0 s
    (result, { database with transaction := some s' })
  | none =>
    match faults.beginError with
    | some e => (.error e, database)
    | none =>
      match action.run faults.statementError 0 database.stored with
      | (.error e, _) => (.error e, { database with transaction := none })
      | (.ok result, s') =>
        match faults.commitError with
        | some e => (.error e, { database with transaction := none })
        | none => (.ok result, { stored := s' })

/-- The transaction on an idle connection, and what is stored after it. -/
def transact (faults : Faults ε) (action : Program σ ε α) (s : σ) : Except ε α × σ :=
  ((withImmediateTransaction faults action { stored := s }).1,
    (withImmediateTransaction faults action { stored := s }).2.stored)

/-- What runs without faults is committed. -/
theorem transact_of_runs {action : Program σ ε α} {s s' : σ} {a : α} (h : action.Runs s a s') :
    transact {} action s = (.ok a, s') := by
  simp only [transact, withImmediateTransaction, h 0]

theorem transact_error {faults : Faults ε} {action : Program σ ε α} {s s' : σ} {e : ε}
    (h : transact faults action s = (.error e, s')) : s' = s := by
  unfold transact withImmediateTransaction at h
  simp only at h
  split at h
  · exact (Prod.mk.inj h).2.symm
  · split at h
    · exact (Prod.mk.inj h).2.symm
    · split at h
      · exact (Prod.mk.inj h).2.symm
      · cases (Prod.mk.inj h).1

theorem returns_of_transact {faults : Faults ε} {action : Program σ ε α} {s s' : σ} {a : α}
    (h : transact faults action s = (.ok a, s')) : action.Returns s a s' := by
  unfold transact withImmediateTransaction at h
  simp only at h
  split at h
  · cases (Prod.mk.inj h).1
  · split at h
    · cases (Prod.mk.inj h).1
    · next hrun =>
        split at h
        · cases (Prod.mk.inj h).1
        · obtain ⟨hresult, hstate⟩ := Prod.mk.inj h
          simp only at hresult hstate
          rw [Except.ok.injEq] at hresult
          subst hresult hstate
          exact Program.returns_of_run hrun

theorem throws_of_transact {action : Program σ ε α} {s s' : σ} {e : ε}
    (h : transact {} action s = (.error e, s')) : action.Throws s e := by
  unfold transact withImmediateTransaction at h
  simp only at h
  split at h
  · next hrun =>
      obtain ⟨he, -⟩ := Prod.mk.inj h
      rw [← Except.error.inj he]
      exact Program.throws_of_run hrun
  · cases (Prod.mk.inj h).1

end GreenRoom
