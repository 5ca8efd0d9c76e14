import GreenRoom.Db.Transaction
import GreenRoom.Iphone.ConsentGate
import GreenRoom.Iphone.TaskRegistry

/-!
# Batches

`executeBatch` runs the statements of one call in a transaction and registers the
transaction's id, with a digest of the statements and the result, in the same
transaction.  A call whose id is registered answers with the stored result, if the
digest is the same.

## Main definitions

* `BatchCall`, `executeBatch` — a call and its execution, under any faults.
* `executeStatements` — what the statements of a batch do together.
* `batchSystem` — the database under calls, and other writes between them.

## Main results

* `executeBatch_registered`, `executeBatch_fresh` — the two things a call can do.
* `run_of_executeStatements` — a batch that creates no room is a run of the database.
* `batch_replay`
-/

namespace GreenRoom.Iphone

/-- An element of `statements`. -/
inductive BatchStatement
  | template (s : Statement)
  /-- No template, or not with the parameters the template takes. -/
  | malformed (text : String)

structure BatchCall where
  transactionId : String
  statements : List BatchStatement

/-- What the Foundation library says of a call: its JSON fits the bridge, its id has no
space around it, and the digest of its statements. -/
structure BatchEncoding where
  fits : BatchCall → Bool
  trimmed : String → Bool
  digest : List BatchStatement → String

/-- A row of `bridge_transactions`. -/
structure RegisteredTransaction where
  requestDigest : String
  changes : ℕ
  deriving DecidableEq

/-- The tables, with those of the bridge. -/
structure NativeDatabase where
  store : Store
  transactions : KeyedTable String RegisteredTransaction := ∅

/-- What a call that succeeds answers; the bridge shows the number only. -/
inductive BatchAnswer
  | applied (changes : ℕ)
  | replayed (changes : ℕ)
  deriving DecidableEq

/-- `requiredSingleChangeStatements`. -/
def Statement.requiresSingleChange : Statement → Bool
  | .createRoom .. | .createHuman .. | .createPersona .. | .createDirectorState ..
  | .saveLocalDraft .. | .deleteLocalDraft .. | .selectRoom .. => false
  | _ => true

def transactionRejected : DatabaseFailure := ⟨.transactionRejected, false⟩

/-- Execute one statement of a batch. -/
def executeStatement (s : BatchStatement) (db : NativeDatabase) :
    Except DatabaseFailure (ℕ × NativeDatabase) :=
  match s with
  | .malformed _ => .error transactionRejected
  | .template s =>
    match s.exec db.store with
    | none => .error transactionRejected
    | some (store, changes) =>
      if s.requiresSingleChange ∧ changes ≠ 1 then .error transactionRejected
      else .ok (changes, { db with store })

/-- The loop over the statements, with the changes so far. -/
def statementLoop : List BatchStatement → ℕ → Program NativeDatabase DatabaseFailure ℕ
  | [], changes => pure changes
  | s :: statements, changes => do
    let statementChanges ← .statement (executeStatement s)
    statementLoop statements (changes + statementChanges)

/-- Insert the row of the transaction. -/
def registerTransaction (transactionId : String) (row : RegisteredTransaction)
    (db : NativeDatabase) : Except DatabaseFailure (Unit × NativeDatabase) :=
  if db.transactions.lookup transactionId = none then
    .ok ((), { db with transactions := db.transactions.insert transactionId row })
  else .error transactionRejected

/-- What happens between `BEGIN IMMEDIATE` and the end of the transaction. -/
def batchBody (E : BatchEncoding) (call : BatchCall) :
    Program NativeDatabase DatabaseFailure BatchAnswer := do
  match ← .query fun db => db.transactions.lookup call.transactionId with
  | some prior =>
    .require (prior.requestDigest = E.digest call.statements) transactionRejected
    pure (.replayed prior.changes)
  | none =>
    let changes ← statementLoop call.statements 0
    .statement (registerTransaction call.transactionId
      { requestDigest := E.digest call.statements, changes })
    -- `protectDatabaseFiles` may throw
    .query fun _ => ()
    pure (.applied changes)

/-- The first guard of `executeBatch`. -/
def BatchCall.admissible (E : BatchEncoding) (call : BatchCall) : Bool :=
  call.transactionId ≠ "" && call.transactionId.utf8ByteSize ≤ 256 &&
    E.trimmed call.transactionId && !call.statements.isEmpty && call.statements.length ≤ 64

/-- A replay ends its transaction by `ROLLBACK`, any other call that succeeds by `COMMIT`; a
call that throws leaves what was committed before. -/
def executeBatch (E : BatchEncoding) (faults : Faults DatabaseFailure) (call : BatchCall)
    (db : NativeDatabase) : Except DatabaseFailure BatchAnswer × NativeDatabase :=
  if ¬ call.admissible E then (.error transactionRejected, db)
  else if ¬ E.fits call then (.error ⟨.invalidCall, false⟩, db)
  else
    match faults.beginError with
    | some e => (.error e, db)
    | none =>
      match (batchBody E call).run faults.statementError 0 db with
      | (.error e, _) => (.error e, db)
      | (.ok answer, written) =>
        match faults.commitError with
        | some e => (.error e, db)
        | none =>
          match answer with
          | .replayed changes => (.ok (.replayed changes), db)
          | .applied changes => (.ok (.applied changes), written)

/-! ## The statements of a batch -/

/-- What the statements of a batch do together: each succeeds, and changes one row where it
has to. -/
def executeStatements : List BatchStatement → Store → Executed
  | [], store => some (store, 0)
  | .malformed _ :: _, _ => none
  | .template s :: statements, store => do
    let (store, changes) ← s.exec store
    if s.requiresSingleChange ∧ changes ≠ 1 then none
    else
      let (store, rest) ← executeStatements statements store
      some (store, changes + rest)

variable {E : BatchEncoding} {call : BatchCall} {db db' : NativeDatabase}

theorem statementLoop_returns {statements : List BatchStatement} {changes total : ℕ}
    (h : (statementLoop statements changes).Returns db total db') :
    ∃ n, executeStatements statements db.store = some (db'.store, n) ∧ total = changes + n ∧
      db'.transactions = db.transactions := by
  induction statements generalizing db changes with
  | nil =>
      obtain ⟨rfl, rfl⟩ := Program.returns_pure.mp h
      exact ⟨0, rfl, rfl, rfl⟩
  | cons s statements ih =>
      obtain ⟨k, mid, hs, hrest⟩ := Program.returns_bind.mp h
      rw [Program.returns_statement] at hs
      obtain ⟨n, hn, rfl, htransactions⟩ := ih hrest
      cases s with
      | malformed text => cases hs
      | template s =>
          unfold executeStatement at hs
          dsimp only at hs
          split at hs
          · cases hs
          · next store changes' hexec =>
              split at hs
              · cases hs
              · next hsingle =>
                  cases hs
                  refine ⟨k + n, ?_, (Nat.add_assoc _ _ _), htransactions⟩
                  simp only [executeStatements, hexec, Option.bind_eq_bind, Option.bind_some,
                    if_neg hsingle, hn]

/-- The statements of a batch that creates no room, as a run of the database. -/
theorem run_of_executeStatements {statements : List BatchStatement} {store store' : Store} {n : ℕ}
    (hrooms : ∀ s, .template s ∈ statements → s.createdRoom = none)
    (h : executeStatements statements store = some (store', n)) :
    ∃ ws, storeSystem.Run store ws store' := by
  induction statements generalizing store n with
  | nil =>
      cases h
      exact ⟨[], .nil _⟩
  | cons s statements ih =>
      cases s with
      | malformed text => cases h
      | template s =>
          simp only [executeStatements, Option.bind_eq_bind, Option.bind_eq_some_iff] at h
          obtain ⟨⟨mid, k⟩, hexec, h⟩ := h
          split at h
          · cases h
          · obtain ⟨⟨last, m⟩, hrest, h⟩ := Option.bind_eq_some_iff.mp h
            cases h
            obtain ⟨ws, hrun⟩ := ih (fun s hs => hrooms s (List.mem_cons_of_mem _ hs)) hrest
            exact ⟨.statement s :: ws, .cons ⟨hrooms s List.mem_cons_self, k, hexec⟩ hrun⟩

/-! ## One call -/

theorem batchBody_returns_registered {prior : RegisteredTransaction} {answer : BatchAnswer}
    (hprior : db.transactions.lookup call.transactionId = some prior)
    (h : (batchBody E call).Returns db answer db') : answer = .replayed prior.changes := by
  obtain ⟨found, mid, hquery, h⟩ := Program.returns_bind.mp h
  obtain ⟨rfl, rfl⟩ := Program.returns_query.mp hquery
  rw [hprior] at h
  obtain ⟨_, mid, -, h⟩ := Program.returns_bind.mp h
  exact (Program.returns_pure.mp h).1

theorem batchBody_returns_fresh {answer : BatchAnswer}
    (hfresh : db.transactions.lookup call.transactionId = none)
    (h : (batchBody E call).Returns db answer db') :
    ∃ n, executeStatements call.statements db.store = some (db'.store, n) ∧
      answer = .applied n ∧
      db'.transactions = db.transactions.insert call.transactionId
        { requestDigest := E.digest call.statements, changes := n } := by
  obtain ⟨found, mid, hquery, h⟩ := Program.returns_bind.mp h
  obtain ⟨rfl, rfl⟩ := Program.returns_query.mp hquery
  rw [hfresh] at h
  obtain ⟨changes, written, hloop, hrest⟩ := Program.returns_bind.mp h
  obtain ⟨n, hstatements, rfl, htransactions⟩ := statementLoop_returns hloop
  obtain ⟨_, last, hregister, hprotected⟩ := Program.returns_bind.mp hrest
  obtain ⟨_, last', hprotect, hpure⟩ := Program.returns_bind.mp hprotected
  obtain ⟨rfl, rfl⟩ := Program.returns_pure.mp hpure
  obtain ⟨-, rfl⟩ := Program.returns_query.mp hprotect
  rw [Program.returns_statement] at hregister
  unfold registerTransaction at hregister
  split at hregister
  · cases hregister
    rw [Nat.zero_add]
    exact ⟨n, hstatements, rfl, by rw [htransactions]⟩
  · cases hregister

theorem batchBody_run_registered {prior : RegisteredTransaction}
    (hprior : db.transactions.lookup call.transactionId = some prior)
    (hdigest : prior.requestDigest = E.digest call.statements) :
    ((batchBody E call).run (fun _ => none) 0 db).1 = .ok (.replayed prior.changes) := by
  simp only [batchBody, Program.query, Program.statement, bind, Program.bind, Program.run, hprior,
    Program.require, if_pos hdigest]
  rfl

/-- Faults apart, a call ends in one of three ways. -/
theorem executeBatch_cases {faults : Faults DatabaseFailure}
    {answer : Except DatabaseFailure BatchAnswer}
    (h : executeBatch E faults call db = (answer, db')) :
    (∃ e, answer = .error e ∧ db' = db) ∨
    (∃ n mid, answer = .ok (.replayed n) ∧ db' = db ∧
      (batchBody E call).Returns db (.replayed n) mid) ∨
    ∃ n, answer = .ok (.applied n) ∧ (batchBody E call).Returns db (.applied n) db' := by
  unfold executeBatch at h
  split at h
  · cases h
    exact .inl ⟨_, rfl, rfl⟩
  · split at h
    · cases h
      exact .inl ⟨_, rfl, rfl⟩
    · split at h
      · cases h
        exact .inl ⟨_, rfl, rfl⟩
      · split at h
        · cases h
          exact .inl ⟨_, rfl, rfl⟩
        · next hrun =>
            have hreturns := Program.returns_of_run hrun
            split at h
            · cases h
              exact .inl ⟨_, rfl, rfl⟩
            · split at h
              · cases h
                exact .inr (.inl ⟨_, _, rfl, rfl, hreturns⟩)
              · cases h
                exact .inr (.inr ⟨_, rfl, hreturns⟩)

/-- A call whose id is registered changes nothing, and answers the registered result or
throws. -/
theorem executeBatch_registered {faults : Faults DatabaseFailure}
    {answer : Except DatabaseFailure BatchAnswer} {prior : RegisteredTransaction}
    (hprior : db.transactions.lookup call.transactionId = some prior)
    (h : executeBatch E faults call db = (answer, db')) :
    db' = db ∧ (answer = .ok (.replayed prior.changes) ∨ ∃ e, answer = .error e) := by
  obtain ⟨e, rfl, rfl⟩ | ⟨n, mid, rfl, rfl, hbody⟩ | ⟨n, rfl, hbody⟩ := executeBatch_cases h
  · exact ⟨rfl, .inr ⟨e, rfl⟩⟩
  · rw [batchBody_returns_registered hprior hbody]
    exact ⟨rfl, .inl rfl⟩
  · cases batchBody_returns_registered hprior hbody

/-- What the tables are after a batch. -/
structure BatchApplied (E : BatchEncoding) (call : BatchCall) (changes : ℕ)
    (db db' : NativeDatabase) : Prop where
  statements : executeStatements call.statements db.store = some (db'.store, changes)
  registered : db'.transactions = db.transactions.insert call.transactionId
    { requestDigest := E.digest call.statements, changes }

/-- A call whose id is not registered applies all its statements and registers the id, or
throws and changes nothing. -/
theorem executeBatch_fresh {faults : Faults DatabaseFailure}
    {answer : Except DatabaseFailure BatchAnswer}
    (hfresh : db.transactions.lookup call.transactionId = none)
    (h : executeBatch E faults call db = (answer, db')) :
    (∃ e, answer = .error e ∧ db' = db) ∨
      ∃ n, answer = .ok (.applied n) ∧ BatchApplied E call n db db' := by
  obtain ⟨e, rfl, rfl⟩ | ⟨n, mid, rfl, rfl, hbody⟩ | ⟨n, rfl, hbody⟩ := executeBatch_cases h
  · exact .inl ⟨e, rfl, rfl⟩
  · obtain ⟨_, -, hanswer, -⟩ := batchBody_returns_fresh hfresh hbody
    cases hanswer
  · obtain ⟨m, hstatements, hanswer, hregistered⟩ := batchBody_returns_fresh hfresh hbody
    cases hanswer
    exact .inr ⟨n, rfl, hstatements, hregistered⟩

/-! ## Sequences of calls -/

/-- A call with its answer, or a write from somewhere else. -/
inductive BatchLabel
  | call (call : BatchCall) (answer : Except DatabaseFailure BatchAnswer)
  | other

/-- The database under calls of `executeBatch`, and under writes that leave the registered
transactions alone. -/
def batchSystem (E : BatchEncoding) : TransitionSystem NativeDatabase BatchLabel where
  init db := db.transactions = ∅
  step
    | db, .call call answer, db' => ∃ faults, executeBatch E faults call db = (answer, db')
    | db, .other, db' => db'.transactions = db.transactions

/-- The id of a call that was applied. -/
def BatchLabel.appliedId : BatchLabel → Option String
  | .call call (.ok (.applied _)) => some call.transactionId
  | _ => none

/-- The ids of the calls that were applied, in order. -/
def appliedIds (ls : List BatchLabel) : List String := ls.filterMap BatchLabel.appliedId

theorem batch_step_registered {l : BatchLabel} (hstep : (batchSystem E).step db l db')
    {id : String} {row : RegisteredTransaction} (hrow : db.transactions.lookup id = some row) :
    db'.transactions.lookup id = some row ∧ l.appliedId ≠ some id := by
  cases l with
  | other =>
      have hsame : db'.transactions = db.transactions := hstep
      exact ⟨by rw [hsame, hrow], (Option.some_ne_none id).symm⟩
  | call call answer =>
      obtain ⟨faults, h⟩ := hstep
      cases hlookup : db.transactions.lookup call.transactionId with
      | some prior =>
          obtain ⟨rfl, rfl | ⟨e, rfl⟩⟩ := executeBatch_registered hlookup h
          · exact ⟨hrow, (Option.some_ne_none id).symm⟩
          · exact ⟨hrow, (Option.some_ne_none id).symm⟩
      | none =>
          obtain ⟨e, rfl, rfl⟩ | ⟨n, rfl, happlied⟩ := executeBatch_fresh hlookup h
          · exact ⟨hrow, (Option.some_ne_none id).symm⟩
          · have hne : id ≠ call.transactionId := by
              rintro rfl
              rw [hlookup] at hrow
              cases hrow
            refine ⟨by rw [happlied.registered, AList.lookup_insert_ne hne, hrow], ?_⟩
            exact fun heq => hne (Option.some.inj heq).symm

/-- Along a run, a registered id stays as it is and is not applied again. -/
theorem batch_run_registered {ls : List BatchLabel} (hrun : (batchSystem E).Run db ls db')
    {id : String} {row : RegisteredTransaction} (hrow : db.transactions.lookup id = some row) :
    db'.transactions.lookup id = some row ∧ id ∉ appliedIds ls := by
  induction hrun with
  | nil => exact ⟨hrow, List.not_mem_nil⟩
  | cons hstep _ ih =>
      obtain ⟨hmid, hne⟩ := batch_step_registered hstep hrow
      obtain ⟨hlast, hnot⟩ := ih hmid
      refine ⟨hlast, fun hmem => ?_⟩
      rw [appliedIds, List.mem_filterMap] at hmem
      obtain ⟨l, hl, hid⟩ := hmem
      obtain rfl | hl := List.mem_cons.mp hl
      · exact hne hid
      · exact hnot (List.mem_filterMap.mpr ⟨l, hl, hid⟩)

theorem executeBatch_admitted {faults : Faults DatabaseFailure} {answer : BatchAnswer}
    (h : executeBatch E faults call db = (.ok answer, db')) :
    call.admissible E ∧ E.fits call := by
  unfold executeBatch at h
  split at h
  · cases h
  · next hadmissible =>
      split at h
      · cases h
      · next hfits => exact ⟨not_not.mp hadmissible, not_not.mp hfits⟩

/-- An applied call is registered at the end of the run. -/
theorem batch_run_applied {ls : List BatchLabel} (hrun : (batchSystem E).Run db ls db')
    {call : BatchCall} {n : ℕ} (hmem : .call call (.ok (.applied n)) ∈ ls) :
    db'.transactions.lookup call.transactionId =
      some { requestDigest := E.digest call.statements, changes := n } ∧
      call.admissible E ∧ E.fits call := by
  induction hrun with
  | nil => cases hmem
  | @cons s mid t l ls hstep hrest ih =>
      obtain rfl | hmem := List.mem_cons.mp hmem
      · obtain ⟨faults, h⟩ := hstep
        refine ⟨?_, executeBatch_admitted h⟩
        have hmid : mid.transactions.lookup call.transactionId =
            some { requestDigest := E.digest call.statements, changes := n } := by
          cases hlookup : s.transactions.lookup call.transactionId with
          | some prior =>
              obtain ⟨-, hanswer | ⟨e, hanswer⟩⟩ := executeBatch_registered hlookup h
              · cases hanswer
              · cases hanswer
          | none =>
              obtain ⟨e, hanswer, -⟩ | ⟨m, hanswer, happlied⟩ := executeBatch_fresh hlookup h
              · cases hanswer
              · cases hanswer
                rw [happlied.registered, AList.lookup_insert]
        exact (batch_run_registered hrest hmid).1
      · exact ih hmem

/-- No id is applied twice. -/
theorem appliedIds_nodup {ls : List BatchLabel} (hrun : (batchSystem E).Run db ls db') :
    (appliedIds ls).Nodup := by
  induction hrun with
  | nil => exact List.nodup_nil
  | @cons s mid t l ls hstep hrest ih =>
      cases hid : l.appliedId with
      | none => rwa [appliedIds, List.filterMap_cons_none hid]
      | some id =>
          rw [appliedIds, List.filterMap_cons_some hid, List.nodup_cons]
          refine ⟨?_, ih⟩
          obtain ⟨call, n, rfl, rfl⟩ : ∃ call n, l = .call call (.ok (.applied n)) ∧
              id = call.transactionId := by
            cases l with
            | other => cases hid
            | call call answer =>
                cases answer with
                | error e => cases hid
                | ok answer =>
                    cases answer with
                    | replayed n => cases hid
                    | applied n => exact ⟨call, n, rfl, (Option.some.inj hid).symm⟩
          have hmem : .call call (.ok (.applied n)) ∈ [BatchLabel.call call (.ok (.applied n))] :=
            List.mem_cons_self
          have hregistered := (batch_run_applied (.single hstep) hmem).1
          exact (batch_run_registered hrest hregistered).2

theorem executeBatch_replays {prior : RegisteredTransaction}
    (hprior : db.transactions.lookup call.transactionId = some prior)
    (hdigest : prior.requestDigest = E.digest call.statements) (hadmissible : call.admissible E)
    (hfits : E.fits call) :
    executeBatch E {} call db = (.ok (.replayed prior.changes), db) := by
  have hrun := batchBody_run_registered hprior hdigest
  unfold executeBatch
  rw [if_neg (not_not.mpr hadmissible), if_neg (not_not.mpr hfits)]
  generalize (batchBody E call).run (fun _ => none) 0 db = result at hrun
  obtain ⟨answer, written⟩ := result
  subst hrun
  rfl

/-- **A batch is applied once.**  Along every sequence of calls, with any faults and any
other writes in between, no transaction id is applied twice.  A call with the id and the
statements of one that was applied answers the same result, if nothing fails.  A call
whose id is registered changes nothing, whatever its statements are; any other one applies
all its statements, each of which succeeds and changes one row where it has to, or throws and
changes nothing. -/
theorem batch_replay (E : BatchEncoding) (db db' : NativeDatabase) (ls : List BatchLabel)
    (hrun : (batchSystem E).Run db ls db') :
    (appliedIds ls).Nodup ∧
    (∀ call n, .call call (.ok (.applied n)) ∈ ls →
      executeBatch E {} call db' = (.ok (.replayed n), db')) ∧
    (∀ call n, .call call (.ok (.applied n)) ∈ ls → ∀ faults call' answer db'',
      call'.transactionId = call.transactionId →
      executeBatch E faults call' db' = (answer, db'') →
        db'' = db' ∧ (answer = .ok (.replayed n) ∨ ∃ e, answer = .error e)) ∧
    ∀ faults call answer db'', executeBatch E faults call db' = (answer, db'') →
      db'' = db' ∧ (∀ n, answer ≠ .ok (.applied n)) ∨
      db'.transactions.lookup call.transactionId = none ∧
        ∃ n, answer = .ok (.applied n) ∧ BatchApplied E call n db' db'' := by
  refine ⟨appliedIds_nodup hrun, fun call n hmem => ?_,
    fun call n hmem faults call' answer db'' hid h => ?_, fun faults call answer db'' h => ?_⟩
  · obtain ⟨hregistered, hadmissible, hfits⟩ := batch_run_applied hrun hmem
    exact executeBatch_replays hregistered rfl hadmissible hfits
  · obtain ⟨hregistered, -⟩ := batch_run_applied hrun hmem
    rw [← hid] at hregistered
    exact executeBatch_registered hregistered h
  · cases hlookup : db'.transactions.lookup call.transactionId with
    | some prior =>
        obtain ⟨rfl, rfl | ⟨e, rfl⟩⟩ := executeBatch_registered hlookup h
        · exact .inl ⟨rfl, fun n hn => by cases hn⟩
        · exact .inl ⟨rfl, fun n hn => by cases hn⟩
    | none =>
        obtain ⟨e, rfl, rfl⟩ | ⟨n, rfl, happlied⟩ := executeBatch_fresh hlookup h
        · exact .inl ⟨rfl, fun n hn => by cases hn⟩
        · exact .inr ⟨rfl, n, rfl, happlied⟩

/-! The batch that creates a room, sent twice. -/
namespace SentTwice

def encoding : BatchEncoding where
  fits _ := true
  trimmed _ := true
  digest _ := "00000000000000000000000000000000000000000000000000000000000000bb"

def creation : BatchCall :=
  { transactionId := "create-" ++ Asked.room.roomId
    statements := Asked.room.statements.map .template }

def created : NativeDatabase := (executeBatch encoding {} creation { store := {} }).2

theorem run :
    (batchSystem encoding).Run { store := {} } [.call creation (.ok (.applied 5))] created :=
  .single ⟨{}, rfl⟩

end SentTwice

theorem batch_replay_sentTwice :
    executeBatch SentTwice.encoding {} SentTwice.creation SentTwice.created =
      (.ok (.replayed 5), SentTwice.created) :=
  (batch_replay SentTwice.encoding { store := {} } SentTwice.created _ SentTwice.run).2.1 _ _
    List.mem_cons_self

end GreenRoom.Iphone
