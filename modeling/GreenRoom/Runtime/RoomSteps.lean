import GreenRoom.Runtime.LogIntegrity
import GreenRoom.Runtime.RoomEffects
import GreenRoom.Runtime.RoomSystem

/-!
# What a step of the services does

A step is described by the change it makes to the database and who has made it, by
what becomes of each execution, and by what becomes of each claim and each work.
The invariants are then kept for what a step does, not for each kind of step.

## Main definitions

* `Db.RecordsKept` — records are only ever completed.
* `Execution.Advance`, `ClaimEffect` — what a step does to executions and claims.
* `Execution.Valid` — what is known of an execution.

## Main results

* `Step.commits`, `Step.works`, `Step.executions`, `Step.claims`
-/

namespace GreenRoom

open GreenRoom.Core Providers

/-! ## Records -/

namespace Db

/-- The command has been accepted as `message`, and may be complete by now. -/
def Awaits (key : CommandKey) (requestDigest : JsString) (message : PendingMessage) (db : Db) :
    Prop :=
  db.recorded key = some ⟨requestDigest, .pending message⟩ ∨
    ∃ result, db.recorded key = some ⟨requestDigest, .complete result⟩

/-- A complete record stays, and a pending one stays or is completed. -/
structure RecordsKept (db db' : Db) : Prop where
  complete : ∀ key requestDigest result,
    db.recorded key = some ⟨requestDigest, .complete result⟩ →
      db'.recorded key = some ⟨requestDigest, .complete result⟩
  awaits : ∀ key requestDigest message,
    db.recorded key = some ⟨requestDigest, .pending message⟩ → db'.Awaits key requestDigest message

theorem recordsKept_of_eq {db db' : Db} (h : ∀ key, db'.recorded key = db.recorded key) :
    db.RecordsKept db' :=
  ⟨fun key _ _ hr => (h key).trans hr, fun key _ _ hr => .inl ((h key).trans hr)⟩

theorem RecordsKept.refl (db : Db) : db.RecordsKept db := recordsKept_of_eq fun _ => rfl

theorem RecordsKept.trans {db₁ db₂ db₃ : Db} (h : db₁.RecordsKept db₂) (h' : db₂.RecordsKept db₃) :
    db₁.RecordsKept db₃ := by
  refine ⟨fun key d r hr => h'.complete _ _ _ (h.complete _ _ _ hr), fun key d m hr => ?_⟩
  rcases h.awaits _ _ _ hr with hr | ⟨result, hr⟩
  · exact h'.awaits _ _ _ hr
  · exact .inr ⟨result, h'.complete _ _ _ hr⟩

theorem Awaits.mono {key : CommandKey} {requestDigest : JsString} {message : PendingMessage}
    {db db' : Db} (h : db.Awaits key requestDigest message) (hkept : db.RecordsKept db') :
    db'.Awaits key requestDigest message := by
  rcases h with h | ⟨result, h⟩
  · exact hkept.awaits _ _ _ h
  · exact .inr ⟨result, hkept.complete _ _ _ h⟩

/-- The record of a new command. -/
theorem RecordSet.recordsKept_of_new {key : CommandKey} {record : Record} {db db' : Db}
    (h : db.RecordSet key record db') (hnew : db.recorded key = none) : db.RecordsKept db' := by
  have hne : ∀ k r, db.recorded k = some r → db'.recorded k = some r := by
    intro k r hr
    rw [h k, if_neg, hr]
    rintro rfl
    rw [hnew] at hr
    cases hr
  exact ⟨fun k _ _ hr => hne k _ hr, fun k _ _ hr => .inl (hne k _ hr)⟩

/-- The completion of a pending command. -/
theorem RecordSet.recordsKept_of_pending {key : CommandKey} {requestDigest : JsString}
    {message : PendingMessage} {result : CommandResult} {db db' : Db}
    (h : db.RecordSet key ⟨requestDigest, .complete result⟩ db')
    (hpending : db.recorded key = some ⟨requestDigest, .pending message⟩) :
    db.RecordsKept db' := by
  refine ⟨fun k d r hr => ?_, fun k d m hr => ?_⟩
  · rw [h k, if_neg, hr]
    rintro rfl
    rw [hpending] at hr
    cases hr
  · by_cases hk : k = key
    · subst hk
      rw [hpending, Option.some.injEq, Record.mk.injEq] at hr
      exact .inr ⟨result, by rw [h k, if_pos rfl, hr.1]⟩
    · exact .inl (by rw [h k, if_neg hk, hr])

end Db

namespace Runtime

theorem Change.recordsKept {author : Option CommandKey} {db db' : Db} (h : Change db db' author) :
    db.RecordsKept db' := by
  cases h with
  | quiet _ h => exact Db.recordsKept_of_eq h.recorded
  | opened sessionId h =>
      exact Db.recordsKept_of_eq fun key => by rw [Db.recorded, Db.recorded, h.commands]
  | accepted command requestDigest decision room state h =>
      exact h.record.recordsKept_of_new h.new
  | replied key requestDigest message speaker text room h =>
      exact h.record.recordsKept_of_pending h.pending
  | settled key requestDigest message outcome h => exact h.record.recordsKept_of_pending h.pending
  | roomControlled key requestDigest result h => exact h.record.recordsKept_of_new h.new
  | personaControlled key requestDigest result h => exact h.record.recordsKept_of_new h.new

/-- What a command asks stays, once it is recorded. -/
theorem Change.question_kept {author : Option CommandKey} {db db' : Db} (h : Change db db' author)
    {key : CommandKey} {q : Question} (hq : db.question key = some q) :
    db'.question key = some q := by
  have hrecord : ∃ record, db.recorded key = some record := by
    rcases hr : db.recorded key with - | record
    · rw [Db.question, hr] at hq
      cases hq
    · exact ⟨record, rfl⟩
  obtain ⟨record, hrecord⟩ := hrecord
  have hne : ∀ key', db.recorded key' = none → key ≠ key' := by
    rintro key' hnew rfl
    rw [hrecord] at hnew
    cases hnew
  cases h with
  | quiet _ h => rw [Db.question, h.recorded, ← Db.question, hq]
  | opened sessionId h =>
      rw [Db.question, Db.recorded, h.commands, ← Db.recorded, ← Db.question, hq]
  | accepted command requestDigest decision room state h =>
      rw [question_of_recordSet h.record, if_neg (hne _ h.new), hq]
  | replied key' requestDigest message speaker text room h =>
      rw [sameQuestion h.record (question_of_recorded h.pending).symm, hq]
  | settled key' requestDigest message outcome h =>
      rw [sameQuestion h.record (question_of_recorded h.pending).symm, hq]
  | roomControlled key' requestDigest result h =>
      rw [question_of_recordSet h.record, if_neg (hne _ h.new), hq]
  | personaControlled key' requestDigest result h =>
      rw [question_of_recordSet h.record, if_neg (hne _ h.new), hq]

theorem Change.reply_kept {author : Option CommandKey} {db db' : Db} (h : Change db db' author)
    {key : CommandKey} {n : ℕ} (hn : db.reply key = some n) : db'.reply key = some n := by
  have hkept := h.recordsKept
  rcases hr : db.recorded key with - | ⟨requestDigest, result⟩
  · rw [Db.reply, hr] at hn
    cases hn
  · rw [reply_of_recorded hr] at hn
    cases result with
    | pending message => cases hn
    | complete result => rw [reply_of_recorded (hkept.complete _ _ _ hr), hn]

/-! ## What becomes of the executions -/

/-- The message a phase is about. -/
def Phase.pending : Phase → Option PendingMessage
  | .generating pending _ | .completing pending _ _ => some pending
  | _ => none

/-- The execution has started the work under its claim. -/
def System.Started (s : System) (token : Token) (e : Execution) (work : ℕ) : Prop :=
  ∃ w, s.works.lookup work = some w ∧ w.token = token ∧ e.grant = some w.grant

/-- The work has returned the result. -/
def System.Delivered (s : System) (work : ℕ) (result : ProviderResult) : Prop :=
  ∃ w value, s.works.lookup work = some w ∧ w.outcome = some (.ok value) ∧
    validatedProviderResult value = .ok result

namespace Execution

structure SameCall (e e' : Execution) : Prop where
  service : e'.service = e.service
  command : e'.command = e.command
  requestDigest : e'.requestDigest = e.requestDigest

theorem SameCall.refl (e : Execution) : e.SameCall e := ⟨rfl, rfl, rfl⟩

theorem SameCall.key {e e' : Execution} (h : e.SameCall e') : e'.key = e.key := by
  rw [Execution.key, Execution.key, h.command]

/-- What a step may make of an execution. -/
inductive Advance (s t : System) (token : Token) (e e' : Execution) : Prop
  | same : e'.phase = e.phase → e'.grant = e.grant → Advance s t token e e'
  /-- It holds no message and no result. -/
  | idle : e'.phase.pending = none → (∀ result, e'.phase ≠ .returned result) →
      e'.grant = e.grant → Advance s t token e e'
  | claimed (pending : PendingMessage) :
      e'.phase = .generating pending .checking →
      t.db.Awaits e.key e.requestDigest pending.unpinned →
      e'.grant = some s.grants → t.grants = s.grants + 1 →
      t.granted e.key = some ⟨s.grants, token⟩ → Advance s t token e e'
  | inside (pending : PendingMessage) (stage : Stage) :
      e.phase.pending = some pending → e'.phase = .generating pending stage →
      (∀ providerDecision work, stage ≠ .racing providerDecision work) →
      e'.grant = e.grant → Advance s t token e e'
  | started (pending : PendingMessage) (providerDecision : Option DecisionSnapshot) (work : ℕ) :
      e.phase.pending = some pending →
      e'.phase = .generating pending (.racing providerDecision work) →
      t.Started token e work → e'.grant = e.grant → Advance s t token e e'
  | withoutResult (pending : PendingMessage) (providerDecision : Option DecisionSnapshot) :
      e.phase.pending = some pending →
      e'.phase = .completing pending { providerDecision } none → e'.grant = e.grant →
      Advance s t token e e'
  | delivered (pending : PendingMessage) (providerDecision : Option DecisionSnapshot) (work : ℕ)
      (result : ProviderResult) :
      e.phase = .generating pending (.racing providerDecision work) → s.Delivered work result →
      e'.phase = .completing pending { providerResult := some result, providerDecision }
        (some work) → e'.grant = e.grant → Advance s t token e e'
  | returned (result : CommandResult) :
      e'.phase = .returned result →
      t.db.recorded e.key = some ⟨e.requestDigest, .complete result⟩ → e'.grant = e.grant →
      Advance s t token e e'

end Execution

/-- The steps that write nothing advance the execution. -/
theorem Move.advance {s t : System} {closed : Bool} {token : Token} {e e' : Execution}
    (h : Move s.db s.works closed e e') : e.SameCall e' ∧ e.Advance s t token e' := by
  have hpending : ∀ {pending stage}, e.phase = .generating pending stage →
      e.phase.pending = some pending := fun h => by rw [h]; rfl
  cases h with
  | isClosed => exact ⟨⟨rfl, rfl, rfl⟩, .idle rfl (by simp [Execution.finish]) rfl⟩
  | wake => exact ⟨⟨rfl, rfl, rfl⟩, .idle rfl (by simp) rfl⟩
  | waitFails error _ => exact ⟨⟨rfl, rfl, rfl⟩, .idle rfl (by simp [Execution.finish]) rfl⟩
  | noSpeaker pending _ _ => exact ⟨⟨rfl, rfl, rfl⟩, .idle rfl (by simp [Execution.finish]) rfl⟩
  | stale pending speaker h _ _ =>
      exact ⟨⟨rfl, rfl, rfl⟩, .withoutResult pending none (hpending h) rfl rfl⟩
  | fresh pending speaker h _ _ =>
      exact ⟨⟨rfl, rfl, rfl⟩, .inside pending _ (hpending h) rfl (by simp) rfl⟩
  | checkFails pending error _ =>
      exact ⟨⟨rfl, rfl, rfl⟩, .idle rfl (by simp [Execution.finish]) rfl⟩
  | confirmed pending providerDecision h =>
      exact ⟨⟨rfl, rfl, rfl⟩, .inside pending _ (hpending h) rfl (by simp) rfl⟩
  | outdated pending providerDecision h =>
      exact ⟨⟨rfl, rfl, rfl⟩, .withoutResult pending _ (hpending h) rfl rfl⟩
  | startFails pending providerDecision error h =>
      exact ⟨⟨rfl, rfl, rfl⟩, .inside pending _ (hpending h) rfl (by simp) rfl⟩
  | lost pending providerDecision work w value h _ _ _ =>
      exact ⟨⟨rfl, rfl, rfl⟩, .withoutResult pending _ (hpending h) rfl rfl⟩
  | discarded pending providerDecision work w value error h _ _ _ _ =>
      exact ⟨⟨rfl, rfl, rfl⟩, .inside pending _ (hpending h) rfl (by simp) rfl⟩
  | delivered pending providerDecision work w value result h hw houtcome _ _ hvalid =>
      exact ⟨⟨rfl, rfl, rfl⟩,
        .delivered pending providerDecision work result h ⟨w, value, hw, houtcome, hvalid⟩ rfl rfl⟩
  | invalid pending providerDecision work w value error h _ _ _ _ _ =>
      exact ⟨⟨rfl, rfl, rfl⟩, .inside pending _ (hpending h) rfl (by simp) rfl⟩
  | workFails pending providerDecision work w error h _ _ =>
      exact ⟨⟨rfl, rfl, rfl⟩, .inside pending _ (hpending h) rfl (by simp) rfl⟩
  | interrupted pending providerDecision work error h _ =>
      exact ⟨⟨rfl, rfl, rfl⟩, .inside pending _ (hpending h) rfl (by simp) rfl⟩
  | timedOut pending providerDecision work error h =>
      exact ⟨⟨rfl, rfl, rfl⟩, .inside pending _ (hpending h) rfl (by simp) rfl⟩
  | caughtStale pending speaker error h _ _ =>
      exact ⟨⟨rfl, rfl, rfl⟩, .withoutResult pending _ (hpending h) rfl rfl⟩
  | caughtLost pending speaker error h _ _ _ =>
      exact ⟨⟨rfl, rfl, rfl⟩, .withoutResult pending _ (hpending h) rfl rfl⟩
  | caughtFresh pending speaker error h _ _ _ =>
      exact ⟨⟨rfl, rfl, rfl⟩, .inside pending _ (hpending h) rfl (by simp) rfl⟩
  | caughtFails pending error error' _ =>
      exact ⟨⟨rfl, rfl, rfl⟩, .idle rfl (by simp [Execution.finish]) rfl⟩
  | maintenanceFails error _ _ _ _ => exact ⟨⟨rfl, rfl, rfl⟩, .same rfl rfl⟩

section

variable (host : Host)

/-- Executions stay what they are for, and new ones hold nothing yet. -/
structure ExecutionsAdvance (s t : System) : Prop where
  kept : ∀ token e, s.executions.lookup token = some e → ∃ e',
    t.executions.lookup token = some e' ∧ e.SameCall e' ∧ e.Advance s t token e'
  new : ∀ token e, s.executions.lookup token = none → t.executions.lookup token = some e →
    e.phase = .preparing ∧ e.grant = none ∧ e.requestDigest = e.command.digest host ∧
      ∃ raw, normalize raw = .ok e.command

end

namespace ExecutionsAdvance

variable {host : Host} {s t : System}

theorem of_eq (h : t.executions = s.executions) : ExecutionsAdvance host s t := by
  refine ⟨fun token e he => ⟨e, by rw [h, he], .refl e, .same rfl rfl⟩, fun token e hn he => ?_⟩
  rw [h, hn] at he
  cases he

theorem of_insert {token : Token} {e e' : Execution} (he : s.executions.lookup token = some e)
    (h : t.executions = s.executions.insert token e')
    (hadvance : e.SameCall e' ∧ e.Advance s t token e') : ExecutionsAdvance host s t := by
  constructor
  · intro token₁ e₁ he₁
    rw [h, KeyedTable.lookup_insert]
    by_cases htoken : token₁ = token
    · subst htoken
      obtain rfl := Option.some.inj (he.symm.trans he₁)
      exact ⟨e', if_pos rfl, hadvance⟩
    · exact ⟨e₁, by rw [if_neg htoken, he₁], .refl e₁, .same rfl rfl⟩
  · intro token₁ e₁ hn he₁
    rw [h, KeyedTable.lookup_insert, if_neg, hn] at he₁
    · cases he₁
    · rintro rfl
      rw [he] at hn
      cases hn

theorem of_updateExecutions {s₀ : System} {id : ServiceId} {f : Execution → Execution}
    (h : t.executions = (s₀.updateExecutions id f).executions)
    (hs₀ : s₀.executions = s.executions)
    (hf : ∀ token e, Execution.SameCall e (f e) ∧ e.Advance s t token (f e)) :
    ExecutionsAdvance host s t := by
  rw [System.updateExecutions, hs₀] at h
  constructor
  · intro token e he
    refine ⟨_, by rw [h, KeyedTable.lookup_modify, he]; rfl, ?_⟩
    dsimp only
    split
    · exact hf token e
    · exact ⟨.refl e, .same rfl rfl⟩
  · intro token e hn he
    rw [h, KeyedTable.lookup_modify, hn] at he
    cases he

/-- A new execution. -/
theorem of_new {token : Token} {e : Execution} (hn : token ∉ s.executions)
    (h : t.executions = s.executions.insert token e) (hphase : e.phase = .preparing)
    (hgrant : e.grant = none) (hdigest : e.requestDigest = e.command.digest host)
    (hnormal : ∃ raw, normalize raw = .ok e.command) : ExecutionsAdvance host s t := by
  constructor
  · intro token₁ e₁ he₁
    refine ⟨e₁, ?_, .refl e₁, .same rfl rfl⟩
    rw [h, KeyedTable.lookup_insert, if_neg, he₁]
    rintro rfl
    rw [AList.lookup_eq_none.mpr hn] at he₁
    cases he₁
  · intro token₁ e₁ hn₁ he₁
    rw [h, KeyedTable.lookup_insert] at he₁
    split at he₁
    · obtain rfl := Option.some.inj he₁
      exact ⟨hphase, hgrant, hdigest, hnormal⟩
    · rw [hn₁] at he₁
      cases he₁

end ExecutionsAdvance

/-- Aborting executions leaves them where they are. -/
theorem advance_abortIf {s t : System} (token : Token) (e : Execution) (p : Prop) [Decidable p]
    (error : JsError) : e.SameCall (if p then e.abort error else e) ∧
      e.Advance s t token (if p then e.abort error else e) := by
  split
  · exact ⟨⟨rfl, rfl, rfl⟩, .same rfl rfl⟩
  · exact ⟨.refl e, .same rfl rfl⟩

section

variable {host : Host}

/-- After `prepareMessage`. -/
theorem advance_prepare {s t : System} {token : Token} {e : Execution} (service : Service)
    (clock : ℤ) (answer : Except JsError PreparedMessage)
    (hprepared : ∀ prepared, answer = .ok prepared →
      Prepared service.options e.command e.requestDigest token clock s.db t.db prepared)
    (hclaimed : ∀ pending, answer = .ok (.claimed pending) → t.grants = s.grants + 1 ∧
      t.granted e.key = some ⟨s.grants, token⟩) :
    e.SameCall (e.afterPrepare s.grants answer) ∧
      e.Advance s t token (e.afterPrepare s.grants answer) := by
  cases answer with
  | error error => exact ⟨⟨rfl, rfl, rfl⟩, .idle rfl (by simp [Execution.afterPrepare,
      Execution.finish]) rfl⟩
  | ok prepared =>
      have h := hprepared prepared rfl
      cases prepared with
      | observed observedUntil pending => exact ⟨⟨rfl, rfl, rfl⟩, .idle rfl (by simp [
          Execution.afterPrepare]) rfl⟩
      | complete result =>
          refine ⟨⟨rfl, rfl, rfl⟩, .returned result rfl ?_ rfl⟩
          cases h with
          | known _ hrecord hdb => rw [hdb]; exact hrecord
          | unscheduled decision room state haccepted hspeaker _ =>
              rw [Execution.key, haccepted.record, if_pos rfl, acceptedStored, if_pos hspeaker]
      | claimed pending =>
          obtain ⟨hgrants, hgranted⟩ := hclaimed pending rfl
          refine ⟨⟨rfl, rfl, rfl⟩, .claimed pending rfl (.inl ?_) rfl hgrants hgranted⟩
          cases h with
          | taken _ now _ hrecord _ hquiet _ => rw [hquiet.recorded]; exact hrecord
          | scheduled decision room state speaker now haccepted hspeaker _ _ =>
              rw [Execution.key, haccepted.record, if_pos rfl, acceptedStored, if_neg (by
                rw [hspeaker]; simp)]
              rfl

/-- After `completeMessage`. -/
theorem advance_complete {s t : System} {token : Token} {e : Execution}
    {pending : PendingMessage} {generated : GeneratedMessage} {clock : ℤ}
    {answer : Except JsError (Option CommandResult)}
    (hcompleted : ∀ result, answer = .ok result →
      Completed e.key e.requestDigest pending generated token clock s.db t.db result) :
    e.SameCall (e.afterComplete answer) ∧ e.Advance s t token (e.afterComplete answer) := by
  cases answer with
  | error error => exact ⟨⟨rfl, rfl, rfl⟩, .idle rfl (by simp [Execution.afterComplete,
      Execution.finish]) rfl⟩
  | ok answer =>
      have h := hcompleted answer rfl
      cases answer with
      | none => exact ⟨⟨rfl, rfl, rfl⟩, .idle rfl (by simp [Execution.afterComplete]) rfl⟩
      | some result =>
          refine ⟨⟨rfl, rfl, rfl⟩, .returned result rfl ?_ rfl⟩
          cases h with
          | known _ hrecord hdb => rw [hdb]; exact hrecord
          | replied speaker text room now expiresAt _ _ _ _ hreplied _ =>
              rw [hreplied.record, if_pos rfl]
          | settled outcome hsettled _ => rw [hsettled.record, if_pos rfl]

/-! ## The executions are valid -/

variable (host) in
/-- What is known of an execution. -/
structure Execution.Valid (s : System) (token : Token) (e : Execution) : Prop where
  digest : e.requestDigest = e.command.digest host
  normal : ∃ raw, normalize raw = .ok e.command
  granted : ∀ g, e.grant = some g → g < s.grants
  pending : ∀ pending, e.phase.pending = some pending →
    s.db.Awaits e.key e.requestDigest pending.unpinned ∧ e.grant.isSome
  returned : ∀ result, e.phase = .returned result →
    s.db.recorded e.key = some ⟨e.requestDigest, .complete result⟩
  racing : ∀ pending providerDecision work,
    e.phase = .generating pending (.racing providerDecision work) → s.Started token e work
  completing : ∀ pending generated work result,
    e.phase = .completing pending generated work → generated.providerResult = some result →
      ∃ i, work = some i ∧ s.Started token e i ∧ s.Delivered i result

variable (host) in
def ExecutionsValid (s : System) : Prop :=
  ∀ token e, s.executions.lookup token = some e → e.Valid host s token

/-- Works stay what they are, and their outcomes with them. -/
def WorksKept (s t : System) : Prop :=
  ∀ work w, s.works.lookup work = some w → ∃ w', t.works.lookup work = some w' ∧
    w'.token = w.token ∧ w'.grant = w.grant ∧ ∀ outcome, w.outcome = some outcome →
      w'.outcome = some outcome

theorem WorksKept.of_eq {s t : System} (h : t.works = s.works) : WorksKept s t :=
  fun _ w hw => ⟨w, by rw [h, hw], rfl, rfl, fun _ ho => ho⟩

theorem WorksKept.trans {s t u : System} (h : WorksKept s t) (h' : WorksKept t u) :
    WorksKept s u := by
  intro work w hw
  obtain ⟨w₁, hw₁, htoken, hgrant, houtcome⟩ := h work w hw
  obtain ⟨w₂, hw₂, htoken', hgrant', houtcome'⟩ := h' work w₁ hw₁
  exact ⟨w₂, hw₂, htoken'.trans htoken, hgrant'.trans hgrant,
    fun outcome ho => houtcome' outcome (houtcome outcome ho)⟩

theorem WorksKept.started {s t : System} (h : WorksKept s t) {token : Token} {e e' : Execution}
    {work : ℕ} (hs : s.Started token e work) (hgrant : e'.grant = e.grant) :
    t.Started token e' work := by
  obtain ⟨w, hw, htoken, hg⟩ := hs
  obtain ⟨w', hw', htoken', hgrant', -⟩ := h work w hw
  exact ⟨w', hw', htoken'.trans htoken, by rw [hgrant, hg, hgrant']⟩

theorem WorksKept.delivered {s t : System} (h : WorksKept s t) {work : ℕ} {result : ProviderResult}
    (hs : s.Delivered work result) : t.Delivered work result := by
  obtain ⟨w, value, hw, houtcome, hvalid⟩ := hs
  obtain ⟨w', hw', -, -, houtcome'⟩ := h work w hw
  exact ⟨w', value, hw', houtcome' _ houtcome, hvalid⟩

/-- What a step makes of a valid execution is valid. -/
theorem Execution.Valid.advance {s t : System} {token : Token} {e e' : Execution}
    (h : e.Valid host s token) (hrecords : s.db.RecordsKept t.db) (hworks : WorksKept s t)
    (hgrants : s.grants ≤ t.grants) (hcall : e.SameCall e') (ha : e.Advance s t token e') :
    e'.Valid host t token := by
  have hdigest : e'.requestDigest = e'.command.digest host := by
    rw [hcall.requestDigest, hcall.command, h.digest]
  have hnormal : ∃ raw, normalize raw = .ok e'.command := hcall.command ▸ h.normal
  have hgranted : e'.grant = e.grant → ∀ g, e'.grant = some g → g < t.grants :=
    fun heq g hg => (h.granted g (heq ▸ hg)).trans_le hgrants
  -- The message an execution holds has been accepted, under a claim of its own.
  have hpending : ∀ pending, e.phase.pending = some pending → e'.grant = e.grant →
      t.db.Awaits e'.key e'.requestDigest pending.unpinned ∧ e'.grant.isSome := by
    intro pending hp heq
    obtain ⟨hawaits, hsome⟩ := h.pending pending hp
    rw [hcall.key, hcall.requestDigest, heq]
    exact ⟨hawaits.mono hrecords, hsome⟩
  cases ha with
  | same hphase hgrant =>
      refine ⟨hdigest, hnormal, hgranted hgrant, ?_, ?_, ?_, ?_⟩ <;> rw [hphase]
      · exact fun pending hp => hpending pending hp hgrant
      · intro result hr
        rw [hcall.key, hcall.requestDigest]
        exact hrecords.complete _ _ _ (h.returned result hr)
      · exact fun pending d work hr => hworks.started (h.racing pending d work hr) hgrant
      · intro pending generated work result hc hresult
        obtain ⟨i, hi, hstarted, hdelivered⟩ :=
          h.completing pending generated work result hc hresult
        exact ⟨i, hi, hworks.started hstarted hgrant, hworks.delivered hdelivered⟩
  | idle hp hr hgrant =>
      refine ⟨hdigest, hnormal, hgranted hgrant, ?_, fun result h => absurd h (hr result), ?_, ?_⟩
      · rw [hp]
        simp
      · intro pending d work h
        rw [h] at hp
        cases hp
      · intro pending generated work result h
        rw [h] at hp
        cases hp
  | claimed pending hphase hawaits hgrant hcount _ =>
      refine ⟨hdigest, hnormal, ?_, ?_, ?_, ?_, ?_⟩
      · rw [hgrant, hcount]
        simp
      · rw [hphase, hcall.key, hcall.requestDigest, hgrant]
        rintro _ ⟨⟩
        exact ⟨hawaits, rfl⟩
      all_goals simp [hphase]
  | inside pending stage hp hphase hstage hgrant =>
      refine ⟨hdigest, hnormal, hgranted hgrant, ?_, ?_, ?_, ?_⟩ <;> rw [hphase]
      · rintro _ ⟨⟩
        exact hpending pending hp hgrant
      · simp
      · rintro _ d work ⟨⟩
        exact absurd rfl (hstage d work)
      · simp
  | started pending d work hp hphase hstarted hgrant =>
      refine ⟨hdigest, hnormal, hgranted hgrant, ?_, ?_, ?_, ?_⟩ <;> rw [hphase]
      · rintro _ ⟨⟩
        exact hpending pending hp hgrant
      · simp
      · rintro _ _ _ ⟨⟩
        obtain ⟨w, hw, htoken, hg⟩ := hstarted
        exact ⟨w, hw, htoken, hgrant.trans hg⟩
      · simp
  | withoutResult pending d hp hphase hgrant =>
      refine ⟨hdigest, hnormal, hgranted hgrant, ?_, ?_, ?_, ?_⟩ <;> rw [hphase]
      · rintro _ ⟨⟩
        exact hpending pending hp hgrant
      · simp
      · simp
      · rintro _ _ _ result ⟨⟩ hresult
        cases hresult
  | delivered pending d work result hp hdelivered hphase hgrant =>
      refine ⟨hdigest, hnormal, hgranted hgrant, ?_, ?_, ?_, ?_⟩ <;> rw [hphase]
      · rintro _ ⟨⟩
        exact hpending pending (by rw [hp]; rfl) hgrant
      · simp
      · simp
      · rintro _ _ _ _ ⟨⟩ ⟨⟩
        exact ⟨work, rfl, hworks.started (h.racing pending d work hp) hgrant,
          hworks.delivered hdelivered⟩
  | returned result hphase hrecord hgrant =>
      refine ⟨hdigest, hnormal, hgranted hgrant, ?_, ?_, ?_, ?_⟩ <;> rw [hphase]
      · rintro _ ⟨⟩
      · rintro _ ⟨⟩
        rw [hcall.key, hcall.requestDigest]
        exact hrecord
      · simp
      · simp

theorem Execution.Valid.of_new {t : System} {token : Token} {e : Execution}
    (hphase : e.phase = .preparing) (hgrant : e.grant = none)
    (hdigest : e.requestDigest = e.command.digest host)
    (hnormal : ∃ raw, normalize raw = .ok e.command) : e.Valid host t token := by
  refine ⟨hdigest, hnormal, ?_, ?_, ?_, ?_, ?_⟩
  · simp [hgrant]
  · rw [hphase]
    rintro _ ⟨⟩
  all_goals simp [hphase]

/-! ## What a step does -/

theorem Change.of_eq {db db' : Db} (author : Option CommandKey) (h : db' = db) :
    Change db db' author := by
  subst h
  exact .quiet author (.refl _)

/-- Granting touches the history only. -/
theorem System.grantIfClaimed_frame (key : CommandKey) (token : Token)
    (answer : Except JsError PreparedMessage) (s : System) :
    ∃ grants granted, s.grantIfClaimed key token answer = { s with grants, granted } := by
  unfold grantIfClaimed
  split <;> exact ⟨_, _, rfl⟩

/-- What a transaction does if it returns, it does. -/
theorem change_of_transact {α : Type} {action : DbProgram α} {faults : Faults JsError} {db db' : Db}
    {answer : Except JsError α} {author : Option CommandKey}
    (h : transact faults action db = (answer, db'))
    (hreturns : ∀ a, action.Returns db a db' → Change db db' author) : Change db db' author := by
  cases answer with
  | error error => exact .of_eq author (transact_error h)
  | ok a => exact hreturns a (returns_of_transact h)

theorem Prepared.change {options : ServiceOptions} {command : MessageCommand}
    {requestDigest claimOwner : JsString} {clock : ℤ} {db db' : Db} {prepared : PreparedMessage}
    (h : Prepared options command requestDigest claimOwner clock db db' prepared) :
    Change db db' (some command.key) := by
  cases h with
  | known result _ hdb => exact .of_eq _ hdb
  | watched observedUntil pending hdb => exact .of_eq _ hdb
  | taken pending now _ _ _ hquiet _ => exact .quiet _ hquiet
  | unscheduled decision room state haccepted _ _ => exact .accepted _ _ _ _ _ haccepted
  | scheduled decision room state speaker now haccepted _ _ _ => exact .accepted _ _ _ _ _ haccepted

theorem Completed.change {key : CommandKey} {requestDigest : JsString} {pending : PendingMessage}
    {generated : GeneratedMessage} {claimOwner : JsString} {clock : ℤ} {db db' : Db}
    {answer : Option CommandResult}
    (h : Completed key requestDigest pending generated claimOwner clock db db' answer) :
    Change db db' (some key) := by
  cases h with
  | known result _ hdb => exact .of_eq _ hdb
  | lost hdb => exact .of_eq _ hdb
  | replied speaker text room now expiresAt _ _ _ _ hreplied _ =>
    exact .replied _ _ _ _ _ _ hreplied
  | settled outcome hsettled _ => exact .settled _ _ _ _ hsettled

theorem RoomControlEffect.change {kind : RoomControl} {key : CommandKey} {requestDigest : JsString}
    {db db' : Db} {answer : ControlAnswer}
    (h : RoomControlEffect kind key requestDigest db db' answer) : Change db db' (some key) := by
  rcases h with ⟨-, hdb, -⟩ | ⟨result, hcontrolled, -⟩
  · exact .of_eq _ hdb
  · exact .roomControlled _ _ _ hcontrolled

theorem PersonaControlEffect.change {kind : PersonaControl} {key : CommandKey}
    {personaId : ParticipantId} {requestDigest : JsString} {db db' : Db} {answer : ControlAnswer}
    (h : PersonaControlEffect kind key personaId requestDigest db db' answer) :
    Change db db' (some key) := by
  rcases h with ⟨-, hdb, -⟩ | ⟨result, hcontrolled, -⟩
  · exact .of_eq _ hdb
  · exact .personaControlled _ _ _ hcontrolled

/-- The database has changed, and the journal tells who has changed it. -/
def Committed (s t : System) : Prop :=
  ∃ author, Change s.db t.db author ∧ t.journal = (s.commit author t.db).journal

theorem Committed.of_quiet {s t : System} (h : s.db.Quiet t.db) (hjournal : t.journal = s.journal) :
    Committed s t := by
  refine ⟨none, .quiet none h, ?_⟩
  have hnew : System.newEvents s.db t.db = [] := by
    rw [System.newEvents, h.events, List.filter_eq_nil_iff]
    rintro e he
    simpa using AList.mem_keys.mpr (List.mem_map_of_mem he)
  rw [System.commit, hnew]
  simpa using hjournal

theorem Committed.of_eq {s t : System} (hdb : t.db = s.db) (hjournal : t.journal = s.journal) :
    Committed s t := .of_quiet (hdb ▸ .refl _) hjournal

/-- The result of `completeMessage`, under what is known of the execution. -/
theorem completed_of_transact {s : System} {token : Token} {e : Execution}
    {pending : PendingMessage}
    {generated : GeneratedMessage} {work : Option ℕ} {clock : ℤ} {faults : Faults JsError}
    {db' : Db} {answer : Except JsError (Option CommandResult)} (hvalid : e.Valid host s token)
    (hphase : e.phase = .completing pending generated work)
    (h : transact faults (completeMessage host e.command.roomId e.command.requestId pending
      generated token clock) s.db = (answer, db'))
    {result : Option CommandResult} (hok : answer = .ok result) :
    Completed e.key e.requestDigest pending generated token clock s.db db' result := by
  subst hok
  have hawaits := (hvalid.pending pending (by rw [hphase]; rfl)).1
  exact completeMessage_returns hawaits (returns_of_transact h)

theorem Step.commits {s t : System} {l : Label} (hvalid : ExecutionsValid host s)
    (h : Step host s l t) : Committed s t := by
  cases h with
  | prepare token e service faults clock answer db' he _ _ _ ht =>
      obtain ⟨grants, granted, hgrant⟩ :=
        System.grantIfClaimed_frame e.key token answer (s.commit (some e.key) db')
      rw [hgrant]
      exact ⟨some e.key, change_of_transact ht fun _ hr => (prepareMessage_returns hr).change, rfl⟩
  | pin token e service pending faults answer db' _ _ _ ht =>
      exact ⟨some e.key, change_of_transact ht fun _ hr =>
        .quiet _ (pinProviderDecision_returns hr).1, rfl⟩
  | renew token e service faults clock answer db' _ _ _ _ _ _ ht =>
      exact ⟨some e.key, change_of_transact ht fun _ hr => .quiet _ (renewClaim_returns hr).1, rfl⟩
  | discard token e pending error faults answer db' _ _ ht =>
      exact ⟨some e.key, change_of_transact ht fun _ hr =>
        .quiet _ (releaseClaim_returns hr).1, rfl⟩
  | release token e pending error faults answer db' _ _ ht =>
      exact ⟨some e.key, change_of_transact ht fun _ hr =>
        .quiet _ (releaseClaim_returns hr).1, rfl⟩
  | closeRelease token e service faults answer db' _ _ _ _ ht =>
      exact ⟨some e.key, change_of_transact ht fun _ hr =>
        .quiet _ (releaseClaim_returns hr).1, rfl⟩
  | complete token e service pending generated work faults clock answer db' he _ _ hphase ht =>
      refine ⟨some e.key, ?_, rfl⟩
      cases answer with
      | error error => exact .of_eq _ (transact_error ht)
      | ok result => exact (completed_of_transact (hvalid _ _ he) hphase ht rfl).change
  | roomControl id service kind command faults answer db' _ _ ht =>
      exact ⟨_, change_of_transact ht fun _ hr =>
        let ⟨_, heffect⟩ := roomControl_returns hr
        heffect.change, rfl⟩
  | personaControl id service kind command faults answer db' _ _ ht =>
      exact ⟨_, change_of_transact ht fun _ hr =>
        let ⟨_, heffect⟩ := personaControl_returns hr
        heffect.change, rfl⟩
  | replaceCast id service uuids command faults answer db' _ _ ht =>
      refine ⟨none, change_of_transact ht fun _ hr => ?_, rfl⟩
      rcases replaceCast_returns hr with hdb | ⟨sessionId, hopened⟩
      · exact .of_eq _ hdb
      · exact .opened sessionId hopened
  | selectRoom command faults answer db' ht =>
      exact ⟨none, change_of_transact ht fun _ hr => .quiet _ (selectRoom_returns hr).quiet, rfl⟩
  | providers db' hchange =>
      obtain ⟨providers, rfl⟩ := hchange.frame
      exact .of_quiet ⟨⟨rfl, rfl, rfl, rfl⟩, fun _ => rfl⟩ rfl
  | _ => exact .of_eq rfl rfl

theorem Step.works {s t : System} {l : Label} (h : Step host s l t) : WorksKept s t := by
  cases h with
  | startWork token e pending d speaker personaId work grant _ _ _ _ hwork _ =>
      intro i w hw
      refine ⟨w, ?_, rfl, rfl, fun _ ho => ho⟩
      refine (KeyedTable.lookup_insert _ _ _ _).trans ?_
      rw [if_neg, hw]
      rintro rfl
      rw [AList.lookup_eq_none.mpr hwork] at hw
      cases hw
  | settleWork work w outcome hw hnone =>
      intro i w' hw'
      by_cases hi : i = work
      · subst hi
        obtain rfl := Option.some.inj (hw.symm.trans hw')
        refine ⟨_, AList.lookup_insert _, rfl, rfl, fun _ ho => ?_⟩
        rw [hnone] at ho
        cases ho
      · exact ⟨w', (AList.lookup_insert_ne hi).trans hw', rfl, rfl, fun _ ho => ho⟩
  | prepare token e service faults clock answer db' _ _ _ _ _ =>
      obtain ⟨grants, granted, hgrant⟩ :=
        System.grantIfClaimed_frame e.key token answer (s.commit (some e.key) db')
      rw [hgrant]
      exact .of_eq rfl
  | _ => exact .of_eq rfl

theorem Step.executions {s t : System} {l : Label} (hvalid : ExecutionsValid host s)
    (h : Step host s l t) : ExecutionsAdvance host s t := by
  cases h with
  | call id service raw command token _ _ hnormal _ hnew =>
      exact .of_new hnew rfl rfl rfl rfl ⟨raw, hnormal⟩
  | move token e e' service he _ hmove => exact .of_insert he rfl hmove.advance
  | startWork token e pending d speaker personaId work grant he hphase _ _ hwork hgrant =>
      refine .of_insert he rfl ⟨⟨rfl, rfl, rfl⟩,
        .started pending d work (by rw [hphase]; rfl) rfl
          ⟨_, AList.lookup_insert _, rfl, hgrant⟩ rfl⟩
  | prepare token e service faults clock answer db' he _ _ _ ht =>
      refine .of_insert he ?_ (advance_prepare service clock answer ?_ ?_)
      · obtain ⟨grants, granted, hgrant⟩ :=
          System.grantIfClaimed_frame e.key token answer (s.commit (some e.key) db')
        rw [hgrant]
        rfl
      · rintro prepared rfl
        obtain ⟨grants, granted, hgrant⟩ :=
          System.grantIfClaimed_frame e.key token (.ok prepared) (s.commit (some e.key) db')
        rw [hgrant]
        exact prepareMessage_returns (returns_of_transact ht)
      · rintro pending rfl
        exact ⟨rfl, if_pos rfl⟩
  | pin token e service pending faults answer db' he _ hphase _ =>
      refine .of_insert he rfl ?_
      have hpending : e.phase.pending = some pending := by rw [hphase]; rfl
      rcases answer with error | (- | providerDecision)
      all_goals exact ⟨⟨rfl, rfl, rfl⟩, .inside pending _ hpending rfl (by simp) rfl⟩
  | renew token e service faults clock answer db' he _ _ _ _ _ _ =>
      refine .of_insert he rfl ?_
      rcases answer with error | renewed
      · exact ⟨⟨rfl, rfl, rfl⟩, .same rfl rfl⟩
      · unfold Execution.afterRenew
        simp only
        split
        · exact ⟨.refl e, .same rfl rfl⟩
        · exact ⟨⟨rfl, rfl, rfl⟩, .same rfl rfl⟩
  | discard token e pending error faults answer db' he hphase _ =>
      exact .of_insert he rfl ⟨⟨rfl, rfl, rfl⟩,
        .inside pending _ (by rw [hphase]; rfl) rfl (by simp) rfl⟩
  | release token e pending error faults answer db' he hphase _ =>
      exact .of_insert he rfl ⟨⟨rfl, rfl, rfl⟩, .idle rfl (by simp [Execution.afterRelease,
        Execution.finish]) rfl⟩
  | complete token e service pending generated work faults clock answer db' he _ _ hphase ht =>
      exact .of_insert he rfl (advance_complete fun result hok =>
        completed_of_transact (hvalid _ _ he) hphase ht hok)
  | roomControl id service kind command faults answer db' _ _ _ =>
      exact .of_updateExecutions rfl rfl fun token e => advance_abortIf token e _ _
  | personaControl id service kind command faults answer db' _ _ _ =>
      exact .of_updateExecutions rfl rfl fun token e => advance_abortIf token e _ _
  | close id service _ =>
      exact .of_updateExecutions rfl rfl fun token e => advance_abortIf token e _ _
  | crash id =>
      refine .of_updateExecutions rfl rfl fun token e => ?_
      split
      · exact ⟨.refl e, .same rfl rfl⟩
      · exact ⟨⟨rfl, rfl, rfl⟩, .idle rfl (by simp [Execution.finish]) rfl⟩
  | _ => exact .of_eq rfl

/-- What a step does to the claims. -/
inductive ClaimEffect (s : System) (l : Label) (t : System) : Prop
  | kept : s.db.ClaimsKept t.db → t.grants = s.grants → t.granted = s.granted →
      ClaimEffect s l t
  | renewed (key : CommandKey) (token : Token) (now : ℕ) :
      l.clock = some (now : ℤ) →
      (∀ k, t.db.claim k = s.db.claim k ∨ (k = key ∧ ∃ expiresAt expiresAt',
        s.db.claim k = some ⟨token, expiresAt⟩ ∧ now < expiresAt ∧
          t.db.claim k = some ⟨token, expiresAt'⟩)) →
      t.grants = s.grants → t.granted = s.granted → ClaimEffect s l t
  | granted (token : Token) (e e' : Execution) (expiresAt : ℕ) :
      s.executions.lookup token = some e → t.executions.lookup token = some e' →
      e.SameCall e' → e'.grant = some s.grants →
      (∀ k, t.db.claim k = if k = e.key then some ⟨token, expiresAt⟩ else s.db.claim k) →
      t.grants = s.grants + 1 → t.granted = (s.grant e.key token).granted → ClaimEffect s l t

theorem claimsKept_of_transact {α : Type} {action : DbProgram α} {faults : Faults JsError}
    {db db' : Db} {answer : Except JsError α} (h : transact faults action db = (answer, db'))
    (hreturns : ∀ a, action.Returns db a db' → db.ClaimsKept db') : db.ClaimsKept db' := by
  cases answer with
  | error error => exact .of_commands (by rw [transact_error h])
  | ok a => exact hreturns a (returns_of_transact h)

theorem Prepared.claimsKept {options : ServiceOptions} {command : MessageCommand}
    {requestDigest claimOwner : JsString} {clock : ℤ} {db db' : Db} {prepared : PreparedMessage}
    (h : Prepared options command requestDigest claimOwner clock db db' prepared)
    (hclaimed : ∀ pending, prepared ≠ .claimed pending) : db.ClaimsKept db' := by
  cases h with
  | known result _ hdb => exact .of_commands (by rw [hdb])
  | watched observedUntil pending hdb => exact .of_commands (by rw [hdb])
  | taken pending now _ _ _ _ _ => exact absurd rfl (hclaimed pending)
  | unscheduled decision room state _ _ hclaims => exact hclaims
  | scheduled decision room state speaker now _ _ _ _ => exact absurd rfl (hclaimed _)

theorem Prepared.claim {options : ServiceOptions} {command : MessageCommand}
    {requestDigest claimOwner : JsString} {clock : ℤ} {db db' : Db} {pending : PendingMessage}
    (h : Prepared options command requestDigest claimOwner clock db db' (.claimed pending)) :
    ∃ expiresAt, ∀ k, db'.claim k =
      if k = command.key then some ⟨claimOwner, expiresAt⟩ else db.claim k := by
  cases h with
  | taken _ now _ _ _ _ hclaim => exact ⟨_, hclaim⟩
  | scheduled decision room state speaker now _ _ _ hclaim => exact ⟨_, hclaim⟩

theorem Completed.claimsKept {key : CommandKey} {requestDigest : JsString}
    {pending : PendingMessage} {generated : GeneratedMessage} {claimOwner : JsString} {clock : ℤ}
    {db db' : Db} {answer : Option CommandResult}
    (h : Completed key requestDigest pending generated claimOwner clock db db' answer) :
    db.ClaimsKept db' := by
  cases h with
  | known result _ hdb => exact .of_commands (by rw [hdb])
  | lost hdb => exact .of_commands (by rw [hdb])
  | replied speaker text room now expiresAt _ _ _ _ _ hclaims => exact hclaims
  | settled outcome _ hclaims => exact hclaims

theorem Step.claims {s t : System} {l : Label} (hvalid : ExecutionsValid host s)
    (h : Step host s l t) : ClaimEffect s l t := by
  cases h with
  | prepare token e service faults clock answer db' he _ _ _ ht =>
      cases answer with
      | error error => exact .kept (claimsKept_of_transact ht fun _ hr => by
          rw [transact_error ht]
          exact .refl _) rfl rfl
      | ok prepared =>
          have hprepared := prepareMessage_returns (returns_of_transact ht)
          cases prepared with
          | complete result => exact .kept (hprepared.claimsKept (by simp)) rfl rfl
          | observed observedUntil pending => exact .kept (hprepared.claimsKept (by simp)) rfl rfl
          | claimed pending =>
              obtain ⟨expiresAt, hclaim⟩ := hprepared.claim
              exact .granted token e _ expiresAt he (AList.lookup_insert _) ⟨rfl, rfl, rfl⟩ rfl
                hclaim rfl rfl
  | pin token e service pending faults answer db' _ _ _ ht =>
      exact .kept (claimsKept_of_transact ht fun _ hr => (pinProviderDecision_returns hr).2) rfl rfl
  | renew token e service faults clock answer db' _ _ _ _ _ _ ht =>
      cases answer with
      | error error => exact .kept (.of_commands (by rw [← transact_error ht]; rfl)) rfl rfl
      | ok n =>
          obtain ⟨-, now, hnow, hclaims⟩ := renewClaim_returns (returns_of_transact ht)
          refine .renewed e.key token now (congrArg some hnow.symm) (fun k => ?_) rfl rfl
          rcases hclaims k with hk | ⟨hk, hnew, expiresAt, hold, hlive⟩
          · exact .inl hk
          · exact .inr ⟨hk, expiresAt, _, hold, hlive, hnew⟩
  | discard token e pending error faults answer db' _ _ ht =>
      exact .kept (claimsKept_of_transact ht fun _ hr => (releaseClaim_returns hr).2) rfl rfl
  | release token e pending error faults answer db' _ _ ht =>
      exact .kept (claimsKept_of_transact ht fun _ hr => (releaseClaim_returns hr).2) rfl rfl
  | closeRelease token e service faults answer db' _ _ _ _ ht =>
      exact .kept (claimsKept_of_transact ht fun _ hr => (releaseClaim_returns hr).2) rfl rfl
  | complete token e service pending generated work faults clock answer db' he _ _ hphase ht =>
      refine .kept ?_ rfl rfl
      cases answer with
      | error error => exact .of_commands (by rw [← transact_error ht]; rfl)
      | ok result => exact (completed_of_transact (hvalid _ _ he) hphase ht rfl).claimsKept
  | roomControl id service kind command faults answer db' _ _ ht =>
      refine .kept (claimsKept_of_transact ht fun _ hr => ?_) rfl rfl
      obtain ⟨_, ⟨-, hdb, -⟩ | ⟨_, -, hclaims, -⟩⟩ := roomControl_returns hr
      · exact .of_commands (by rw [hdb])
      · exact hclaims
  | personaControl id service kind command faults answer db' _ _ ht =>
      refine .kept (claimsKept_of_transact ht fun _ hr => ?_) rfl rfl
      obtain ⟨_, ⟨-, hdb, -⟩ | ⟨_, -, hclaims, -⟩⟩ := personaControl_returns hr
      · exact .of_commands (by rw [hdb])
      · exact hclaims
  | replaceCast id service uuids command faults answer db' _ _ ht =>
      refine .kept (claimsKept_of_transact ht fun _ hr => ?_) rfl rfl
      rcases replaceCast_returns hr with hdb | ⟨sessionId, hopened⟩
      · exact .of_commands (by rw [hdb])
      · exact .of_commands hopened.commands
  | selectRoom command faults answer db' ht =>
      exact .kept (claimsKept_of_transact ht fun _ hr =>
        .of_commands (selectRoom_returns hr).commands) rfl rfl
  | providers db' hchange =>
      obtain ⟨providers, rfl⟩ := hchange.frame
      exact .kept (.of_commands rfl) rfl rfl
  | _ => exact .kept (.of_commands rfl) rfl rfl

end

end Runtime

end GreenRoom
