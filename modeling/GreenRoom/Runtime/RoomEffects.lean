import GreenRoom.Runtime.RoomChange

/-!
# What each transaction does

One inversion lemma for each transaction of the room service: if it returns, its
answer and what it has changed are among a few cases.  Faults have no case of their
own, since a statement that fails makes the transaction throw, or, inside
`isResolvedRoomProviderDecisionCurrent`, count as a decision that is out of date.

## Main results

* `prepareMessage_returns`, `pinProviderDecision_returns`, `completeMessage_returns`,
  `renewClaim_returns`, `releaseClaim_returns` — the transactions of a message.
* `roomControl_returns`, `personaControl_returns` — those of the operator.
-/

namespace GreenRoom

open GreenRoom.Core Providers

namespace Db

/-! ## Statements on commands -/

theorem recorded_eq_none {key : CommandKey} {db : Db} :
    db.recorded key = none ↔ key ∉ db.commands := by
  rw [recorded, Option.map_eq_none_iff, AList.lookup_eq_none]

theorem insertCommand_ok {key : CommandKey} {row : CommandRow} {db db' : Db} {u : Unit}
    (h : insertCommand key row db = .ok (u, db')) :
    db.recorded key = none ∧ db.SameLogs db' ∧ db.RecordSet key row.record db' ∧
      ∀ k, db'.claim k = if k = key then row.claim else db.claim k := by
  unfold insertCommand at h
  split at h
  · cases h
  · next hkey =>
      split at h
      · obtain ⟨-, rfl⟩ := Prod.mk.inj (Except.ok.inj h)
        refine ⟨recorded_eq_none.mpr hkey, ⟨rfl, rfl, rfl, rfl⟩, fun k => ?_, fun k => ?_⟩
        · rw [recorded, recorded, KeyedTable.lookup_insert]
          split <;> rfl
        · rw [claim, claim, KeyedTable.lookup_insert]
          split <;> rfl
      · cases h

section

variable {condition : CommandKey → CommandRow → Bool} {f : CommandRow → CommandRow} {db db' : Db}
  {n : ℕ}

theorem updateCommands_ok (h : updateCommands condition f db = .ok (n, db')) :
    n = (db.commands.entries.countP fun e => condition e.1 e.2) ∧
      db' = { db with
        commands := KeyedTable.modify
          (fun key row => if condition key row then f row else row) db.commands } := by
  unfold updateCommands at h
  split at h
  · obtain ⟨hn, hdb⟩ := Prod.mk.inj (Except.ok.inj h)
    exact ⟨hn.symm, hdb.symm⟩
  · cases h

theorem updateCommands_lookup (h : updateCommands condition f db = .ok (n, db'))
    (key : CommandKey) : db'.commands.lookup key =
      (db.commands.lookup key).map fun row => if condition key row then f row else row := by
  obtain ⟨-, rfl⟩ := updateCommands_ok h
  exact KeyedTable.lookup_modify _ _ _

theorem updateCommands_sameLogs (h : updateCommands condition f db = .ok (n, db')) :
    db.SameLogs db' := by
  obtain ⟨-, rfl⟩ := updateCommands_ok h
  exact ⟨rfl, rfl, rfl, rfl⟩

/-- An update that leaves the records alone. -/
theorem updateCommands_quiet (h : updateCommands condition f db = .ok (n, db'))
    (hf : ∀ key row, db.commands.lookup key = some row → condition key row →
      (f row).record = row.record) : db.Quiet db' := by
  refine ⟨updateCommands_sameLogs h, fun key => ?_⟩
  rw [recorded, recorded, updateCommands_lookup h key]
  cases hrow : db.commands.lookup key with
  | none => rfl
  | some row =>
      rw [Option.map_some, Option.map_some, Option.map_some, Option.some.injEq]
      split
      · next hc => exact hf key row hrow hc
      · rfl

/-- An update that leaves every claim alone, or drops it. -/
theorem updateCommands_claimsKept (h : updateCommands condition f db = .ok (n, db'))
    (hf : ∀ row, (f row).claim = row.claim ∨ (f row).claim = none) : db.ClaimsKept db' := by
  intro key
  rw [claim, claim, updateCommands_lookup h key]
  cases db.commands.lookup key with
  | none => exact .inl rfl
  | some row =>
      rw [Option.map_some, Option.bind_some, Option.bind_some]
      split
      · exact hf row
      · exact .inl rfl

end

/-- A release, whatever rows it is for. -/
theorem release_ok {condition : CommandKey → CommandRow → Bool} {db db' : Db} {n : ℕ}
    (h : updateCommands condition Runtime.withoutClaim db = .ok (n, db')) :
    db.Quiet db' ∧ db.ClaimsKept db' :=
  ⟨updateCommands_quiet h fun _ _ _ _ => rfl, updateCommands_claimsKept h fun _ => .inr rfl⟩

end Db

namespace Runtime

/-! ## Shared pieces -/

theorem currentTime_returns {clock : ℤ} {db db' : Db} {now : ℕ}
    (h : (currentTime clock).Returns db now db') : (now : ℤ) = clock ∧ db' = db := by
  unfold currentTime at h
  split at h
  · next hclock =>
      obtain ⟨rfl, rfl⟩ := Program.returns_pure.mp h
      exact ⟨Int.toNat_of_nonneg hclock.1, rfl⟩
  · exact absurd h Program.returns_throw

theorem canonicalIdentifier_ok {value value' : JsString} {field : String}
    (h : canonicalIdentifier value field = .ok value') : value' = value := by
  unfold canonicalIdentifier at h
  split at h
  · cases h
  · exact (Except.ok.inj h).symm

theorem findCommand_returns {roomId : RoomId} {requestId : RequestId} {db db' : Db}
    {row : Option CommandRow} (h : (findCommand roomId requestId).Returns db row db') :
    row = db.commands.lookup (roomId, requestId) ∧ db' = db :=
  Program.returns_query.mp h

theorem room_returns {roomId : RoomId} {db db' : Db} {row : RoomRow}
    (h : (room roomId).Returns db row db') : db.rooms.lookup roomId = some row ∧ db' = db := by
  simp only [room, Program.returns_bind, Program.returns_query, Program.returns_orThrow] at h
  obtain ⟨_, _, ⟨rfl, rfl⟩, hrow, rfl⟩ := h
  exact ⟨hrow, rfl⟩

theorem speakerOnCooldown_readOnly (roomId : RoomId) (state : DirectorStateRow) :
    (speakerOnCooldown roomId state).ReadOnly := by
  unfold speakerOnCooldown
  split
  · exact .bind (.query _) fun _ => .pure _
  · exact .pure _

theorem decide_readOnly (roomId : RoomId) (state : DirectorStateRow) (wantsResponse : Bool)
    (targetPersonaId : Option ParticipantId) :
    (decide roomId state wantsResponse targetPersonaId).ReadOnly := by
  refine .bind (.query _) fun personas => ?_
  split
  · exact .bind (.orThrow _ _) fun _ => .bind (.require _ _) fun _ => .pure _
  · split
    · exact .pure _
    · split
      · exact .pure _
      · split
        · exact .pure _
        · exact .pure _
        · exact .bind (speakerOnCooldown_readOnly _ _) fun _ => .pure _

/-! ## Preparing -/

/-- What preparing a message can answer, and change. -/
inductive Prepared (options : ServiceOptions) (command : MessageCommand)
    (requestDigest claimOwner : JsString) (clock : ℤ) (db db' : Db) : PreparedMessage → Prop
  | known (result : CommandResult) :
      db.recorded command.key = some ⟨requestDigest, .complete result⟩ → db' = db →
        Prepared options command requestDigest claimOwner clock db db' (.complete result)
  | watched (observedUntil : ℕ) (pending : PendingMessage) :
      db' = db →
        Prepared options command requestDigest claimOwner clock db db'
          (.observed observedUntil pending)
  | taken (pending : PendingMessage) (now : ℕ) :
      (now : ℤ) = clock →
      db.recorded command.key = some ⟨requestDigest, .pending pending.unpinned⟩ →
      (∀ c, db.claim command.key = some c → c.expiresAt ≤ now) →
      db.Quiet db' →
      (∀ k, db'.claim k = if k = command.key then
        some ⟨claimOwner, now + options.pendingWorkLeaseMs⟩ else db.claim k) →
        Prepared options command requestDigest claimOwner clock db db' (.claimed pending)
  | unscheduled (decision : DirectorDecision) (room : RoomRow) (state : DirectorStateRow) :
      Accepted command requestDigest decision room state db db' →
      decision.speaker = none → db.ClaimsKept db' →
        Prepared options command requestDigest claimOwner clock db db'
          (.complete (.message (unscheduledResult command room decision)))
  | scheduled (decision : DirectorDecision) (room : RoomRow) (state : DirectorStateRow)
      (speaker : ParticipantId) (now : ℕ) :
      Accepted command requestDigest decision room state db db' →
      decision.speaker = some speaker → (now : ℤ) = clock →
      (∀ k, db'.claim k = if k = command.key then
        some ⟨claimOwner, now + options.pendingWorkLeaseMs⟩ else db.claim k) →
        Prepared options command requestDigest claimOwner clock db db'
          (.claimed (acceptedPending command room decision))

theorem prepareKnown_returns {options : ServiceOptions} {command : MessageCommand}
    {requestDigest claimOwner : JsString} {clock : ℤ} {now : ℕ} {prior : CommandRow} {db db' : Db}
    {answer : PreparedMessage} (hnow : (now : ℤ) = clock)
    (hprior : db.commands.lookup command.key = some prior)
    (h : (prepareKnown options command requestDigest claimOwner now prior).Returns db answer db') :
    Prepared options command requestDigest claimOwner clock db db' answer := by
  have hrecord : db.recorded command.key = some prior.record := by rw [Db.recorded, hprior]; rfl
  simp only [prepareKnown, assertMatchingDigest, Program.returns_bind, Program.returns_require] at h
  obtain ⟨_, db, ⟨hdigest, rfl⟩, h⟩ := h
  split at h
  · next result hresult =>
      obtain ⟨rfl, rfl⟩ := Program.returns_pure.mp h
      refine .known result ?_ rfl
      rw [hrecord, CommandRow.record, hresult, hdigest]
      rfl
  · next stored hstored =>
      split at h
      · next hfree =>
          simp only [Program.returns_bind, Program.returns_statement, Program.returns_pure] at h
          obtain ⟨n, db', hupdate, rfl, rfl⟩ := h
          refine .taken stored now hnow ?_ ?_
            (Db.updateCommands_quiet hupdate fun _ _ _ _ => rfl) ?_
          · rw [hrecord, CommandRow.record, hstored, hdigest]
            rfl
          · intro c hc
            rw [Db.claim, hprior, Option.bind_some, CommandRow.claim] at hc
            split at hc
            · next howner hexpires =>
                obtain rfl := Option.some.inj hc
                simpa [claimIsFree, howner, hexpires] using hfree
            · cases hc
          · intro k
            rw [Db.claim, Db.claim, Db.updateCommands_lookup hupdate k]
            by_cases hk : k = command.key
            · subst hk
              simp [hprior, CommandRow.claim]
            · cases db.commands.lookup k <;> simp [hk]
      · obtain ⟨rfl, rfl⟩ := Program.returns_pure.mp h
        exact .watched _ _ rfl

/-- The database when a message has been decided on, before its command is inserted. -/
def decided (command : MessageCommand) (participantId : ParticipantId)
    (decision : DirectorDecision) (room : RoomRow) (db : Db) : Db :=
  Db.updateDirectorState command.roomId (scheduled decision room.nextEventSequence room.generation)
    ((db.appended command.roomId room.nextEventSequence
      (.humanMessage participantId command.text)).appended command.roomId
        (room.nextEventSequence + 1) (.directorDecision room.nextEventSequence decision))

theorem lookup_rooms_decided (command : MessageCommand) (participantId : ParticipantId)
    (decision : DirectorDecision) (room : RoomRow) (db : Db) :
    db.RoomUpdated command.roomId (fun row => { row with
      nextEventSequence := row.nextEventSequence + 2
      activityOrder := db.nextActivityOrder + 1 })
      (decided command participantId decision room db) := by
  intro id
  change ((db.appended command.roomId room.nextEventSequence
    (.humanMessage participantId command.text)).appended command.roomId
      (room.nextEventSequence + 1)
      (.directorDecision room.nextEventSequence decision)).rooms.lookup id = _
  rw [Db.lookup_rooms_appended, Db.lookup_rooms_appended, Option.map_map]
  congr 1
  funext row
  by_cases h : id = command.roomId
  · simp [h, Db.appended]
  · simp [h]

theorem accepted_of_insert (requestDigest : JsString) {command : MessageCommand}
    {participantId : ParticipantId} {decision : DirectorDecision} {room : RoomRow}
    {state : DirectorStateRow} {row : CommandRow} {db db' : Db} {u : Unit}
    (hfound : db.rooms.lookup command.roomId = some room) (hactive : room.status = .active)
    (hsafe : room.nextEventSequence < safeIntegerBound)
    (hstate : db.directorState.lookup command.roomId = some state)
    (hfree : (command.roomId, room.nextEventSequence) ∉ db.events)
    (hfree' : (command.roomId, room.nextEventSequence + 1) ∉
      (db.appended command.roomId room.nextEventSequence
        (.humanMessage participantId command.text)).events)
    (hdecide : (decide command.roomId state command.wantsResponse command.targetPersonaId).Returns
      (db.appended command.roomId room.nextEventSequence
        (.humanMessage participantId command.text)) decision
      (db.appended command.roomId room.nextEventSequence
        (.humanMessage participantId command.text)))
    (hrow : row.record = ⟨requestDigest, acceptedStored command room decision⟩)
    (h : Db.insertCommand command.key row (decided command participantId decision room db) =
      .ok (u, db')) :
    Accepted command requestDigest decision room state db db' ∧
      ∀ k, db'.claim k = if k = command.key then row.claim else db.claim k := by
  obtain ⟨hnew, hlogs, hrecord, hclaim⟩ := Db.insertCommand_ok h
  refine ⟨?_, hclaim⟩
  refine ⟨hfound, hactive, hsafe, hnew, hstate, hfree, ?_, ⟨db.nextActivityOrder + 1, fun id => ?_⟩,
    hlogs.participants, ⟨participantId, hlogs.events, hdecide⟩, fun id => ?_, ?_⟩
  · intro hmem
    rw [Db.appended_events, AList.mem_insert, not_or] at hfree'
    exact hfree'.2 hmem
  · rw [hlogs.rooms]
    exact lookup_rooms_decided command participantId decision room db id
  · rw [hlogs.directorState]
    exact KeyedTable.lookup_modify _ _ _
  · rw [← hrow]
    exact hrecord

theorem prepareNew_returns {options : ServiceOptions} {command : MessageCommand}
    {requestDigest claimOwner : JsString} {clock : ℤ} {now : ℕ} {db db' : Db}
    {answer : PreparedMessage} (hnow : (now : ℤ) = clock)
    (h : (prepareNew options command requestDigest claimOwner now).Returns db answer db') :
    Prepared options command requestDigest claimOwner clock db db' answer := by
  simp only [prepareNew, Program.returns_bind, Program.returns_query, Program.returns_require,
    Program.returns_orThrow, Program.returns_write] at h
  obtain ⟨room, db₀, hroom, _, db₁, ⟨hactive, rfl⟩, _, _, ⟨rfl, rfl⟩, state, _, ⟨hstate, rfl⟩, _, _,
    ⟨rfl, rfl⟩, participant, db, ⟨-, rfl⟩, human, db₂, hhuman, decision, db₃, hdecide,
    director, db₄, hdirector, _, db₅, rfl, h⟩ := h
  obtain ⟨hfound, rfl⟩ := room_returns hroom
  obtain ⟨room', hroom', rfl, hsafe, hfree, rfl⟩ := appendEventInTransaction_returns hhuman
  obtain rfl := Option.some.inj (hfound.symm.trans hroom')
  obtain rfl := (decide_readOnly _ _ _ _).returns hdecide
  obtain ⟨room₂, hroom₂, rfl, -, hfree₂, rfl⟩ := appendEventInTransaction_returns hdirector
  have hnext : room₂.nextEventSequence = room.nextEventSequence + 1 := by
    rw [Db.lookup_rooms_appended, hfound, Option.map_some, if_pos rfl, Option.some.injEq] at hroom₂
    rw [← hroom₂]
  rw [hnext] at hfree₂ h
  change Program.Returns _ (decided command participant.id decision room db) _ _ at h
  split at h
  · next hspeaker =>
      simp only [Program.returns_bind, Program.returns_statement, Program.returns_pure] at h
      obtain ⟨_, db', hins, rfl, rfl⟩ := h
      obtain ⟨haccepted, hclaim⟩ := accepted_of_insert requestDigest hfound
        hactive hsafe hstate hfree hfree₂ hdecide
        (by simp [CommandRow.record, acceptedStored, hspeaker,
          Stored.unpinned, unscheduledResult]) hins
      refine .unscheduled decision room state haccepted hspeaker fun k => ?_
      rw [hclaim k]
      split
      · exact .inr rfl
      · exact .inl rfl
  · next speaker hspeaker =>
      simp only [Program.returns_bind, Program.returns_statement, Program.returns_pure] at h
      obtain ⟨_, db', hins, rfl, rfl⟩ := h
      obtain ⟨haccepted, hclaim⟩ := accepted_of_insert requestDigest hfound
        hactive hsafe hstate hfree hfree₂ hdecide
        (by simp [CommandRow.record, acceptedStored, hspeaker,
          Stored.unpinned, PendingMessage.unpinned, acceptedPending]) hins
      exact .scheduled decision room state speaker now haccepted hspeaker hnow hclaim

/-- **Preparing a message.** -/
theorem prepareMessage_returns {options : ServiceOptions} {command : MessageCommand}
    {requestDigest claimOwner : JsString} {clock : ℤ} {db db' : Db} {answer : PreparedMessage}
    (h : (prepareMessage options command requestDigest claimOwner clock).Returns db answer db') :
    Prepared options command requestDigest claimOwner clock db db' answer := by
  simp only [prepareMessage, Program.returns_bind] at h
  obtain ⟨_, _, hselected, now, _, htime, prior, db, hprior, h⟩ := h
  obtain rfl := requireRoomSelection_returns hselected
  obtain ⟨hnow, rfl⟩ := currentTime_returns htime
  obtain ⟨rfl, rfl⟩ := findCommand_returns hprior
  split at h
  · next prior hprior => exact prepareKnown_returns hnow hprior h
  · exact prepareNew_returns hnow h

/-! ## Pinning -/

theorem pinProviderDecision_returns {host : Host} {options : ServiceOptions}
    {roomId : RoomId} {requestId : RequestId} {claimOwner : JsString} {db db' : Db}
    {answer : Option DecisionSnapshot}
    (h : (pinProviderDecision host options roomId requestId claimOwner).Returns db answer db') :
    db.Quiet db' ∧ db.ClaimsKept db' := by
  simp only [pinProviderDecision, Program.returns_bind, Program.returns_orThrow] at h
  obtain ⟨_, _, hfind, row, db, ⟨hrow, rfl⟩, h⟩ := h
  obtain ⟨rfl, rfl⟩ := findCommand_returns hfind
  obtain ⟨hfound, -⟩ := Option.filter_eq_some_iff.mp hrow
  split at h
  · exact absurd h Program.returns_throw
  · next stored hstored =>
      split at h
      · simp only [Program.returns_bind, Program.returns_ofExcept, Program.returns_pure] at h
        obtain ⟨_, _, ⟨-, rfl⟩, -, rfl⟩ := h
        exact ⟨.refl _, .refl _⟩
      · next hpin =>
          simp only [Program.returns_bind] at h
          obtain ⟨_, db₁, hbinding, h⟩ := h
          obtain ⟨rfl, rfl⟩ := Program.returns_query.mp hbinding
          split at h
          · obtain ⟨-, rfl⟩ := Program.returns_pure.mp h
            exact ⟨.refl _, .refl _⟩
          · simp only [Program.returns_bind, Program.returns_orThrow, Program.returns_ofExcept,
              Program.returns_statement, Program.returns_pure] at h
            obtain ⟨_, _, ⟨-, rfl⟩, _, db₂, hresolve, _, _, ⟨-, rfl⟩, _, db₃, hupdate, -, rfl⟩ := h
            obtain rfl := (resolveRoomProviderDecision_readOnly _ _).returns hresolve
            refine ⟨Db.updateCommands_quiet hupdate ?_,
              Db.updateCommands_claimsKept hupdate fun _ => .inl rfl⟩
            intro key row' hrow' hcondition
            obtain ⟨rfl, -⟩ := by simpa using hcondition
            obtain rfl := Option.some.inj (hfound.symm.trans hrow')
            simp [CommandRow.record, hstored, Stored.unpinned, PendingMessage.unpinned]

/-! ## Completing -/

/-- What completing a message can answer, and change. -/
inductive Completed (key : CommandKey) (requestDigest : JsString) (pending : PendingMessage)
    (generated : GeneratedMessage) (claimOwner : JsString) (clock : ℤ) (db db' : Db) :
    Option CommandResult → Prop
  | known (result : CommandResult) :
      db.recorded key = some ⟨requestDigest, .complete result⟩ → db' = db →
        Completed key requestDigest pending generated claimOwner clock db db' (some result)
  | lost : db' = db →
      Completed key requestDigest pending generated claimOwner clock db db' none
  | replied (speaker : ParticipantId) (text : JsString) (room : RoomRow) (now expiresAt : ℕ) :
      generated.providerResult = some (.text text) →
      (now : ℤ) = clock → db.claim key = some ⟨claimOwner, expiresAt⟩ → now < expiresAt →
      Replied key requestDigest pending.unpinned speaker text room db db' →
      db.ClaimsKept db' →
        Completed key requestDigest pending generated claimOwner clock db db'
          (some (.message (resultOf key.2 pending.unpinned (some room.nextEventSequence) .text)))
  | settled (outcome : MessageOutcome) :
      Settled key requestDigest pending.unpinned outcome db db' →
      db.ClaimsKept db' →
        Completed key requestDigest pending generated claimOwner clock db db'
          (some (.message (resultOf key.2 pending.unpinned none outcome)))

theorem generatedIsStale_returns {roomId : RoomId} {pending : PendingMessage}
    {speaker : ParticipantId} {generated : GeneratedMessage} {db db' : Db} {stale : Bool}
    (h : (generatedIsStale roomId pending speaker generated).Returns db stale db') :
    db' = db ∧ (stale = false → staleIn roomId pending.generation speaker db = false) := by
  simp only [generatedIsStale, isStale, Program.returns_bind, Program.returns_query] at h
  obtain ⟨_, db, ⟨rfl, rfl⟩, h⟩ := h
  split at h
  · obtain ⟨rfl, rfl⟩ := Program.returns_pure.mp h
    exact ⟨rfl, fun h => by cases h⟩
  · next hfresh =>
      refine ⟨?_, fun _ => by simpa using hfresh⟩
      split at h
      · exact (Program.returns_pure.mp h).2
      · simp only [Program.returns_bind, Program.returns_pure] at h
        obtain ⟨_, db₁, hcurrent, -, rfl⟩ := h
        exact isResolvedRoomProviderDecisionCurrent_returns hcurrent

theorem commitDecision_returns {roomId : RoomId} {requestId : RequestId} {stale : Bool}
    {generated : GeneratedMessage} {db db' : Db} {u : Unit}
    (h : (commitDecision host roomId requestId stale generated).Returns db u db') :
    db.SameRooms db' := by
  unfold commitDecision at h
  split at h
  · simp only [Program.returns_bind] at h
    obtain ⟨_, db₁, hcommit, h⟩ := h
    obtain ⟨-, rfl⟩ := Program.returns_pure.mp h
    exact commitDecisionSnapshotInTransaction_returns hcommit
  · obtain ⟨-, rfl⟩ := Program.returns_pure.mp h
    exact .refl _

/-- The update that completes a claimed command. -/
theorem complete_update {key : CommandKey} {row : CommandRow} {claimOwner : JsString}
    {result : CommandResult} {db db₁ db' : Db} {n : ℕ}
    (hrow : db.commands.lookup key = some row) (howner : row.claimOwner = some claimOwner)
    (h : Db.updateCommands (fun k row => k = key && row.claimOwner = some claimOwner)
      (fun row =>
        { row with result := .complete result, claimOwner := none, claimExpiresAt := none })
      db₁ = .ok (n, db')) (hcommands : db₁.commands = db.commands) :
    db.RecordSet key ⟨row.requestDigest, .complete result⟩ db' ∧ db.ClaimsKept db' := by
  refine ⟨?_, (Db.ClaimsKept.of_commands hcommands).trans
    (Db.updateCommands_claimsKept h fun _ => .inr rfl)⟩
  intro k
  rw [Db.recorded, Db.recorded, Db.updateCommands_lookup h k, hcommands]
  by_cases hk : k = key
  · subst hk
    simp [hrow, howner, CommandRow.record, Stored.unpinned]
  · cases db.commands.lookup k <;> simp [hk]

theorem completeClaimed_returns {key : CommandKey} {requestDigest : JsString}
    {pending : PendingMessage} {generated : GeneratedMessage} {claimOwner : JsString} {clock : ℤ}
    {row : CommandRow} {now expiresAt : ℕ} {db db' : Db} {result : CommandResult}
    (hrow : db.commands.lookup key = some row) (howner : row.claimOwner = some claimOwner)
    (hpending : db.recorded key = some ⟨requestDigest, .pending pending.unpinned⟩)
    (hnow : (now : ℤ) = clock) (hclaim : db.claim key = some ⟨claimOwner, expiresAt⟩)
    (hlive : now < expiresAt)
    (h : (completeClaimed host key.1 key.2 pending generated claimOwner).Returns db result db') :
    Completed key requestDigest pending generated claimOwner clock db db' (some result) := by
  have hdigest : row.requestDigest = requestDigest := by
    rw [Db.recorded, hrow, Option.map_some, CommandRow.record, Option.some.injEq,
      Record.mk.injEq] at hpending
    exact hpending.1
  simp only [completeClaimed, Program.returns_bind, Program.returns_orThrow,
    Program.returns_statement, Program.returns_pure] at h
  obtain ⟨speaker, _, ⟨hspeaker, rfl⟩, stale, db, hstale, ⟨sequence, outcome⟩, db₁, hreply, _, db₂,
    hcommit, n, db', hupdate, rfl, rfl⟩ := h
  obtain ⟨rfl, hfresh⟩ := generatedIsStale_returns hstale
  have hcommitted := commitDecision_returns hcommit
  have hlogs := Db.updateCommands_sameLogs hupdate
  unfold appendReply at hreply
  split at hreply
  · next text htext =>
      simp only [Program.returns_bind, Program.returns_pure, Prod.mk.injEq] at hreply
      obtain ⟨_, _, happend, ⟨rfl, rfl⟩, rfl⟩ := hreply
      obtain ⟨room, hroom, rfl, -, hfree, rfl⟩ := appendEventInTransaction_returns happend
      obtain ⟨hset, hkept⟩ := complete_update hrow howner hupdate hcommitted.commands
      rw [hdigest] at hset
      refine .replied speaker text room now expiresAt htext hnow hclaim hlive
        ⟨hpending, hspeaker, hroom, hfresh rfl, hfree, ⟨db.nextActivityOrder, fun id => ?_⟩,
          hlogs.participants.trans hcommitted.participants, hlogs.events.trans hcommitted.events,
          hlogs.directorState.trans hcommitted.directorState, hset⟩ hkept
      rw [hlogs.rooms, hcommitted.rooms]
      exact Db.lookup_rooms_appended _ _ _ _ id
  all_goals
    obtain ⟨houtcome, rfl⟩ := Program.returns_pure.mp hreply
    obtain ⟨rfl, rfl⟩ := Prod.mk.inj houtcome
    obtain ⟨hset, hkept⟩ := complete_update hrow howner hupdate hcommitted.commands
    rw [hdigest] at hset
    exact .settled _ ⟨hpending, hlogs.rooms.trans hcommitted.rooms,
      hlogs.participants.trans hcommitted.participants, hlogs.events.trans hcommitted.events,
      hlogs.directorState.trans hcommitted.directorState, hset⟩ hkept

/-- **Completing a message.**  The pending message is the one recorded, pins aside,
unless its command is complete already. -/
theorem completeMessage_returns {key : CommandKey} {requestDigest : JsString}
    {pending : PendingMessage} {generated : GeneratedMessage} {claimOwner : JsString} {clock : ℤ}
    {db db' : Db} {answer : Option CommandResult}
    (hrecord : db.recorded key = some ⟨requestDigest, .pending pending.unpinned⟩ ∨
      ∃ result, db.recorded key = some ⟨requestDigest, .complete result⟩)
    (h : (completeMessage host key.1 key.2 pending generated claimOwner clock).Returns db answer
      db') :
    Completed key requestDigest pending generated claimOwner clock db db' answer := by
  simp only [completeMessage, Program.returns_bind, Program.returns_orThrow] at h
  obtain ⟨_, _, hfind, row, db, ⟨hrow, rfl⟩, h⟩ := h
  obtain ⟨rfl, rfl⟩ := findCommand_returns hfind
  have hrow' : db.recorded key = some row.record := by rw [Db.recorded, hrow]; rfl
  split at h
  · next result hresult =>
      obtain ⟨rfl, rfl⟩ := Program.returns_pure.mp h
      refine .known result ?_ rfl
      rcases hrecord with hrecord | ⟨result', hrecord⟩
      · rw [hrow', CommandRow.record, hresult, Stored.unpinned, Option.some.injEq,
          Record.mk.injEq] at hrecord
        cases hrecord.2
      · rw [hrow', CommandRow.record, hresult, Stored.unpinned, Option.some.injEq,
          Record.mk.injEq] at hrecord
        rw [hrow', CommandRow.record, hresult, Stored.unpinned, hrecord.1]
  · next stored hstored =>
      split at h
      · obtain ⟨rfl, rfl⟩ := Program.returns_pure.mp h
        exact .lost rfl
      · next expiresAt hexpires =>
          split at h
          · obtain ⟨rfl, rfl⟩ := Program.returns_pure.mp h
            exact .lost rfl
          · next howner =>
              rw [not_not] at howner
              simp only [Program.returns_bind] at h
              obtain ⟨now, db, htime, h⟩ := h
              obtain ⟨hnow, rfl⟩ := currentTime_returns htime
              split at h
              · obtain ⟨rfl, rfl⟩ := Program.returns_pure.mp h
                exact .lost rfl
              · next hlive =>
                  simp only [Program.returns_bind, Program.returns_pure] at h
                  obtain ⟨result, db', hcomplete, rfl, rfl⟩ := h
                  have hclaim : db.claim key = some ⟨claimOwner, expiresAt⟩ := by
                    rw [Db.claim, hrow, Option.bind_some, CommandRow.claim, howner, hexpires]
                  have hpending :
                    db.recorded key = some ⟨requestDigest, .pending pending.unpinned⟩ := by
                    rcases hrecord with hrecord | ⟨result', hrecord⟩
                    · exact hrecord
                    · rw [hrow', CommandRow.record, hstored, Stored.unpinned, Option.some.injEq,
                        Record.mk.injEq] at hrecord
                      cases hrecord.2
                  exact completeClaimed_returns hrow howner hpending hnow hclaim
                    (Nat.lt_of_not_le hlive) hcomplete

/-! ## Looking after a claim -/

theorem renewClaim_returns {options : ServiceOptions} {roomId : RoomId} {requestId : RequestId}
    {claimOwner : JsString} {clock : ℤ} {db db' : Db} {n : ℕ}
    (h : (renewClaim options roomId requestId claimOwner clock).Returns db n db') :
    db.Quiet db' ∧ ∃ now : ℕ, (now : ℤ) = clock ∧ ∀ k, db'.claim k = db.claim k ∨
      (k = (roomId, requestId) ∧ db'.claim k = some ⟨claimOwner, now + options.pendingWorkLeaseMs⟩ ∧
        ∃ expiresAt, db.claim k = some ⟨claimOwner, expiresAt⟩ ∧ now < expiresAt) := by
  simp only [renewClaim, Program.returns_bind, Program.returns_statement] at h
  obtain ⟨now, db, htime, hupdate⟩ := h
  obtain ⟨hnow, rfl⟩ := currentTime_returns htime
  refine ⟨Db.updateCommands_quiet hupdate fun _ _ _ _ => rfl, now, hnow, fun k => ?_⟩
  rw [Db.claim, Db.claim, Db.updateCommands_lookup hupdate k]
  cases hrow : db.commands.lookup k with
  | none => exact .inl rfl
  | some row =>
      rw [Option.map_some, Option.bind_some, Option.bind_some]
      split
      · next hcondition =>
          simp only [Bool.and_eq_true, decide_eq_true_eq, Option.any_eq_true_iff_get] at hcondition
          obtain ⟨⟨⟨rfl, howner⟩, hexpires, hlive⟩, -⟩ := hcondition
          obtain ⟨expiresAt, hexpiresAt⟩ := Option.isSome_iff_exists.mp hexpires
          refine .inr ⟨rfl, ?_, expiresAt, ?_, ?_⟩
          · simp [CommandRow.claim, howner]
          · simp [CommandRow.claim, howner, hexpiresAt]
          · simpa [hexpiresAt] using hlive
      · exact .inl rfl

theorem releaseClaim_returns {roomId : RoomId} {requestId : RequestId} {claimOwner : JsString}
    {db db' : Db} {u : Unit} (h : (releaseClaim roomId requestId claimOwner).Returns db u db') :
    db.Quiet db' ∧ db.ClaimsKept db' := by
  simp only [releaseClaim, Program.returns_bind, Program.returns_statement] at h
  obtain ⟨n, _, hupdate, h⟩ := h
  obtain ⟨-, rfl⟩ := Program.returns_pure.mp h
  exact Db.release_ok hupdate

theorem releaseRoomClaims_returns {roomId : RoomId} {db db' : Db} {u : Unit}
    (h : (releaseRoomClaims roomId).Returns db u db') : db.Quiet db' ∧ db.ClaimsKept db' := by
  simp only [releaseRoomClaims, Program.returns_bind, Program.returns_statement] at h
  obtain ⟨n, _, hupdate, h⟩ := h
  obtain ⟨-, rfl⟩ := Program.returns_pure.mp h
  exact Db.release_ok hupdate

/-! ## The operator's commands -/

theorem answerAgain_returns {prior : CommandRow} {requestDigest : JsString} {db db' : Db}
    {answer : ControlAnswer} (h : (answerAgain prior requestDigest).Returns db answer db') :
    db' = db ∧ answer.abort = false := by
  simp only [answerAgain, assertMatchingDigest, Program.returns_bind, Program.returns_require] at h
  obtain ⟨_, _, ⟨-, rfl⟩, h⟩ := h
  split at h
  · exact absurd h Program.returns_throw
  · obtain ⟨rfl, rfl⟩ := Program.returns_pure.mp h
    exact ⟨rfl, rfl⟩

theorem insertResult_ok {key : CommandKey} {requestDigest : JsString} {result : CommandResult}
    {db₀ db db' : Db} {u : Unit}
    (h : Db.insertCommand key { requestDigest, result := .complete result } db = .ok (u, db'))
    (hrecorded : ∀ k, db.recorded k = db₀.recorded k) (hclaims : db₀.ClaimsKept db) :
    db.SameLogs db' ∧ db₀.recorded key = none ∧
      db₀.RecordSet key ⟨requestDigest, .complete result⟩ db' ∧ db₀.ClaimsKept db' := by
  obtain ⟨hnew, hlogs, hrecord, hclaim⟩ := Db.insertCommand_ok h
  refine ⟨hlogs, by rw [← hrecorded]; exact hnew, fun k => ?_, hclaims.trans fun k => ?_⟩
  · rw [← hrecorded]
    exact hrecord k
  · rw [hclaim]
    split
    · exact .inr rfl
    · exact .inl rfl

/-- What a room control can answer, and change. -/
def RoomControlEffect (kind : RoomControl) (key : CommandKey) (requestDigest : JsString)
    (db db' : Db) (answer : ControlAnswer) : Prop :=
  (db.recorded key ≠ none ∧ db' = db ∧ answer.abort = false) ∨
    ∃ result : RoomControlResult, RoomControlled key requestDigest result db db' ∧
      db.ClaimsKept db' ∧ result.kind = kind ∧
      answer = ⟨result.changed && kind ≠ .resume, .roomControl result⟩

theorem changeStatus_returns {roomId : RoomId} {status : RoomStatus} {fencesGeneration : Bool}
    {db db' : Db} {u : Unit}
    (h : (changeStatus roomId status fencesGeneration).Returns db u db') :
    (db.updateRoom roomId fun row => { row with
      status
      generation := row.generation + if fencesGeneration then 1 else 0 }).Quiet db' ∧
      db.ClaimsKept db' := by
  simp only [changeStatus, Program.returns_bind, Program.returns_write, Program.returns_onlyIf] at h
  obtain ⟨_, db₁, rfl, ⟨-, h⟩ | ⟨-, rfl⟩⟩ := h
  · exact releaseRoomClaims_returns h
  · exact ⟨.refl _, .refl _⟩

/-- An update of a room that does not change its row. -/
theorem roomUpdated_self {roomId : RoomId} {room : RoomRow} {f : RoomRow → RoomRow} {db : Db}
    (hroom : db.rooms.lookup roomId = some room) (hf : f room = room) :
    db.RoomUpdated roomId f db := by
  intro id
  by_cases hid : id = roomId
  · rw [hid, hroom]
    simp [hf]
  · simp [hid]

theorem roomUpdated_updateRoom (roomId : RoomId) (f : RoomRow → RoomRow) (db : Db) :
    db.RoomUpdated roomId f (db.updateRoom roomId f) := fun _ => KeyedTable.lookup_modify _ _ _

theorem roomControlNew_returns {kind : RoomControl} {roomId : RoomId} {requestId : RequestId}
    {requestDigest : JsString} {db db' : Db} {answer : ControlAnswer}
    (h : (roomControlNew kind roomId requestId requestDigest).Returns db answer db') :
    RoomControlEffect kind (roomId, requestId) requestDigest db db' answer := by
  simp only [roomControlNew, Program.returns_bind, Program.returns_require, Program.returns_onlyIf,
    Program.returns_statement, Program.returns_pure] at h
  obtain ⟨room₀, _, hroom, _, db, ⟨hallowed, rfl⟩, _, db₁, hchange, updated, db₂, hupdated, _, db₃,
    hins, rfl, rfl⟩ := h
  obtain ⟨hroom, rfl⟩ := room_returns hroom
  obtain ⟨hupdated, rfl⟩ := room_returns hupdated
  refine .inr ⟨{ kind, requestId, status := updated.status, generation := updated.generation,
                 changed := room₀.status ≠ targetStatus kind }, ?_, ?_, rfl, rfl⟩
  all_goals
    rcases hchange with ⟨hchanged, hchange⟩ | ⟨hchanged, rfl⟩
  · obtain ⟨hquiet, hclaims⟩ := changeStatus_returns hchange
    obtain ⟨hlogs, hnew, hrecord, -⟩ := insertResult_ok hins hquiet.recorded hclaims
    refine ⟨hnew, ⟨room₀, hroom, by simp, hallowed⟩, ?_, hlogs.participants.trans
      hquiet.participants,
      hlogs.events.trans hquiet.events, hlogs.directorState.trans hquiet.directorState, hrecord⟩
    intro id
    rw [hlogs.rooms, hquiet.rooms]
    exact roomUpdated_updateRoom _ _ _ id
  · obtain ⟨hlogs, hnew, hrecord, -⟩ := insertResult_ok hins (fun _ => rfl) (.refl _)
    refine ⟨hnew, ⟨room₀, hroom, by simp, hallowed⟩, ?_, hlogs.participants, hlogs.events,
      hlogs.directorState, hrecord⟩
    intro id
    rw [hlogs.rooms]
    refine roomUpdated_self hroom ?_ id
    have hstatus : room₀.status = targetStatus kind := by
      by_contra hne
      simp [hne] at hchanged
    simp [← hstatus]
  · obtain ⟨hquiet, hclaims⟩ := changeStatus_returns hchange
    exact (insertResult_ok hins hquiet.recorded hclaims).2.2.2
  · exact (insertResult_ok hins (fun _ => rfl) (.refl _)).2.2.2

/-- **Pausing, resuming, stopping.** -/
theorem roomControl_returns {host : Host} {kind : RoomControl}
    {command : RoomCommand} {db db' : Db} {answer : ControlAnswer}
    (h : (roomControl host kind command).Returns db answer db') :
    ∃ requestDigest, RoomControlEffect kind (command.roomId, command.requestId) requestDigest db db'
      answer := by
  simp only [roomControl, Program.returns_bind, Program.returns_ofExcept] at h
  obtain ⟨roomId, _, ⟨hroomId, rfl⟩, requestId, _, ⟨hrequestId, rfl⟩, revision, _, ⟨-, rfl⟩, _, db₁,
    hselected, prior, db, hprior, h⟩ := h
  obtain rfl := canonicalIdentifier_ok hroomId
  obtain rfl := canonicalIdentifier_ok hrequestId
  obtain rfl := requireRoomSelection_returns hselected
  obtain ⟨rfl, rfl⟩ := findCommand_returns hprior
  split at h
  · next prior hprior =>
      exact ⟨[], .inl ⟨by rw [Db.recorded, hprior]; simp, answerAgain_returns h⟩⟩
  · exact ⟨_, roomControlNew_returns h⟩

/-- What a persona control can answer, and change. -/
def PersonaControlEffect (kind : PersonaControl) (key : CommandKey) (personaId : ParticipantId)
    (requestDigest : JsString) (db db' : Db) (answer : ControlAnswer) : Prop :=
  (db.recorded key ≠ none ∧ db' = db ∧ answer.abort = false) ∨
    ∃ result : PersonaControlResult, PersonaControlled key requestDigest result db db' ∧
      db.ClaimsKept db' ∧ result.kind = kind ∧ result.personaId = personaId ∧
      answer = ⟨result.changed && result.muted, .personaControl result⟩

theorem changeMuted_returns {roomId : RoomId} {personaId : ParticipantId} {muted : Bool}
    {db db' : Db} {u : Unit} (h : (changeMuted roomId personaId muted).Returns db u db') :
    ((db.setMuted roomId personaId muted).updateRoom roomId fun row => { row with
      generation := row.generation + if muted then 1 else 0 }).Quiet db' ∧ db.ClaimsKept db' := by
  simp only [changeMuted, Program.returns_bind, Program.returns_write, Program.returns_onlyIf] at h
  obtain ⟨_, _, rfl, ⟨rfl, _, _, rfl, h⟩ | ⟨rfl, rfl⟩⟩ := h
  · exact releaseRoomClaims_returns h
  · refine ⟨⟨⟨?_, rfl, rfl, rfl⟩, fun _ => rfl⟩, fun _ => .inl rfl⟩
    simp only [Db.updateRoom, Db.setMuted]
    refine (KeyedTable.modify_self fun k row _ => ?_).symm
    simp

theorem setMuted_of_muted {roomId : RoomId} {personaId : ParticipantId} {persona : ParticipantRow}
    {db : Db} (hpersona : db.participants.lookup personaId = some persona) :
    db.setMuted roomId personaId persona.muted = db := by
  have htable : (db.setMuted roomId personaId persona.muted).participants = db.participants := by
    simp only [Db.setMuted]
    refine KeyedTable.modify_self fun k row hrow => ?_
    split
    · next hk =>
        rw [hk.1, hpersona, Option.some.injEq] at hrow
        rw [← hrow]
    · rfl
  calc db.setMuted roomId personaId persona.muted
      = { db with participants := (db.setMuted roomId personaId persona.muted).participants } := rfl
    _ = db := by rw [htable]

theorem personaControlNew_returns {kind : PersonaControl} {roomId : RoomId} {requestId : RequestId}
    {personaId : ParticipantId} {requestDigest : JsString} {db db' : Db} {answer : ControlAnswer}
    (h : (personaControlNew kind roomId requestId personaId requestDigest).Returns db answer db') :
    PersonaControlEffect kind (roomId, requestId) personaId requestDigest db db' answer := by
  simp only [personaControlNew, Program.returns_bind, Program.returns_require,
    Program.returns_query, Program.returns_orThrow, Program.returns_onlyIf,
    Program.returns_statement, Program.returns_pure] at h
  obtain ⟨room₀, _, hroom, _, _, ⟨hallowed, rfl⟩, _, _, ⟨rfl, rfl⟩, persona, db, ⟨hpersona, rfl⟩, _,
    db₁, hchange, updated, db₂, hupdated, _, db₃, hins, rfl, rfl⟩ := h
  obtain ⟨hroom, rfl⟩ := room_returns hroom
  obtain ⟨hupdated, rfl⟩ := room_returns hupdated
  obtain ⟨hpersona, hin⟩ := Option.filter_eq_some_iff.mp hpersona
  obtain ⟨hroomId, hkind⟩ : persona.roomId = roomId ∧ persona.kind = .persona := by simpa using hin
  refine .inr ⟨{ kind, requestId, personaId, muted := kind = .mute,
                 generation := updated.generation,
                 changed := persona.muted ≠ (kind = .mute : Bool) },
    ?_, ?_, rfl, rfl, rfl⟩
  all_goals
    rcases hchange with ⟨hchanged, hchange⟩ | ⟨hchanged, rfl⟩
  · obtain ⟨hquiet, hclaims⟩ := changeMuted_returns hchange
    obtain ⟨hlogs, hnew, hrecord, -⟩ := insertResult_ok hins hquiet.recorded hclaims
    refine ⟨hnew, ⟨room₀, hroom, hallowed⟩, ⟨persona, hpersona, hroomId, hkind, by simp⟩, by simp,
      ?_, hlogs.participants.trans hquiet.participants, hlogs.events.trans hquiet.events,
      hlogs.directorState.trans hquiet.directorState, hrecord⟩
    intro id
    rw [hlogs.rooms, hquiet.rooms]
    refine (roomUpdated_updateRoom _ _ (db.setMuted _ _ _) id).trans ?_
    simp only [hchanged, Bool.true_and]
    rfl
  · obtain ⟨hlogs, hnew, hrecord, -⟩ := insertResult_ok hins (fun _ => rfl) (.refl _)
    have hmuted : persona.muted = (kind = .mute : Bool) := by simpa using hchanged
    refine ⟨hnew, ⟨room₀, hroom, hallowed⟩, ⟨persona, hpersona, hroomId, hkind, by simp⟩, by simp,
      ?_, ?_, hlogs.events, hlogs.directorState, hrecord⟩
    · intro id
      rw [hlogs.rooms]
      exact roomUpdated_self hroom (by simp [hchanged]) id
    · rw [hlogs.participants, ← hmuted, setMuted_of_muted hpersona]
  · obtain ⟨hquiet, hclaims⟩ := changeMuted_returns hchange
    exact (insertResult_ok hins hquiet.recorded hclaims).2.2.2
  · exact (insertResult_ok hins (fun _ => rfl) (.refl _)).2.2.2

/-- **Muting and unmuting.** -/
theorem personaControl_returns {host : Host} {kind : PersonaControl}
    {command : PersonaControlCommand} {db db' : Db} {answer : ControlAnswer}
    (h : (personaControl host kind command).Returns db answer db') :
    ∃ requestDigest, PersonaControlEffect kind (command.roomId, command.requestId)
      command.personaId requestDigest db db' answer := by
  simp only [personaControl, Program.returns_bind, Program.returns_ofExcept] at h
  obtain ⟨roomId, _, ⟨hroomId, rfl⟩, requestId, _, ⟨hrequestId, rfl⟩, revision, _, ⟨-, rfl⟩,
    personaId, _, ⟨hpersonaId, rfl⟩, _, db₁, hselected, prior, db, hprior, h⟩ := h
  obtain rfl := canonicalIdentifier_ok hroomId
  obtain rfl := canonicalIdentifier_ok hrequestId
  obtain rfl := canonicalIdentifier_ok hpersonaId
  obtain rfl := requireRoomSelection_returns hselected
  obtain ⟨rfl, rfl⟩ := findCommand_returns hprior
  split at h
  · next prior hprior =>
      exact ⟨[], .inl ⟨by rw [Db.recorded, hprior]; simp, answerAgain_returns h⟩⟩
  · exact ⟨_, personaControlNew_returns h⟩

/-- **Replacing the cast.** -/
theorem replaceCast_returns {host : Host} {uuids : ℕ → JsString}
    {options : ServiceOptions} {command : ReplaceCastCommand} {db db' : Db}
    {result : CastReplacementResult}
    (h : (replaceCast host uuids options command).Returns db result db') :
    db' = db ∨ ∃ sessionId, db.Opened sessionId db' := by
  simp only [replaceCast, Program.returns_bind, Program.returns_ofExcept] at h
  obtain ⟨_, _, ⟨-, rfl⟩, h⟩ := h
  exact replaceCurrentRoomCast_returns h

end Runtime

end GreenRoom
