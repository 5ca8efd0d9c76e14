import GreenRoom.Db.DecisionCommit
import GreenRoom.Runtime.Frames
import GreenRoom.Runtime.Requests

/-!
# Pinned provider decisions

What pinning a decision and completing a message do to the decisions commands are
pinned to and to the snapshots of the provider tables, and the invariant that ties
the executions to both.

## Main definitions

* `PinnedTo` — a decision a command may be pinned to.
* `OutcomeCommitted` — a message has been completed, with its snapshot.
* `Phase.decided` — the decision an execution calls the provider under.
* `PinEffect` — what a step does to pins and snapshots.
* `Pins` — the invariant.

## Main results

* `pinProviderDecision_pins`, `completeMessage_outcome`
* `Step.decided`, `Step.pinEffect`, `pins_inductive`
-/

namespace GreenRoom.Runtime

open JsString GreenRoom.Core Providers

/-- The room has a binding. -/
def Bound (tables : ProviderTables) (roomId : RoomId) : Prop :=
  ∃ id n binding, tables.roomBindingRevisions.lookup (id, n) = some binding ∧
    binding.roomId = roomId ∧ binding.purpose = .personaDefault

theorem Bound.grown {tables tables' : ProviderTables} {roomId : RoomId} (h : Bound tables roomId)
    (hgrown : tables.Grown tables') : Bound tables' roomId := by
  obtain ⟨id, n, binding, hrow, hroom⟩ := h
  exact ⟨id, n, binding, hgrown.bindings _ _ hrow, hroom⟩

section

variable (host : Host)

/-- The text the name of a decision is a hash of. -/
def decisionText (roomId : RoomId) (requestId : RequestId) (binding : RoomBinding) : JsString :=
  canonicalJson (.obj [(ofString "roomId", .str roomId), (ofString "requestId", .str requestId),
    (ofString "bindingId", .str binding.id), (ofString "bindingRevision", .num binding.revision)])

def decisionId (roomId : RoomId) (requestId : RequestId) (binding : RoomBinding) : JsString :=
  ofString "decision-" ++ (host.sha256 (decisionText roomId requestId binding)).take 64

/-- A decision a command may be pinned to: it is what its room has resolved to once, under
the name its command and its binding give it. -/
structure PinnedTo (tables : ProviderTables) (key : CommandKey) (snapshot : DecisionSnapshot) :
    Prop where
  parsed : Parse.parseDecisionSnapshot host.normalize (.ofJson snapshot.toJson) = .ok snapshot
  room : snapshot.binding.roomId = key.1
  backed : Backed tables snapshot
  name : snapshot.id = decisionId host key.1 key.2 snapshot.binding

end

variable {host : Host}

theorem PinnedTo.grown {tables tables' : ProviderTables} {key : CommandKey}
    {snapshot : DecisionSnapshot} (h : PinnedTo host tables key snapshot)
    (hgrown : tables.Grown tables') : PinnedTo host tables' key snapshot :=
  ⟨h.parsed, h.room, h.backed.grown hgrown, h.name⟩

/-- What a room resolves to may be pinned. -/
theorem pinnedTo_of_resolves {tables : ProviderTables} (hkeyed : tables.Keyed)
    {evidence : ProviderDecisionEvidence} {roomId : RoomId} {requestId : RequestId}
    {d : ResolvedRoomProviderDecision} (hd : Resolves tables roomId .personaDefault d)
    (hparse : Parse.parseDecisionSnapshot host.normalize
      (.ofJson (pinnedDecision host evidence roomId requestId d).toJson) =
        .ok (pinnedDecision host evidence roomId requestId d)) :
    PinnedTo host tables (roomId, requestId)
      (pinnedDecision host evidence roomId requestId d) := by
  obtain ⟨hbinding, hmodel, profile, hconnection, hprofile⟩ := hd.found hkeyed
  obtain ⟨_, _, _, hroom, -⟩ := RevisionTable.of_newest hd.binding
  simp only [Bool.and_eq_true, decide_eq_true_eq] at hroom
  exact ⟨hparse, hroom.1, ⟨hbinding, ⟨_, hmodel⟩, ⟨_, hconnection, hprofile⟩, rfl⟩, rfl⟩

/-! ## Pinning -/

/-- What pinning does, when it returns. -/
inductive PinAnswered (host : Host) (key : CommandKey) (db db' : Db) :
    Option DecisionSnapshot → Prop
  /-- The command has been pinned before. -/
  | again (snapshot : DecisionSnapshot) : db.pinned key = some snapshot → db' = db →
      PinAnswered host key db db' (some snapshot)
  | unbound (message : PendingMessage) : ¬ Bound db.providers key.1 →
      db.stored key = some (.pending message) → message.providerDecision = none → db' = db →
      PinAnswered host key db db' none
  | pinned (message : PendingMessage) (evidence : ProviderDecisionEvidence)
      (d : ResolvedRoomProviderDecision) :
      db.stored key = some (.pending message) → message.providerDecision = none →
      Resolves db.providers key.1 .personaDefault d →
      Parse.parseDecisionSnapshot host.normalize
          (.ofJson (pinnedDecision host evidence key.1 key.2 d).toJson) =
        .ok (pinnedDecision host evidence key.1 key.2 d) →
      db'.providers = db.providers → db.SelectionKept db' →
      (∀ k, db'.stored k = if k = key then some (.pending { message with
        providerDecision := some (pinnedDecision host evidence key.1 key.2 d) })
        else db.stored k) →
      PinAnswered host key db db' (some (pinnedDecision host evidence key.1 key.2 d))

theorem pinProviderDecision_pins {options : ServiceOptions} {key : CommandKey}
    {claimOwner : JsString} {db db' : Db} {answer : Option DecisionSnapshot}
    (h : (pinProviderDecision host options key.1 key.2 claimOwner).Returns db answer db') :
    PinAnswered host key db db' answer := by
  simp only [pinProviderDecision, Program.returns_bind, Program.returns_orThrow] at h
  obtain ⟨_, _, hfind, row, db, ⟨hrow, rfl⟩, h⟩ := h
  obtain ⟨rfl, rfl⟩ := findCommand_returns hfind
  obtain ⟨hfound, howner⟩ := Option.filter_eq_some_iff.mp hrow
  split at h
  · exact absurd h Program.returns_throw
  · next message hmessage =>
      have hstored : db.stored key = some (.pending message) := by
        rw [Db.stored, hfound, Option.map_some, hmessage]
      split at h
      · next snapshot hsnapshot =>
          simp only [Program.returns_bind, Program.returns_ofExcept, Program.returns_pure] at h
          obtain ⟨parsed, _, ⟨hparse, rfl⟩, rfl, rfl⟩ := h
          obtain rfl := Parse.parseDecisionSnapshot_reads hparse
          refine .again parsed ?_ rfl
          rw [Db.pinned, hstored]
          exact hsnapshot
      · next hpin =>
          simp only [Program.returns_bind] at h
          obtain ⟨_, db₁, hbinding, h⟩ := h
          obtain ⟨rfl, rfl⟩ := Program.returns_query.mp hbinding
          split at h
          · next hnone =>
              obtain ⟨rfl, rfl⟩ := Program.returns_pure.mp h
              refine .unbound message ?_ hstored hpin rfl
              rintro ⟨id, n, binding, hrow, hroom, hpurpose⟩
              have := RevisionTable.newest_eq_none.mp hnone id n binding hrow
              simp [hroom, hpurpose] at this
          · simp only [Program.returns_bind, Program.returns_orThrow, Program.returns_ofExcept,
              Program.returns_statement, Program.returns_pure] at h
            obtain ⟨evidence, _, ⟨-, rfl⟩, d, db₂, hresolve, snapshot, _, ⟨hparse, rfl⟩, n, db₃,
              hupdate, rfl, rfl⟩ := h
            have hresolves := resolveRoomProviderDecision_returns hresolve
            obtain rfl := (resolveRoomProviderDecision_readOnly _ _).returns hresolve
            obtain rfl := Parse.parseDecisionSnapshot_reads hparse
            have hframe := Db.updateCommands_frame hupdate
            refine .pinned message evidence d hstored hpin hresolves hparse (by rw [hframe])
              (Db.updateCommands_selectionKept hupdate) fun k => ?_
            rw [Db.stored, Db.updateCommands_lookup hupdate k]
            by_cases hk : k = key
            · subst hk
              have howner' : row.claimOwner = some claimOwner := by simpa using howner
              rw [hfound]
              simp [howner']
            · rw [if_neg hk, Db.stored, Option.map_map]
              congr 1
              funext row'
              simp [hk]

/-- A pending command without a decision is pinned to what its room resolves to. -/
theorem pinProviderDecision_runs {options : ServiceOptions} {key : CommandKey}
    {claimOwner : JsString} {db db' : Db} {row : CommandRow} {message : PendingMessage}
    {evidence : ProviderDecisionEvidence} {d : ResolvedRoomProviderDecision} {updated : ℕ}
    (hrow : db.commands.lookup key = some row) (howner : row.claimOwner = some claimOwner)
    (hmessage : row.result = .pending message) (hunpinned : message.providerDecision = none)
    (hevidence : options.providerDecisionEvidence = some evidence)
    (hresolves : Resolves db.providers key.1 .personaDefault d)
    (hparse : Parse.parseDecisionSnapshot host.normalize
      (.ofJson (pinnedDecision host evidence key.1 key.2 d).toJson) =
        .ok (pinnedDecision host evidence key.1 key.2 d))
    (hupdate : Db.updateCommands
      (fun k row => k = (key.1, key.2) && row.claimOwner = some claimOwner)
      (fun row => { row with result := .pending { message with
        providerDecision := some (pinnedDecision host evidence key.1 key.2 d) } }) db =
        .ok (updated, db')) :
    (pinProviderDecision host options key.1 key.2 claimOwner).Runs db
      (some (pinnedDecision host evidence key.1 key.2 d)) db' := by
  have hclaimed : (db.commands.lookup key).filter
      (fun row => row.claimOwner = some claimOwner) = some row := by
    rw [hrow]
    simp [howner]
  refine .bind (.query _ _) (.bind (.orThrow hclaimed) ?_)
  simp only [hmessage, hunpinned]
  refine .bind (.query _ _) ?_
  rw [hresolves.binding]
  refine .bind (.orThrow hevidence) (.bind (resolveRoomProviderDecision_runs hresolves) ?_)
  exact .bind (.ofExcept hparse) (.bind (.statement hupdate) (.pure _ _))

/-! ## Completing -/

/-- The record a reply under `snapshot` is committed with. -/
def snapshotRecord (key : CommandKey) (snapshot : DecisionSnapshot) : DecisionSnapshotRecord where
  roomId := key.1
  requestId := key.2
  snapshot
  providerDefinition := requiredEvidence snapshot.connection.target

/-- What goes into the provider tables with a text or a silence. -/
def SnapshotOf (key : CommandKey) (tables tables' : ProviderTables) :
    Option DecisionSnapshot → Prop
  | none => tables' = tables
  | some snapshot => Recorded (snapshotRecord key snapshot) tables tables'

/-- A pending message has been completed.  A stale outcome leaves the log and the provider
tables alone; a text or a silence comes with the snapshot of its decision. -/
structure OutcomeCommitted (key : CommandKey) (generated : GeneratedMessage)
    (result : SendMessageResult) (db db' : Db) : Prop where
  was : ∃ message, db.stored key = some (.pending message)
  now : ∀ k, db'.stored k =
    if k = key then some (.complete (.message result)) else db.stored k
  outcome : (result.outcome = .stale ∧ db'.providers = db.providers ∧ db'.events = db.events) ∨
    ((result.outcome = .text ∨ result.outcome = .silence) ∧ generated.providerResult.isSome ∧
      SnapshotOf key db.providers db'.providers generated.providerDecision)
  selection : db.SelectionKept db'

theorem commitDecision_snapshot {key : CommandKey} {generated : GeneratedMessage} {db db' : Db}
    {u : Unit} (hresult : generated.providerResult ≠ none)
    (h : (commitDecision host key.1 key.2 false generated).Returns db u db') :
    SnapshotOf key db.providers db'.providers generated.providerDecision ∧
      db' = { db with providers := db'.providers } := by
  obtain ⟨providerResult, providerDecision⟩ := generated
  cases providerDecision with
  | none =>
      obtain ⟨-, rfl⟩ := Program.returns_pure.mp (by
        cases providerResult <;> exact h : (pure () : DbProgram Unit).Returns db u db')
      exact ⟨rfl, rfl⟩
  | some snapshot =>
      cases providerResult with
      | none => exact absurd rfl hresult
      | some result =>
          obtain ⟨record, db₁, hcommit, hpure⟩ := Program.returns_bind.mp h
          obtain ⟨-, rfl⟩ := Program.returns_pure.mp hpure
          obtain ⟨hvalid, -, hrecorded, hframe⟩ :=
            commitDecisionSnapshotInTransaction_recorded hcommit
          obtain rfl : record = snapshotRecord key snapshot := validatedRecord_toInput hvalid
          exact ⟨hrecorded, hframe⟩

/-- A commit of nothing. -/
theorem commitDecision_nothing {key : CommandKey} {generated : GeneratedMessage} {stale : Bool}
    {db db' : Db} {u : Unit} (hnothing : stale = true ∨ generated.providerResult = none)
    (h : (commitDecision host key.1 key.2 stale generated).Returns db u db') : db' = db := by
  obtain ⟨providerResult, providerDecision⟩ := generated
  rcases hnothing with rfl | rfl
  · exact (Program.returns_pure.mp h).2
  · cases stale <;> exact (Program.returns_pure.mp h).2

/-- A reply is a text that is appended, or a silence; or there is none. -/
theorem appendReply_cases {roomId : RoomId} {pending : PendingMessage} {speaker : ParticipantId}
    {stale : Bool} {providerResult : Option ProviderResult} {db db' : Db} {sequence : Option ℕ}
    {outcome : MessageOutcome}
    (h : (appendReply roomId pending speaker stale providerResult).Returns db (sequence, outcome)
      db') :
      (stale = false ∧ ∃ text, providerResult = some (.text text) ∧ ∃ n, db' =
        db.appended roomId n (.personaMessage speaker pending.humanEventSequence text) ∧
        outcome = .text) ∨
      (stale = false ∧ providerResult = some .silence ∧ outcome = .silence ∧ db' = db) ∨
      ((stale = true ∨ providerResult = none) ∧ outcome = .stale ∧ db' = db) := by
  rcases stale with - | - <;> rcases providerResult with - | - | text
  · obtain ⟨houtcome, rfl⟩ := Program.returns_pure.mp h
    exact .inr (.inr ⟨.inr rfl, (Prod.mk.inj houtcome).2, rfl⟩)
  · obtain ⟨houtcome, rfl⟩ := Program.returns_pure.mp h
    exact .inr (.inl ⟨rfl, rfl, (Prod.mk.inj houtcome).2, rfl⟩)
  · obtain ⟨n, db₁, happend, hpure⟩ := Program.returns_bind.mp h
    obtain ⟨houtcome, rfl⟩ := Program.returns_pure.mp hpure
    obtain ⟨room, -, -, -, -, rfl⟩ := appendEventInTransaction_returns happend
    exact .inl ⟨rfl, text, rfl, n, rfl, (Prod.mk.inj houtcome).2⟩
  all_goals
    obtain ⟨houtcome, rfl⟩ := Program.returns_pure.mp h
    exact .inr (.inr ⟨.inl rfl, (Prod.mk.inj houtcome).2, rfl⟩)

theorem appendReply_kept (roomId : RoomId) (pending : PendingMessage) (speaker : ParticipantId)
    (stale : Bool) (providerResult : Option ProviderResult) :
    (appendReply roomId pending speaker stale providerResult).Keeps Db.Kept := by
  unfold appendReply
  split
  · exact kept_bind (appendEventInTransaction_kept _ _) fun _ => kept_pure _
  · exact kept_pure _
  · exact kept_pure _

/-- The update that completes a claimed command changes its result. -/
theorem stored_of_complete {key : CommandKey} {row : CommandRow} {claimOwner : JsString}
    {result : CommandResult} {db db' : Db} {n : ℕ} (hrow : db.commands.lookup key = some row)
    (howner : row.claimOwner = some claimOwner)
    (h : Db.updateCommands (fun k row => k = key && row.claimOwner = some claimOwner)
      (fun row =>
        { row with result := .complete result, claimOwner := none, claimExpiresAt := none })
      db = .ok (n, db')) (k : CommandKey) :
    db'.stored k = if k = key then some (.complete result) else db.stored k := by
  rw [Db.stored, Db.updateCommands_lookup h k]
  by_cases hk : k = key
  · subst hk
    rw [hrow]
    simp [howner]
  · rw [if_neg hk, Db.stored, Option.map_map]
    congr 1
    funext row'
    simp [hk]

theorem completeClaimed_outcome {key : CommandKey} {pending message : PendingMessage}
    {generated : GeneratedMessage} {claimOwner : JsString} {row : CommandRow} {db db' : Db}
    {result : CommandResult} (hrow : db.commands.lookup key = some row)
    (howner : row.claimOwner = some claimOwner) (hmessage : row.result = .pending message)
    (h : (completeClaimed host key.1 key.2 pending generated claimOwner).Returns db result db') :
    ∃ sent, result = .message sent ∧ OutcomeCommitted key generated sent db db' := by
  simp only [completeClaimed, Program.returns_bind, Program.returns_orThrow,
    Program.returns_statement, Program.returns_pure] at h
  obtain ⟨speaker, _, ⟨hspeaker, rfl⟩, stale, db, hstale, ⟨sequence, outcome⟩, db₁, hreply, _, db₂,
    hcommit, n, db', hupdate, rfl, rfl⟩ := h
  obtain ⟨rfl, -⟩ := generatedIsStale_returns hstale
  have hwas : ∃ message, db.stored key = some (.pending message) :=
    ⟨message, by rw [Db.stored, hrow, Option.map_some, hmessage]⟩
  have hframe := Db.updateCommands_frame hupdate
  have hselection := Db.updateCommands_selectionKept hupdate
  refine ⟨_, rfl, ?_⟩
  -- What the row is when it is completed, for each of the cases.
  have hnow : db₂.commands = db.commands → ∀ k, db'.stored k = _ := fun hcommands k =>
    stored_of_complete (by rw [hcommands]; exact hrow) howner hupdate k
  rcases appendReply_cases hreply with ⟨rfl, text, htext, _, hroom, rfl⟩ |
    ⟨rfl, hsilence, rfl, rfl⟩ | ⟨hnothing, rfl, rfl⟩
  · obtain ⟨hsnapshot, hcommitted⟩ := commitDecision_snapshot (by rw [htext]; simp) hcommit
    have hcommands : db₂.commands = db.commands := by rw [hcommitted, hroom]; rfl
    refine ⟨hwas, fun k => ?_, .inr ⟨.inl rfl, by rw [htext]; rfl, ?_⟩, ?_⟩
    · rw [hnow hcommands k, Db.stored, hcommands]
      rfl
    · rw [hframe]
      rw [hroom] at hsnapshot
      exact hsnapshot
    · refine ((appendReply_kept _ _ _ _ _ _ _ _ hreply).toSelectionKept.trans ?_).trans hselection
      rw [hcommitted]
      exact ⟨rfl, rfl, rfl, .of_rooms rfl⟩
  · obtain ⟨hsnapshot, hcommitted⟩ := commitDecision_snapshot (by rw [hsilence]; simp) hcommit
    have hcommands : db₂.commands = db₁.commands := by rw [hcommitted]
    refine ⟨hwas, fun k => ?_, .inr ⟨.inr rfl, by rw [hsilence]; rfl, ?_⟩, ?_⟩
    · rw [hnow hcommands k, Db.stored, hcommands]
      rfl
    · rw [hframe]
      exact hsnapshot
    · refine Db.SelectionKept.trans ?_ hselection
      rw [hcommitted]
      exact ⟨rfl, rfl, rfl, .of_rooms rfl⟩
  · obtain rfl := commitDecision_nothing hnothing hcommit
    refine ⟨hwas, hnow rfl, .inl ⟨rfl, ?_, ?_⟩, hselection⟩
    · rw [hframe]
    · rw [hframe]

/-- **Completing a message** changes nothing, or commits an outcome. -/
theorem completeMessage_outcome {key : CommandKey} {pending : PendingMessage}
    {generated : GeneratedMessage} {claimOwner : JsString} {clock : ℤ} {db db' : Db}
    {answer : Option CommandResult}
    (h : (completeMessage host key.1 key.2 pending generated claimOwner clock).Returns db
      answer db') :
    db' = db ∨ ∃ sent, answer = some (.message sent) ∧
      OutcomeCommitted key generated sent db db' := by
  simp only [completeMessage, Program.returns_bind, Program.returns_orThrow] at h
  obtain ⟨_, _, hfind, row, db, ⟨hrow, rfl⟩, h⟩ := h
  obtain ⟨rfl, rfl⟩ := findCommand_returns hfind
  split at h
  · exact .inl (Program.returns_pure.mp h).2
  · next message hmessage =>
      split at h
      · exact .inl (Program.returns_pure.mp h).2
      · next expiresAt hexpires =>
          split at h
          · exact .inl (Program.returns_pure.mp h).2
          · next howner =>
              rw [not_not] at howner
              simp only [Program.returns_bind] at h
              obtain ⟨now, db, htime, h⟩ := h
              obtain ⟨hnow, rfl⟩ := currentTime_returns htime
              split at h
              · exact .inl (Program.returns_pure.mp h).2
              · simp only [Program.returns_bind, Program.returns_pure] at h
                obtain ⟨result, db', hcomplete, rfl, rfl⟩ := h
                obtain ⟨sent, rfl, hcommitted⟩ :=
                  completeClaimed_outcome hrow howner hmessage hcomplete
                exact .inr ⟨sent, rfl, hcommitted⟩

/-! ## What a step does -/

/-- The decision, if any, that the provider is called under, or that its result has been
made under; `none` when no decision has been taken, or there is no result. -/
def Phase.decided : Phase → Option (Option DecisionSnapshot)
  | .generating _ (.confirming snapshot) => some (some snapshot)
  | .generating _ (.starting decision) | .generating _ (.racing decision _) => some decision
  | .completing _ generated _ => generated.providerResult.map fun _ => generated.providerDecision
  | _ => none

theorem Move.decided {db : Db} {works : KeyedTable ℕ Work} {closed : Bool} {e e' : Execution}
    {decision : Option DecisionSnapshot} (h : Move db works closed e e')
    (hdecided : e'.phase.decided = some decision) : e.phase.decided = some decision := by
  cases h with
  | confirmed pending snapshot hphase =>
      rw [hphase]
      exact hdecided
  | delivered pending d work w value result hphase _ _ _ _ _ =>
      rw [hphase]
      exact hdecided
  | maintenanceFails error _ _ _ _ => exact hdecided
  | _ => cases hdecided

section

variable (host) in
/-- Where the decision of an execution comes from. -/
def DecidedFrom (s t : System) (token : Token) (e' : Execution)
    (decision : Option DecisionSnapshot) : Prop :=
  (∃ e, s.executions.lookup token = some e ∧ e.key = e'.key ∧ e.phase.decided = some decision) ∨
    PinAnswered host e'.key s.db t.db decision

theorem DecidedFrom.of_eq {s t : System} (h : t.executions = s.executions) {token : Token}
    {e' : Execution} {decision : Option DecisionSnapshot}
    (he' : t.executions.lookup token = some e') (hdecided : e'.phase.decided = some decision) :
    DecidedFrom host s t token e' decision :=
  .inl ⟨e', h ▸ he', rfl, hdecided⟩

theorem DecidedFrom.of_insert {s t : System} {token : Token} {e₁ : Execution}
    (h : t.executions = s.executions.insert token e₁)
    (h₁ : ∀ decision, e₁.phase.decided = some decision →
      DecidedFrom host s t token e₁ decision) {token' : Token} {e' : Execution}
    {decision : Option DecisionSnapshot} (he' : t.executions.lookup token' = some e')
    (hdecided : e'.phase.decided = some decision) :
    DecidedFrom host s t token' e' decision := by
  rw [h, KeyedTable.lookup_insert] at he'
  split at he'
  · next htoken =>
      subst htoken
      obtain rfl := Option.some.inj he'
      exact h₁ decision hdecided
  · exact .inl ⟨e', he', rfl, hdecided⟩

theorem DecidedFrom.of_updateExecutions {s t s₀ : System} {id : ServiceId}
    {f : Execution → Execution} (h : t.executions = (s₀.updateExecutions id f).executions)
    (hs₀ : s₀.executions = s.executions)
    (hf : ∀ e, (f e).key = e.key ∧
      ∀ decision, (f e).phase.decided = some decision → e.phase.decided = some decision)
    {token : Token} {e' : Execution} {decision : Option DecisionSnapshot}
    (he' : t.executions.lookup token = some e') (hdecided : e'.phase.decided = some decision) :
    DecidedFrom host s t token e' decision := by
  rw [h, System.updateExecutions, hs₀, KeyedTable.lookup_modify] at he'
  obtain ⟨e, he, rfl⟩ := Option.map_eq_some_iff.mp he'
  refine .inl ⟨e, he, ?_, ?_⟩
  · split
    · exact (hf e).1.symm
    · rfl
  · split at hdecided
    · exact (hf e).2 decision hdecided
    · exact hdecided

/-- **A decision is taken by pinning**, and by nothing else. -/
theorem Step.decided {s t : System} {l : Label} (h : Step host s l t) {token : Token}
    {e' : Execution} {decision : Option DecisionSnapshot}
    (he' : t.executions.lookup token = some e') (hdecided : e'.phase.decided = some decision) :
    DecidedFrom host s t token e' decision := by
  cases h with
  | call id service raw command token₁ _ _ _ _ _ =>
      exact .of_insert rfl (fun _ h => by cases h) he' hdecided
  | move token₁ e e₁ service he _ hmove =>
      refine .of_insert rfl (fun d hd => ?_) he' hdecided
      have hkey := (@Move.advance s s _ token₁ _ _ hmove).1.key
      exact .inl ⟨e, he, hkey.symm, hmove.decided hd⟩
  | startWork token₁ e pending d speaker personaId work grant he hphase _ _ _ _ =>
      refine @DecidedFrom.of_insert _ s _ _ (e.enter pending (.racing d work)) rfl
        (fun d' hd => .inl ⟨e, he, rfl, ?_⟩) _ _ _ he' hdecided
      rw [hphase]
      exact hd
  | prepare token₁ e service faults clock answer db' he _ _ _ ht =>
      obtain ⟨grants, granted, hgrant⟩ :=
        System.grantIfClaimed_frame e.key token₁ answer (s.commit (some e.key) db')
      refine .of_insert (by rw [hgrant]; rfl) (fun d hd => ?_) he' hdecided
      rcases answer with error | (result | pending | ⟨observedUntil, pending⟩) <;> cases hd
  | pin token₁ e service pending faults answer db' he _ hphase ht =>
      refine .of_insert rfl (fun d hd => .inr ?_) he' hdecided
      rcases answer with error | (- | snapshot)
      · cases hd
      · obtain rfl := Option.some.inj hd
        exact @pinProviderDecision_pins _ _ e.key _ _ _ _ (returns_of_transact ht)
      · obtain rfl := Option.some.inj hd
        exact @pinProviderDecision_pins _ _ e.key _ _ _ _ (returns_of_transact ht)
  | renew token₁ e service faults clock answer db' he _ _ _ _ _ ht =>
      refine .of_insert rfl (fun d hd => .inl ⟨e, he, ?_⟩) he' hdecided
      rcases answer with error | renewed
      · exact ⟨rfl, hd⟩
      · unfold Execution.afterRenew at hd ⊢
        dsimp only at hd ⊢
        split at hd
        · next hone =>
            rw [if_pos hone]
            exact ⟨rfl, hd⟩
        · next hone =>
            rw [if_neg hone]
            exact ⟨rfl, hd⟩
  | discard token₁ e pending error faults answer db' he hphase ht =>
      exact .of_insert rfl (fun _ h => by cases h) he' hdecided
  | release token₁ e pending error faults answer db' he hphase ht =>
      exact .of_insert rfl (fun _ h => by cases h) he' hdecided
  | complete token₁ e service pending generated work faults clock answer db' he _ _ hphase ht =>
      refine .of_insert rfl (fun d hd => ?_) he' hdecided
      rcases answer with error | (- | result) <;> cases hd
  | roomControl id service kind command faults answer db' _ _ ht =>
      refine .of_updateExecutions (s := s)
        (t := (s.commit (some (command.roomId, command.requestId)) db').abortIf id command.roomId
          answer) rfl rfl (fun e => ?_) he' hdecided
      split <;> exact ⟨rfl, fun _ h => h⟩
  | personaControl id service kind command faults answer db' _ _ ht =>
      refine .of_updateExecutions (s := s)
        (t := (s.commit (some (command.roomId, command.requestId)) db').abortIf id command.roomId
          answer) rfl rfl (fun e => ?_) he' hdecided
      split <;> exact ⟨rfl, fun _ h => h⟩
  | close id service _ =>
      refine .of_updateExecutions (s := s) rfl rfl (fun e => ?_) he' hdecided
      split <;> exact ⟨rfl, fun _ h => h⟩
  | crash id =>
      refine .of_updateExecutions (s := s) rfl rfl (fun e => ?_) he' hdecided
      split
      · exact ⟨rfl, fun _ h => h⟩
      · exact ⟨rfl, fun _ h => by cases h⟩
  | _ => exact .of_eq (by rfl) he' hdecided

variable (host) in
/-- What a step does to the provider tables, to results and to pins. -/
inductive PinEffect (s t : System) : Prop
  | kept : s.db.PinsKept t.db → PinEffect s t
  | changed : ProviderStep s.db t.db → PinEffect s t
  | pinned (key : CommandKey) (answer : Option DecisionSnapshot) :
      PinAnswered host key s.db t.db answer → PinEffect s t
  | completed (token : Token) (e : Execution) (pending : PendingMessage)
      (generated : GeneratedMessage) (work : Option ℕ) (sent : SendMessageResult) :
      s.executions.lookup token = some e → e.phase = .completing pending generated work →
      OutcomeCommitted e.key generated sent s.db t.db → PinEffect s t

/-- A transaction keeps pins if what it does when it returns does. -/
theorem pinsKept_of_transact {α : Type} {action : DbProgram α} {faults : Faults JsError}
    {db db' : Db} {answer : Except JsError α} (h : transact faults action db = (answer, db'))
    (hkeeps : action.Keeps Db.PinsKept) : db.PinsKept db' := by
  cases answer with
  | error error =>
      rw [transact_error h]
      exact .refl db
  | ok a => exact hkeeps _ _ _ (returns_of_transact h)

theorem kept_of_transact {α : Type} {action : DbProgram α} {faults : Faults JsError}
    {db db' : Db} {answer : Except JsError α} (h : transact faults action db = (answer, db'))
    (hkeeps : action.Keeps Db.Kept) : db.PinsKept db' :=
  pinsKept_of_transact h (hkeeps.mono fun _ _ h => h.toPinsKept)

theorem Step.pinEffect {s t : System} {l : Label} (h : Step host s l t) :
    PinEffect host s t := by
  cases h with
  | prepare token e service faults clock answer db' _ _ _ _ ht =>
      obtain ⟨grants, granted, hgrant⟩ :=
        System.grantIfClaimed_frame e.key token answer (s.commit (some e.key) db')
      rw [hgrant]
      exact .kept (kept_of_transact ht (prepareMessage_kept _ _ _ _ _))
  | pin token e service pending faults answer db' _ _ _ ht =>
      cases answer with
      | error error => exact .kept (.of_eq (by rw [← transact_error ht]; rfl)
          (by rw [← transact_error ht]; rfl))
      | ok answer =>
          exact .pinned e.key answer (pinProviderDecision_pins (returns_of_transact ht))
  | renew token e service faults clock answer db' _ _ _ _ _ _ ht =>
      exact .kept (kept_of_transact ht (renewClaim_kept _ _ _ _ _))
  | discard token e pending error faults answer db' _ _ ht =>
      exact .kept (kept_of_transact ht (releaseClaim_kept _ _ _))
  | release token e pending error faults answer db' _ _ ht =>
      exact .kept (kept_of_transact ht (releaseClaim_kept _ _ _))
  | closeRelease token e service faults answer db' _ _ _ _ ht =>
      exact .kept (kept_of_transact ht (releaseClaim_kept _ _ _))
  | complete token e service pending generated work faults clock answer db' he _ _ hphase ht =>
      cases answer with
      | error error => exact .kept (.of_eq (by rw [← transact_error ht]; rfl)
          (by rw [← transact_error ht]; rfl))
      | ok answer =>
          rcases @completeMessage_outcome host e.key _ _ _ _ _ _ _ (returns_of_transact ht) with
            rfl | ⟨sent, -, houtcome⟩
          · exact .kept (.refl _)
          · exact .completed token e pending generated work sent he hphase houtcome
  | roomControl id service kind command faults answer db' _ _ ht =>
      exact .kept (kept_of_transact ht (roomControl_kept _ _ _))
  | personaControl id service kind command faults answer db' _ _ ht =>
      exact .kept (kept_of_transact ht (personaControl_kept _ _ _))
  | replaceCast id service uuids command faults answer db' _ _ ht =>
      exact .kept (pinsKept_of_transact ht (replaceCast_pinsKept _ _ _ _))
  | selectRoom command faults answer db' ht =>
      exact .kept (pinsKept_of_transact ht (selectRoom_pinsKept _ _))
  | providers db' hchange => exact .changed hchange.step
  | _ => exact .kept (.refl _)

/-! ## The invariant -/

/-- What holds of pins and snapshots. -/
structure Pins (host : Host) (s : System) : Prop where
  keyed : s.db.providers.Keyed
  pinned : ∀ key snapshot, s.db.pinned key = some snapshot →
    PinnedTo host s.db.providers key snapshot
  /-- A decision that has been taken is the one its command is pinned to. -/
  decided : ∀ token e snapshot, s.executions.lookup token = some e →
    e.phase.decided = some (some snapshot) →
      s.db.pinned e.key = some snapshot ∨ ∃ result, s.db.stored e.key = some (.complete result)
  /-- A snapshot is of a command that is complete, and named after it. -/
  rows : ∀ id record, s.db.providers.decisionSnapshots.lookup id = some record →
    record.snapshot.id = id ∧
      id = decisionId host record.roomId record.requestId record.snapshot.binding ∧
      ∃ result, s.db.stored (record.roomId, record.requestId) = some (.complete result)
  once : ∀ id id' record record', s.db.providers.decisionSnapshots.lookup id = some record →
    s.db.providers.decisionSnapshots.lookup id' = some record' →
    (record.roomId, record.requestId) = (record'.roomId, record'.requestId) → id = id'

theorem Db.pinned_of_stored {key : CommandKey} {db : Db} {snapshot : DecisionSnapshot}
    (h : db.pinned key = some snapshot) :
    ∃ message, db.stored key = some (.pending message) ∧
      message.providerDecision = some snapshot := by
  unfold Db.pinned at h
  split at h
  · next message hstored => exact ⟨message, hstored, h⟩
  · cases h

theorem Db.pinned_of_pending {key : CommandKey} {db : Db} {message : PendingMessage}
    (h : db.stored key = some (.pending message)) : db.pinned key = message.providerDecision := by
  rw [Db.pinned, h]

theorem Db.pinned_of_complete {key : CommandKey} {db : Db} {result : CommandResult}
    (h : db.stored key = some (.complete result)) : db.pinned key = none := by
  rw [Db.pinned, h]

/-- Pins are what they were, and so are complete results. -/
structure PinsStay (db db' : Db) : Prop where
  pinned : ∀ key snapshot, db.pinned key = some snapshot →
    db'.pinned key = some snapshot ∨ ∃ result, db'.stored key = some (.complete result)
  complete : ∀ key result, db.stored key = some (.complete result) →
    db'.stored key = some (.complete result)

theorem PinsStay.of_stored {db db' : Db}
    (h : ∀ key result, db.stored key = some result → db'.stored key = some result) :
    PinsStay db db' := by
  refine ⟨fun key snapshot hpinned => .inl ?_, fun key result => h key _⟩
  obtain ⟨message, hstored, hdecision⟩ := Db.pinned_of_stored hpinned
  rw [Db.pinned_of_pending (h key _ hstored), hdecision]

theorem PinEffect.stay {s t : System} (h : PinEffect host s t) : PinsStay s.db t.db := by
  cases h with
  | kept h => exact .of_stored h.stored
  | changed h =>
      refine .of_stored fun key result hstored => ?_
      rw [h.frame]
      exact hstored
  | pinned key answer h =>
      cases h with
      | again snapshot _ hdb => exact .of_stored fun _ _ h => hdb ▸ h
      | unbound _ _ _ _ hdb => exact .of_stored fun _ _ h => hdb ▸ h
      | pinned message evidence d hstored hnone _ _ _ _ hset =>
          refine ⟨fun k snapshot hpinned => .inl ?_, fun k result hcomplete => ?_⟩
          · have hk : k ≠ key := by
              rintro rfl
              rw [Db.pinned_of_pending hstored, hnone] at hpinned
              cases hpinned
            rw [Db.pinned, hset k, if_neg hk]
            exact hpinned
          · rw [hset k, if_neg, hcomplete]
            rintro rfl
            rw [hstored] at hcomplete
            cases hcomplete
  | completed token e pending generated work sent _ _ h =>
      refine ⟨fun k snapshot hpinned => ?_, fun k result hcomplete => ?_⟩
      · by_cases hk : k = e.key
        · exact .inr ⟨_, by rw [h.now k, if_pos hk]⟩
        · left
          rw [Db.pinned, h.now k, if_neg hk]
          exact hpinned
      · rw [h.now k, if_neg, hcomplete]
        rintro rfl
        obtain ⟨message, hwas⟩ := h.was
        rw [hwas] at hcomplete
        cases hcomplete

/-- The rows there are after a step: one may be new. -/
inductive RowsGrown (s t : System) : Prop
  | same : t.db.providers.decisionSnapshots = s.db.providers.decisionSnapshots → RowsGrown s t
  | new (token : Token) (e : Execution) (snapshot : DecisionSnapshot) (result : CommandResult) :
      s.executions.lookup token = some e → e.phase.decided = some (some snapshot) →
      (∃ message, s.db.stored e.key = some (.pending message)) →
      t.db.stored e.key = some (.complete result) →
      Recorded (snapshotRecord e.key snapshot) s.db.providers t.db.providers → RowsGrown s t

theorem PinEffect.rowsGrown {s t : System} (h : PinEffect host s t) : RowsGrown s t := by
  cases h with
  | kept h => exact .same (by rw [h.providers])
  | changed h => exact .same h.snapshots
  | pinned key answer h =>
      cases h with
      | again snapshot _ hdb => exact .same (by rw [hdb])
      | unbound _ _ _ _ hdb => exact .same (by rw [hdb])
      | pinned message evidence d _ _ _ _ hproviders _ _ => exact .same (by rw [hproviders])
  | completed token e pending generated work sent he hphase h =>
      rcases h.outcome with ⟨-, hproviders, -⟩ | ⟨-, hresult, hsnapshot⟩
      · exact .same (by rw [hproviders])
      · rcases hdecision : generated.providerDecision with - | snapshot
        · rw [hdecision] at hsnapshot
          exact .same (by rw [show t.db.providers = _ from hsnapshot])
        · rw [hdecision] at hsnapshot
          refine .new token e snapshot (.message sent) he ?_ h.was ?_ hsnapshot
          · obtain ⟨result, hresult⟩ := Option.isSome_iff_exists.mp hresult
            rw [hphase, Phase.decided, hresult, hdecision]
            rfl
          · rw [h.now, if_pos rfl]

/-- Profiles and bindings stay, under what they say. -/
theorem PinEffect.tables {s t : System} (h : PinEffect host s t) :
    s.db.providers.Grown t.db.providers ∧ (s.db.providers.Keyed → t.db.providers.Keyed) := by
  have hsame : t.db.providers = s.db.providers →
      s.db.providers.Grown t.db.providers ∧ (s.db.providers.Keyed → t.db.providers.Keyed) := by
    intro h
    rw [h]
    exact ⟨.refl _, fun h => h⟩
  cases h with
  | kept h => exact hsame h.providers
  | changed h => exact ⟨h.grown, h.keyed⟩
  | pinned key answer h =>
      cases h with
      | again snapshot _ hdb => exact hsame (by rw [hdb])
      | unbound _ _ _ _ hdb => exact hsame (by rw [hdb])
      | pinned message evidence d _ _ _ _ hproviders _ _ => exact hsame hproviders
  | completed token e pending generated work sent _ _ h =>
      rcases h.outcome with ⟨-, hproviders, -⟩ | ⟨-, -, hsnapshot⟩
      · exact hsame hproviders
      · rcases hdecision : generated.providerDecision with - | snapshot
        · rw [hdecision] at hsnapshot
          exact hsame hsnapshot
        · rw [hdecision] at hsnapshot
          rw [hsnapshot.result]
          exact ⟨⟨.refl _, .refl _, .refl _⟩, fun hkeyed =>
            ⟨hkeyed.connections.congr rfl, hkeyed.models.congr rfl, hkeyed.bindings⟩⟩

theorem PinAnswered.pinned_eq {key : CommandKey} {db db' : Db} {snapshot : DecisionSnapshot}
    (h : PinAnswered host key db db' (some snapshot)) : db'.pinned key = some snapshot := by
  cases h with
  | again _ hpinned hdb => rw [hdb, hpinned]
  | pinned message evidence d _ _ _ _ _ _ hset => rw [Db.pinned, hset key, if_pos rfl]

/-- A command that is pinned after a step was pinned before, or may be. -/
theorem PinEffect.pinnedTo {s t : System} (h : PinEffect host s t)
    (hkeyed : s.db.providers.Keyed) {key : CommandKey} {snapshot : DecisionSnapshot}
    (hpinned : t.db.pinned key = some snapshot) :
    s.db.pinned key = some snapshot ∨ PinnedTo host s.db.providers key snapshot := by
  cases h with
  | kept h => exact .inl (h.pinned key snapshot hpinned)
  | changed h =>
      left
      rw [h.frame] at hpinned
      exact hpinned
  | pinned key' answer h =>
      cases h with
      | again _ _ hdb => exact .inl (hdb ▸ hpinned)
      | unbound _ _ _ _ hdb => exact .inl (hdb ▸ hpinned)
      | pinned message evidence d _ _ hresolves hparse _ _ hset =>
          rw [Db.pinned, hset key] at hpinned
          by_cases hk : key = key'
          · subst hk
            rw [if_pos rfl] at hpinned
            obtain rfl := Option.some.inj hpinned
            exact .inr (pinnedTo_of_resolves hkeyed hresolves hparse)
          · rw [if_neg hk] at hpinned
            exact .inl hpinned
  | completed token e pending generated work sent _ _ h =>
      left
      rw [Db.pinned, h.now key] at hpinned
      by_cases hk : key = e.key
      · rw [if_pos hk] at hpinned
        cases hpinned
      · rw [if_neg hk] at hpinned
        exact hpinned

theorem Pins.step {s t : System} {l : Label} (h : Pins host s) (hstep : Step host s l t) :
    Pins host t := by
  have heffect := hstep.pinEffect
  have hstay := heffect.stay
  obtain ⟨hgrown, hkeyed⟩ := heffect.tables
  -- A row that was there before is of a command that is complete.
  have hold : ∀ id record, s.db.providers.decisionSnapshots.lookup id = some record →
      record.snapshot.id = id ∧
        id = decisionId host record.roomId record.requestId record.snapshot.binding ∧
        ∃ result, t.db.stored (record.roomId, record.requestId) = some (.complete result) := by
    intro id record hrow
    obtain ⟨hid, hname, result, hresult⟩ := h.rows id record hrow
    exact ⟨hid, hname, result, hstay.complete _ _ hresult⟩
  refine ⟨hkeyed h.keyed, fun key snapshot hpinned => ?_, fun token e snapshot he hdecided => ?_,
    ?_, ?_⟩
  · rcases heffect.pinnedTo h.keyed hpinned with hpinned | hpinned
    · exact (h.pinned key snapshot hpinned).grown hgrown
    · exact hpinned.grown hgrown
  · rcases hstep.decided he hdecided with ⟨e₀, he₀, hkey, hdecided₀⟩ | hanswered
    · rw [← hkey]
      rcases h.decided token e₀ snapshot he₀ hdecided₀ with hpinned | ⟨result, hcomplete⟩
      · exact hstay.pinned _ _ hpinned
      · exact .inr ⟨result, hstay.complete _ _ hcomplete⟩
    · exact .inl hanswered.pinned_eq
  · intro id record hrow
    cases heffect.rowsGrown with
    | same hsame => exact hold id record (hsame ▸ hrow)
    | new token e snapshot result he hdecided hpending hcomplete hrecorded =>
        rw [hrecorded.lookup] at hrow
        split at hrow
        · next hid =>
            obtain rfl := Option.some.inj hrow
            obtain ⟨message, hpending⟩ := hpending
            have hpinned : s.db.pinned e.key = some snapshot := by
              rcases h.decided token e snapshot he hdecided with hpinned | ⟨result, hresult⟩
              · exact hpinned
              · rw [hpending] at hresult
                cases hresult
            exact ⟨hid.symm, hid.trans (h.pinned _ _ hpinned).name, result, hcomplete⟩
        · exact hold id record hrow
  · intro id id' record record' hrow hrow' hkey
    cases heffect.rowsGrown with
    | same hsame => exact h.once id id' record record' (hsame ▸ hrow) (hsame ▸ hrow') hkey
    | new token e snapshot result _ _ _ _ hrecorded =>
        rw [hrecorded.lookup] at hrow hrow'
        split at hrow <;> split at hrow'
        · next hid hid' => exact hid.trans hid'.symm
        · obtain rfl := Option.some.inj hrow
          exact absurd hkey.symm (hrecorded.newKey hrow')
        · obtain rfl := Option.some.inj hrow'
          exact absurd hkey (hrecorded.newKey hrow)
        · exact h.once id id' record record' hrow hrow' hkey

/-- A database nothing has happened in yet, but for the provider tables: these may hold
profiles and bindings. -/
structure Unpinned (db : Db) : Prop where
  fresh : Fresh db
  keyed : db.providers.Keyed
  decisionSnapshots : db.providers.decisionSnapshots = ∅

theorem pins_inductive : (roomSystem host Unpinned).Inductive (Pins host) where
  init s hs := by
    obtain ⟨hdb, hs⟩ := hs
    have hstored : ∀ key, s.db.stored key = none := by
      intro key
      rw [Db.stored, hdb.fresh.commands]
      rfl
    refine ⟨hdb.keyed, fun key snapshot hpinned => ?_, fun token e snapshot he => ?_,
      fun id record hrow => ?_, fun id id' record record' hrow => ?_⟩
    · obtain ⟨message, hmessage, -⟩ := Db.pinned_of_stored hpinned
      rw [hstored] at hmessage
      cases hmessage
    · rw [hs] at he
      cases he
    · rw [hdb.decisionSnapshots] at hrow
      cases hrow
    · rw [hdb.decisionSnapshots] at hrow
      cases hrow
  step _ _ _ := Pins.step

end

end GreenRoom.Runtime
