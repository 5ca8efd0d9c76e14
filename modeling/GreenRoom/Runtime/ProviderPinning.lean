import GreenRoom.Runtime.ExactlyOnce
import GreenRoom.Runtime.ProviderPins

/-!
# Provider pinning

Every call of a provider for a request is made under the decision the request has been
pinned to, and what comes of it is committed with exactly that decision, once, as long
as the decision is what its room resolves to.

## Main definitions

* `System.FoundUnbound` — an execution has found its room without a binding.
* `Current` — a decision is what its room resolves to.
* `OneSnapshot` — a command has exactly one snapshot.
* `NoCollision` — the name of a decision differs from those of other commands.

## Main results

* `call_pinned`, `bound_kept`, `Step.outcome_pinned`, `commitDecision_throws_iff`
* `provider_pinning`
-/

namespace GreenRoom.Runtime

open JsString GreenRoom.Core Providers

/-- An execution of the request has found its room without a binding, and calls the
provider, or has called it, without a decision. -/
def System.FoundUnbound (s : System) (token : Token) (key : CommandKey) : Prop :=
  ∃ e, s.executions.lookup token = some e ∧ e.key = key ∧ e.phase.decided = some none

/-- The decision is what its room resolves to: its revisions are the newest ones, the
model and the connection are enabled, and what was last observed of the connection is
that it is ready, with the fingerprint of the decision. -/
def Current (tables : ProviderTables) (snapshot : DecisionSnapshot) : Prop :=
  ∃ observation, observation.capabilityFingerprint = snapshot.capabilityFingerprint ∧
    Resolves tables snapshot.binding.roomId snapshot.binding.purpose
      ⟨snapshot.binding, snapshot.connection, snapshot.model, observation⟩

/-- The command has one snapshot, and it is `record`. -/
def OneSnapshot (tables : ProviderTables) (key : CommandKey) (record : DecisionSnapshotRecord) :
    Prop :=
  ∀ id other, (tables.decisionSnapshots.lookup id = some other ∧
    (other.roomId, other.requestId) = key) ↔ id = record.snapshot.id ∧ other = record

section

variable (host : Host)

/-- Of the texts that names of decisions are hashes of, none has the hash of this one by
accident. -/
def NoCollision (tables : ProviderTables) (key : CommandKey) (snapshot : DecisionSnapshot) : Prop :=
  ∀ id record, tables.decisionSnapshots.lookup id = some record →
    (host.sha256 (decisionText record.roomId record.requestId record.snapshot.binding)).take 64 =
      (host.sha256 (decisionText key.1 key.2 snapshot.binding)).take 64 →
    decisionText record.roomId record.requestId record.snapshot.binding =
      decisionText key.1 key.2 snapshot.binding

end

section

variable {host : Host} {s t : System}

/-! ## Calls -/

/-- A request is found in its room before its executions decide on a provider. -/
theorem not_foundUnbound_of_new (h : Inv host s) {key : CommandKey}
    (hnew : s.db.recorded key = none) (token : Token) : ¬ s.FoundUnbound token key := by
  rintro ⟨e, he, rfl, hdecided⟩
  have hpending : ∃ pending, e.phase.pending = some pending := by
    unfold Phase.decided at hdecided
    split at hdecided
    · cases hdecided
    · next heq => exact ⟨_, by rw [heq]; rfl⟩
    · next heq => exact ⟨_, by rw [heq]; rfl⟩
    · next heq => exact ⟨_, by rw [heq]; rfl⟩
    · cases hdecided
  obtain ⟨pending, hpending⟩ := hpending
  obtain ⟨hawaits, -⟩ := (h.executions token e he).pending pending hpending
  rcases hawaits with hrecorded | ⟨result, hrecorded⟩ <;>
  · rw [hnew] at hrecorded
    cases hrecorded

/-- A room stays bound, and no execution finds it otherwise. -/
theorem bound_kept {ls : List Label} {key : CommandKey}
    (hrun : (roomSystem host Unpinned).Run s ls t)
    (h : Bound s.db.providers key.1 ∧ ∀ token, ¬ s.FoundUnbound token key) :
    Bound t.db.providers key.1 ∧ ∀ token, ¬ t.FoundUnbound token key := by
  refine hrun.preserves (I := fun s => Bound s.db.providers key.1 ∧
    ∀ token, ¬ s.FoundUnbound token key) (fun s l t h hstep => ?_) h
  refine ⟨h.1.grown (Step.pinEffect hstep).tables.1, fun token => ?_⟩
  rintro ⟨e, he, rfl, hdecided⟩
  rcases Step.decided hstep he hdecided with ⟨e₀, he₀, hkey, hdecided₀⟩ | hanswered
  · exact h.2 token ⟨e₀, he₀, hkey, hdecided₀⟩
  · cases hanswered with
    | unbound message hbound _ _ _ => exact hbound h.1

/-- What holds of a request from when it has been pinned on: executions decide on nothing
else, but for those that had found the room without a binding before. -/
structure PinnedFor (key : CommandKey) (snapshot : DecisionSnapshot) (unbound : Token → Prop)
    (s : System) : Prop where
  pinned : s.db.pinned key = some snapshot ∨ ∃ result, s.db.stored key = some (.complete result)
  decided : ∀ token e decision, s.executions.lookup token = some e → e.key = key →
    e.phase.decided = some decision → decision = some snapshot ∨ (decision = none ∧ unbound token)

theorem PinnedFor.of_pinned (h : Pins host s) {key : CommandKey} {snapshot : DecisionSnapshot}
    (hpinned : s.db.pinned key = some snapshot) :
    PinnedFor key snapshot (fun token => s.FoundUnbound token key) s := by
  refine ⟨.inl hpinned, ?_⟩
  rintro token e (- | decision) he rfl hdecided
  · exact .inr ⟨rfl, e, he, rfl, hdecided⟩
  · left
    rcases h.decided token e decision he hdecided with hp | ⟨result, hcomplete⟩
    · rw [← hp, hpinned]
    · rw [Db.pinned_of_complete hcomplete] at hpinned
      cases hpinned

theorem PinnedFor.step {key : CommandKey} {snapshot : DecisionSnapshot} {unbound : Token → Prop}
    {l : Label} (h : PinnedFor key snapshot unbound s) (hstep : Step host s l t) :
    PinnedFor key snapshot unbound t := by
  have hstay := hstep.pinEffect.stay
  constructor
  · rcases h.pinned with hpinned | ⟨result, hcomplete⟩
    · exact hstay.pinned _ _ hpinned
    · exact .inr ⟨result, hstay.complete _ _ hcomplete⟩
  · intro token e decision he hkey hdecided
    rcases hstep.decided he hdecided with ⟨e₀, he₀, hkey₀, hdecided₀⟩ | hanswered
    · exact h.decided token e₀ decision he₀ (hkey₀.trans hkey) hdecided₀
    · rw [hkey] at hanswered
      -- Once there is a pin, nothing is pinned anew and no room is found without a binding.
      have hnot : ∀ message, s.db.stored key = some (.pending message) →
          message.providerDecision ≠ none := by
        intro message hpending hnone
        rcases h.pinned with hpinned | ⟨result, hcomplete⟩
        · rw [Db.pinned_of_pending hpending, hnone] at hpinned
          cases hpinned
        · rw [hpending] at hcomplete
          cases hcomplete
      cases hanswered with
      | again d hagain _ =>
          rcases h.pinned with hpinned | ⟨result, hcomplete⟩
          · exact .inl (hagain.symm.trans hpinned)
          · rw [Db.pinned_of_complete hcomplete] at hagain
            cases hagain
      | unbound message _ hpending hnone _ => exact absurd hnone (hnot message hpending)
      | pinned message evidence d hpending hnone _ _ _ _ _ =>
          exact absurd hnone (hnot message hpending)

/-- **Calls are made under the pinned decision**, but for those of executions that had found
their room without a binding before. -/
theorem call_pinned (hs : (roomSystem host Unpinned).Reachable s) {key : CommandKey}
    {snapshot : DecisionSnapshot} (hpinned : s.db.pinned key = some snapshot) {ls : List Label}
    (hrun : (roomSystem host Unpinned).Run s ls t) {token : Token} {e : Execution}
    {pending : PendingMessage} {decision : Option DecisionSnapshot} {work : ℕ}
    (he : t.executions.lookup token = some e) (hkey : e.key = key)
    (hphase : e.phase = .generating pending (.racing decision work)) :
    decision = some snapshot ∨ (decision = none ∧ s.FoundUnbound token key) := by
  have hinit := PinnedFor.of_pinned (pins_inductive.reachable hs) hpinned
  have h := hrun.preserves (fun _ _ _ h (hstep : Step host _ _ _) => h.step hstep) hinit
  exact h.decided token e decision he hkey (by rw [hphase]; rfl)

/-! ## Outcomes -/

/-- A decision that is what its room resolves to, in whole records. -/
theorem current_of_sameExactDecision {tables : ProviderTables} {snapshot : DecisionSnapshot}
    {current : ResolvedRoomProviderDecision}
    (hresolves : Resolves tables snapshot.binding.roomId snapshot.binding.purpose current)
    (hsame : sameExactDecision current snapshot = true)
    (hprint : current.observation.capabilityFingerprint = snapshot.capabilityFingerprint) :
    Current tables snapshot := by
  simp only [sameExactDecision, Bool.and_eq_true, decide_eq_true_eq] at hsame
  obtain ⟨⟨⟨hbinding, hconnection⟩, hmodel⟩, -⟩ := hsame
  refine ⟨current.observation, hprint, ?_⟩
  have hcurrent : (⟨snapshot.binding, snapshot.connection, snapshot.model, current.observation⟩ :
      ResolvedRoomProviderDecision) = current := by
    rw [← hbinding, ← hconnection, ← hmodel]
  rw [hcurrent]
  exact hresolves

/-- The rows of the snapshots stay. -/
theorem snapshot_kept (hs : (roomSystem host Unpinned).Reachable s) {ls : List Label}
    (hrun : (roomSystem host Unpinned).Run s ls t) {id : JsString}
    {record : DecisionSnapshotRecord}
    (h : s.db.providers.decisionSnapshots.lookup id = some record) :
    t.db.providers.decisionSnapshots.lookup id = some record := by
  refine pins_inductive.stable (P := fun s =>
    s.db.providers.decisionSnapshots.lookup id = some record) (fun s l t _ h hstep => ?_) hs hrun h
  cases (Step.pinEffect hstep).rowsGrown with
  | same hsame => rw [hsame, h]
  | new token e snapshot result _ _ _ _ hrecorded =>
      rw [hrecorded.lookup, if_neg, h]
      rintro rfl
      exact hrecorded.newId (AList.lookup_isSome.mp (Option.isSome_of_mem h))

/-- A snapshot that has been committed is the only one of its command, from then on. -/
theorem oneSnapshot_of_recorded (ht : (roomSystem host Unpinned).Reachable t)
    {key : CommandKey} {snapshot : DecisionSnapshot}
    (h : Recorded (snapshotRecord key snapshot) s.db.providers t.db.providers) {ls : List Label}
    {u : System} (hrun : (roomSystem host Unpinned).Run t ls u) :
    OneSnapshot u.db.providers key (snapshotRecord key snapshot) := by
  have hrow : t.db.providers.decisionSnapshots.lookup snapshot.id =
      some (snapshotRecord key snapshot) := by
    rw [h.lookup]
    exact if_pos rfl
  have hlater := snapshot_kept ht hrun hrow
  intro id other
  constructor
  · rintro ⟨hother, hkey⟩
    obtain rfl :=
      (pins_inductive.reachable (ht.run hrun)).once id snapshot.id _ _ hother hlater hkey
    exact ⟨rfl, Option.some.inj (hother.symm.trans hlater)⟩
  · rintro ⟨rfl, rfl⟩
    exact ⟨hlater, rfl⟩

/-- What is committed when a pending message gets its outcome from the execution `token`. -/
structure OutcomePinned (host : Host) (key : CommandKey) (token : Token)
    (generated : GeneratedMessage) (sent : SendMessageResult) (s t : System) : Prop where
  stale : sent.outcome = .stale → t.db.providers = s.db.providers ∧ t.db.events = s.db.events
  committed : sent.outcome = .text ∨ sent.outcome = .silence →
    ∀ snapshot, generated.providerDecision = some snapshot →
      s.db.pinned key = some snapshot ∧ Current s.db.providers snapshot ∧
        (∀ id other, s.db.providers.decisionSnapshots.lookup id = some other →
          (other.roomId, other.requestId) ≠ key) ∧
        ∀ ls u, (roomSystem host Unpinned).Run t ls u →
          OneSnapshot u.db.providers key (snapshotRecord key snapshot)
  undecided : sent.outcome = .text ∨ sent.outcome = .silence →
    generated.providerDecision = none → s.FoundUnbound token key

/-- **An outcome is committed with its decision.** -/
theorem Step.outcome_pinned (hs : (roomSystem host Unpinned).Reachable s) {l : Label}
    (hstep : Step host s l t) {key : CommandKey} {message : PendingMessage}
    {sent : SendMessageResult} (hpending : s.db.stored key = some (.pending message))
    (hcomplete : t.db.stored key = some (.complete (.message sent))) :
    ∃ token e pending generated work, s.executions.lookup token = some e ∧ e.key = key ∧
      e.phase = .completing pending generated work ∧
      OutcomePinned host key token generated sent s t := by
  have hpins := pins_inductive.reachable hs
  -- No other step makes a pending message complete.
  have hsame : t.db.stored key = s.db.stored key → False := by
    intro h
    rw [h, hpending] at hcomplete
    cases hcomplete
  cases hstep.pinEffect with
  | kept h => exact (hsame ((h.stored _ _ hpending).trans hpending.symm)).elim
  | changed h => exact (hsame (by rw [h.frame]; rfl)).elim
  | pinned key' answer h =>
      cases h with
      | again _ _ hdb => exact (hsame (by rw [hdb])).elim
      | unbound _ _ _ _ hdb => exact (hsame (by rw [hdb])).elim
      | pinned message' evidence d _ _ _ _ _ _ hset =>
          rw [hset] at hcomplete
          split at hcomplete
          · cases hcomplete
          · rw [hpending] at hcomplete
            cases hcomplete
  | completed token e pending generated work sent' he hphase h =>
      have hkey : key = e.key := by
        by_contra hne
        exact hsame (by rw [h.now, if_neg hne])
      subst hkey
      obtain rfl : sent' = sent := by
        rw [h.now, if_pos rfl] at hcomplete
        simpa using hcomplete
      refine ⟨token, e, pending, generated, work, he, rfl, hphase, fun hstale => ?_,
        fun hsent snapshot hdecision => ?_, fun hsent hdecision => ?_⟩
      · rcases h.outcome with ⟨-, hproviders, hevents⟩ | ⟨hsent | hsent, -, -⟩
        · exact ⟨hproviders, hevents⟩
        · rw [hstale] at hsent
          cases hsent
        · rw [hstale] at hsent
          cases hsent
      · rcases h.outcome with ⟨hstale, -, -⟩ | ⟨-, hresult, hsnapshot⟩
        · rw [hstale] at hsent
          rcases hsent with hsent | hsent <;> cases hsent
        · rw [hdecision] at hsnapshot
          obtain ⟨current, hresolves, hexact, hprint⟩ := hsnapshot.resolves
          refine ⟨?_, current_of_sameExactDecision hresolves hexact hprint,
            fun _ _ hother => hsnapshot.newKey hother,
            fun ls u hrun => oneSnapshot_of_recorded (hs.step hstep) hsnapshot hrun⟩
          obtain ⟨result, hresult⟩ := Option.isSome_iff_exists.mp hresult
          have hdecided : e.phase.decided = some (some snapshot) := by
            rw [hphase, Phase.decided, hresult, hdecision]
            rfl
          rcases hpins.decided token e snapshot he hdecided with hpinned | ⟨result, hcomplete⟩
          · exact hpinned
          · rw [hpending] at hcomplete
            cases hcomplete
      · rcases h.outcome with ⟨hstale, -, -⟩ | ⟨-, hresult, -⟩
        · rw [hstale] at hsent
          rcases hsent with hsent | hsent <;> cases hsent
        · obtain ⟨result, hresult⟩ := Option.isSome_iff_exists.mp hresult
          refine ⟨e, he, rfl, ?_⟩
          rw [hphase, Phase.decided, hresult, hdecision]
          rfl

/-! ## Committing -/

/-- The text a name is a hash of tells the command. -/
theorem decisionText_key {key key' : CommandKey} {binding binding' : RoomBinding}
    (h : decisionText key.1 key.2 binding = decisionText key'.1 key'.2 binding') : key = key' := by
  have hdistinct : ∀ (key : CommandKey) (binding : RoomBinding),
      (Json.obj [(ofString "roomId", Json.str key.1), (ofString "requestId", .str key.2),
        (ofString "bindingId", .str binding.id),
        (ofString "bindingRevision", .num (binding.revision : ℤ))]).Distinct := by
    intro key binding
    refine ⟨?_, by simp [Json.DistinctMembers, Json.Distinct]⟩
    change [ofString "roomId", ofString "requestId", ofString "bindingId",
      ofString "bindingRevision"].Nodup
    decide
  have hmember := member_of_canonicalJson (hdistinct key binding) (hdistinct key' binding') h
  have hroom : some (Json.str key.1 : Json ℤ) = some (.str key'.1) := hmember (ofString "roomId")
  have hrequest : some (Json.str key.2 : Json ℤ) = some (.str key'.2) :=
    hmember (ofString "requestId")
  exact Prod.ext (Json.str.inj (Option.some.inj hroom)) (Json.str.inj (Option.some.inj hrequest))

/-- The identifiers of a request are what a snapshot asks for. -/
theorem Request.Checked.snapshotIds {request : Request} (h : request.Checked) :
    ¬ (request.key.1 = [] ∨ 128 < request.key.1.length ∨ trim request.key.1 ≠ request.key.1) ∧
      ¬ (request.key.2 = [] ∨ 256 < request.key.2.length ∨ trim request.key.2 ≠ request.key.2) := by
  obtain ⟨-, hroom, hrequest, -, -⟩ := h
  simp only [← List.length_eq_zero_iff]
  constructor
  · unfold Cast.canonicalIdentifier at hroom
    split at hroom
    · cases hroom
    · next hok => exact hok
  · unfold canonicalIdentifier maxIdentifierLength at hrequest
    split at hrequest
    · cases hrequest
    · next hok => exact fun h => hok (h.imp id or_comm.mp)

/-- What has been found current is, in numbers, what its room resolves to. -/
theorem current_of_not_stale {roomId : RoomId} {pending : PendingMessage} {speaker : ParticipantId}
    {generated : GeneratedMessage} {snapshot : DecisionSnapshot} {db db' : Db}
    (hdecision : generated.providerDecision = some snapshot)
    (h : (generatedIsStale roomId pending speaker generated).Returns db false db') :
    ∃ current, Resolves db.providers snapshot.binding.roomId snapshot.binding.purpose current ∧
      (current.binding.id = snapshot.binding.id ∧
        current.binding.revision = snapshot.binding.revision) ∧
      (current.model.id = snapshot.model.id ∧ current.model.revision = snapshot.model.revision) ∧
      (current.connection.id = snapshot.connection.id ∧
        current.connection.revision = snapshot.connection.revision) ∧
      current.observation.capabilityFingerprint = snapshot.capabilityFingerprint := by
  simp only [generatedIsStale, isStale, Program.returns_bind, Program.returns_query] at h
  obtain ⟨_, db, ⟨rfl, rfl⟩, h⟩ := h
  split at h
  · cases (Program.returns_pure.mp h).1
  · rw [hdecision] at h
    simp only [Program.returns_bind, Program.returns_pure] at h
    obtain ⟨answer, db₁, hanswer, htrue, -⟩ := h
    obtain rfl : answer = true := by simpa using htrue.symm
    obtain ⟨current, hresolves, hsame⟩ := isResolvedRoomProviderDecisionCurrent_true hanswer
    exact ⟨current, hresolves, hsame.binding, hsame.model, hsame.connection, hsame.fingerprint⟩

/-- The name of a decision that is pending is new to the snapshots. -/
theorem Pins.newName (h : Pins host s) {key : CommandKey} {message : PendingMessage}
    {snapshot : DecisionSnapshot} (hpending : s.db.stored key = some (.pending message))
    (hpinned : s.db.pinned key = some snapshot)
    (hsha : NoCollision host s.db.providers key snapshot) :
    snapshot.id ∉ s.db.providers.decisionSnapshots := by
  intro hmem
  obtain ⟨other, hother⟩ := Option.isSome_iff_exists.mp (AList.lookup_isSome.mpr hmem)
  obtain ⟨-, hname, result, hcomplete⟩ := h.rows _ other hother
  have hname' := (h.pinned key snapshot hpinned).name
  have hhash := List.append_cancel_left (hname.symm.trans hname')
  have hkey : (other.roomId, other.requestId) = key :=
    decisionText_key (hsha _ other hother hhash)
  rw [hkey, hpending] at hcomplete
  cases hcomplete

/-- What a completing execution commits, its request has been pinned to. -/
theorem Pins.pinned_of_completing (h : Pins host s) {token : Token} {e : Execution}
    {pending : PendingMessage} {generated : GeneratedMessage} {work : Option ℕ}
    {message : PendingMessage} {snapshot : DecisionSnapshot} {result : ProviderResult}
    (he : s.executions.lookup token = some e)
    (hphase : e.phase = .completing pending generated work)
    (hpending : s.db.stored e.key = some (.pending message))
    (hdecision : generated.providerDecision = some snapshot)
    (hresult : generated.providerResult = some result) :
    s.db.pinned e.key = some snapshot := by
  have hdecided : e.phase.decided = some (some snapshot) := by
    rw [hphase, Phase.decided, hresult, hdecision]
    rfl
  rcases h.decided token e snapshot he hdecided with hpinned | ⟨result, hcomplete⟩
  · exact hpinned
  · rw [hpending] at hcomplete
    cases hcomplete

/-- Appending the reply changes no table that is asked, and keeps the rooms. -/
theorem appendReply_tables {roomId : RoomId} {pending : PendingMessage} {speaker : ParticipantId}
    {stale : Bool} {providerResult : Option ProviderResult} {reply : Option ℕ × MessageOutcome}
    {db db' : Db}
    (h : (appendReply roomId pending speaker stale providerResult).Returns db reply db') :
    db'.providers = db.providers ∧ ∀ id, id ∈ db.rooms → id ∈ db'.rooms := by
  obtain ⟨sequence, outcome⟩ := reply
  rcases appendReply_cases h with ⟨-, _, -, n, rfl, -⟩ | ⟨-, -, -, rfl⟩ | ⟨-, -, rfl⟩
  · refine ⟨rfl, fun id hroom => ?_⟩
    obtain ⟨room, hroom⟩ := Option.isSome_iff_exists.mp (AList.lookup_isSome.mpr hroom)
    rw [← AList.lookup_isSome, Db.lookup_rooms_appended, hroom]
    rfl
  · exact ⟨rfl, fun _ => id⟩
  · exact ⟨rfl, fun _ => id⟩

/-- The record of a pending command passes the checks. -/
theorem validatedRecord_of_pending (hs : (roomSystem host Unpinned).Reachable s) {key : CommandKey}
    {message : PendingMessage} {snapshot : DecisionSnapshot}
    (hpending : s.db.stored key = some (.pending message))
    (hto : PinnedTo host s.db.providers key snapshot) :
    validatedRecord host (snapshotRecord key snapshot).toInput =
      .ok (snapshotRecord key snapshot) := by
  obtain ⟨row, hrow, -⟩ := Option.map_eq_some_iff.mp hpending
  obtain ⟨request, hkey, hchecked, -⟩ :=
    ((requested_inductive fun _ h => Unpinned.fresh h).reachable hs).2 key row.record
      (by rw [Db.recorded, hrow]; rfl)
  obtain ⟨hroomId, hrequestId⟩ := hchecked.snapshotIds
  rw [hkey] at hroomId hrequestId
  exact validatedRecord_ok.mpr
    ⟨hroomId, hrequestId, rfl, hto.parsed, hto.room, rfl, rfl, rfl, rfl⟩

/-- **What has been found current is committed without an error**, if its request does not
begin with U+0000 and its text has no snapshot yet; else it is not committed. -/
theorem commitDecision_throws_iff (hs : (roomSystem host Unpinned).Reachable s) {token : Token}
    {e : Execution} {pending : PendingMessage} {generated : GeneratedMessage} {work : Option ℕ}
    {message : PendingMessage} {speaker : ParticipantId} {snapshot : DecisionSnapshot}
    {reply : Option ℕ × MessageOutcome} {db₁ : Db}
    (he : s.executions.lookup token = some e)
    (hphase : e.phase = .completing pending generated work)
    (hpending : s.db.stored e.key = some (.pending message))
    (hdecision : generated.providerDecision = some snapshot)
    (hsha : NoCollision host s.db.providers e.key snapshot)
    (hshort : PrintsShort host.numbers snapshot)
    (hfresh : (generatedIsStale e.key.1 pending speaker generated).Returns s.db false s.db)
    (hreply : (appendReply e.key.1 pending speaker false generated.providerResult).Returns
      s.db reply db₁) :
    (∃ error, (commitDecision host e.key.1 e.key.2 false generated).Throws db₁ error) ↔
      generated.providerResult.isSome ∧
        (e.key.2.head? = some 0 ∨ (s.db.providers.snapshotFor e.key.1 e.key.2).isSome) := by
  rcases hresult : generated.providerResult with - | result
  · refine iff_of_false ?_ (by simp)
    rintro ⟨error, h⟩
    unfold commitDecision at h
    simp only [hresult] at h
    exact Program.throws_pure h
  have hcommit : commitDecision host e.key.1 e.key.2 false generated =
      commitDecisionSnapshotInTransaction host (snapshotRecord e.key snapshot).toInput >>=
        fun _ => pure () := by
    unfold commitDecision
    simp only [hresult, hdecision]
    rfl
  rw [hcommit, Option.isSome_some, eq_self_iff_true, true_and]
  obtain ⟨hproviders, hrooms⟩ := appendReply_tables hreply
  constructor
  · rintro ⟨error, h⟩
    by_contra hneither
    obtain ⟨hhead, hnone⟩ := not_or.mp hneither
    have hrequest := Option.not_isSome_iff_eq_none.mp hnone
    have hpins := pins_inductive.reachable hs
    have hpinned := hpins.pinned_of_completing he hphase hpending hdecision hresult
    have hto := hpins.pinned _ _ hpinned
    have hroom : e.key.1 ∈ s.db.rooms := by
      have hstale := (generatedIsStale_returns hfresh).2 rfl
      unfold staleIn at hstale
      split at hstale
      · next room _ hroom _ => exact AList.lookup_isSome.mp (Option.isSome_of_mem hroom)
      · cases hstale
    obtain ⟨current, hresolves, hbinding, hmodel, hconnection, hprint⟩ :=
      current_of_not_stale hdecision hfresh
    have hsame := sameExactDecision_of_current hpins.keyed hto.backed hresolves hbinding hmodel
      hconnection
    have hid := hpins.newName hpending hpinned hsha
    have hkeyed := hpins.keyed
    rw [← hproviders] at hkeyed hresolves hid hrequest
    rcases h.bind with h | ⟨_, _, -, h⟩
    · exact (commitDecisionSnapshotInTransaction_runs (validatedRecord_of_pending hs hpending hto)
        hshort hhead hkeyed hresolves hsame hprint (hrooms _ hroom) hid hrequest).not_throws h
    · exact Program.throws_pure h
  · intro hrefused
    rcases Program.throws_or_returns (commitDecisionSnapshotInTransaction host
      (snapshotRecord e.key snapshot).toInput >>= fun _ => pure ()) db₁ with h | ⟨_, _, h⟩
    · exact h
    · obtain ⟨record, _, hreturns, -⟩ := Program.returns_bind.mp h
      obtain ⟨hvalid, hhead, hrecorded, -⟩ := commitDecisionSnapshotInTransaction_recorded hreturns
      have hrequest := hrecorded.newRequest
      rw [validatedRecord_toInput hvalid] at hhead hrequest
      rcases hrefused with hzero | htaken
      · exact absurd hzero hhead
      · rw [← hproviders] at htaken
        exact absurd htaken (Option.not_isSome_iff_eq_none.mpr hrequest)

/-- **Provider pinning.**  In a bound room no execution of a new request finds the room
without a binding.  Once a request has been pinned, its calls are made under the pinned
decision.  A text or a silence generated under a decision is committed with the one
snapshot its command ever gets: the pinned decision, which is what its room resolves to
then; a stale outcome leaves log and snapshots alone.  And what a transaction has found
current it commits without an error, faults of the database apart, unless the request begins
with U+0000, or the same text has a snapshot: then it cannot be committed. -/
theorem provider_pinning (hs : (roomSystem host Unpinned).Reachable s) :
    (∀ key, Bound s.db.providers key.1 → s.db.recorded key = none → ∀ ls t,
      (roomSystem host Unpinned).Run s ls t → ∀ token, ¬ t.FoundUnbound token key) ∧
    (∀ key snapshot, s.db.pinned key = some snapshot → ∀ ls t,
      (roomSystem host Unpinned).Run s ls t → ∀ token e pending decision work,
        t.executions.lookup token = some e → e.key = key →
        e.phase = .generating pending (.racing decision work) →
          decision = some snapshot ∨ (decision = none ∧ s.FoundUnbound token key)) ∧
    (∀ l t, Step host s l t → ∀ key message sent, s.db.stored key = some (.pending message) →
      t.db.stored key = some (.complete (.message sent)) →
        ∃ token e pending generated work, s.executions.lookup token = some e ∧ e.key = key ∧
          e.phase = .completing pending generated work ∧
          OutcomePinned host key token generated sent s t) ∧
    ∀ token e pending generated work message speaker snapshot reply db₁,
      s.executions.lookup token = some e → e.phase = .completing pending generated work →
      s.db.stored e.key = some (.pending message) → generated.providerDecision = some snapshot →
      NoCollision host s.db.providers e.key snapshot → PrintsShort host.numbers snapshot →
      (generatedIsStale e.key.1 pending speaker generated).Returns s.db false s.db →
      (appendReply e.key.1 pending speaker false generated.providerResult).Returns s.db reply db₁ →
        ((∃ error, (commitDecision host e.key.1 e.key.2 false generated).Throws db₁ error) ↔
          generated.providerResult.isSome ∧
            (e.key.2.head? = some 0 ∨ (s.db.providers.snapshotFor e.key.1 e.key.2).isSome)) := by
  refine ⟨fun key hbound hnew ls t hrun => ?_, fun key snapshot hpinned ls t hrun => ?_, ?_, ?_⟩
  · have hinv := (inv_inductive fun _ h => Unpinned.fresh h).reachable hs
    exact (bound_kept hrun ⟨hbound, not_foundUnbound_of_new hinv hnew⟩).2
  · intro token e pending decision work he hkey hphase
    exact call_pinned hs hpinned hrun he hkey hphase
  · intro l t hstep key message sent hpending hcomplete
    exact hstep.outcome_pinned hs hpending hcomplete
  · intro token e pending generated work message speaker snapshot reply db₁ he hphase hpending
      hdecision hsha hshort hfresh hreply
    exact commitDecision_throws_iff hs he hphase hpending hdecision hsha hshort hfresh hreply

end

/-! ## A bound room -/

namespace HelloCloud

def connection : ConnectionProfile where
  id := ofString "cloud"
  revision := 1
  target := .approvedProvider .openrouter

def model : ModelProfile where
  id := ofString "model"
  revision := 1
  connection := ⟨ofString "cloud", 1⟩
  modelId := ofString "maker/model-a"
  requiredCapabilities := [.chat]
  generation := { temperature := 1, maxOutputTokens := 512 }

def observation : ProviderObservation where
  id := ofString "observation-1"
  connection := ⟨ofString "cloud", 1⟩
  health := .ready
  capabilityFingerprint :=
    ofString "sha256:33bb12272715cacb6b156077338c3fb1a667d17d0522af5d4ba56467da724adc"
  evidence := [(ofString "chat", true)]

def binding : RoomBinding where
  id := ofString "binding-1"
  revision := 1
  roomId := Hello.roomId
  purpose := .personaDefault
  model := ⟨ofString "model", 1⟩

def tables : ProviderTables where
  connectionProfileRevisions := (∅ : KeyedTable _ _).insert (ofString "cloud", 1)
    ⟨.enabled, connection⟩
  modelProfileRevisions := (∅ : KeyedTable _ _).insert (ofString "model", 1) ⟨.enabled, model⟩
  observations := [observation]
  roomBindingRevisions := (∅ : KeyedTable _ _).insert (ofString "binding-1", 1) binding

/-- The room of `Hello`, bound. -/
def db : Db := { Hello.db with providers := tables }

def evidence : ProviderDecisionEvidence where
  adapterVersion := ofString "1.0.0"
  directorRevision := 1
  policyRevision := 1

def service : Service where
  options := { pendingWorkLeaseMs := 30000, providerDecisionEvidence := some evidence }

/-- An ordinary request, or one that begins with U+0000. -/
def requestId (zero : Bool) : RequestId :=
  if zero then 0 :: ofString "abc" else ofString "request-1"

def decision : ResolvedRoomProviderDecision :=
  ⟨binding, connection.toSnapshotConnectionProfile, model, observation⟩

/-- The digest is the same for either request. -/
def snapshot : DecisionSnapshot :=
  pinnedDecision Hello.host evidence Hello.roomId (requestId false) decision

def generated : GeneratedMessage where
  providerResult := some (.text (ofString "Hi"))
  providerDecision := some snapshot

section

variable (zero : Bool)

def raw : SendMessageCommand := { Hello.raw with requestId := requestId zero }

def command : MessageCommand := { Hello.command with requestId := requestId zero }

def pending : PendingMessage := { Hello.pending with requestId := requestId zero }

def called : Execution where
  service := 0
  command := command zero
  requestDigest := (command zero).digest Hello.host

def prepared : Except JsError PreparedMessage × Db :=
  transact {} (prepareMessage service.options (command zero) ((command zero).digest Hello.host)
    Hello.token 1000) db

def pinnedDb : Db := { (prepared zero).2 with
  commands := KeyedTable.modify (fun key row =>
    if key = (command zero).key && row.claimOwner = some Hello.token then
      { row with result := .pending { pending zero with providerDecision := some snapshot } }
    else row) (prepared zero).2.commands }

def claimed : Execution := (called zero).afterPrepare 0 (.ok (.claimed (pending zero)))

def completing : Execution :=
  { claimed zero with phase := .completing (pending zero) generated (some 0) }

def s₀ : System := { db := Hello.db }

def s₁ : System := s₀.setService 0 service

def s₂ : System := { s₁ with db }

def s₃ : System := { s₂ with
  services := s₂.services.insert 0 { service with
    inFlight := service.inFlight.insert (command zero).key Hello.token }
  executions := s₂.executions.insert Hello.token (called zero)
  callers := ⟨command zero, Hello.token⟩ :: s₂.callers }

def s₄ : System :=
  (((s₃ zero).commit (some (called zero).key) (prepared zero).2).grantIfClaimed (called zero).key
    Hello.token (.ok (.claimed (pending zero)))).setExecution Hello.token (claimed zero)

def s₅ : System :=
  (s₄ zero).setExecution Hello.token ((claimed zero).enter (pending zero) .pinning)

def s₆ : System :=
  ((s₅ zero).commit (some (called zero).key) (pinnedDb zero)).setExecution Hello.token
    (((claimed zero).enter (pending zero) .pinning).afterPin (pending zero) (.ok (some snapshot)))

def s₇ : System := (s₆ zero).setExecution Hello.token
  ((claimed zero).enter (pending zero) (.starting (some snapshot)))

def s₈ : System :=
  ({ s₇ zero with works := (s₇ zero).works.insert 0 {
      token := Hello.token
      invitation := invitation Hello.roomId (pending zero) Hello.persona Hello.persona
      grant := 0 } } : System).setExecution Hello.token
    ((claimed zero).enter (pending zero) (.racing (some snapshot) 0))

def s₉ : System :=
  { s₈ zero with works := (s₈ zero).works.insert 0 {
      token := Hello.token
      invitation := invitation Hello.roomId (pending zero) Hello.persona Hello.persona
      outcome := some (.ok Hello.reply)
      grant := 0 } }

def s₁₀ : System := (s₉ zero).setExecution Hello.token (completing zero)

/-- What the reply is committed to. -/
def appended : Db :=
  (s₁₀ zero).db.appended Hello.roomId 3 (.personaMessage Hello.persona 1 (ofString "Hi"))

end

def replied : SendMessageResult where
  requestId := requestId false
  humanEventSequence := 1
  directorEventSequence := 2
  personaEventSequence := some 3
  decision := ⟨some Hello.persona, .selected⟩
  outcome := .text
  generation := 0

def completedDb : Db := { appended false with
  providers := { tables with
    decisionSnapshots := tables.decisionSnapshots.insert snapshot.id
      (snapshotRecord (command false).key snapshot) }
  commands := KeyedTable.modify (fun key row =>
    if key = (command false).key && row.claimOwner = some Hello.token then
      { row with
        result := .complete (.message replied), claimOwner := none, claimExpiresAt := none }
    else row) (appended false).commands }

def s₁₁ : System :=
  ((s₁₀ false).commit (some (called false).key) completedDb).setExecution Hello.token
    ((completing false).afterComplete (.ok (some (.message replied))))

theorem unpinned : Unpinned Hello.db where
  fresh := Hello.fresh
  keyed := ⟨.of_empty rfl, .of_empty rfl, fun _ _ _ h => by cases h⟩
  decisionSnapshots := rfl

/-- Profiles, an observation and a binding come into the database. -/
theorem providerChange : ProviderChange Hello.db db := by
  have hstep : ∀ (operation : ProviderOperation) (db db' : Db),
      transact {} operation.program db = (.ok (), db') → ProviderChange db db' :=
    fun operation db db' h => .single ⟨operation, returns_of_transact h⟩
  refine (hstep (.connection (.create connection)) _ _ rfl).trans ?_
  refine (hstep (.model (.create model)) _ _ rfl).trans ?_
  refine (hstep (.observe observation) _ _ rfl).trans ?_
  exact hstep (.bind binding) _ _ rfl

theorem resolves : Resolves tables Hello.roomId .personaDefault decision where
  binding := rfl
  model := rfl
  modelCurrent := ⟨_, rfl, rfl⟩
  connection := ⟨connection, rfl, rfl⟩
  connectionCurrent := ⟨_, rfl, rfl⟩
  observation := rfl
  ready := rfl

theorem parses : Parse.parseDecisionSnapshot id (.ofJson snapshot.toJson) = .ok snapshot := by
  decide

theorem prepares (zero : Bool) : transact {} (prepareMessage service.options (command zero)
    ((command zero).digest Hello.host) Hello.token 1000) db =
      (.ok (.claimed (pending zero)), (prepared zero).2) := by
  cases zero <;> rfl

theorem row (zero : Bool) : (prepared zero).2.commands.lookup (command zero).key = some {
    requestDigest := (command zero).digest Hello.host
    result := .pending (pending zero)
    claimOwner := some Hello.token
    claimExpiresAt := some 31000 } := by
  cases zero <;> rfl

theorem snapshot_eq (zero : Bool) : pinnedDecision Hello.host evidence (command zero).key.1
    (command zero).key.2 decision = snapshot := by
  cases zero <;> rfl

theorem pins (zero : Bool) : transact {} (pinProviderDecision Hello.host service.options
    (command zero).key.1 (command zero).key.2 Hello.token) (prepared zero).2 =
      (.ok (some snapshot), pinnedDb zero) := by
  have hproviders : (prepared zero).2.providers = tables := by cases zero <;> rfl
  have hresolves : Resolves (prepared zero).2.providers (command zero).key.1 .personaDefault
      decision := by
    rw [hproviders]
    exact resolves
  obtain ⟨n, hupdate⟩ : ∃ n, Db.updateCommands
      (fun k row => k = (command zero).key && row.claimOwner = some Hello.token)
      (fun row => { row with result := .pending { pending zero with
        providerDecision := some snapshot } }) (prepared zero).2 = .ok (n, pinnedDb zero) := by
    rw [Db.updateCommands, if_pos (by cases zero <;> rfl)]
    exact ⟨_, rfl⟩
  have hparse : Parse.parseDecisionSnapshot Hello.host.normalize
      (.ofJson (pinnedDecision Hello.host evidence (command zero).key.1 (command zero).key.2
        decision).toJson) = .ok (pinnedDecision Hello.host evidence (command zero).key.1
          (command zero).key.2 decision) := by
    rw [snapshot_eq]
    exact parses
  rw [← snapshot_eq zero] at hupdate ⊢
  exact transact_of_runs (pinProviderDecision_runs (row zero) rfl rfl rfl rfl hresolves hparse
    hupdate)

theorem run (zero : Bool) : (roomSystem Hello.host Unpinned).Run s₀ [.other, .other, .other,
    .transaction (.prepare Hello.token 1000) none, .other, .transaction (.pin Hello.token) none,
    .other, .other, .other, .other] (s₁₀ zero) := by
  have hname : transact {} (providerPersonaId Hello.roomId Hello.persona) (s₇ zero).db =
      (.ok Hello.persona, (s₇ zero).db) := by cases zero <;> rfl
  have hpin : transact {} (pinProviderDecision Hello.host service.options (command zero).key.1
      (command zero).key.2 Hello.token) (s₅ zero).db = (.ok (some snapshot), pinnedDb zero) := by
    have hdb : (s₅ zero).db = (prepared zero).2 := by cases zero <;> rfl
    rw [hdb]
    exact pins zero
  refine .cons (.openService s₀ 0 service.options (by decide)) ?_
  refine .cons (.providers s₁ db providerChange) ?_
  refine .cons (.call s₂ 0 service (raw zero) (command zero) Hello.token rfl rfl
    (by cases zero <;> rfl) (by cases zero <;> decide) (by decide)) ?_
  refine .cons (.prepare (s₃ zero) Hello.token (called zero) _ {} 1000 _ _ (AList.lookup_insert _)
    rfl rfl rfl (prepares zero)) ?_
  refine .cons (.move (s₄ zero) Hello.token (claimed zero) _ _ (AList.lookup_insert _) rfl
    (.fresh (pending zero) Hello.persona rfl rfl (by cases zero <;> rfl))) ?_
  refine .cons (.pin (s₅ zero) Hello.token ((claimed zero).enter (pending zero) .pinning) _
    (pending zero) {} _ _ (AList.lookup_insert _) rfl rfl hpin) ?_
  refine .cons (.move (s₆ zero) Hello.token _ _ _ (AList.lookup_insert _) rfl
    (.confirmed (pending zero) snapshot rfl)) ?_
  refine .cons (.startWork (s₇ zero) Hello.token _ (pending zero) (some snapshot) Hello.persona
    Hello.persona 0 0 (AList.lookup_insert _) rfl rfl (returns_of_transact hname)
    (by cases zero <;> decide) rfl) ?_
  refine .cons (.settleWork (s₈ zero) 0 _ (.ok Hello.reply) (AList.lookup_insert _) rfl) ?_
  exact .single (.move (s₉ zero) Hello.token _ _ _ (AList.lookup_insert _) rfl
    (.delivered (pending zero) (some snapshot) 0 _ Hello.reply _ rfl (AList.lookup_insert _) rfl rfl
      rfl rfl))

theorem reachable (zero : Bool) : (roomSystem Hello.host Unpinned).Reachable (s₁₀ zero) :=
  ⟨s₀, _, ⟨unpinned, rfl⟩, run zero⟩

/-- There is one execution. -/
theorem only {token : Token} {e : Execution} (h : (s₁₀ false).executions.lookup token = some e) :
    e = completing false := by
  have hentries : (s₁₀ false).executions.entries = [⟨Hello.token, completing false⟩] := rfl
  have hmem := KeyedTable.mem_entries_iff.mpr h
  rw [hentries, List.mem_singleton] at hmem
  exact eq_of_heq (Sigma.mk.inj hmem).2

theorem printsShort : PrintsShort Hello.host.numbers snapshot :=
  show ∀ x ∈ snapshotNumbers snapshot, (Hello.host.numbers.print x).length ≤ 25 by decide

theorem fresh (zero : Bool) : (generatedIsStale (command zero).key.1 (pending zero) Hello.persona
    generated).Runs (s₁₀ zero).db false (s₁₀ zero).db := by
  cases zero
  all_goals exact fun n => rfl

theorem replies (zero : Bool) : (appendReply (command zero).key.1 (pending zero) Hello.persona false
    generated.providerResult).Runs (s₁₀ zero).db (some 3, .text) (appended zero) := by
  cases zero
  all_goals exact fun n => rfl

/-- The decision is committed with the reply, for the ordinary request. -/
theorem commits : (commitDecision Hello.host (command false).key.1 (command false).key.2 false
    generated).Runs (appended false) () { appended false with
      providers := { tables with
        decisionSnapshots := tables.decisionSnapshots.insert snapshot.id
          (snapshotRecord (command false).key snapshot) } } := by
  have hproviders : (appended false).providers = tables := rfl
  have hkeyed : tables.Keyed := providerChange.step.keyed unpinned.keyed
  have hvalid : validatedRecord Hello.host (snapshotRecord (command false).key snapshot).toInput =
      .ok (snapshotRecord (command false).key snapshot) :=
    validatedRecord_ok.mpr ⟨show ¬ (Hello.roomId = [] ∨ 128 < Hello.roomId.length ∨
        trim Hello.roomId ≠ Hello.roomId) by decide,
      show ¬ (requestId false = [] ∨ 256 < (requestId false).length ∨
        trim (requestId false) ≠ requestId false) by decide, rfl, parses, rfl, rfl, rfl, rfl, rfl⟩
  refine .bind (commitDecisionSnapshotInTransaction_runs hvalid printsShort
    (show (requestId false).head? ≠ some 0 by decide) hkeyed resolves rfl rfl (by decide)
    (by decide) rfl) (.pure _ _)

/-- What the commit leaves behind. -/
theorem completesClaimed : (completeClaimed Hello.host Hello.roomId (requestId false)
    (pending false) generated Hello.token).Runs (s₁₀ false).db (.message replied) completedDb := by
  obtain ⟨n, hupdate⟩ : ∃ n, Db.updateCommands
      (fun k row => k = (command false).key && row.claimOwner = some Hello.token)
      (fun row => { row with
        result := .complete (.message replied), claimOwner := none, claimExpiresAt := none })
      { appended false with
        providers := { tables with
          decisionSnapshots := tables.decisionSnapshots.insert snapshot.id
            (snapshotRecord (command false).key snapshot) } } = .ok (n, completedDb) := by
    rw [Db.updateCommands, if_pos (by rfl)]
    exact ⟨_, rfl⟩
  refine .bind (a := Hello.persona) (.orThrow rfl) (.bind (fresh false) (.bind (replies false) ?_))
  exact .bind commits (.bind (.statement hupdate) (.pure _ _))

theorem completes : (completeMessage Hello.host Hello.roomId (requestId false) (pending false)
    generated Hello.token 2000).Runs (s₁₀ false).db (some (.message replied)) completedDb := by
  have hrow : (s₁₀ false).db.commands.lookup (command false).key = some {
      requestDigest := (command false).digest Hello.host
      result := .pending { pending false with providerDecision := some snapshot }
      claimOwner := some Hello.token
      claimExpiresAt := some 31000 } := rfl
  refine .bind (.query _ _) (.bind (.orThrow hrow) ?_)
  dsimp only
  rw [if_neg (by simp)]
  refine .bind (a := 2000) (.pure _ _) ?_
  rw [if_neg (by decide)]
  exact .bind completesClaimed (.pure _ _)

theorem completing_step :
    Step Hello.host (s₁₀ false) (.transaction (.complete Hello.token 2000) none) s₁₁ :=
  .complete (s₁₀ false) Hello.token (completing false) _ (pending false) generated (some 0) {}
    2000 _ _ (AList.lookup_insert _) rfl rfl rfl (transact_of_runs completes)

end HelloCloud

open HelloCloud in
/-- The reply in the bound room comes with its decision, and could not have failed to. -/
theorem provider_pinning_cloud :
    ((s₁₀ false).db.pinned (command false).key = some snapshot ∧
      Current (s₁₀ false).db.providers snapshot ∧
      OneSnapshot s₁₁.db.providers (command false).key
        (snapshotRecord (command false).key snapshot)) ∧
    ∀ error, ¬ (commitDecision Hello.host (command false).key.1 (command false).key.2 false
      generated).Throws (appended false) error := by
  obtain ⟨-, -, houtcome, hcommit⟩ := provider_pinning (reachable false)
  constructor
  · obtain ⟨token, e, pending', generated', work, he, -, hphase, h⟩ :=
      houtcome _ _ completing_step (command false).key
        { pending false with providerDecision := some snapshot } replied rfl rfl
    obtain rfl := only he
    obtain ⟨rfl, rfl, rfl⟩ :
        pending' = pending false ∧ generated' = generated ∧ work = some 0 := by
      simpa [completing, eq_comm] using hphase
    obtain ⟨hpinned, hcurrent, -, hlater⟩ := h.committed (.inl rfl) snapshot rfl
    exact ⟨hpinned, hcurrent, hlater [] _ (.nil _)⟩
  · have hiff := hcommit Hello.token (completing false) (pending false) generated (some 0)
      { pending false with providerDecision := some snapshot } Hello.persona snapshot
      (some 3, .text) (appended false) (AList.lookup_insert _) rfl rfl rfl
      (fun _ _ h => by cases h) printsShort (fresh false).returns (replies false).returns
    intro error h
    rcases (hiff.mp ⟨error, h⟩).2 with hzero | htaken
    · exact absurd hzero (by decide)
    · cases htaken

open HelloCloud in
/-- A reply whose decision is current is not committed: its request begins with U+0000. -/
theorem provider_pinning_fails :
    (roomSystem Hello.host Unpinned).Reachable (s₁₀ true) ∧
    (s₁₀ true).executions.lookup Hello.token = some (completing true) ∧
    (s₁₀ true).db.pinned (command true).key = some snapshot ∧
    (generatedIsStale (command true).key.1 (pending true) Hello.persona generated).Returns
      (s₁₀ true).db false (s₁₀ true).db ∧
    (appendReply (command true).key.1 (pending true) Hello.persona false
      generated.providerResult).Returns (s₁₀ true).db (some 3, .text) (appended true) ∧
    ∃ error, (commitDecision Hello.host (command true).key.1 (command true).key.2 false
      generated).Throws (appended true) error := by
  refine ⟨reachable true, AList.lookup_insert _, rfl, (fresh true).returns,
    (replies true).returns, ?_⟩
  have he : (s₁₀ true).executions.lookup Hello.token = some (completing true) :=
    AList.lookup_insert _
  have hpending : (s₁₀ true).db.stored (completing true).key =
      some (.pending { pending true with providerDecision := some snapshot }) := rfl
  exact (commitDecision_throws_iff (reachable true) he rfl hpending rfl
    (fun _ _ h => by cases h) printsShort (fresh true).returns (replies true).returns).mpr
    ⟨rfl, .inl (by decide)⟩

end GreenRoom.Runtime
