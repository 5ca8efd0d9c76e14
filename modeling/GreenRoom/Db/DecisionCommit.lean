import GreenRoom.Db.ProviderSnapshots
import GreenRoom.Db.ProviderStore

/-!
# Committing a provider decision

Three questions are asked of a decision in three places: what a room resolves to,
whether a decision is still what its room resolves to, and whether a snapshot may be
committed.  The first reads the tables; the second compares numbers; the third
compares whole records.  Over tables that only grow, and that keep a record under
its own name and number, the second implies the third.

## Main definitions

* `Resolves` — what a room resolves to.
* `ResolvedRoomProviderDecision.SameNumbers` — the comparison of
  `isResolvedRoomProviderDecisionCurrent`.
* `Backed` — every part of a decision is in its table.
* `Recorded` — a snapshot has been committed.

## Main results

* `resolveRoomProviderDecision_returns`, `resolveRoomProviderDecision_runs`
* `sameExactDecision_of_current` — the same numbers are the same records.
* `commitDecisionSnapshotInTransaction_recorded`, `commitDecisionSnapshotInTransaction_runs`
-/

namespace GreenRoom

open JsString Providers

/-! ## Resolving -/

/-- The room resolves to `d`: its newest binding names the newest revision of a model,
which names the newest revision of a connection; both are enabled, and what was last
observed of the connection is that it is ready. -/
structure Resolves (tables : ProviderTables) (roomId : RoomId) (purpose : BindingPurpose)
    (d : ResolvedRoomProviderDecision) : Prop where
  binding : (tables.roomBindingRevisions.newest fun _ binding =>
    binding.roomId = roomId && binding.purpose = purpose) = some d.binding
  model : tables.modelProfileRevisions.lookup
    (d.binding.model.profileId, d.binding.model.revision) = some ⟨.enabled, d.model⟩
  modelCurrent : ∃ current, (tables.modelProfileRevisions.newest fun id _ =>
    id = d.binding.model.profileId) = some current ∧
      current.profile.revision = d.binding.model.revision
  connection : ∃ profile, tables.connectionProfileRevisions.lookup
    (d.model.connection.profileId, d.model.connection.revision) = some ⟨.enabled, profile⟩ ∧
      profile.toSnapshotConnectionProfile = d.connection
  connectionCurrent : ∃ current, (tables.connectionProfileRevisions.newest fun id _ =>
    id = d.model.connection.profileId) = some current ∧
      current.profile.revision = d.model.connection.revision
  observation : (tables.observations.filter fun o => o.connection = d.model.connection).getLast? =
    some d.observation
  ready : d.observation.health = .ready

theorem resolveRoomProviderDecision_returns {roomId : RoomId} {purpose : BindingPurpose}
    {db db' : Db} {d : ResolvedRoomProviderDecision}
    (h : (resolveRoomProviderDecision roomId purpose).Returns db d db') :
    Resolves db.providers roomId purpose d := by
  simp only [resolveRoomProviderDecision, readEffectiveRoomBinding, readModelProfile,
    readCurrentModelProfile, readConnectionProfile, readCurrentConnectionProfile,
    readLatestConnectionObservation, ProfileKind.readCurrent, Program.returns_bind,
    Program.returns_query, Program.returns_orThrow, Program.returns_require,
    Program.returns_pure, and_assoc, exists_and_left, exists_eq_left] at h
  obtain ⟨binding, hbinding, ⟨state, model⟩, hmodel, hmodelCurrent, hstate, _, _,
    ⟨state', connection⟩, hconnection, hconnectionCurrent, hstate', _, _, observation,
    hobservation, hready, rfl, -⟩ := h
  obtain rfl : state = .enabled := hstate
  obtain rfl : state' = .enabled := hstate'
  exact ⟨hbinding, hmodel, Option.map_eq_some_iff.mp hmodelCurrent, ⟨connection, hconnection, rfl⟩,
    Option.map_eq_some_iff.mp hconnectionCurrent, hobservation, hready⟩

/-- What a room resolves to is what is returned. -/
theorem resolveRoomProviderDecision_runs {roomId : RoomId} {purpose : BindingPurpose}
    {db : Db} {d : ResolvedRoomProviderDecision} (hd : Resolves db.providers roomId purpose d) :
    (resolveRoomProviderDecision roomId purpose).Runs db d db := by
  obtain ⟨current, hcurrent, hrevision⟩ := hd.modelCurrent
  obtain ⟨profile, hprofile, hsnapshot⟩ := hd.connection
  obtain ⟨current', hcurrent', hrevision'⟩ := hd.connectionCurrent
  refine .bind (.query _ _) (.bind (.orThrow hd.binding) ?_)
  refine .bind (.query _ _) (.bind (.orThrow hd.model) (.bind (.query _ _) ?_))
  refine .bind (.require (Option.map_eq_some_iff.mpr ⟨current, hcurrent, hrevision⟩)) ?_
  refine .bind (.require rfl) (.bind (.query _ _) (.bind (.orThrow hprofile) ?_))
  refine .bind (.query _ _)
    (.bind (.require (Option.map_eq_some_iff.mpr ⟨current', hcurrent', hrevision'⟩)) ?_)
  refine .bind (.require rfl) (.bind (.query _ _) (.bind (.orThrow hd.observation) ?_))
  refine .bind (.require hd.ready) ?_
  rw [hsnapshot]
  exact .pure d db

/-! ## The same decision -/

/-- The numbers `isResolvedRoomProviderDecisionCurrent` compares. -/
structure ResolvedRoomProviderDecision.SameNumbers
    (current decision : ResolvedRoomProviderDecision) : Prop where
  binding : current.binding.id = decision.binding.id ∧
    current.binding.revision = decision.binding.revision
  model : current.model.id = decision.model.id ∧ current.model.revision = decision.model.revision
  connection : current.connection.id = decision.connection.id ∧
    current.connection.revision = decision.connection.revision
  fingerprint :
    current.observation.capabilityFingerprint = decision.observation.capabilityFingerprint

theorem isResolvedRoomProviderDecisionCurrent_true {decision : ResolvedRoomProviderDecision}
    {db db' : Db} (h : (isResolvedRoomProviderDecisionCurrent decision).Returns db true db') :
    ∃ current, Resolves db.providers decision.binding.roomId decision.binding.purpose current ∧
      current.SameNumbers decision := by
  rcases h.attempt with h | ⟨e, db₁, h⟩
  · simp only [Program.returns_bind, Program.returns_pure] at h
    obtain ⟨current, db₁, hresolve, hsame, -⟩ := h
    refine ⟨current, resolveRoomProviderDecision_returns hresolve, ?_⟩
    simp only [eq_comm (a := true), Bool.and_eq_true, decide_eq_true_eq] at hsame
    obtain ⟨⟨⟨⟨⟨⟨hb, hb'⟩, hm⟩, hm'⟩, hc⟩, hc'⟩, hf⟩ := hsame
    exact ⟨⟨hb, hb'⟩, ⟨hm, hm'⟩, ⟨hc, hc'⟩, hf⟩
  · cases (Program.returns_pure.mp h).1

/-- Every part of a decision is in its table, under its name and number. -/
structure Backed (tables : ProviderTables) (snapshot : DecisionSnapshot) : Prop where
  binding : tables.roomBindingRevisions.lookup (snapshot.binding.id, snapshot.binding.revision) =
    some snapshot.binding
  model : ∃ state, tables.modelProfileRevisions.lookup
    (snapshot.model.id, snapshot.model.revision) = some ⟨state, snapshot.model⟩
  connection : ∃ row, tables.connectionProfileRevisions.lookup
    (snapshot.connection.id, snapshot.connection.revision) = some row ∧
      row.profile.toSnapshotConnectionProfile = snapshot.connection
  generation : snapshot.effectiveGeneration = snapshot.model.generation

theorem Backed.grown {tables tables' : ProviderTables} {snapshot : DecisionSnapshot}
    (h : Backed tables snapshot) (hgrown : tables.Grown tables') : Backed tables' snapshot := by
  obtain ⟨state, hmodel⟩ := h.model
  obtain ⟨row, hrow, hprofile⟩ := h.connection
  exact ⟨hgrown.bindings _ _ h.binding, ⟨state, hgrown.models _ _ hmodel⟩,
    ⟨row, hgrown.connections _ _ hrow, hprofile⟩, h.generation⟩

section

variable {tables : ProviderTables} {roomId : RoomId} {purpose : BindingPurpose}
  {d : ResolvedRoomProviderDecision}

/-- What a room resolves to is found under the names and numbers it carries. -/
theorem Resolves.found (h : Resolves tables roomId purpose d) (hkeyed : tables.Keyed) :
    tables.roomBindingRevisions.lookup (d.binding.id, d.binding.revision) = some d.binding ∧
      tables.modelProfileRevisions.lookup (d.model.id, d.model.revision) =
        some ⟨.enabled, d.model⟩ ∧
      ∃ profile, tables.connectionProfileRevisions.lookup (d.connection.id, d.connection.revision) =
        some ⟨.enabled, profile⟩ ∧ profile.toSnapshotConnectionProfile = d.connection := by
  refine ⟨?_, ?_, ?_⟩
  · obtain ⟨id, n, hrow, -, -⟩ := RevisionTable.of_newest h.binding
    obtain ⟨rfl, rfl⟩ := hkeyed.bindings id n _ hrow
    exact hrow
  · obtain ⟨hid, hrevision⟩ := hkeyed.models.keyed _ _ _ h.model
    rw [show d.model.id = _ from hid, show d.model.revision = _ from hrevision]
    exact h.model
  · obtain ⟨profile, hrow, hprofile⟩ := h.connection
    obtain ⟨hid, hrevision⟩ := hkeyed.connections.keyed _ _ _ hrow
    rw [← hprofile, show profile.id = _ from hid, show profile.revision = _ from hrevision]
    exact ⟨profile, hrow, rfl⟩

/-- **The same numbers are the same records.** -/
theorem sameExactDecision_of_current (hkeyed : tables.Keyed) {snapshot : DecisionSnapshot}
    (hbacked : Backed tables snapshot) (hresolves : Resolves tables roomId purpose d)
    (hbinding : d.binding.id = snapshot.binding.id ∧
      d.binding.revision = snapshot.binding.revision)
    (hmodel : d.model.id = snapshot.model.id ∧ d.model.revision = snapshot.model.revision)
    (hconnection : d.connection.id = snapshot.connection.id ∧
      d.connection.revision = snapshot.connection.revision) :
    sameExactDecision d snapshot = true := by
  obtain ⟨hfound, hfound', profile, hfound'', hprofile⟩ := hresolves.found hkeyed
  rw [hbinding.1, hbinding.2] at hfound
  rw [hmodel.1, hmodel.2] at hfound'
  rw [hconnection.1, hconnection.2] at hfound''
  obtain ⟨state, hrow⟩ := hbacked.model
  obtain ⟨row, hrow', hprofile'⟩ := hbacked.connection
  have hb : d.binding = snapshot.binding := Option.some.inj (hfound.symm.trans hbacked.binding)
  have hm : d.model = snapshot.model :=
    congrArg ProfileRevision.profile (Option.some.inj (hfound'.symm.trans hrow))
  have hc : d.connection = snapshot.connection := by
    rw [← hprofile, ← hprofile', ← Option.some.inj (hfound''.symm.trans hrow')]
  simp [sameExactDecision, hb, hm, hc, hbacked.generation]

end

/-! ## Committing -/

/-- A snapshot has been committed: the decision is what its room resolves to, and its
record is new. -/
structure Recorded (record : DecisionSnapshotRecord) (tables tables' : ProviderTables) : Prop where
  resolves : ∃ current, Resolves tables record.snapshot.binding.roomId
    record.snapshot.binding.purpose current ∧ sameExactDecision current record.snapshot = true ∧
      current.observation.capabilityFingerprint = record.snapshot.capabilityFingerprint
  newId : record.snapshot.id ∉ tables.decisionSnapshots
  newRequest : tables.snapshotFor record.roomId record.requestId = none
  result : tables' = { tables with
    decisionSnapshots := tables.decisionSnapshots.insert record.snapshot.id record }

/-- A snapshot that has been committed is in its table. -/
theorem Recorded.lookup {record : DecisionSnapshotRecord} {tables tables' : ProviderTables}
    (h : Recorded record tables tables') (id : JsString) :
    tables'.decisionSnapshots.lookup id =
      if id = record.snapshot.id then some record else tables.decisionSnapshots.lookup id := by
  rw [h.result, KeyedTable.lookup_insert]

/-- The request had no snapshot before. -/
theorem Recorded.newKey {record other : DecisionSnapshotRecord} {tables tables' : ProviderTables}
    (h : Recorded record tables tables') {id : JsString}
    (hother : tables.decisionSnapshots.lookup id = some other) :
    (other.roomId, other.requestId) ≠ (record.roomId, record.requestId) := by
  intro hkey
  obtain ⟨hroomId, hrequestId⟩ := Prod.mk.inj hkey
  have hnone := ProviderTables.snapshotFor_eq_none.mp h.newRequest id other hother
  simp [hroomId, hrequestId] at hnone

/-- It has the one that has been committed. -/
theorem Recorded.snapshotFor {record : DecisionSnapshotRecord} {tables tables' : ProviderTables}
    (h : Recorded record tables tables') :
    tables'.snapshotFor record.roomId record.requestId = some record := by
  have hlookup := h.lookup record.snapshot.id
  rw [if_pos rfl] at hlookup
  cases hfound : tables'.snapshotFor record.roomId record.requestId with
  | none =>
      have hnone := ProviderTables.snapshotFor_eq_none.mp hfound _ record hlookup
      simp at hnone
  | some other =>
      obtain ⟨id, hother, hsame⟩ := ProviderTables.snapshotFor_eq_some hfound
      rw [h.lookup] at hother
      split at hother
      · exact hother.symm
      · exact absurd hsame (ProviderTables.snapshotFor_eq_none.mp h.newRequest id other hother)

/-- The input a record is committed from. -/
def DecisionSnapshotRecord.toInput (record : DecisionSnapshotRecord) :
    CommitDecisionSnapshotInput where
  roomId := record.roomId
  requestId := record.requestId
  snapshot := .ofJson record.snapshot.toJson
  providerDefinition := record.providerDefinition
  routingPolicy := SINGLE_ATTEMPT_ROUTING_POLICY

/-- A record is accepted as it is, or not at all. -/
theorem validatedRecord_toInput {host : Host} {record accepted : DecisionSnapshotRecord}
    (h : validatedRecord host record.toInput = .ok accepted) : accepted = record := by
  obtain ⟨-, -, -, hparsed, -, -, hroomId, hrequestId, hdefinition⟩ := validatedRecord_ok.mp h
  have hsnapshot := Parse.parseDecisionSnapshot_reads hparsed
  obtain ⟨roomId, requestId, snapshot, definition⟩ := record
  obtain ⟨roomId', requestId', snapshot', definition'⟩ := accepted
  obtain rfl : roomId' = roomId := hroomId
  obtain rfl : requestId' = requestId := hrequestId
  obtain rfl : snapshot' = snapshot := hsnapshot
  obtain rfl : definition' = definition := hdefinition
  rfl

section

variable {host : Host} {input : CommitDecisionSnapshotInput} {record : DecisionSnapshotRecord}
  {db db' : Db}

/-- A commit that returns has recorded what was accepted. -/
theorem commitDecisionSnapshotInTransaction_recorded
    (h : (commitDecisionSnapshotInTransaction host input).Returns db record db') :
    validatedRecord host input = .ok record ∧ record.requestId.head? ≠ some 0 ∧
      Recorded record db.providers db'.providers ∧
      db' = { db with providers := db'.providers } := by
  simp only [commitDecisionSnapshotInTransaction, Program.returns_bind, Program.returns_ofExcept,
    Program.returns_require, Program.returns_statement, Program.returns_pure] at h
  obtain ⟨_, _, ⟨hvalid, rfl⟩, current, db₁, hresolve, _, _, ⟨hsame, rfl⟩, _, _, ⟨hprint, rfl⟩, _,
    db₂, hinsert, rfl, rfl⟩ := h
  have hresolves := resolveRoomProviderDecision_returns hresolve
  obtain rfl := (resolveRoomProviderDecision_readOnly _ _).returns hresolve
  obtain ⟨hcheck, hid, hrequest, hresult⟩ := Db.insertDecisionSnapshot_eq_ok hinsert
  rw [hresult]
  exact ⟨hvalid, Db.head_of_checkDecisionSnapshot hcheck,
    ⟨⟨current, hresolves, hsame, hprint⟩, hid, hrequest, rfl⟩, rfl⟩

/-- **A decision found current is committed**, if its request and its name are new and the
request does not begin with U+0000. -/
theorem commitDecisionSnapshotInTransaction_runs {current : ResolvedRoomProviderDecision}
    (hvalid : validatedRecord host input = .ok record)
    (hshort : PrintsShort host.numbers record.snapshot)
    (hhead : record.requestId.head? ≠ some 0)
    (hkeyed : db.providers.Keyed)
    (hresolves : Resolves db.providers record.snapshot.binding.roomId
      record.snapshot.binding.purpose current)
    (hsame : sameExactDecision current record.snapshot = true)
    (hprint : current.observation.capabilityFingerprint = record.snapshot.capabilityFingerprint)
    (hroom : record.roomId ∈ db.rooms) (hid : record.snapshot.id ∉ db.providers.decisionSnapshots)
    (hrequest : db.providers.snapshotFor record.roomId record.requestId = none) :
    (commitDecisionSnapshotInTransaction host input).Runs db record { db with
      providers := { db.providers with
        decisionSnapshots :=
          db.providers.decisionSnapshots.insert record.snapshot.id record } } := by
  refine .bind (.ofExcept hvalid) (.bind (resolveRoomProviderDecision_runs hresolves) ?_)
  refine .bind (.require hsame) (.bind (.require hprint) ?_)
  refine .bind (a := ()) (.statement ?_) (.pure _ _)
  obtain ⟨hfound, hfound', profile, hfound'', -⟩ := hresolves.found hkeyed
  simp only [sameExactDecision, Bool.and_eq_true, decide_eq_true_eq] at hsame
  obtain ⟨⟨⟨hbinding, hconnection⟩, hmodel⟩, -⟩ := hsame
  rw [hbinding] at hfound
  rw [hmodel] at hfound'
  rw [hconnection] at hfound''
  rw [Db.insertDecisionSnapshot, Db.checkDecisionSnapshot_of_validated hvalid hshort hhead]
  change (if _ then _ else _) = _
  rw [if_neg hid, if_neg (by simp [hrequest]), if_pos]
  exact ⟨hroom, RevisionTable.mem_iff_exists.mpr ⟨_, hfound⟩,
    RevisionTable.mem_iff_exists.mpr ⟨_, hfound''⟩, RevisionTable.mem_iff_exists.mpr ⟨_, hfound'⟩⟩

end

end GreenRoom
