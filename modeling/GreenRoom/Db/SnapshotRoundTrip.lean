import GreenRoom.Db.DecisionCommit
import GreenRoom.Lib.JsonRoundTrip

/-!
# Decision snapshots round trip

A snapshot is accepted again from the JSON text of what was accepted, and a snapshot that has
been committed is read back from its row.  The row gives back what the parser has let through;
the request is let through by less than what SQLite keeps of a text.

## Main results

* `fromRow_rowOf_iff` — which rows are read back as the records they were made of.
* `decision_snapshots_round_trip`
* `decision_snapshots_cut` — a request that is not read back.
-/

namespace GreenRoom

open JsString Providers

/-! ## Rows -/

section

variable {host : Host} {input : CommitDecisionSnapshotInput}
  {stored record : DecisionSnapshotRecord} {db : Db}

/-- What is read back of a record: all but its request as it is, and that as its column has it. -/
theorem fromRow_rowOf (h : validatedRecord host input = .ok record) :
    fromRow host (rowOf host record) = validatedRecord host {
      record.toInput with
      requestId := sqlText record.requestId
      snapshot := .ofJson record.snapshot.toJson.sorted } := by
  obtain ⟨-, -, -, hparsed, hroom, -, hroomId, -, -⟩ := validatedRecord_ok.mp h
  have hread : Json.parse host.numbers (snapshotText host.numbers record.snapshot) =
      some record.snapshot.toJson.sorted :=
    Json.parse_stringify_sorted host.numbers (Parse.distinct_toJson record.snapshot)
  have htext : sqlText (snapshotText host.numbers record.snapshot) =
      snapshotText host.numbers record.snapshot := Json.sqlText_stringify _ _
  have hid : sqlText record.roomId = record.roomId := by
    rw [hroomId, ← hroom]
    have hids := (Parse.parseDecisionSnapshot_checked hparsed).ids record.snapshot.binding.roomId
      (by simp [DecisionSnapshot.ids])
    exact (isText_of_isIdText hids.2.2).1.sqlText
  have hpair : (inputOf (rowOf host record) record.snapshot.toJson.sorted).providerDefinition =
      record.providerDefinition := by
    rw [inputOf, rowOf]
    cases record.providerDefinition <;> rfl
  simp only [fromRow, rowOf, htext, hread]
  refine congrArg (validatedRecord host) ?_
  rw [rowOf] at hpair
  simp only [inputOf, hid] at hpair ⊢
  rw [hpair]
  rfl

/-- A record is read back as it is if its request is. -/
theorem fromRow_rowOf_iff (h : validatedRecord host input = .ok record) :
    fromRow host (rowOf host record) = .ok record ↔
      isWellFormed record.requestId ∧ 0 ∉ record.requestId := by
  obtain ⟨hroomId, hrequestId, -, hparsed, hroom, hevidence, hroomEq, hrequestEq, hdefinition⟩ :=
    validatedRecord_ok.mp h
  have hagain : Parse.parseDecisionSnapshot host.normalize
      (.ofJson record.snapshot.toJson.sorted) = .ok record.snapshot :=
    Parse.parseDecisionSnapshot_restores _ _ hparsed _ (Json.sorted_same _)
  rw [fromRow_rowOf h, ← sqlText_eq_self_iff, validatedRecord_ok]
  constructor
  · rintro ⟨-, -, -, -, -, -, -, hrequest, -⟩
    exact hrequest.symm
  · intro hsame
    dsimp only [DecisionSnapshotRecord.toInput]
    rw [hsame]
    exact ⟨hroomEq ▸ hroomId, hrequestEq ▸ hrequestId, rfl, hagain, hroom.trans hroomEq.symm,
      hdefinition.trans hevidence, rfl, rfl, rfl⟩

/-- A row that has been found is read. -/
theorem readRow_returns (found : Db → Option DecisionSnapshotRecord) (h : found db = some stored) :
    ((.query fun db => (found db).map (rowOf host)) >>= readRow host).Returns db (some record) db ↔
      fromRow host (rowOf host stored) = .ok record := by
  simp only [Program.returns_bind, Program.returns_query]
  constructor
  · rintro ⟨row, _, ⟨rfl, rfl⟩, hread⟩
    rw [h, Option.map_some, readRow] at hread
    obtain ⟨found, _, hfound, hread⟩ := Program.returns_bind.mp hread
    obtain ⟨hrow, rfl⟩ := Program.returns_ofExcept.mp hfound
    obtain ⟨hsame, -⟩ := Program.returns_pure.mp hread
    rw [Option.some.inj hsame, hrow]
  · intro hrow
    refine ⟨_, db, ⟨rfl, rfl⟩, ?_⟩
    rw [h, Option.map_some, readRow, hrow]
    exact Program.returns_pure.mpr ⟨rfl, rfl⟩

/-- A record in the table is read as its row is. -/
theorem readDecisionSnapshot_returns {id : JsString}
    (h : db.providers.decisionSnapshots.lookup id = some stored) :
    (readDecisionSnapshot host id).Returns db (some record) db ↔
      fromRow host (rowOf host stored) = .ok record :=
  readRow_returns (fun db => db.providers.decisionSnapshots.lookup id) h

/-- So it is by its request. -/
theorem readDecisionSnapshotForRequest_returns {roomId : RoomId} {requestId : RequestId}
    (h : db.providers.snapshotFor roomId requestId = some stored) :
    (readDecisionSnapshotForRequest host roomId requestId).Returns db (some record) db ↔
      fromRow host (rowOf host stored) = .ok record :=
  readRow_returns (fun db => db.providers.snapshotFor roomId requestId) h

end

/-- **Decision snapshots round trip.**  A snapshot that is accepted is accepted again, as
itself, from its JSON text; it names no credential and no mutation, and its parts fit
together.  A snapshot that is committed was accepted, and is read back as it is, by its name
and by its request, if and only if the request is well formed and has no U+0000. -/
theorem decision_snapshots_round_trip (host : Host) :
    (∀ value snapshot, Parse.parseDecisionSnapshot host.normalize value = .ok snapshot →
      (∃ again, Json.parse host.numbers (Json.stringify host.numbers snapshot.toJson) = some again ∧
        Parse.parseDecisionSnapshot host.normalize (.ofJson again) = .ok snapshot) ∧
      (ofString "credentialRef" ∉ snapshot.toJson.names ∧
        ofString "mutationId" ∉ snapshot.toJson.names) ∧
      snapshot.Consistent) ∧
    ∀ input record db db',
      (commitDecisionSnapshotInTransaction host input).Returns db record db' →
        Parse.parseDecisionSnapshot host.normalize input.snapshot = .ok record.snapshot ∧
        ((readDecisionSnapshot host record.snapshot.id).Returns db' (some record) db' ↔
          isWellFormed record.requestId ∧ 0 ∉ record.requestId) ∧
        ((readDecisionSnapshotForRequest host record.roomId record.requestId).Returns db'
          (some record) db' ↔ isWellFormed record.requestId ∧ 0 ∉ record.requestId) := by
  refine ⟨fun value snapshot h => ⟨?_, Parse.names_toJson snapshot,
    Parse.parseDecisionSnapshot_consistent h⟩, fun input record db db' h => ?_⟩
  · exact ⟨snapshot.toJson, Json.parse_stringify host.numbers (Parse.distinct_toJson snapshot),
      Parse.parseDecisionSnapshot_restores _ _ h _ (Json.same_of_sorted_eq _ _ rfl)⟩
  · obtain ⟨hvalid, -, hrecorded, -⟩ := commitDecisionSnapshotInTransaction_recorded h
    have hlookup := hrecorded.lookup record.snapshot.id
    rw [if_pos rfl] at hlookup
    refine ⟨(validatedRecord_ok.mp hvalid).2.2.2.1, ?_, ?_⟩
    · exact (readDecisionSnapshot_returns hlookup).trans (fromRow_rowOf_iff hvalid)
    · exact (readDecisionSnapshotForRequest_returns hrecorded.snapshotFor).trans
        (fromRow_rowOf_iff hvalid)

/-! ## A snapshot -/

namespace Sample

def host : Host where
  sha256 _ := ofString "c549ff15959332fec8498425a93cb8113cd756edc8f333043662d067f13db798"
  normalize := id
  numbers := fractionFormat

def roomId : RoomId := ofString "room-1"

def connection : ConnectionProfile where
  id := ofString "local"
  revision := 1
  target := .localEndpoint .ollama

def model : ModelProfile where
  id := ofString "model"
  revision := 1
  connection := ⟨ofString "local", 1⟩
  modelId := ofString "llama"
  requiredCapabilities := [.chat]
  generation := { temperature := 1, maxOutputTokens := 512 }

def fingerprint : JsString := ofString ("sha256:" ++ String.ofList (List.replicate 64 'a'))

def observation : ProviderObservation where
  id := ofString "observation-1"
  connection := ⟨ofString "local", 1⟩
  health := .ready
  capabilityFingerprint := fingerprint
  evidence := [(ofString "chat", true)]

def binding : RoomBinding where
  id := ofString "binding"
  revision := 1
  roomId
  purpose := .personaDefault
  model := ⟨ofString "model", 1⟩

def emptyDb : Db where
  rooms := (∅ : KeyedTable _ _).insert roomId { title := ofString "Lobby", status := .active }

def operations : List ProviderOperation :=
  [.connection (.create connection), .model (.create model), .observe observation, .bind binding]

/-- A room bound to a model of a local endpoint. -/
def db : Db := ProviderOperation.carryOut emptyDb operations

def snapshot : DecisionSnapshot where
  id := ofString "snapshot"
  binding
  connection := connection.toSnapshotConnectionProfile
  model
  effectiveGeneration := model.generation
  adapter := { id := .ollama, version := ofString "1.0.0" }
  capabilityFingerprint := fingerprint
  directorRevision := 1
  policyRevision := 1

theorem parses : Parse.parseDecisionSnapshot id (.ofJson snapshot.toJson) = .ok snapshot := by
  rfl

def record (requestId : RequestId) : DecisionSnapshotRecord where
  roomId
  requestId
  snapshot
  providerDefinition := none

theorem keyed : db.providers.Keyed := by
  have hstep : ∀ (operation : ProviderOperation) (db db' : Db),
      transact {} operation.program db = (.ok (), db') → db.providers.Keyed → db'.providers.Keyed :=
    fun operation db db' h => (ProviderOperation.step_of_returns (returns_of_transact h)).keyed
  have hempty : emptyDb.providers.Keyed := ⟨.of_empty rfl, .of_empty rfl, fun _ _ _ h => by cases h⟩
  have hconnected := hstep (.connection (.create connection)) _ _ rfl hempty
  have hmodelled := hstep (.model (.create model)) _ _ rfl hconnected
  have hobserved := hstep (.observe observation) _ _ rfl hmodelled
  exact hstep (.bind binding) _ _ rfl hobserved

theorem resolves : Resolves db.providers roomId .personaDefault
    ⟨binding, connection.toSnapshotConnectionProfile, model, observation⟩ :=
  resolveRoomProviderDecision_returns (Program.returns_of_run
    (rfl : (resolveRoomProviderDecision roomId .personaDefault).run (fun _ => none) 0 db = _))

theorem printsShort : PrintsShort host.numbers snapshot :=
  show ∀ x ∈ snapshotNumbers snapshot, (host.numbers.print x).length ≤ 25 by decide

theorem roomId_valid : ¬ (roomId = [] ∨ 128 < roomId.length ∨ trim roomId ≠ roomId) := by
  decide

/-- The snapshot is committed for any request that is let through. -/
theorem commits (requestId : RequestId) (hrequest : ¬ (requestId = [] ∨ 256 < requestId.length ∨
    trim requestId ≠ requestId)) (hhead : requestId.head? ≠ some 0) :
    ∃ db', (commitDecisionSnapshotInTransaction host (record requestId).toInput).Returns db
      (record requestId) db' := by
  have hvalid : validatedRecord host (record requestId).toInput = .ok (record requestId) :=
    validatedRecord_ok.mpr ⟨roomId_valid, hrequest, rfl, parses, rfl, rfl, rfl, rfl, rfl⟩
  exact ⟨_, (commitDecisionSnapshotInTransaction_runs hvalid printsShort hhead keyed resolves
    rfl rfl (show roomId ∈ db.rooms by decide)
    (show snapshot.id ∉ db.providers.decisionSnapshots by decide) rfl).returns⟩

/-- What is read back, and what is not, of a snapshot whose request is not kept. -/
theorem reads {requestId kept : RequestId} {db' : Db}
    (h : (commitDecisionSnapshotInTransaction host (record requestId).toInput).Returns db
      (record requestId) db')
    (hkept : sqlText requestId = kept) (hother : requestId ≠ kept)
    (hrequest : ¬ (kept = [] ∨ 256 < kept.length ∨ trim kept ≠ kept)) :
    (readDecisionSnapshot host snapshot.id).Returns db' (some (record kept)) db' ∧
      ¬ (readDecisionSnapshot host snapshot.id).Returns db' (some (record requestId)) db' := by
  subst hkept
  obtain ⟨hvalid, -, hrecorded, -⟩ := commitDecisionSnapshotInTransaction_recorded h
  have hlookup := hrecorded.lookup (record requestId).snapshot.id
  rw [if_pos rfl] at hlookup
  have hrow : fromRow host (rowOf host (record requestId)) = .ok (record (sqlText requestId)) := by
    rw [fromRow_rowOf hvalid]
    exact validatedRecord_ok.mpr ⟨roomId_valid, hrequest, rfl,
      Parse.parseDecisionSnapshot_restores _ _ parses _ (Json.sorted_same _), rfl, rfl, rfl,
      rfl, rfl⟩
  refine ⟨(readDecisionSnapshot_returns hlookup).mpr hrow, fun hread => hother ?_⟩
  have hsame := hrow.symm.trans ((readDecisionSnapshot_returns hlookup).mp hread)
  exact (congrArg DecisionSnapshotRecord.requestId (Except.ok.inj hsame)).symm

/-- `a`, U+0000, `b`. -/
def cut : RequestId := [unit 'a', 0, unit 'b']

/-- `a`, U+D800. -/
def lone : RequestId := [unit 'a', 0xD800]

end Sample

open Sample in
/-- A snapshot is committed and read back. -/
theorem decision_snapshots_round_trip_sample :
    (∃ again, Json.parse host.numbers (Json.stringify host.numbers snapshot.toJson) = some again ∧
      Parse.parseDecisionSnapshot host.normalize (.ofJson again) = .ok snapshot) ∧
    ∃ db', (commitDecisionSnapshotInTransaction host
        (record (ofString "request-1")).toInput).Returns db (record (ofString "request-1")) db' ∧
      (readDecisionSnapshot host (ofString "snapshot")).Returns db'
        (some (record (ofString "request-1"))) db' ∧
      (readDecisionSnapshotForRequest host roomId (ofString "request-1")).Returns db'
        (some (record (ofString "request-1"))) db' := by
  obtain ⟨db', hcommit⟩ := commits (ofString "request-1") (by decide) (by decide)
  have hread := (decision_snapshots_round_trip host).2 _ _ _ _ hcommit
  refine ⟨((decision_snapshots_round_trip host).1 _ snapshot parses).1, db', hcommit, ?_, ?_⟩
  · exact hread.2.1.mpr (by decide)
  · exact hread.2.2.mpr (by decide)

open Sample in
/-- Two requests that are let through and are not read back: of one the end is cut off, in the
other a surrogate is replaced. -/
theorem decision_snapshots_cut :
    (∃ db', (commitDecisionSnapshotInTransaction host (record cut).toInput).Returns db
        (record cut) db' ∧
      (readDecisionSnapshot host snapshot.id).Returns db' (some (record [unit 'a'])) db' ∧
      ¬ (readDecisionSnapshot host snapshot.id).Returns db' (some (record cut)) db') ∧
    ∃ db', (commitDecisionSnapshotInTransaction host (record lone).toInput).Returns db
        (record lone) db' ∧
      (readDecisionSnapshot host snapshot.id).Returns db' (some (record [unit 'a', 0xFFFD])) db' ∧
      ¬ (readDecisionSnapshot host snapshot.id).Returns db' (some (record lone)) db' := by
  obtain ⟨db₁, hcut⟩ := commits cut (by decide) (by decide)
  obtain ⟨db₂, hlone⟩ := commits lone (by decide) (by decide)
  refine ⟨⟨db₁, hcut, reads hcut (by decide) (by decide) (by decide)⟩, db₂, hlone, ?_⟩
  exact reads hlone (by decide) (by decide) (by decide)

end GreenRoom
