import GreenRoom.Db.ProviderDecisions
import GreenRoom.Lib.SqlJson
import GreenRoom.Providers.SnapshotRestores

/-!
# Provider decision snapshots in the database

`db/provider-snapshots.ts`, which records the decision a reply was generated under, with the
trigger and the `CHECK`s of `provider_decision_snapshots`.  A row is read back as SQLite gives
its texts back, and goes through the parser and the checks again.

## Main definitions

* `Host` — what the server has from its platform.
* `commitDecisionSnapshotInTransaction`, `readDecisionSnapshot`,
  `readDecisionSnapshotForRequest`
* `Db.checkDecisionSnapshot` — the trigger and the `CHECK`s.
* `ProviderTables.snapshotFor` — the snapshot a request has.

## Main results

* `validatedRecord_ok` — what is asked of a record.
* `Db.checkDecisionSnapshot_of_validated` — every `CHECK` but one follows from it.
* `Db.head_of_checkDecisionSnapshot` — the one that does not.
* `commitDecisionSnapshotInTransaction_returns` — committing changes no room.
-/

namespace GreenRoom

open JsString Providers

/-- What the server has from its platform. -/
structure Host where
  sha256 : JsString → JsString
  /-- `String.prototype.normalize`. -/
  normalize : JsString → JsString
  /-- How numbers are printed. -/
  numbers : NumberFormat ℚ

/-! ## Records -/

def SINGLE_ATTEMPT_ROUTING_POLICY : JsString := ofString "single-attempt-no-fallback-v1"

structure CommitDecisionSnapshotInput where
  roomId : RoomId
  requestId : RequestId
  snapshot : Unknown
  providerDefinition : Option ProviderDefinitionEvidence
  routingPolicy : JsString

def sameExactDecision (current : ResolvedRoomProviderDecision) (snapshot : DecisionSnapshot) :
    Bool :=
  current.binding = snapshot.binding && current.connection = snapshot.connection &&
    current.model = snapshot.model && current.model.generation = snapshot.effectiveGeneration

/-- The evidence a target asks for. -/
def requiredEvidence : ConnectionTarget → Option ProviderDefinitionEvidence
  | .approvedProvider definitionId => some ⟨definitionId, definitionId.version⟩
  | .localEndpoint _ => none

def validatedRecord (host : Host) (input : CommitDecisionSnapshotInput) :
    Except JsError DecisionSnapshotRecord := do
  if input.roomId = [] ∨ 128 < input.roomId.length ∨ trim input.roomId ≠ input.roomId then
    throw (.typeError (ofString "Decision snapshot roomId is invalid"))
  if input.requestId = [] ∨ 256 < input.requestId.length ∨
      trim input.requestId ≠ input.requestId then
    throw (.typeError (ofString "Decision snapshot requestId is invalid"))
  if input.routingPolicy ≠ SINGLE_ATTEMPT_ROUTING_POLICY then
    throw (.typeError (ofString "Decision snapshot routing policy is not supported"))
  let snapshot ← Parse.parseDecisionSnapshot host.normalize input.snapshot
  if snapshot.binding.roomId ≠ input.roomId then
    throw (.ofText "Decision snapshot room mismatch")
  match snapshot.connection.target with
  | .approvedProvider _ =>
    if input.providerDefinition ≠ requiredEvidence snapshot.connection.target then
      throw (.ofText "Decision snapshot provider definition evidence mismatch")
  | .localEndpoint _ =>
    if input.providerDefinition ≠ none then
      throw (.ofText "Local decision snapshot cannot contain provider definition evidence")
  return {
    roomId := input.roomId, requestId := input.requestId, snapshot
    providerDefinition := input.providerDefinition }

/-- `canonicalJson(record.snapshot)`. -/
def snapshotText (numbers : NumberFormat ℚ) (snapshot : DecisionSnapshot) : JsString :=
  Json.stringify numbers snapshot.toJson.sorted

/-! ## The table -/

/-- `length(…) BETWEEN 1 AND 128 AND … GLOB '[a-z]*' AND … NOT GLOB '*[^a-z0-9._-]*'`. -/
def isSqlId (s : JsString) : Bool :=
  1 ≤ sqlLength s && sqlLength s ≤ 128 && (sqlText s).head?.any isLowerLetter &&
    (sqlText s).all fun u => isLowerAlphanumeric u || isIdSeparator u

/-- The names the trigger looks for, at any depth. -/
def secretFields : List String :=
  ["credentialref", "credential", "apikey", "api_key", "authorization", "secret", "token"]

/-- The members of `snapshot_json` that columns repeat. -/
def snapshotColumns (record : DecisionSnapshotRecord) : List (SqlValue ℚ × SqlValue ℚ) :=
  let snapshot := record.snapshot
  let json := snapshot.toJson
  [(json.extract "id", .text snapshot.id),
    (json.extractIn "binding" "id", .text snapshot.binding.id),
    (json.extractIn "binding" "revision", .ofNat snapshot.binding.revision),
    (json.extractIn "binding" "roomId", .text record.roomId),
    (json.extractIn "connection" "id", .text snapshot.connection.id),
    (json.extractIn "connection" "revision", .ofNat snapshot.connection.revision),
    (json.extractIn "model" "id", .text snapshot.model.id),
    (json.extractIn "model" "revision", .ofNat snapshot.model.revision),
    (json.extract "capabilityFingerprint", .text snapshot.capabilityFingerprint)]

def snapshotJsonCheck : String :=
  "json_valid(snapshot_json) AND json_type(snapshot_json) = 'object' AND\n" ++
    "    length(snapshot_json) <= 32768 AND\n" ++
    "    json_extract(snapshot_json, '$.id') = id AND\n" ++
    "    json_extract(snapshot_json, '$.binding.id') = binding_id AND\n" ++
    "    json_extract(snapshot_json, '$.binding.revision') = binding_revision AND\n" ++
    "    json_extract(snapshot_json, '$.binding.roomId') = room_id AND\n" ++
    "    json_extract(snapshot_json, '$.connection.id') = connection_id AND\n" ++
    "    json_extract(snapshot_json, '$.connection.revision') = connection_revision AND\n" ++
    "    json_extract(snapshot_json, '$.model.id') = model_id AND\n" ++
    "    json_extract(snapshot_json, '$.model.revision') = model_revision AND\n" ++
    "    json_extract(snapshot_json, '$.capabilityFingerprint') = capability_fingerprint"

/-- The trigger and the `CHECK`s of `provider_decision_snapshots`.  What they read off
`snapshot_json` is read off the value whose text it is. -/
def Db.checkDecisionSnapshot (numbers : NumberFormat ℚ) (record : DecisionSnapshotRecord) :
    Except JsError Unit := do
  Db.abortWhen (∃ name ∈ record.snapshot.toJson.names,
      name.map asciiLower ∈ secretFields.map ofString)
    "decision snapshot contains a credential reference or secret field"
  Db.check (isSqlId record.snapshot.id)
    ("length(id) BETWEEN 1 AND 128 AND\n    id GLOB '[a-z]*' AND\n" ++
      "    id NOT GLOB '*[^a-z0-9._-]*'")
  Db.check (1 ≤ sqlLength record.requestId ∧ sqlLength record.requestId ≤ 256 ∧
      sqlTrim record.requestId = record.requestId)
    "length(request_id) BETWEEN 1 AND 256 AND request_id = trim(request_id)"
  Db.check (isSqlFingerprint record.snapshot.capabilityFingerprint) fingerprintCheck
  Db.check (∀ definition ∈ record.providerDefinition, definition.version = 1)
    "provider_definition_version IS NULL OR provider_definition_version = 1"
  Db.check (record.snapshot.toJson.isObject ∧
      sqlLength (snapshotText numbers record.snapshot) ≤ 32768 ∧
      ∀ column ∈ snapshotColumns record, column.1.mayEqual column.2)
    snapshotJsonCheck

/-- `WHERE room_id = ? AND request_id = ?`.  A row is kept as the record it was made of. -/
def ProviderTables.snapshotFor (tables : ProviderTables) (roomId : RoomId)
    (requestId : RequestId) : Option DecisionSnapshotRecord :=
  (tables.decisionSnapshots.entries.find? fun e =>
    sqlEqual e.2.roomId roomId && sqlEqual e.2.requestId requestId).map (·.2)

/-- `INSERT INTO provider_decision_snapshots`. -/
def Db.insertDecisionSnapshot (numbers : NumberFormat ℚ) (record : DecisionSnapshotRecord)
    (db : Db) : Except JsError (Unit × Db) := do
  Db.checkDecisionSnapshot numbers record
  let snapshot := record.snapshot
  let tables := db.providers
  if snapshot.id ∈ tables.decisionSnapshots then
    Db.uniqueFailed "provider_decision_snapshots.id"
  else if (tables.snapshotFor record.roomId record.requestId).isSome then
    Db.uniqueFailed "provider_decision_snapshots.room_id, provider_decision_snapshots.request_id"
  else if record.roomId ∈ db.rooms ∧
      (snapshot.binding.id, snapshot.binding.revision) ∈ tables.roomBindingRevisions ∧
      (snapshot.connection.id, snapshot.connection.revision) ∈ tables.connectionProfileRevisions ∧
      (snapshot.model.id, snapshot.model.revision) ∈ tables.modelProfileRevisions then
    .ok ((), { db with
      providers := { tables with
        decisionSnapshots := tables.decisionSnapshots.insert snapshot.id record } })
  else Db.foreignKeyFailed

/-! ## The operations -/

def commitDecisionSnapshotInTransaction (host : Host) (input : CommitDecisionSnapshotInput) :
    DbProgram DecisionSnapshotRecord := do
  let record ← .ofExcept (validatedRecord host input)
  let current ← resolveRoomProviderDecision record.snapshot.binding.roomId
    record.snapshot.binding.purpose
  .require (sameExactDecision current record.snapshot)
    (.ofText "Decision snapshot references a stale or mismatched provider revision")
  .require (current.observation.capabilityFingerprint = record.snapshot.capabilityFingerprint)
    (.ofText "Decision snapshot capability fingerprint is stale or mismatched")
  .statement (Db.insertDecisionSnapshot host.numbers record)
  return record

/-- A row of `provider_decision_snapshots`, as far as it is read back. -/
structure SnapshotRow where
  roomId : JsString
  requestId : JsString
  snapshotJson : JsString
  providerDefinitionId : Option ApprovedCloudProviderId
  providerDefinitionVersion : Option ℕ
  routingPolicy : JsString
  deriving DecidableEq, Repr

/-- The row of a record, as it is read. -/
def rowOf (host : Host) (record : DecisionSnapshotRecord) : SnapshotRow where
  roomId := sqlText record.roomId
  requestId := sqlText record.requestId
  snapshotJson := sqlText (snapshotText host.numbers record.snapshot)
  providerDefinitionId := record.providerDefinition.map (·.id)
  providerDefinitionVersion := record.providerDefinition.map (·.version)
  routingPolicy := SINGLE_ATTEMPT_ROUTING_POLICY

/-- The input a row is read back as. -/
def inputOf (row : SnapshotRow) (snapshot : Json ℚ) : CommitDecisionSnapshotInput where
  roomId := row.roomId
  requestId := row.requestId
  snapshot := .ofJson snapshot
  providerDefinition := do
    let id ← row.providerDefinitionId
    let version ← row.providerDefinitionVersion
    return ⟨id, version⟩
  routingPolicy := row.routingPolicy

def fromRow (host : Host) (row : SnapshotRow) : Except JsError DecisionSnapshotRecord :=
  match Json.parse host.numbers row.snapshotJson with
  | some snapshot => validatedRecord host (inputOf row snapshot)
  | none => .error (.error (ofString "SyntaxError") (ofString "snapshot_json is not valid JSON"))

/-- A row read back, if there is one. -/
def readRow (host : Host) (row : Option SnapshotRow) :
    DbProgram (Option DecisionSnapshotRecord) :=
  match row with
  | none => .pure none
  | some row => do
    let record ← .ofExcept (fromRow host row)
    .pure (some record)

def readDecisionSnapshot (host : Host) (id : JsString) :
    DbProgram (Option DecisionSnapshotRecord) := do
  let row ← .query fun db => (db.providers.decisionSnapshots.lookup id).map (rowOf host)
  readRow host row

def readDecisionSnapshotForRequest (host : Host) (roomId : RoomId) (requestId : RequestId) :
    DbProgram (Option DecisionSnapshotRecord) := do
  let row ← .query fun db => (db.providers.snapshotFor roomId requestId).map (rowOf host)
  readRow host row

/-! ## The snapshot of a request -/

namespace ProviderTables

variable {tables : ProviderTables} {roomId : RoomId} {requestId : RequestId}

theorem snapshotFor_eq_none : tables.snapshotFor roomId requestId = none ↔
    ∀ id other, tables.decisionSnapshots.lookup id = some other →
      ¬ (sqlEqual other.roomId roomId && sqlEqual other.requestId requestId) = true := by
  rw [snapshotFor, Option.map_eq_none_iff, List.find?_eq_none]
  constructor
  · intro h id other hother
    exact h ⟨id, other⟩ (KeyedTable.mem_entries_iff.mpr hother)
  · rintro h ⟨id, other⟩ hmem
    exact h id other (KeyedTable.mem_entries_iff.mp hmem)

theorem snapshotFor_eq_some {record : DecisionSnapshotRecord}
    (h : tables.snapshotFor roomId requestId = some record) :
    ∃ id, tables.decisionSnapshots.lookup id = some record ∧
      (sqlEqual record.roomId roomId && sqlEqual record.requestId requestId) = true := by
  obtain ⟨e, hfind, rfl⟩ := Option.map_eq_some_iff.mp h
  have hsame := List.find?_some hfind
  exact ⟨e.1, KeyedTable.mem_entries_iff.mp (List.mem_of_find?_eq_some hfind), hsame⟩

end ProviderTables

/-! ## What is asked of a record -/

section

variable {host : Host}

theorem validatedRecord_ok {input : CommitDecisionSnapshotInput} {record : DecisionSnapshotRecord} :
    validatedRecord host input = .ok record ↔
      ¬ (input.roomId = [] ∨ 128 < input.roomId.length ∨ trim input.roomId ≠ input.roomId) ∧
      ¬ (input.requestId = [] ∨ 256 < input.requestId.length ∨
        trim input.requestId ≠ input.requestId) ∧
      input.routingPolicy = SINGLE_ATTEMPT_ROUTING_POLICY ∧
      Parse.parseDecisionSnapshot host.normalize input.snapshot = .ok record.snapshot ∧
      record.snapshot.binding.roomId = input.roomId ∧
      input.providerDefinition = requiredEvidence record.snapshot.connection.target ∧
      record.roomId = input.roomId ∧ record.requestId = input.requestId ∧
      record.providerDefinition = input.providerDefinition := by
  obtain ⟨roomId, requestId, snapshot, definition⟩ := record
  simp only [validatedRecord, Except.ite_throw_bind, Except.bind_eq_ok, not_not]
  refine and_congr_right fun _ => and_congr_right fun _ => and_congr_right fun _ => ?_
  constructor
  · rintro ⟨parsed, hparsed, hroom, h⟩
    cases htarget : parsed.connection.target with
    | approvedProvider definitionId =>
        simp only [htarget, Except.ite_throw_bind] at h
        obtain ⟨hevidence, h⟩ := h
        cases h
        exact ⟨hparsed, hroom, by rw [htarget]; exact not_not.mp hevidence, rfl, rfl, rfl⟩
    | localEndpoint adapter =>
        simp only [htarget, Except.ite_throw_bind] at h
        obtain ⟨hevidence, h⟩ := h
        cases h
        exact ⟨hparsed, hroom, by rw [htarget]; exact not_not.mp hevidence, rfl, rfl, rfl⟩
  · rintro ⟨hparsed, hroom, hevidence, rfl, rfl, rfl⟩
    refine ⟨snapshot, hparsed, hroom, ?_⟩
    cases htarget : snapshot.connection.target with
    | approvedProvider definitionId =>
        rw [htarget] at hevidence
        simp only [Except.ite_throw_bind]
        exact ⟨not_not.mpr hevidence, rfl⟩
    | localEndpoint adapter =>
        rw [htarget] at hevidence
        simp only [Except.ite_throw_bind]
        exact ⟨not_not.mpr hevidence, rfl⟩

/-! ## The `CHECK`s -/

theorem isText_of_isIdText {s : JsString} (h : isIdText s) : s.IsText ∧
    ∀ u ∈ s, (isLowerAlphanumeric u || isIdSeparator u) = true := by
  have hplain : ∀ u : UInt16, (isLowerAlphanumeric u || isIdSeparator u) = true →
      u ≠ 0 ∧ u < 0x80 := by
    intro u hu
    have hle : u ≤ unit 'z' := by
      simp only [isLowerAlphanumeric, isLowerLetter, isDigit, isIdSeparator, Bool.or_eq_true,
        Bool.and_eq_true, decide_eq_true_eq] at hu
      rcases hu with (⟨-, hu⟩ | ⟨-, hu⟩) | ((rfl | rfl) | rfl)
      · exact hu
      · exact UInt16.le_trans hu (by decide)
      all_goals decide
    refine ⟨?_, UInt16.lt_of_le_of_lt hle (by decide)⟩
    rintro rfl
    exact absurd hu (by decide)
  have hrest : ∀ next t, isIdRest next t = true →
      ∀ u ∈ t, (isLowerAlphanumeric u || isIdSeparator u) = true := by
    intro next t ht
    fun_induction isIdRest next t with
    | case1 next => exact fun _ hu => absurd hu List.not_mem_nil
    | case2 next u t hu ih => exact List.forall_mem_cons.mpr ⟨by simp [hu], ih ht⟩
    | case3 next u t hu ih =>
        simp only [Bool.and_eq_true] at ht
        exact List.forall_mem_cons.mpr ⟨by simp [ht.1.1], ih ht.2⟩
  have hall : ∀ u ∈ s, (isLowerAlphanumeric u || isIdSeparator u) = true := by
    cases s with
    | nil => cases h
    | cons u t =>
        obtain ⟨hu, ht⟩ := by simpa [isIdText] using h
        exact List.forall_mem_cons.mpr ⟨by simp [isLowerAlphanumeric, hu], hrest true t ht⟩
  exact ⟨fun u hu => hplain u (hall u hu), hall⟩

/-- What the parser takes for an identifier, the table does. -/
theorem isSqlId_of_isCanonicalId {s : JsString} (h : IsCanonicalId s) : isSqlId s = true := by
  obtain ⟨hne, hlength, hid⟩ := h
  obtain ⟨htext, hall⟩ := isText_of_isIdText hid
  rw [isSqlId, htext.sqlText, htext.sqlLength]
  cases s with
  | nil => exact absurd rfl hne
  | cons u t =>
      obtain ⟨hu, -⟩ := by simpa [isIdText] using hid
      simp only [Bool.and_eq_true, decide_eq_true_eq, List.all_eq_true]
      exact ⟨⟨⟨Nat.succ_pos _, hlength⟩, hu⟩, hall⟩

/-- The trigger finds nothing in a snapshot. -/
theorem secretFields_toJson (snapshot : DecisionSnapshot) :
    ¬ ∃ name ∈ snapshot.toJson.names, name.map asciiLower ∈ secretFields.map ofString := by
  obtain ⟨last, rfl | rfl, hnames⟩ := Parse.names_eq snapshot
  · rw [hnames]
    decide
  · rw [hnames]
    decide

/-- The columns repeat the snapshot. -/
theorem snapshotColumns_mayEqual {record : DecisionSnapshotRecord}
    (h : record.snapshot.binding.roomId = record.roomId) :
    ∀ column ∈ snapshotColumns record, column.1.mayEqual column.2 = true := by
  have hsame : ∀ v : SqlValue ℚ, v.mayEqual v = true := fun v => by simp [SqlValue.mayEqual]
  simp only [snapshotColumns, ← h, List.forall_mem_cons, List.not_mem_nil, false_imp_iff,
    implies_true, and_true]
  exact ⟨hsame (.text _), hsame (.text _), hsame (.ofNat _), hsame (.text _), hsame (.text _),
    hsame (.ofNat _), hsame (.text _), hsame (.ofNat _), hsame (.text _)⟩

end

/-! ## How long the text is -/

/-- The numbers of a snapshot. -/
def snapshotNumbers (snapshot : DecisionSnapshot) : List ℚ :=
  [snapshot.binding.revision, snapshot.binding.model.revision, snapshot.connection.revision,
    snapshot.model.revision, snapshot.model.connection.revision,
    snapshot.model.generation.temperature, snapshot.model.generation.maxOutputTokens,
    snapshot.effectiveGeneration.temperature, snapshot.effectiveGeneration.maxOutputTokens,
    snapshot.directorRevision, snapshot.policyRevision]

/-- No number has a text of more than 25 units, as no double has. -/
def PrintsShort (numbers : NumberFormat ℚ) (snapshot : DecisionSnapshot) : Prop :=
  ∀ x ∈ snapshotNumbers snapshot, (numbers.print x).length ≤ 25

section

variable {f : ℚ → ℕ}

theorem textBound_str_le {s : JsString} {n : ℕ} (h : s.length ≤ n) :
    (Json.str s).textBound f ≤ 6 * n + 2 := by
  rw [Json.textBound]
  omega

/-- The texts of the members come to at most `n`. -/
def MembersWithin (f : ℚ → ℕ) (members : List (JsString × Json ℚ)) (n : ℕ) : Prop :=
  Json.textBoundMembers f members ≤ n

theorem MembersWithin.nil : MembersWithin f [] 0 := Nat.le_refl 0

/-- No name of a member has more than 21 units. -/
theorem MembersWithin.cons {name : String} {value : Json ℚ} {members : List (JsString × Json ℚ)}
    {n m : ℕ} (hname : (ofString name).length ≤ 21) (hvalue : value.textBound f ≤ n)
    (hrest : MembersWithin f members m) :
    MembersWithin f ((ofString name, value) :: members) (n + 130 + m) := by
  rw [MembersWithin, Json.textBoundMembers]
  rw [MembersWithin] at hrest
  omega

theorem MembersWithin.obj {members : List (JsString × Json ℚ)} {n : ℕ}
    (h : MembersWithin f members n) : (Json.obj members).textBound f ≤ 2 + n := by
  rw [Json.textBound]
  exact Nat.add_le_add_left h 2

theorem textBound_target_le (target : ConnectionTarget) : target.toJson.textBound f ≤ 600 := by
  cases target with
  | approvedProvider definitionId =>
      have hname : (ofString definitionId.name).length ≤ 21 := by cases definitionId <;> decide
      have hclass : (ofString "approved-provider").length ≤ 21 := by decide
      exact (MembersWithin.obj (.cons (by decide) (textBound_str_le hclass)
        (.cons (by decide) (textBound_str_le hname) .nil))).trans (by decide)
  | localEndpoint adapter =>
      have hname : (ofString adapter.name).length ≤ 21 := by cases adapter <;> decide
      have hclass : (ofString "local-endpoint").length ≤ 21 := by decide
      exact (MembersWithin.obj (.cons (by decide) (textBound_str_le hclass)
        (.cons (by decide) (textBound_str_le hname) .nil))).trans (by decide)

theorem textBound_reference_le {reference : ProfileRevisionRef}
    (hid : reference.profileId.length ≤ 128) (hrevision : f reference.revision ≤ 25) :
    reference.toJson.textBound f ≤ 1200 :=
  (MembersWithin.obj (.cons (by decide) (textBound_str_le hid)
    (.cons (by decide) hrevision .nil))).trans (by decide)

theorem textBound_generation_le {generation : GenerationDefaults}
    (htemperature : f generation.temperature ≤ 25) (htokens : f generation.maxOutputTokens ≤ 25) :
    generation.toJson.textBound f ≤ 400 :=
  (MembersWithin.obj (.cons (by decide) htemperature
    (.cons (by decide) htokens .nil))).trans (by decide)

theorem textBound_capabilities_le {capabilities : List ModelCapability}
    (h : capabilities.length ≤ ModelCapability.all.length) :
    (Json.arr (capabilities.map fun capability => text capability.name)).textBound f ≤ 600 := by
  have helements : Json.textBoundElements f (capabilities.map fun capability =>
      text capability.name) ≤ 129 * capabilities.length := by
    clear h
    induction capabilities with
    | nil => exact Nat.le_refl 0
    | cons capability capabilities ih =>
        have hname : (ofString capability.name).length ≤ 21 := by cases capability <;> decide
        have hbound : (text capability.name).textBound f ≤ _ := textBound_str_le hname
        rw [List.map_cons, Json.textBoundElements, List.length_cons]
        omega
  rw [Json.textBound]
  simp only [ModelCapability.all, List.length_cons, List.length_nil] at h
  omega

theorem textBound_adapter_le {adapter : AdapterEvidence} (h : adapter.version.length ≤ 32) :
    adapter.toJson.textBound f ≤ 700 := by
  have hname : (ofString adapter.id.name).length ≤ 21 := by cases adapter.id <;> decide
  exact (MembersWithin.obj (.cons (by decide) (textBound_str_le hname)
    (.cons (by decide) (textBound_str_le h) .nil))).trans (by decide)

theorem textBound_binding_le {binding : RoomBinding} (hid : binding.id.length ≤ 128)
    (hroomId : binding.roomId.length ≤ 128) (hmodelId : binding.model.profileId.length ≤ 128)
    (hrevision : f binding.revision ≤ 25) (hmodel : f binding.model.revision ≤ 25) :
    binding.toJson.textBound f ≤ 4000 := by
  have hpurpose : (ofString binding.purpose.name).length ≤ 21 := by
    cases binding.purpose
    decide
  exact (MembersWithin.obj (.cons (by decide) (textBound_str_le hid) (.cons (by decide) hrevision
    (.cons (by decide) (textBound_str_le hroomId) (.cons (by decide) (textBound_str_le hpurpose)
    (.cons (by decide) (textBound_reference_le hmodelId hmodel) .nil)))))).trans (by decide)

theorem textBound_connection_le {connection : SnapshotConnectionProfile}
    (hid : connection.id.length ≤ 128) (hrevision : f connection.revision ≤ 25) :
    connection.toJson.textBound f ≤ 2000 :=
  (MembersWithin.obj (.cons (by decide) (textBound_str_le hid) (.cons (by decide) hrevision
    (.cons (by decide) (textBound_target_le connection.target) .nil)))).trans (by decide)

theorem textBound_model_le {model : ModelProfile} (hid : model.id.length ≤ 128)
    (hconnectionId : model.connection.profileId.length ≤ 128)
    (hmodelId : model.modelId.length ≤ maxOpaqueModelIdBytes)
    (hcapabilities : model.requiredCapabilities.length ≤ ModelCapability.all.length)
    (hrevision : f model.revision ≤ 25) (hconnection : f model.connection.revision ≤ 25)
    (htemperature : f model.generation.temperature ≤ 25)
    (htokens : f model.generation.maxOutputTokens ≤ 25) : model.toJson.textBound f ≤ 8000 :=
  (MembersWithin.obj (.cons (by decide) (textBound_str_le hid) (.cons (by decide) hrevision
    (.cons (by decide) (textBound_reference_le hconnectionId hconnection)
    (.cons (by decide) (textBound_str_le hmodelId)
    (.cons (by decide) (textBound_capabilities_le hcapabilities)
    (.cons (by decide) (textBound_generation_le htemperature htokens) .nil))))))).trans (by decide)

end

/-- The text of an accepted snapshot fits its column. -/
theorem length_snapshotText_le {numbers : NumberFormat ℚ} {snapshot : DecisionSnapshot}
    (hchecked : snapshot.Checked) (hconsistent : snapshot.Consistent)
    (hshort : PrintsShort numbers snapshot) : (snapshotText numbers snapshot).length ≤ 32768 := by
  have hids := hchecked.ids
  simp only [PrintsShort, snapshotNumbers, DecisionSnapshot.ids, List.forall_mem_cons,
    List.not_mem_nil, false_imp_iff, implies_true, and_true] at hids hshort
  obtain ⟨hbindingRevision, hmodelRef, hconnectionRevision, hmodelRevision, hconnectionRef,
    htemperature, htokens, htemperature', htokens', hdirector, hpolicy⟩ := hshort
  obtain ⟨⟨-, hid, -⟩, ⟨-, hbindingId, -⟩, ⟨-, hroomId, -⟩, ⟨-, hconnectionId, -⟩, -,
    hmodelId, -⟩ := hids
  have hprint : snapshot.capabilityFingerprint.length ≤ 71 := by
    have h := hchecked.fingerprint
    simp only [Parse.isFingerprint, Bool.and_eq_true, decide_eq_true_eq] at h
    exact h.1.2.le
  have hbinding := textBound_binding_le (f := fun x => (numbers.print x).length) hbindingId hroomId
    (by rw [hconsistent.model]; exact hmodelId) hbindingRevision hmodelRef
  have hmodel := textBound_model_le (f := fun x => (numbers.print x).length) hmodelId
    (by rw [hconsistent.connection]; exact hconnectionId) hchecked.modelId hchecked.capabilities
    hmodelRevision hconnectionRef htemperature htokens
  refine (Json.length_stringify_le numbers _).trans ?_
  rw [Json.textBound_sorted]
  exact (MembersWithin.obj (.cons (by decide) (textBound_str_le hid) (.cons (by decide) hbinding
    (.cons (by decide) (textBound_connection_le hconnectionId hconnectionRevision)
    (.cons (by decide) hmodel (.cons (by decide) (textBound_generation_le htemperature' htokens')
    (.cons (by decide) (textBound_adapter_le hchecked.version)
    (.cons (by decide) (textBound_str_le hprint) (.cons (by decide) hdirector
    (.cons (by decide) hpolicy .nil)))))))))).trans (by decide)

/-! ## What the operations do -/

/-- A record that is accepted passes every `CHECK`, if its request does not begin with U+0000. -/
theorem Db.checkDecisionSnapshot_of_validated {host : Host} {input : CommitDecisionSnapshotInput}
    {record : DecisionSnapshotRecord} (h : validatedRecord host input = .ok record)
    (hshort : PrintsShort host.numbers record.snapshot) (hhead : record.requestId.head? ≠ some 0) :
    Db.checkDecisionSnapshot host.numbers record = .ok () := by
  obtain ⟨-, hrequestId, -, hparsed, hroom, hevidence, hroomId, hrequest, hdefinition⟩ :=
    validatedRecord_ok.mp h
  rw [← hrequest, not_or, not_or, not_lt, not_not] at hrequestId
  have hchecked := Parse.parseDecisionSnapshot_checked hparsed
  have hconsistent := Parse.parseDecisionSnapshot_consistent hparsed
  have hid := hchecked.ids record.snapshot.id List.mem_cons_self
  have hversion : ∀ definition ∈ record.providerDefinition, definition.version = 1 := by
    rw [hdefinition, hevidence]
    intro definition hmem
    cases htarget : record.snapshot.connection.target with
    | approvedProvider definitionId =>
        rw [htarget] at hmem
        obtain rfl := Option.some.inj hmem
        cases definitionId <;> rfl
    | localEndpoint adapter =>
        rw [htarget] at hmem
        cases hmem
  have htext : sqlLength (snapshotText host.numbers record.snapshot) ≤ 32768 :=
    (sqlLength_le _).trans (length_snapshotText_le hchecked hconsistent hshort)
  refine Except.bind_eq_ok.mpr ⟨(), Db.abortWhen_ok.mpr (secretFields_toJson _), ?_⟩
  refine Except.bind_eq_ok.mpr ⟨(), Db.check_ok.mpr (isSqlId_of_isCanonicalId hid), ?_⟩
  refine Except.bind_eq_ok.mpr ⟨(), Db.check_ok.mpr ⟨?_, ?_, sqlTrim_of_trim hrequestId.2.2⟩, ?_⟩
  · exact (sqlLength_pos_iff _).mpr ⟨hrequestId.1, hhead⟩
  · exact (sqlLength_le _).trans hrequestId.2.1
  refine Except.bind_eq_ok.mpr ⟨(), Db.check_ok.mpr
    (isSqlFingerprint_of_isFingerprint hchecked.fingerprint), ?_⟩
  refine Except.bind_eq_ok.mpr ⟨(), Db.check_ok.mpr hversion, ?_⟩
  exact Db.check_ok.mpr ⟨rfl, htext, snapshotColumns_mayEqual (hroom.trans hroomId.symm)⟩

/-- A request that begins with U+0000 passes no `CHECK`: its length is 0. -/
theorem Db.head_of_checkDecisionSnapshot {numbers : NumberFormat ℚ}
    {record : DecisionSnapshotRecord} {u : Unit}
    (h : Db.checkDecisionSnapshot numbers record = .ok u) : record.requestId.head? ≠ some 0 := by
  obtain ⟨_, -, h⟩ := Except.bind_eq_ok.mp h
  obtain ⟨_, -, h⟩ := Except.bind_eq_ok.mp h
  obtain ⟨_, hrequest, -⟩ := Except.bind_eq_ok.mp h
  exact ((sqlLength_pos_iff _).mp (Db.check_ok.mp hrequest).1).2

/-- A row that is inserted has passed the `CHECK`s, and its name and its request are new. -/
theorem Db.insertDecisionSnapshot_eq_ok {numbers : NumberFormat ℚ}
    {record : DecisionSnapshotRecord} {db db' : Db} {u : Unit}
    (h : Db.insertDecisionSnapshot numbers record db = .ok (u, db')) :
    Db.checkDecisionSnapshot numbers record = .ok () ∧
      record.snapshot.id ∉ db.providers.decisionSnapshots ∧
      db.providers.snapshotFor record.roomId record.requestId = none ∧
      db' = { db with
        providers := { db.providers with
          decisionSnapshots :=
            db.providers.decisionSnapshots.insert record.snapshot.id record } } := by
  obtain ⟨_, hcheck, h⟩ := Except.bind_eq_ok.mp h
  dsimp only at h
  split at h
  · cases h
  · next hid =>
      split at h
      · cases h
      · next hrequest =>
          split at h
          · exact ⟨hcheck, hid, Option.not_isSome_iff_eq_none.mp hrequest,
              (Prod.mk.inj (Except.ok.inj h)).2.symm⟩
          · cases h

theorem commitDecisionSnapshotInTransaction_returns {host : Host}
    {input : CommitDecisionSnapshotInput} {record : DecisionSnapshotRecord} {db db' : Db}
    (h : (commitDecisionSnapshotInTransaction host input).Returns db record db') :
    db.SameRooms db' := by
  simp only [commitDecisionSnapshotInTransaction, Program.returns_bind, Program.returns_ofExcept,
    Program.returns_require, Program.returns_statement, Program.returns_pure] at h
  obtain ⟨_, _, ⟨_, rfl⟩, _, db₁, hresolve, _, _, ⟨_, rfl⟩, _, _, ⟨_, rfl⟩, _, db₂, hinsert,
    rfl, rfl⟩ := h
  obtain rfl := (resolveRoomProviderDecision_readOnly _ _).returns hresolve
  rw [(Db.insertDecisionSnapshot_eq_ok hinsert).2.2.2]
  exact ⟨rfl, rfl, rfl, rfl, rfl⟩

end GreenRoom
