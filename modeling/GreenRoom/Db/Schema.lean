import GreenRoom.Core.Director
import GreenRoom.Lib.Program
import GreenRoom.Lib.Revisions
import GreenRoom.Providers.ProfileContracts

/-!
# The database

The tables of `migrations/`, with what their JSON columns hold, and the statements
on them.  Of the constraints of a table the model has the keys, the references of
the provider tables and the triggers that relate columns and rows, and of
`provider_observations` and `provider_decision_snapshots` every `CHECK`; elsewhere a bound
on a length or an alphabet only makes a statement fail, as any statement may.  Keys are
compared as the texts they are bound from.  Time stamps are left out: nothing here reads
them.

## Main definitions

* `RoomEvent`, `PendingMessage`, `CommandResult`, `Stored` — the JSON columns.
* `Db` — the tables.
* `Db.insertEvent`, `Db.insertCommand`, `Db.updateCommands`, … — the statements.
-/

namespace GreenRoom

open JsString GreenRoom.Core Providers

abbrev RoomId := JsString
abbrev RequestId := JsString
abbrev ParticipantId := JsString

/-- The primary key of `commands`. -/
abbrev CommandKey := RoomId × RequestId

/-! ## Columns -/

inductive RoomStatus
  | active | paused | stopped
  deriving DecidableEq, Repr

inductive ParticipantKind
  | human | persona
  deriving DecidableEq, Repr

/-- `event_json`. -/
inductive RoomEvent
  | roomStarted (cast : List (ParticipantId × JsString))
  | humanMessage (participantId : ParticipantId) (text : JsString)
  | directorDecision (sourceEventSequence : ℕ) (decision : DirectorDecision)
  | personaMessage (participantId : ParticipantId) (sourceEventSequence : ℕ) (text : JsString)
  deriving DecidableEq, Repr

/-- `json_extract(event_json, '$.type') = 'human_message'`. -/
def RoomEvent.isHumanMessage : RoomEvent → Bool
  | .humanMessage _ _ => true
  | _ => false

structure PendingMessage where
  requestId : RequestId
  humanEventSequence : ℕ
  directorEventSequence : ℕ
  decision : DirectorDecision
  generation : ℕ
  prompt : JsString
  providerDecision : Option DecisionSnapshot := none
  deriving DecidableEq, Repr

inductive MessageOutcome
  | notScheduled | silence | stale | text
  deriving DecidableEq, Repr

structure SendMessageResult where
  requestId : RequestId
  humanEventSequence : ℕ
  directorEventSequence : ℕ
  personaEventSequence : Option ℕ
  decision : DirectorDecision
  outcome : MessageOutcome
  generation : ℕ
  deriving DecidableEq, Repr

inductive RoomControl
  | pause | resume | stop
  deriving DecidableEq, Repr

structure RoomControlResult where
  kind : RoomControl
  requestId : RequestId
  status : RoomStatus
  generation : ℕ
  changed : Bool
  deriving DecidableEq, Repr

inductive PersonaControl
  | mute | unmute
  deriving DecidableEq, Repr

structure PersonaControlResult where
  kind : PersonaControl
  requestId : RequestId
  personaId : ParticipantId
  muted : Bool
  generation : ℕ
  changed : Bool
  deriving DecidableEq, Repr

/-- The result of a command, told apart by its `kind`. -/
inductive CommandResult
  | message (result : SendMessageResult)
  | roomControl (result : RoomControlResult)
  | personaControl (result : PersonaControlResult)
  deriving DecidableEq, Repr

/-- `result_json` of a command, told apart by its `state`. -/
inductive Stored
  | pending (message : PendingMessage)
  | complete (result : CommandResult)
  deriving DecidableEq, Repr

def Stored.isPending : Stored → Bool
  | .pending _ => true
  | .complete _ => false

structure RoomParticipantDto where
  id : ParticipantId
  kind : ParticipantKind
  displayName : JsString
  muted : Bool
  personaSlug : Option JsString
  deriving DecidableEq, Repr

structure CurrentRoomDto where
  id : RoomId
  sessionId : RoomId
  title : JsString
  status : RoomStatus
  generation : ℕ
  participants : List RoomParticipantDto
  deriving DecidableEq, Repr

structure SelectedCastDto where
  participantId : ParticipantId
  slug : JsString
  name : JsString
  sortOrder : ℕ
  deriving DecidableEq, Repr

structure CastReplacementResult where
  requestId : RequestId
  selectionRevision : ℕ
  sessionId : RoomId
  room : CurrentRoomDto
  selectedCast : List SelectedCastDto
  deriving DecidableEq, Repr

structure RoomSelectionResult where
  requestId : RequestId
  revision : ℕ
  room : CurrentRoomDto
  deriving DecidableEq, Repr

/-! ## Rows -/

structure RoomRow where
  title : JsString
  status : RoomStatus
  generation : ℕ := 0
  nextEventSequence : ℕ := 1
  activityOrder : ℕ := 0
  archived : Bool := false
  deriving DecidableEq, Repr

structure ParticipantRow where
  roomId : RoomId
  kind : ParticipantKind
  displayName : JsString
  muted : Bool := false
  sortOrder : ℕ
  personaSlug : Option JsString := none
  deriving DecidableEq, Repr

structure DirectorStateRow where
  lastSpeakerId : Option ParticipantId := none
  lastHumanEventSequence : Option ℕ := none
  autonomousTurns : ℕ := 0
  schedulingWindowGeneration : ℕ := 0
  deriving DecidableEq, Repr

structure CommandRow where
  requestDigest : JsString
  result : Stored
  claimOwner : Option JsString := none
  claimExpiresAt : Option ℕ := none
  deriving DecidableEq, Repr

/-- A row of `cast_commands` or `room_selection_commands`. -/
structure ResultRow (ρ : Type) where
  requestDigest : JsString
  result : ρ

structure CurrentRoomRow where
  roomId : RoomId
  selectionRevision : ℕ
  deriving DecidableEq, Repr

inductive ProviderProfileState
  | enabled | disabled | deleted
  deriving DecidableEq, Repr

structure ProfileRevision (ρ : Type) where
  state : ProviderProfileState
  profile : ρ

inductive ProviderHealth
  | ready | degraded | failed
  deriving DecidableEq, Repr

structure ProviderObservation where
  id : JsString
  connection : ProfileRevisionRef
  health : ProviderHealth
  capabilityFingerprint : JsString
  /-- What was found out, by the name of its member. -/
  evidence : List (JsString × Bool)
  deriving DecidableEq, Repr

structure ProviderDefinitionEvidence where
  id : ApprovedCloudProviderId
  version : ℕ
  deriving DecidableEq, Repr

/-- A row of `provider_decision_snapshots`; the routing policy is always the same. -/
structure DecisionSnapshotRecord where
  roomId : RoomId
  requestId : RequestId
  snapshot : DecisionSnapshot
  providerDefinition : Option ProviderDefinitionEvidence
  deriving DecidableEq, Repr

/-- The tables of migration 8. -/
structure ProviderTables where
  connectionProfileRevisions : RevisionTable JsString (ProfileRevision ConnectionProfile) := ∅
  modelProfileRevisions : RevisionTable JsString (ProfileRevision ModelProfile) := ∅
  /-- In the order of `observation_sequence`. -/
  observations : List ProviderObservation := []
  roomBindingRevisions : RevisionTable JsString RoomBinding := ∅
  decisionSnapshots : KeyedTable JsString DecisionSnapshotRecord := ∅

/-! ## Tables -/

structure Db where
  rooms : KeyedTable RoomId RoomRow := ∅
  participants : KeyedTable ParticipantId ParticipantRow := ∅
  events : KeyedTable (RoomId × ℕ) RoomEvent := ∅
  commands : KeyedTable CommandKey CommandRow := ∅
  directorState : KeyedTable RoomId DirectorStateRow := ∅
  currentRoom : Option CurrentRoomRow := none
  castCommands : KeyedTable RequestId (ResultRow CastReplacementResult) := ∅
  roomSelectionCommands : KeyedTable RequestId (ResultRow RoomSelectionResult) := ∅
  nextActivityOrder : ℕ := 1
  providers : ProviderTables := {}

/-- Programs on the database. -/
abbrev DbProgram := Program Db JsError

namespace Db

/-! ## Statements -/

def uniqueFailed {α : Type} (columns : String) : Except JsError α :=
  .error (.ofText ("UNIQUE constraint failed: " ++ columns))

def foreignKeyFailed {α : Type} : Except JsError α :=
  .error (.ofText "FOREIGN KEY constraint failed")

/-- A `CHECK` of a table. -/
def check (condition : Prop) [Decidable condition] (expression : String) : Except JsError Unit :=
  if condition then .ok () else .error (.ofText ("CHECK constraint failed: " ++ expression))

/-- A trigger raises `ABORT`. -/
def aborted {α : Type} (message : String) : Except JsError α := .error (.ofText message)

/-- A trigger that raises `ABORT` under a condition. -/
def abortWhen (condition : Prop) [Decidable condition] (message : String) : Except JsError Unit :=
  if condition then aborted message else .ok ()

/-- `UPDATE rooms SET … WHERE id = roomId`. -/
def updateRoom (roomId : RoomId) (f : RoomRow → RoomRow) (db : Db) : Db :=
  { db with rooms := KeyedTable.modify (fun id row => if id = roomId then f row else row) db.rooms }

def insertRoom (roomId : RoomId) (row : RoomRow) (db : Db) : Except JsError (Unit × Db) :=
  if roomId ∈ db.rooms then uniqueFailed "rooms.id"
  else .ok ((), { db with rooms := db.rooms.insert roomId row })

def insertParticipant (id : ParticipantId) (row : ParticipantRow) (db : Db) :
    Except JsError (Unit × Db) :=
  if id ∈ db.participants then uniqueFailed "participants.id"
  else if db.participants.entries.any fun e =>
      e.2.roomId = row.roomId && e.2.sortOrder = row.sortOrder then
    uniqueFailed "participants.room_id, participants.sort_order"
  else if db.participants.entries.any fun e =>
      e.2.roomId = row.roomId && e.2.personaSlug = row.personaSlug && row.personaSlug.isSome then
    uniqueFailed "participants.room_id, participants.persona_slug"
  else .ok ((), { db with participants := db.participants.insert id row })

/-- `UPDATE participants SET muted = … WHERE room_id = roomId AND id = personaId`. -/
def setMuted (roomId : RoomId) (personaId : ParticipantId) (muted : Bool) (db : Db) : Db :=
  { db with
    participants := KeyedTable.modify
      (fun id row => if id = personaId ∧ row.roomId = roomId then { row with muted } else row)
      db.participants }

def insertDirectorState (roomId : RoomId) (db : Db) : Except JsError (Unit × Db) :=
  if roomId ∈ db.directorState then uniqueFailed "director_state.room_id"
  else .ok ((), { db with directorState := db.directorState.insert roomId {} })

def updateDirectorState (roomId : RoomId) (f : DirectorStateRow → DirectorStateRow) (db : Db) :
    Db :=
  { db with
    directorState := KeyedTable.modify (fun id row => if id = roomId then f row else row)
      db.directorState }

/-- What `node:sqlite` says of an integer that no safe number is. -/
def columnTooLarge {α : Type} (column value : ℕ) : Except JsError α :=
  .error (.rangeError (ofString "The value of column " ++ ofNat column ++
    ofString " is too large to be represented as a JavaScript number: " ++ ofNat value))

/-- `UPDATE rooms SET next_event_sequence = next_event_sequence + 1 … RETURNING`. -/
def allocateSequence (roomId : RoomId) (db : Db) : Except JsError (Option ℕ × Db) :=
  let sequence := (db.rooms.lookup roomId).map RoomRow.nextEventSequence
  match sequence.filter (safeIntegerBound ≤ ·) with
  | some value => columnTooLarge 0 value
  | none => .ok (sequence, db.updateRoom roomId fun row =>
      { row with nextEventSequence := row.nextEventSequence + 1 })

theorem allocateSequence_ok {roomId : RoomId} {db db' : Db} {sequence : Option ℕ}
    (h : db.allocateSequence roomId = .ok (sequence, db')) :
    sequence = (db.rooms.lookup roomId).map RoomRow.nextEventSequence ∧
      (∀ n, sequence = some n → n < safeIntegerBound) ∧
      db' = db.updateRoom roomId fun row =>
        { row with nextEventSequence := row.nextEventSequence + 1 } := by
  simp only [allocateSequence] at h
  split at h
  · cases h
  · next hsafe =>
      obtain ⟨rfl, rfl⟩ := by simpa using h
      refine ⟨rfl, fun n hn => ?_, rfl⟩
      rw [hn, Option.filter_some, ite_eq_right_iff] at hsafe
      by_contra hlarge
      exact absurd (hsafe (by simpa using hlarge)) (Option.some_ne_none n)

/-- The insertion, with the trigger `room_event_updates_activity`. -/
def insertEvent (roomId : RoomId) (sequence : ℕ) (event : RoomEvent) (db : Db) :
    Except JsError (Unit × Db) :=
  if (roomId, sequence) ∈ db.events then uniqueFailed "events.room_id, events.sequence"
  else
    let db' := db.updateRoom roomId fun row => { row with activityOrder := db.nextActivityOrder }
    .ok ((), { db' with
      events := db.events.insert (roomId, sequence) event
      nextActivityOrder := db.nextActivityOrder + 1 })

/-- The greatest `claim_expires_at`. -/
def maxClaimExpiresAt : ℕ := 8640000000000000

/-- What `command_claim_insert_is_valid` and `command_claim_update_is_valid` ask of a row. -/
def claimIsValid (row : CommandRow) : Bool :=
  row.claimOwner.isSome = row.claimExpiresAt.isSome &&
    (row.claimOwner.isNone || row.result.isPending) &&
    row.claimExpiresAt.all fun t => t ≤ maxClaimExpiresAt

def invalidClaim {α : Type} : Except JsError α :=
  .error (.ofText "invalid command claim or oversized command metadata")

def insertCommand (key : CommandKey) (row : CommandRow) (db : Db) : Except JsError (Unit × Db) :=
  if key ∈ db.commands then uniqueFailed "commands.room_id, commands.request_id"
  else if claimIsValid row then
    .ok ((), { db with commands := db.commands.insert key row })
  else invalidClaim

/-- `UPDATE commands SET … WHERE …`; the answer is the number of changes. -/
def updateCommands (condition : CommandKey → CommandRow → Bool) (f : CommandRow → CommandRow)
    (db : Db) : Except JsError (ℕ × Db) :=
  if db.commands.entries.all fun e => !condition e.1 e.2 || claimIsValid (f e.2) then
    .ok (db.commands.entries.countP fun e => condition e.1 e.2,
      { db with
        commands := KeyedTable.modify
          (fun key row => if condition key row then f row else row) db.commands })
  else invalidClaim

/-- `UPDATE current_room SET … WHERE singleton = 1 AND selection_revision = expectedRevision`. -/
def updateCurrentRoom (roomId : RoomId) (expectedRevision : ℕ) (db : Db) :
    Except JsError (ℕ × Db) :=
  match db.currentRoom with
  | none => .ok (0, db)
  | some row =>
    if row.selectionRevision = expectedRevision then
      .ok (1, { db with currentRoom := some ⟨roomId, row.selectionRevision + 1⟩ })
    else .ok (0, db)

def insertCastCommand (requestId : RequestId) (row : ResultRow CastReplacementResult) (db : Db) :
    Except JsError (Unit × Db) :=
  if requestId ∈ db.castCommands then uniqueFailed "cast_commands.request_id"
  else .ok ((), { db with castCommands := db.castCommands.insert requestId row })

def insertRoomSelectionCommand (requestId : RequestId) (row : ResultRow RoomSelectionResult)
    (db : Db) : Except JsError (Unit × Db) :=
  if requestId ∈ db.roomSelectionCommands then
    uniqueFailed "room_selection_commands.request_id"
  else .ok ((), { db with
    roomSelectionCommands := db.roomSelectionCommands.insert requestId row })

/-! ## Queries -/

/-- A row of `SELECT id, … FROM participants`. -/
structure Participant where
  id : ParticipantId
  row : ParticipantRow
  deriving DecidableEq, Repr

/-- The participants of a room that meet a condition, `ORDER BY sort_order`. -/
def participantsOf (roomId : RoomId) (condition : ParticipantRow → Bool) (db : Db) :
    List Participant :=
  ((db.participants.entries.filter fun e => e.2.roomId = roomId && condition e.2).map
    fun e => (⟨e.1, e.2⟩ : Participant)).insertionSort fun p q => p.row.sortOrder ≤ q.row.sortOrder

def personasOf (roomId : RoomId) (db : Db) : List Participant :=
  db.participantsOf roomId fun row => row.kind = .persona

/-- How many human messages of a room have a sequence above the given one. -/
def humanMessagesAfter (roomId : RoomId) (sequence : ℕ) (db : Db) : ℕ :=
  db.events.entries.countP fun e =>
    e.1.1 = roomId && sequence < e.1.2 && e.2.isHumanMessage

end Db

end GreenRoom
