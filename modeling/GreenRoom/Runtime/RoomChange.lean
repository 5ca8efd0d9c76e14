import GreenRoom.Runtime.RoomService

/-!
# What a transaction can change

Every transaction that commits changes the database in one of a few ways.  Claims
and pinned provider decisions come and go without a trace in the log, so a change
is stated on what is *recorded* of a command: its digest and its result, pins aside.

## Main definitions

* `Db.stored`, `Db.recorded`, `Db.claim` — the result a command's row holds, what is
  recorded of it, and who has claimed it.
* `Db.Quiet` — a change no room sees.
* `Accepted`, `Replied`, `Settled`, `RoomControlled`, `PersonaControlled` — the
  others, with `Db.Opened`.
* `Change` — any of them.
-/

namespace GreenRoom

open GreenRoom.Core

/-- A pending message without the provider decision it may be pinned to. -/
def PendingMessage.unpinned (message : PendingMessage) : PendingMessage :=
  { message with providerDecision := none }

def Stored.unpinned : Stored → Stored
  | .pending message => .pending message.unpinned
  | .complete result => .complete result

/-- What is recorded of a command. -/
structure Record where
  requestDigest : JsString
  result : Stored
  deriving DecidableEq

structure Claim where
  owner : JsString
  expiresAt : ℕ
  deriving DecidableEq

def CommandRow.record (row : CommandRow) : Record := ⟨row.requestDigest, row.result.unpinned⟩

def CommandRow.claim (row : CommandRow) : Option Claim :=
  match row.claimOwner, row.claimExpiresAt with
  | some owner, some expiresAt => some ⟨owner, expiresAt⟩
  | _, _ => none

namespace Db

/-- The result a command's row holds. -/
def stored (key : CommandKey) (db : Db) : Option Stored :=
  (db.commands.lookup key).map CommandRow.result

def recorded (key : CommandKey) (db : Db) : Option Record :=
  (db.commands.lookup key).map CommandRow.record

def claim (key : CommandKey) (db : Db) : Option Claim :=
  (db.commands.lookup key).bind CommandRow.claim

/-- Rooms and logs are the same; commands need not be. -/
structure SameLogs (db db' : Db) : Prop where
  rooms : db'.rooms = db.rooms
  participants : db'.participants = db.participants
  events : db'.events = db.events
  directorState : db'.directorState = db.directorState

/-- Nothing a room sees has changed. -/
structure Quiet (db db' : Db) : Prop extends SameLogs db db' where
  recorded : ∀ key, db'.recorded key = db.recorded key

theorem Quiet.refl (db : Db) : db.Quiet db := ⟨⟨rfl, rfl, rfl, rfl⟩, fun _ => rfl⟩

theorem SameRooms.sameLogs {db db' : Db} (h : db.SameRooms db') : db.SameLogs db' :=
  ⟨h.rooms, h.participants, h.events, h.directorState⟩

theorem SameRooms.quiet {db db' : Db} (h : db.SameRooms db') : db.Quiet db' :=
  ⟨h.sameLogs, fun key => by rw [recorded, recorded, h.commands]⟩

/-- One room's row is updated. -/
def RoomUpdated (roomId : RoomId) (f : RoomRow → RoomRow) (db db' : Db) : Prop :=
  ∀ id, db'.rooms.lookup id = (db.rooms.lookup id).map fun row => if id = roomId then f row else row

/-- One command's record is written. -/
def RecordSet (key : CommandKey) (record : Record) (db db' : Db) : Prop :=
  ∀ k, db'.recorded k = if k = key then some record else db.recorded k

/-- No claim is made or prolonged. -/
def ClaimsKept (db db' : Db) : Prop :=
  ∀ key, db'.claim key = db.claim key ∨ db'.claim key = none

theorem ClaimsKept.refl (db : Db) : db.ClaimsKept db := fun _ => .inl rfl

theorem ClaimsKept.trans {db₁ db₂ db₃ : Db} (h : db₁.ClaimsKept db₂) (h' : db₂.ClaimsKept db₃) :
    db₁.ClaimsKept db₃ := by
  intro key
  rcases h' key with h' | h'
  · rw [h']
    exact h key
  · exact .inr h'

theorem ClaimsKept.of_commands {db db' : Db} (h : db'.commands = db.commands) :
    db.ClaimsKept db' := fun key => .inl (by rw [claim, claim, h])

end Db

namespace Runtime

/-! ## The changes -/

/-- The record of a message that has just been accepted. -/
def acceptedPending (command : MessageCommand) (room : RoomRow) (decision : DirectorDecision) :
    PendingMessage where
  requestId := command.requestId
  humanEventSequence := room.nextEventSequence
  directorEventSequence := room.nextEventSequence + 1
  decision
  generation := room.generation
  prompt := command.text

/-- The result of a message nobody answers. -/
def unscheduledResult (command : MessageCommand) (room : RoomRow) (decision : DirectorDecision) :
    SendMessageResult where
  requestId := command.requestId
  humanEventSequence := room.nextEventSequence
  directorEventSequence := room.nextEventSequence + 1
  personaEventSequence := none
  decision
  outcome := .notScheduled
  generation := room.generation

def acceptedStored (command : MessageCommand) (room : RoomRow) (decision : DirectorDecision) :
    Stored :=
  if decision.speaker = none then .complete (.message (unscheduledResult command room decision))
  else .pending (acceptedPending command room decision)

/-- A new message has been accepted, with its decision. -/
structure Accepted (command : MessageCommand) (requestDigest : JsString)
    (decision : DirectorDecision) (room : RoomRow) (state : DirectorStateRow)
    (db db' : Db) : Prop where
  found : db.rooms.lookup command.roomId = some room
  active : room.status = .active
  safe : room.nextEventSequence < safeIntegerBound
  new : db.recorded command.key = none
  foundState : db.directorState.lookup command.roomId = some state
  free : (command.roomId, room.nextEventSequence) ∉ db.events
  free' : (command.roomId, room.nextEventSequence + 1) ∉ db.events
  rooms : ∃ order, db.RoomUpdated command.roomId (fun row => { row with
    nextEventSequence := row.nextEventSequence + 2
    activityOrder := order }) db'
  participants : db'.participants = db.participants
  events : ∃ human, db'.events = (db.events.insert (command.roomId, room.nextEventSequence)
      (.humanMessage human command.text)).insert (command.roomId, room.nextEventSequence + 1)
      (.directorDecision room.nextEventSequence decision) ∧
    (decide command.roomId state command.wantsResponse command.targetPersonaId).Returns
      (db.appended command.roomId room.nextEventSequence (.humanMessage human command.text))
      decision
      (db.appended command.roomId room.nextEventSequence (.humanMessage human command.text))
  directorState : ∀ id, db'.directorState.lookup id = (db.directorState.lookup id).map fun row =>
    if id = command.roomId then scheduled decision room.nextEventSequence room.generation row
    else row
  record : db.RecordSet command.key ⟨requestDigest, acceptedStored command room decision⟩ db'

/-- The result of a pending message. -/
def resultOf (requestId : RequestId) (message : PendingMessage) (personaEventSequence : Option ℕ)
    (outcome : MessageOutcome) : SendMessageResult where
  requestId
  humanEventSequence := message.humanEventSequence
  directorEventSequence := message.directorEventSequence
  personaEventSequence
  decision := message.decision
  outcome
  generation := message.generation

/-- The reply to a pending message has been committed. -/
structure Replied (key : CommandKey) (requestDigest : JsString) (message : PendingMessage)
    (speaker : ParticipantId) (text : JsString) (room : RoomRow) (db db' : Db) : Prop where
  pending : db.recorded key = some ⟨requestDigest, .pending message⟩
  speaks : message.decision.speaker = some speaker
  found : db.rooms.lookup key.1 = some room
  fresh : staleIn key.1 message.generation speaker db = false
  free : (key.1, room.nextEventSequence) ∉ db.events
  rooms : ∃ order, db.RoomUpdated key.1 (fun row => { row with
    nextEventSequence := row.nextEventSequence + 1
    activityOrder := order }) db'
  participants : db'.participants = db.participants
  events : db'.events = db.events.insert (key.1, room.nextEventSequence)
    (.personaMessage speaker message.humanEventSequence text)
  directorState : db'.directorState = db.directorState
  record : db.RecordSet key ⟨requestDigest, .complete (.message
    (resultOf key.2 message (some room.nextEventSequence) .text))⟩ db'

/-- A pending message has been completed without a reply. -/
structure Settled (key : CommandKey) (requestDigest : JsString) (message : PendingMessage)
    (outcome : MessageOutcome) (db db' : Db) : Prop where
  pending : db.recorded key = some ⟨requestDigest, .pending message⟩
  rooms : db'.rooms = db.rooms
  participants : db'.participants = db.participants
  events : db'.events = db.events
  directorState : db'.directorState = db.directorState
  record : db.RecordSet key
    ⟨requestDigest, .complete (.message (resultOf key.2 message none outcome))⟩ db'

/-- The operator has paused, resumed or stopped a room. -/
structure RoomControlled (key : CommandKey) (requestDigest : JsString) (result : RoomControlResult)
    (db db' : Db) : Prop where
  new : db.recorded key = none
  found : ∃ room, db.rooms.lookup key.1 = some room ∧
    (result.changed ↔ room.status ≠ targetStatus result.kind) ∧
    (result.kind = .stop ∨ room.status ≠ .stopped)
  rooms : db.RoomUpdated key.1 (fun row => { row with
    status := targetStatus result.kind
    generation := row.generation + if result.changed && result.kind ≠ .resume then 1 else 0 }) db'
  participants : db'.participants = db.participants
  events : db'.events = db.events
  directorState : db'.directorState = db.directorState
  record : db.RecordSet key ⟨requestDigest, .complete (.roomControl result)⟩ db'

/-- The operator has muted or unmuted a persona. -/
structure PersonaControlled (key : CommandKey) (requestDigest : JsString)
    (result : PersonaControlResult) (db db' : Db) : Prop where
  new : db.recorded key = none
  found : ∃ room, db.rooms.lookup key.1 = some room ∧ room.status ≠ .stopped
  foundPersona : ∃ persona, db.participants.lookup result.personaId = some persona ∧
    persona.roomId = key.1 ∧ persona.kind = .persona ∧
    (result.changed ↔ persona.muted ≠ result.muted)
  kind : result.muted = true ↔ result.kind = .mute
  rooms : db.RoomUpdated key.1 (fun row => { row with
    generation := row.generation + if result.changed && result.muted then 1 else 0 }) db'
  participants : db'.participants = (db.setMuted key.1 result.personaId result.muted).participants
  events : db'.events = db.events
  directorState : db'.directorState = db.directorState
  record : db.RecordSet key ⟨requestDigest, .complete (.personaControl result)⟩ db'

/-- The change a transaction of `author` makes when it commits. -/
inductive Change (db db' : Db) : Option CommandKey → Prop
  | quiet (author : Option CommandKey) : db.Quiet db' → Change db db' author
  | opened (sessionId : RoomId) : db.Opened sessionId db' → Change db db' none
  | accepted (command : MessageCommand) (requestDigest : JsString) (decision : DirectorDecision)
      (room : RoomRow) (state : DirectorStateRow) :
      Accepted command requestDigest decision room state db db' →
        Change db db' (some command.key)
  | replied (key : CommandKey) (requestDigest : JsString) (message : PendingMessage)
      (speaker : ParticipantId) (text : JsString) (room : RoomRow) :
      Replied key requestDigest message speaker text room db db' → Change db db' (some key)
  | settled (key : CommandKey) (requestDigest : JsString) (message : PendingMessage)
      (outcome : MessageOutcome) :
      Settled key requestDigest message outcome db db' → Change db db' (some key)
  | roomControlled (key : CommandKey) (requestDigest : JsString) (result : RoomControlResult) :
      RoomControlled key requestDigest result db db' → Change db db' (some key)
  | personaControlled (key : CommandKey) (requestDigest : JsString)
      (result : PersonaControlResult) :
      PersonaControlled key requestDigest result db db' → Change db db' (some key)

end Runtime

end GreenRoom
