import GreenRoom.Iphone.Tables

/-!
# The statements of the iPhone database

Every statement template the native store executes, and the statements its own
functions execute, as functions on the tables together with the triggers they fire.
A statement that raises, or breaks a constraint, answers `none`; one that succeeds
answers the next tables and the number of rows it changed.

## Main definitions

* `insertEvent` — an insertion into `events` with its trigger.
* `updateCommand`, `updateCommands` — an update of `generation_commands` with its
  triggers, of one row and of all rows meeting a condition.
* `commitTurn` — what completing a command does to its room.
* `Statement`, `Statement.exec` — the templates, by their names.
-/

namespace GreenRoom.Iphone

open JsString

/-- What a successful statement answers. -/
abbrev Executed := Option (Store × ℕ)

/-- The statement changes one row, if its write succeeds. -/
def changing (write : Option Store) : Executed := write.map fun db => (db, 1)

/-! ## Rooms and events -/

/-- `room_event_advances_sequence`, on the row of the room. -/
def RoomRow.advance (sequence : ℕ) (room : RoomRow) : RoomRow :=
  if room.nextEventSequence = sequence then { room with nextEventSequence := sequence + 1 }
  else room

/-- Insert one row into `events`. -/
def insertEvent (roomId : String) (sequence : ℕ) (event : Json ℚ) (db : Store) : Option Store :=
  match db.rooms.lookup roomId with
  | none => none
  | some room =>
    if 1 ≤ sequence ∧ event.isObject ∧ db.events.lookup (roomId, sequence) = none then
      some { db with
        events := db.events.insert (roomId, sequence) event
        rooms := db.rooms.insert roomId (room.advance sequence) }
    else none

/-- Append an event to the room if it meets a condition. -/
def appendEventIf (condition : RoomRow → Bool) (event : Json ℚ) (roomId : String) (db : Store) :
    Executed :=
  match db.rooms.lookup roomId with
  | none => some (db, 0)
  | some room =>
    if condition room then changing (insertEvent roomId room.nextEventSequence event db)
    else some (db, 0)

def appendEvent (event : Json ℚ) (roomId : String) (db : Store) : Executed :=
  appendEventIf (fun _ => true) event roomId db

/-- The room is active, where the caller believes it to be, and the current one. -/
def RoomRow.openAt (db : Store) (roomId : String) (generation next : ℕ) (room : RoomRow) :
    Bool :=
  room.status = .active && room.generation = generation && room.nextEventSequence = next &&
    db.currentRoom = some roomId

/-- The event is the decision that lets `speaker` answer the message at `source`. -/
def decides (generation source : ℕ) (speaker : String) (decision : Json ℚ) : Bool :=
  decision.extract "type" = .ofText "director_decision" &&
    (decision.extract "reason" = .ofText "selected" ||
      decision.extract "reason" = .ofText "directed") &&
    decision.extract "generation" = .ofNat generation &&
    decision.extract "sourceEventSequence" = .ofNat source &&
    decision.extract "speaker" = .ofText speaker

def appendPersonaEvent (event : Json ℚ) (roomId : String)
    (generation next decisionSequence source : ℕ) (speaker : String) (db : Store) : Executed :=
  appendEventIf
    (fun room => room.openAt db roomId generation next &&
      (db.events.lookup (roomId, decisionSequence)).any (decides room.generation source speaker))
    event roomId db

/-- The open demonstration room, where the caller believes it to be. -/
def RoomRow.demoOpenAt (db : Store) (roomId : String) (generation next : ℕ) (room : RoomRow) :
    Bool :=
  room.inferenceMode = .reviewDemo && room.openAt db roomId generation next

/-- A participant of the room meets the condition. -/
def participantExists (db : Store) (roomId : String) (p : String → ParticipantRow → Bool) : Bool :=
  db.participants.entries.any fun e => e.1.1 = roomId && p e.1.2 e.2

/-- The template binds the event three times. -/
def appendReviewDemoHumanEvent (event : Json ℚ) (roomId : String) (generation next : ℕ)
    (event₁ event₂ : Json ℚ) (db : Store) : Executed :=
  appendEventIf
    (fun room => room.demoOpenAt db roomId generation next &&
      event₁.extract "type" = .ofText "human_message" &&
      participantExists db roomId fun id human =>
        human.kind = .human && event₂.extract "participantId" = .ofText id)
    event roomId db

def appendReviewDemoDirectorEvent (event : Json ℚ) (roomId : String) (generation next : ℕ)
    (event₁ event₂ : Json ℚ) (source : ℕ) (event₃ : Json ℚ) (speaker : String) (db : Store) :
    Executed :=
  appendEventIf
    (fun room => room.demoOpenAt db roomId generation next &&
      event₁.extract "type" = .ofText "director_decision" &&
      event₂.extract "sourceEventSequence" = .ofNat source &&
      event₃.extract "speaker" = .ofText speaker)
    event roomId db

def appendReviewDemoPersonaEvent (event : Json ℚ) (roomId : String) (generation next : ℕ)
    (event₁ event₂ : Json ℚ) (source : ℕ) (event₃ : Json ℚ) (speaker slug : String)
    (db : Store) : Executed :=
  appendEventIf
    (fun room => room.demoOpenAt db roomId generation next &&
      event₁.extract "type" = .ofText "persona_message" &&
      event₂.extract "sourceEventSequence" = .ofNat source &&
      event₃.extract "personaSlug" = .ofText speaker &&
      participantExists db roomId fun _ persona =>
        persona.kind = .persona && persona.personaSlug = some slug)
    event roomId db

def createRoom (id title : String) (inferenceMode : InferenceMode) (db : Store) : Executed :=
  if db.rooms.lookup id = none then
    let room : RoomRow :=
      { title, status := .active, generation := 0, nextEventSequence := 1, inferenceMode }
    some ({ db with rooms := db.rooms.insert id room }, 1)
  else none

/-- Insert one row into `participants`. -/
def insertParticipant (id roomId : String) (row : ParticipantRow) (db : Store) : Executed :=
  if row.Checked ∧ db.rooms.lookup roomId ≠ none ∧ db.participants.lookup (roomId, id) = none ∧
      ¬ participantExists db roomId fun _ other =>
        other.sortOrder = row.sortOrder ||
          (row.personaSlug ≠ none && other.personaSlug = row.personaSlug) then
    some ({ db with participants := db.participants.insert (roomId, id) row }, 1)
  else none

def createHuman (id roomId displayName : String) (db : Store) : Executed :=
  insertParticipant id roomId
    { kind := .human, displayName, sortOrder := 0, personaSlug := none } db

def createPersona (id roomId displayName : String) (sortOrder : ℕ) (personaSlug : String)
    (db : Store) : Executed :=
  insertParticipant id roomId
    { kind := .persona, displayName, sortOrder, personaSlug := some personaSlug } db

def createDirectorState (roomId : String) (db : Store) : Executed :=
  if db.rooms.lookup roomId ≠ none ∧ db.directorState.lookup roomId = none then
    some ({ db with directorState := db.directorState.insert roomId {} }, 1)
  else none

def saveLocalDraft (roomId text : String) (db : Store) : Executed :=
  if db.rooms.lookup roomId ≠ none then
    some ({ db with localDrafts := db.localDrafts.insert roomId text }, 1)
  else none

def deleteLocalDraft (roomId : String) (db : Store) : Executed :=
  some ({ db with localDrafts := db.localDrafts.erase roomId },
    if db.localDrafts.lookup roomId = none then 0 else 1)

def selectRoom (roomId : String) (db : Store) : Executed :=
  if db.rooms.lookup roomId ≠ none then some ({ db with currentRoom := some roomId }, 1)
  else none

/-! ## Director state -/

/-- The constraints on a row of `director_state`. -/
def DirectorRow.Checked (db : Store) (roomId : String) (row : DirectorRow) : Prop :=
  row.stateJson.all Json.isObject ∧ row.lastHumanEventSequence.all (1 ≤ ·) ∧
    row.lastSpeakerId.all fun speaker => (db.participants.lookup (roomId, speaker)).isSome

instance (db : Store) (roomId : String) (row : DirectorRow) : Decidable (row.Checked db roomId) :=
  inferInstanceAs (Decidable (_ ∧ _ ∧ _))

/-- `UPDATE director_state SET … WHERE room_id = roomId`; `set` answers `none` where the
column types refuse the new row. -/
def updateDirectorRow (roomId : String) (set : DirectorRow → Option DirectorRow) (db : Store) :
    Executed :=
  match db.directorState.lookup roomId with
  | none => some (db, 0)
  | some row =>
    match set row with
    | none => none
    | some new =>
      if new.Checked db roomId then
        some ({ db with directorState := db.directorState.insert roomId new }, 1)
      else none

/-- The template binds the speaker twice. -/
def updateDirectorState (stateJson : Option (Json ℚ)) (lastHumanEventSequence : Option ℕ)
    (speaker₁ speaker₂ : Option String) (autonomousTurns schedulingWindowGeneration : ℕ)
    (roomId : String) (generation next : ℕ) (db : Store) : Executed :=
  if (db.rooms.lookup roomId).any fun room =>
      room.generation = generation && room.nextEventSequence = next then
    updateDirectorRow roomId
      (fun row => some { row with
        stateJson
        lastHumanEventSequence
        lastSpeakerId := if speaker₁ = none then row.lastSpeakerId else speaker₂
        autonomousTurns
        schedulingWindowGeneration })
      db
  else some (db, 0)

def updateReviewDemoDirectorState (stateJson : Option (Json ℚ))
    (lastHumanEventSequence : Option ℕ) (lastSpeakerId : Option String)
    (autonomousTurns schedulingWindowGeneration : ℕ) (roomId : String) (generation next : ℕ)
    (db : Store) : Executed :=
  if (db.rooms.lookup roomId).any (RoomRow.demoOpenAt db roomId generation next) then
    updateDirectorRow roomId
      (fun _ => some
        { stateJson, lastHumanEventSequence, lastSpeakerId, autonomousTurns,
          schedulingWindowGeneration })
      db
  else some (db, 0)

/-! ## Generation commands -/

/-- The whole number an expression denotes. -/
def wholeNumber : SqlValue ℚ → Option ℕ
  | .number x => if x.den = 1 ∧ 0 ≤ x.num then some x.num.toNat else none
  | _ => none

/-- The event the completion trigger builds. -/
def personaEvent (c : GenerationCommand) (slug : String) (responseText : Option String) : Json ℚ :=
  .obj
    [(ofString "generation", .num c.expectedGeneration),
      (ofString "personaSlug", .str (ofString slug)),
      (ofString "sourceEventSequence", .num c.expectedNextEventSequence),
      (ofString "text", responseText.elim .null fun text => .str (ofString text)),
      (ofString "type", .str (ofString "persona_message"))]

/-- The row `director_state` gets when the command completes. -/
def completedDirectorRow (c : GenerationCommand) (row : DirectorRow) : Option DirectorRow :=
  (wholeNumber (c.directorState.extract "autonomousTurns")).map fun autonomousTurns =>
    { stateJson := some c.directorState
      lastHumanEventSequence := some c.expectedNextEventSequence
      lastSpeakerId := if c.personaSlug = none then row.lastSpeakerId else c.personaSlug
      autonomousTurns
      schedulingWindowGeneration := c.expectedGeneration }

/-- `generation_command_completion_commits_room`. -/
def commitTurn (c : CommandRow) (db : Store) : Option Store := do
  let (db, _) ← updateDirectorRow c.roomId (completedDirectorRow c.toGenerationCommand) db
  let db ← insertEvent c.roomId c.expectedNextEventSequence c.humanEvent db
  let db ← insertEvent c.roomId (c.expectedNextEventSequence + 1) c.directorEvent db
  let db ← match c.personaSlug with
    | none => some db
    | some slug =>
      insertEvent c.roomId (c.expectedNextEventSequence + 2)
        (personaEvent c.toGenerationCommand slug c.responseText) db
  some { db with localDrafts := db.localDrafts.erase c.roomId }

/-- The room is where the command expects it, the condition of
`generation_command_completion_is_fenced`. -/
def GenerationCommand.fenced (c : GenerationCommand) (db : Store) : Bool :=
  (db.rooms.lookup c.roomId).any fun room =>
    room.status = .active && room.generation = c.expectedGeneration &&
      room.nextEventSequence = c.expectedNextEventSequence

/-- `one_unresolved_generation_command_per_room`, for the row a command would get. -/
def UniqueUnresolved (db : Store) (commandId : String) (row : CommandRow) : Prop :=
  row.state.unresolved → ∀ e ∈ db.commands.entries,
    e.1 ≠ commandId → e.2.roomId = row.roomId → e.2.state.unresolved = false

instance (db : Store) (commandId : String) (row : CommandRow) :
    Decidable (UniqueUnresolved db commandId row) :=
  inferInstanceAs (Decidable (_ → ∀ e ∈ db.commands.entries, _))

/-- The command enters the completed state. -/
def Completes (old new : CommandRow) : Prop := new.state = .completed ∧ old.state ≠ .completed

instance (old new : CommandRow) : Decidable (Completes old new) :=
  inferInstanceAs (Decidable (_ ∧ _))

/-- What the triggers before an update of `generation_commands`, and its constraints,
ask of the new row. -/
structure UpdateAllowed (db : Store) (commandId : String) (old new : CommandRow) : Prop where
  immutable : new.toGenerationCommand = old.toGenerationCommand
  transition : ValidTransition old new
  attempt : Completes old new → new.attemptEpoch = old.attemptEpoch
  fenced : Completes old new → old.fenced db
  checked : new.Checked
  unique : UniqueUnresolved db commandId new

instance (db : Store) (commandId : String) (old new : CommandRow) :
    Decidable (UpdateAllowed db commandId old new) :=
  decidable_of_iff
    (new.toGenerationCommand = old.toGenerationCommand ∧ ValidTransition old new ∧
      (Completes old new → new.attemptEpoch = old.attemptEpoch) ∧
      (Completes old new → old.fenced db) ∧ new.Checked ∧ UniqueUnresolved db commandId new)
    ⟨fun ⟨h₁, h₂, h₃, h₄, h₅, h₆⟩ => ⟨h₁, h₂, h₃, h₄, h₅, h₆⟩,
      fun ⟨h₁, h₂, h₃, h₄, h₅, h₆⟩ => ⟨h₁, h₂, h₃, h₄, h₅, h₆⟩⟩

/-- Update one row of `generation_commands`. -/
def updateCommand (commandId : String) (old new : CommandRow) (db : Store) : Option Store :=
  if UpdateAllowed db commandId old new then
    let updated := { db with commands := db.commands.insert commandId new }
    if Completes old new then commitTurn new updated else some updated
  else none

/-- Update the rows of a list, one after the other. -/
def updateCommandList (set : CommandRow → CommandRow) :
    List ((_ : String) × CommandRow) → Store → Option Store
  | [], db => some db
  | ⟨commandId, row⟩ :: rows, db =>
    (updateCommand commandId row (set row) db).bind (updateCommandList set rows)

/-- `UPDATE generation_commands SET … WHERE …`. -/
def updateCommands (condition : String → CommandRow → Bool) (set : CommandRow → CommandRow)
    (db : Store) : Executed :=
  let rows := db.commands.entries.filter fun e => condition e.1 e.2
  (updateCommandList set rows db).map fun db => (db, rows.length)

/-- The three values every template finds a command by. -/
structure CommandIdentity where
  commandId : String
  requestId : String
  requestDigest : String
  deriving DecidableEq

/-- `command_id = ? AND request_id = ? AND request_digest = ?`. -/
def CommandIdentity.names (id : CommandIdentity) (commandId : String) (row : CommandRow) : Bool :=
  commandId = id.commandId && row.requestId = id.requestId &&
    row.requestDigest = id.requestDigest

/-- `generation_command_human_belongs_to_room`. -/
def humanBelongs (db : Store) (c : GenerationCommand) : Bool :=
  participantExists db c.roomId fun id human =>
    human.kind = .human && c.humanEvent.extract "participantId" = .ofText id

/-- The provider a prepared plan may name. -/
def preparable (db : Store) (plan : Json ℚ) : Bool :=
  db.authority.any fun a =>
    a.selection.Matches plan && a.credential.lifecycleState = .ready &&
      !a.credential.tombstoned && !a.profile.tombstoned

/-- The plan is one of silence, or of a provider that may be asked now. -/
def planAdmitted (db : Store) (c : GenerationCommand) : Bool :=
  match c.personaSlug with
  | none => c.requestPlan.extract "kind" = .ofText "silence"
  | some _ => c.requestPlan.extract "kind" = .ofText "provider" && preparable db c.requestPlan

/-- The template takes the room's generation and next sequence apart from the ones it
stores. -/
def prepareGenerationCommand (commandId : String) (c : GenerationCommand)
    (generation next : ℕ) (db : Store) : Executed :=
  match db.rooms.lookup c.roomId with
  | none => some (db, 0)
  | some room =>
    if room.status = .active ∧ room.inferenceMode = .provider ∧ room.generation = generation ∧
        room.nextEventSequence = next ∧
        (∀ e ∈ db.commands.entries, e.2.roomId = c.roomId → e.2.state.unresolved = false) ∧
        planAdmitted db c then
      let row : CommandRow := { toGenerationCommand := c, state := .prepared }
      if humanBelongs db c ∧ db.commands.lookup commandId = none ∧
          (∀ e ∈ db.commands.entries, e.2.requestId ≠ c.requestId) ∧ row.Checked ∧
          UniqueUnresolved db commandId row then
        some ({ db with commands := db.commands.insert commandId row }, 1)
      else none
    else some (db, 0)

/-- What `begin_generation_command` asks of the selection, the consent, the credential
and the room. -/
def beginnableCommand (db : Store) (credentialRef mutationId : String) (c : GenerationCommand) :
    Bool :=
  (db.authority.any fun a =>
    a.selection.Matches c.requestPlan && !a.profile.tombstoned &&
      maxRevision db.profileRevisions a.selection.profileId = some a.selection.profileRevision &&
      a.credential.credentialRef = credentialRef && a.credential.mutationId = mutationId &&
      a.credential.lifecycleState = .ready && !a.credential.tombstoned) &&
  (db.rooms.lookup c.roomId).any fun room =>
    room.inferenceMode = .provider &&
      room.openAt db c.roomId c.expectedGeneration c.expectedNextEventSequence

def beginGenerationCommand (id : CommandIdentity) (plan : Json ℚ) (attemptEpoch : ℕ)
    (credentialRef mutationId : String) (db : Store) : Executed :=
  updateCommands
    (fun commandId row =>
      id.names commandId row && row.requestPlan = plan && row.attemptEpoch = attemptEpoch &&
        (row.state = .prepared || row.state = .failed || row.state = .interrupted) &&
        row.requestPlan.extract "kind" = .ofText "provider" &&
        beginnableCommand db credentialRef mutationId row.toGenerationCommand)
    (fun row => { row with
      state := .inFlight
      attemptEpoch := row.attemptEpoch + 1
      started := true
      failureCode := none })
    db

def failGenerationCommand (failureCode : String) (id : CommandIdentity) (attemptEpoch : ℕ)
    (db : Store) : Executed :=
  updateCommands
    (fun commandId row =>
      id.names commandId row && row.attemptEpoch = attemptEpoch &&
        (row.state = .prepared || row.state = .failed))
    (fun row => { row with state := .failed, failureCode := some failureCode })
    db

def interruptGenerationCommand (failureCode : String) (id : CommandIdentity) (attemptEpoch : ℕ)
    (db : Store) : Executed :=
  updateCommands
    (fun commandId row =>
      id.names commandId row && row.attemptEpoch = attemptEpoch && row.state = .inFlight)
    (fun row => { row with state := .interrupted, failureCode := some failureCode })
    db

def completeGenerationCommand (responseText : String) (id : CommandIdentity) (attemptEpoch : ℕ)
    (db : Store) : Executed :=
  updateCommands
    (fun commandId row =>
      id.names commandId row && row.attemptEpoch = attemptEpoch && row.state = .inFlight &&
        row.personaSlug.isSome)
    (fun row => { row with
      state := .completed
      responseText := some responseText
      failureCode := none
      finished := true })
    db

def completeSilentGenerationCommand (id : CommandIdentity) (attemptEpoch : ℕ) (db : Store) :
    Executed :=
  updateCommands
    (fun commandId row =>
      id.names commandId row && row.attemptEpoch = attemptEpoch &&
        (row.state = .prepared || row.state = .failed) && row.personaSlug.isNone)
    (fun row => { row with state := .completed, failureCode := none, finished := true })
    db

def abandonGenerationCommand (failureCode : String) (id : CommandIdentity) (db : Store) :
    Executed :=
  updateCommands
    (fun commandId row =>
      id.names commandId row &&
        (row.state = .prepared || row.state = .failed || row.state = .interrupted))
    (fun row => { row with
      state := .abandoned
      failureCode := some failureCode
      finished := true })
    db

/-! ### Updates the native side makes itself -/

/-- The recovery at start: a prepared command failed, one in flight was interrupted. -/
def interruptInFlightGenerationCommands (db : Store) : Executed :=
  updateCommands (fun _ row => row.state = .prepared || row.state = .inFlight)
    (fun row => { row with
      state := if row.state = .prepared then .failed else .interrupted
      failureCode := some (if row.state = .prepared then "not_started" else "canceled") })
    db

/-- `interruptGenerationCommand(requestId:attemptEpoch:failureCode:)`. -/
def interruptAttempt (requestId : String) (attemptEpoch : ℕ) (failureCode : String) (db : Store) :
    Executed :=
  updateCommands
    (fun _ row =>
      row.requestId = requestId && row.attemptEpoch = attemptEpoch && row.state = .inFlight)
    (fun row => { row with state := .interrupted, failureCode := some failureCode })
    db

def failGenerationCommandNotStarted (id : CommandIdentity) (priorAttemptEpoch : ℕ) (db : Store) :
    Executed :=
  updateCommands
    (fun commandId row =>
      id.names commandId row &&
        ((row.attemptEpoch = priorAttemptEpoch && (row.state = .prepared || row.state = .failed)) ||
          (row.attemptEpoch = priorAttemptEpoch + 1 && row.state = .inFlight)))
    (fun row => { row with
      state := .failed
      attemptEpoch := priorAttemptEpoch
      started := false
      failureCode := some "not_started" })
    db

/-! ## Providers -/

def createConnectionProfileRevision (profileId : String) (profileRevision : ℕ)
    (providerId : String) (expectedPriorRevision : Option ℕ) (db : Store) : Executed :=
  if PriorChecked profileRevision expectedPriorRevision ∧
      profileRevision = (maxRevision db.profileRevisions profileId).elim 1 (· + 1) ∧
      (∀ e ∈ db.profileRevisions.entries, e.1.1 = profileId → e.2.providerId = providerId) ∧
      db.profileRevisions.lookup (profileId, profileRevision) = none then
    some ({ db with
      profileRevisions := db.profileRevisions.insert (profileId, profileRevision)
        { providerId, expectedPriorRevision } }, 1)
  else none

/-- The profile revision is there, of the provider, in use and the newest. -/
def currentProfile (db : Store) (profileId : String) (profileRevision : ℕ) (providerId : String) :
    Bool :=
  (db.profileRevisions.lookup (profileId, profileRevision)).any fun profile =>
    profile.providerId = providerId && !profile.tombstoned &&
      maxRevision db.profileRevisions profileId = some profileRevision

def reserveCredential (profileId : String) (profileRevision : ℕ)
    (providerId credentialRef : String) (expectedPriorRevision : Option ℕ) (mutationId : String)
    (db : Store) : Executed :=
  if currentProfile db profileId profileRevision providerId ∧
      profileRevision = (maxRevision db.credentials profileId).elim 1 (· + 1) ∧
      (∀ e ∈ db.credentials.entries, e.1.1 = profileId → e.2.providerId = providerId) ∧
      credentialRef = credentialReference profileId profileRevision ∧
      PriorChecked profileRevision expectedPriorRevision ∧
      db.credentials.lookup (profileId, profileRevision) = none ∧
      (∀ e ∈ db.credentials.entries,
        e.2.mutationId ≠ mutationId ∧ e.2.credentialRef ≠ credentialRef) then
    some ({ db with
      credentials := db.credentials.insert (profileId, profileRevision)
        { providerId, credentialRef, expectedPriorRevision, mutationId
          lifecycleState := .credentialPending } }, 1)
  else none

/-- `provider_selection_change_clears_consent`, after the selection is written. -/
def writeSelection (selection : ProviderSelection) (db : Store) : Store :=
  { db with
    selection := some selection
    consent := if db.selection.any (· ≠ selection) then none else db.consent }

/-- The providers `iphone_provider_selection` may name. -/
def approvedProviders : List String := ["openrouter", "openai", "xai", "groq", "together"]

/-- The template takes the profile revision it looks up apart from the one it stores. -/
def saveProviderSelection (selection : ProviderSelection) (profileId : String)
    (profileRevision : ℕ) (providerId : String) (db : Store) : Executed :=
  if currentProfile db profileId profileRevision providerId then
    if selection.providerId ∈ approvedProviders ∧
        selection.profileId = "iphone." ++ selection.providerId ∧
        (db.profileRevisions.lookup (selection.profileId, selection.profileRevision)).any
          (fun profile => profile.providerId = selection.providerId) then
      some (writeSelection selection db, 1)
    else none
  else some (db, 0)

/-- Update one row of `credential_revisions`. -/
def updateCredential (key : String × ℕ) (old new : CredentialRow) (db : Store) : Option Store :=
  if ValidLifecycle old new ∧
      (new.tombstoned → new.lifecycleState = .deletePending ∨ new.lifecycleState = .missing) then
    some { db with credentials := db.credentials.insert key new }
  else none

/-- `credential_tombstone_blocks_use`. -/
def blockUse (key : String × ℕ) (db : Store) : Option Store :=
  let db := { db with
    profileRevisions := KeyedTable.modify
      (fun k profile => if k = key then { profile with tombstoned := true } else profile)
      db.profileRevisions }
  match db.credentials.lookup key with
  | none => some db
  | some credential =>
    updateCredential key credential
      { credential with lifecycleState := .deletePending, tombstoned := true } db

def tombstoneCredential (profileId : String) (profileRevision : ℕ)
    (providerId credentialRef mutationId : String) (db : Store) : Executed :=
  let key := (profileId, profileRevision)
  if ((db.credentials.lookup key).any fun credential =>
        credential.providerId = providerId && credential.credentialRef = credentialRef) ∧
      credentialRef = credentialReference profileId profileRevision ∧
      db.tombstones.lookup key = none ∧
      (∀ e ∈ db.tombstones.entries, e.2.mutationId ≠ mutationId) then
    changing (blockUse key
      { db with
        tombstones := db.tombstones.insert key { providerId, credentialRef, mutationId } })
  else none

/-! ### Updates the native side makes itself -/

/-- `saveProviderSelectionAndConsent`: one transaction; every definition and disclosure
has version 1. -/
def saveProviderSelectionAndConsent (selection : ProviderSelection)
    (providerDefinitionVersion disclosureVersion : ℕ) (db : Store) : Executed :=
  if selection.providerId ∈ approvedProviders ∧
      selection.profileId = "iphone." ++ selection.providerId ∧
      1 ≤ selection.profileRevision ∧ selection.profileRevision ≤ 2147483647 ∧
      providerDefinitionVersion = 1 ∧ disclosureVersion = 1 then
    match saveProviderSelection selection selection.profileId selection.profileRevision
        selection.providerId db with
    | some (db, 1) =>
      some ({ db with
        consent := some
          { providerId := selection.providerId
            providerDefinitionVersion
            model := selection.model
            disclosureVersion } }, 1)
    | _ => none
  else none

/-- What finds a row of `credential_revisions`. -/
structure CredentialIdentity where
  profileId : String
  profileRevision : ℕ
  providerId : String
  credentialRef : String
  mutationId : String
  deriving DecidableEq

/-- The key of the revision. -/
def CredentialIdentity.key (id : CredentialIdentity) : String × ℕ :=
  (id.profileId, id.profileRevision)

/-- The row is the one the identity is of. -/
def CredentialIdentity.names (id : CredentialIdentity) (row : CredentialRow) : Bool :=
  row.providerId = id.providerId && row.credentialRef = id.credentialRef &&
    row.mutationId = id.mutationId

/-- `UPDATE credential_revisions SET lifecycle_state = …` on the row of an identity that
meets a condition; it is an error to change no row. -/
def markCredential (lifecycleState : CredentialState) (condition : CredentialRow → Bool)
    (id : CredentialIdentity) (db : Store) : Option Store :=
  match db.credentials.lookup id.key with
  | none => none
  | some row =>
    if id.names row ∧ condition row then
      updateCredential id.key row { row with lifecycleState } db
    else none

def markCredentialReady (id : CredentialIdentity) (db : Store) : Option Store :=
  markCredential .ready
    (fun row => row.lifecycleState = .credentialPending && !row.tombstoned) id db

def markCredentialMissing (id : CredentialIdentity) (db : Store) : Option Store :=
  markCredential .missing
    (fun row =>
      (row.lifecycleState = .deletePending || row.lifecycleState = .missing) &&
        row.tombstoned && (db.tombstones.lookup id.key).isSome)
    id db

def markCredentialUnavailable (id : CredentialIdentity) (db : Store) : Option Store :=
  markCredential .missing (fun row => row.lifecycleState = .ready && !row.tombstoned) id db

/-! ## The templates -/

/-- A template of the store's table of statements, with the values bound to it. -/
inductive Statement
  | appendEvent (event : Json ℚ) (roomId : String)
  | appendPersonaEvent (event : Json ℚ) (roomId : String)
      (generation next decisionSequence source : ℕ) (speaker : String)
  | createRoom (id title : String) (inferenceMode : InferenceMode)
  | createHuman (id roomId displayName : String)
  | createPersona (id roomId displayName : String) (sortOrder : ℕ) (personaSlug : String)
  | createDirectorState (roomId : String)
  | saveLocalDraft (roomId text : String)
  | deleteLocalDraft (roomId : String)
  | updateReviewDemoDirectorState (stateJson : Option (Json ℚ))
      (lastHumanEventSequence : Option ℕ) (lastSpeakerId : Option String)
      (autonomousTurns schedulingWindowGeneration : ℕ) (roomId : String) (generation next : ℕ)
  | appendReviewDemoHumanEvent (event : Json ℚ) (roomId : String) (generation next : ℕ)
      (event₁ event₂ : Json ℚ)
  | appendReviewDemoDirectorEvent (event : Json ℚ) (roomId : String) (generation next : ℕ)
      (event₁ event₂ : Json ℚ) (source : ℕ) (event₃ : Json ℚ) (speaker : String)
  | appendReviewDemoPersonaEvent (event : Json ℚ) (roomId : String) (generation next : ℕ)
      (event₁ event₂ : Json ℚ) (source : ℕ) (event₃ : Json ℚ) (speaker slug : String)
  | prepareGenerationCommand (commandId : String) (command : GenerationCommand)
      (generation next : ℕ)
  | beginGenerationCommand (id : CommandIdentity) (plan : Json ℚ) (attemptEpoch : ℕ)
      (credentialRef mutationId : String)
  | failGenerationCommand (failureCode : String) (id : CommandIdentity) (attemptEpoch : ℕ)
  | interruptGenerationCommand (failureCode : String) (id : CommandIdentity) (attemptEpoch : ℕ)
  | completeGenerationCommand (responseText : String) (id : CommandIdentity) (attemptEpoch : ℕ)
  | completeSilentGenerationCommand (id : CommandIdentity) (attemptEpoch : ℕ)
  | abandonGenerationCommand (failureCode : String) (id : CommandIdentity)
  | createConnectionProfileRevision (profileId : String) (profileRevision : ℕ)
      (providerId : String) (expectedPriorRevision : Option ℕ)
  | reserveCredential (profileId : String) (profileRevision : ℕ)
      (providerId credentialRef : String) (expectedPriorRevision : Option ℕ) (mutationId : String)
  | saveProviderSelection (selection : ProviderSelection) (profileId : String)
      (profileRevision : ℕ) (providerId : String)
  | tombstoneCredential (profileId : String) (profileRevision : ℕ)
      (providerId credentialRef mutationId : String)
  | selectRoom (roomId : String)
  | updateDirectorState (stateJson : Option (Json ℚ)) (lastHumanEventSequence : Option ℕ)
      (speaker₁ speaker₂ : Option String) (autonomousTurns schedulingWindowGeneration : ℕ)
      (roomId : String) (generation next : ℕ)

namespace Statement

/-- Step a bound template once. -/
def exec : Statement → Store → Executed
  | .appendEvent event room => Iphone.appendEvent event room
  | .appendPersonaEvent event room generation next decision source speaker =>
    Iphone.appendPersonaEvent event room generation next decision source speaker
  | .createRoom id title mode => Iphone.createRoom id title mode
  | .createHuman id room name => Iphone.createHuman id room name
  | .createPersona id room name order slug => Iphone.createPersona id room name order slug
  | .createDirectorState room => Iphone.createDirectorState room
  | .saveLocalDraft room text => Iphone.saveLocalDraft room text
  | .deleteLocalDraft room => Iphone.deleteLocalDraft room
  | .updateReviewDemoDirectorState state last speaker turns window room generation next =>
    Iphone.updateReviewDemoDirectorState state last speaker turns window room generation next
  | .appendReviewDemoHumanEvent event room generation next event₁ event₂ =>
    Iphone.appendReviewDemoHumanEvent event room generation next event₁ event₂
  | .appendReviewDemoDirectorEvent event room generation next event₁ event₂ source event₃ speaker =>
    Iphone.appendReviewDemoDirectorEvent event room generation next event₁ event₂ source event₃
      speaker
  | .appendReviewDemoPersonaEvent event room generation next event₁ event₂ source event₃ speaker
      slug =>
    Iphone.appendReviewDemoPersonaEvent event room generation next event₁ event₂ source event₃
      speaker slug
  | .prepareGenerationCommand commandId command generation next =>
    Iphone.prepareGenerationCommand commandId command generation next
  | .beginGenerationCommand id plan attempt credentialRef mutationId =>
    Iphone.beginGenerationCommand id plan attempt credentialRef mutationId
  | .failGenerationCommand code id attempt => Iphone.failGenerationCommand code id attempt
  | .interruptGenerationCommand code id attempt =>
    Iphone.interruptGenerationCommand code id attempt
  | .completeGenerationCommand text id attempt => Iphone.completeGenerationCommand text id attempt
  | .completeSilentGenerationCommand id attempt =>
    Iphone.completeSilentGenerationCommand id attempt
  | .abandonGenerationCommand code id => Iphone.abandonGenerationCommand code id
  | .createConnectionProfileRevision profile revision provider prior =>
    Iphone.createConnectionProfileRevision profile revision provider prior
  | .reserveCredential profile revision provider credentialRef prior mutationId =>
    Iphone.reserveCredential profile revision provider credentialRef prior mutationId
  | .saveProviderSelection selection profile revision provider =>
    Iphone.saveProviderSelection selection profile revision provider
  | .tombstoneCredential profile revision provider credentialRef mutationId =>
    Iphone.tombstoneCredential profile revision provider credentialRef mutationId
  | .selectRoom room => Iphone.selectRoom room
  | .updateDirectorState state last speaker₁ speaker₂ turns window room generation next =>
    Iphone.updateDirectorState state last speaker₁ speaker₂ turns window room generation next

/-- The statements on generation commands. -/
def onCommands : Statement → Bool
  | .prepareGenerationCommand .. | .beginGenerationCommand .. | .failGenerationCommand ..
  | .interruptGenerationCommand .. | .completeGenerationCommand ..
  | .completeSilentGenerationCommand .. | .abandonGenerationCommand .. => true
  | _ => false

end Statement

end GreenRoom.Iphone
