import GreenRoom.Db.Cast
import GreenRoom.Db.ProviderSnapshots

/-!
# The room service

The methods of `runtime/room-service.ts`: what each transaction does to the
database, and the checks around it.  How the transactions of one message follow
each other, and how they meet those of other callers, is in `RoomSystem`.

## Main definitions

* `normalize` — the checks of `sendMessage`.
* `prepareMessage`, `pinProviderDecision`, `completeMessage` — the transactions of a
  message; `renewClaim` and `releaseClaim` are those that look after its claim.
* `decide` — who speaks.
* `roomControl`, `personaControl` — the operator's commands.
-/

namespace GreenRoom.Runtime

open JsString GreenRoom.Core Providers

def maxIdentifierLength : ℕ := 256

def maxMessageLength : ℕ := 16384

def maxProviderTextLength : ℕ := 16384

/-! ## Commands -/

structure SendMessageCommand where
  roomId : JsString
  requestId : JsString
  selectionRevision : ℤ
  text : JsString
  wantsResponse : Option Bool := none
  targetPersonaId : Option JsString := none

/-- A message command that has passed the checks. -/
structure MessageCommand where
  roomId : RoomId
  requestId : RequestId
  selectionRevision : ℕ
  text : JsString
  wantsResponse : Bool
  targetPersonaId : Option ParticipantId
  deriving DecidableEq

def MessageCommand.key (command : MessageCommand) : CommandKey :=
  (command.roomId, command.requestId)

structure RoomCommand where
  roomId : JsString
  requestId : JsString
  selectionRevision : ℤ

structure PersonaControlCommand extends RoomCommand where
  personaId : JsString

structure ReplaceCastCommand where
  requestId : JsString
  selectionRevision : ℤ
  personaSlugs : List JsString

structure ProviderDecisionEvidence where
  adapterVersion : JsString
  directorRevision : ℕ
  policyRevision : ℕ

/-- The options of a service that its transactions read. -/
structure ServiceOptions where
  pendingWorkLeaseMs : ℕ
  providerDecisionEvidence : Option ProviderDecisionEvidence := none
  personaCatalog : KeyedTable JsString CastPersonaInput := ∅

def closedError : JsError :=
  .error (ofString "RoomServiceClosedError") (ofString "Room service is closed")

def canonicalIdentifier (value : JsString) (field : String) : Except JsError JsString :=
  if value.length = 0 ∨ trim value ≠ value ∨ maxIdentifierLength < value.length then
    .error (.typeError (ofString (field ++ " must be a canonical nonblank identifier")))
  else .ok value

def canonicalSelectionRevision (value : ℤ) : Except JsError ℕ :=
  if 0 ≤ value ∧ value < safeIntegerBound then .ok value.toNat
  else .error (.typeError (ofString "selectionRevision must be a non-negative safe integer"))

def messageText (value : JsString) : Except JsError JsString :=
  if (trim value).length = 0 ∨ maxMessageLength < value.length then
    .error (.typeError (ofString "text must be a nonblank bounded string"))
  else .ok value

/-- The checks of `sendMessage`, and the defaults. -/
def normalize (command : SendMessageCommand) : Except JsError MessageCommand := do
  let roomId ← canonicalIdentifier command.roomId "roomId"
  let requestId ← canonicalIdentifier command.requestId "requestId"
  let selectionRevision ← canonicalSelectionRevision command.selectionRevision
  let text ← messageText command.text
  let wantsResponse := command.wantsResponse.getD true
  let targetPersonaId ← command.targetPersonaId.mapM fun id =>
    canonicalIdentifier id "targetPersonaId"
  if !wantsResponse && targetPersonaId.isSome then
    throw (.typeError (ofString "targetPersonaId requires wantsResponse"))
  return { roomId, requestId, selectionRevision, text, wantsResponse, targetPersonaId }

/-- What the digest of a message command is taken of. -/
def MessageCommand.payload (command : MessageCommand) : Json ℤ :=
  .obj ([(ofString "kind", .str (ofString "sendMessage")),
    (ofString "roomId", .str command.roomId), (ofString "requestId", .str command.requestId),
    (ofString "selectionRevision", .num command.selectionRevision),
    (ofString "text", .str command.text),
    (ofString "wantsResponse", .bool command.wantsResponse)] ++
    (command.targetPersonaId.map fun id => (ofString "targetPersonaId", Json.str id)).toList)

/-! ## Shared pieces -/

/-- A reading of the clock, checked; a reading that is no whole number is like one that
is out of range. -/
def currentTime (clock : ℤ) : DbProgram ℕ :=
  if 0 ≤ clock ∧ clock < safeIntegerBound then .pure clock.toNat
  else .throw (.typeError (ofString "now must return a non-negative safe integer"))

def findCommand (roomId : RoomId) (requestId : RequestId) : DbProgram (Option CommandRow) :=
  .query fun db => db.commands.lookup (roomId, requestId)

def assertMatchingDigest (row : CommandRow) (requestDigest : JsString) : DbProgram Unit :=
  .require (row.requestDigest = requestDigest)
    (.ofText "Request id was already used for a different command")

def room (roomId : RoomId) : DbProgram RoomRow := do
  .orThrow (← .query fun db => db.rooms.lookup roomId)
    (.plain (ofString "Unknown room: " ++ roomId))

def statusName : RoomStatus → String
  | .active => "active"
  | .paused => "paused"
  | .stopped => "stopped"

def roomError (status : RoomStatus) : JsError := .ofText ("Room is " ++ statusName status)

/-- No claim is recorded that is unexpired at `now`. -/
def claimIsFree (row : CommandRow) (now : ℕ) : Bool :=
  row.claimOwner.isNone || row.claimExpiresAt.all fun t => t ≤ now

/-- Whether a reply of `personaId` under `generation` comes too late. -/
def staleIn (roomId : RoomId) (generation : ℕ) (personaId : ParticipantId) (db : Db) : Bool :=
  match db.rooms.lookup roomId, db.participants.lookup personaId with
  | some room, some participant =>
    participant.roomId ≠ roomId || room.status ≠ .active || room.generation ≠ generation ||
      participant.muted
  | _, _ => true

def isStale (roomId : RoomId) (generation : ℕ) (personaId : ParticipantId) : DbProgram Bool :=
  .query (staleIn roomId generation personaId)

/-! ## Who speaks -/

/-- The persona `offset` places on from `startIndex`, if it may speak. -/
def eligibleAt (personas : List Db.Participant) (lastSpeakerId : Option ParticipantId)
    (speakerOnCooldown : Bool) (startIndex offset : ℕ) : Option ParticipantId :=
  match personas[(startIndex + offset) % personas.length]? with
  | some persona =>
    if !persona.row.muted && (!speakerOnCooldown || some persona.id ≠ lastSpeakerId) then
      some persona.id
    else none
  | none => none

/-- The loop over the offsets. -/
def nextInTurn (personas : List Db.Participant) (lastSpeakerId : Option ParticipantId)
    (speakerOnCooldown : Bool) : DirectorDecision :=
  let lastIndex := personas.findIdx fun persona => some persona.id = lastSpeakerId
  let startIndex := if lastIndex = personas.length then 0 else (lastIndex + 1) % personas.length
  match (List.range personas.length).findSome?
      (eligibleAt personas lastSpeakerId speakerOnCooldown startIndex) with
  | some persona => ⟨some persona, .selected⟩
  | none => ⟨none, .cooldown⟩

/-- Whether the last speaker may not speak yet. -/
def speakerOnCooldown (roomId : RoomId) (state : DirectorStateRow) : DbProgram Bool :=
  match state.lastSpeakerId, state.lastHumanEventSequence with
  | some _, some sequence => do
    return (← .query (Db.humanMessagesAfter roomId sequence)) ≤ 1
  | _, _ => return false

def decide (roomId : RoomId) (state : DirectorStateRow) (wantsResponse : Bool)
    (targetPersonaId : Option ParticipantId) : DbProgram DirectorDecision := do
  let personas ← .query (Db.personasOf roomId)
  match targetPersonaId with
  | some targetPersonaId =>
    let target ← .orThrow (personas.find? fun persona => persona.id = targetPersonaId)
      (.ofText "Unknown persona for directed question")
    .require (target.row.muted = false) (.ofText "Target persona is muted")
    return ⟨some target.id, .directed⟩
  | none =>
    if !wantsResponse then return ⟨none, .deliberateSilence⟩
    else if personas.length = 0 then return ⟨none, .noPersona⟩
    else
      match personas.filter fun persona => !persona.row.muted with
      | [] => return ⟨none, .noEligiblePersona⟩
      | [unmuted] => return ⟨some unmuted.id, .selected⟩
      | _ =>
        return nextInTurn personas state.lastSpeakerId (← speakerOnCooldown roomId state)

/-! ## The transactions of a message -/

inductive PreparedMessage
  | complete (result : CommandResult)
  /-- The command is claimed by this execution. -/
  | claimed (pending : PendingMessage)
  /-- Another execution holds the claim. -/
  | observed (observedUntil : ℕ) (pending : PendingMessage)

/-- `prepareMessage` for a command that has a row. -/
def prepareKnown (options : ServiceOptions) (command : MessageCommand)
    (requestDigest claimOwner : JsString) (now : ℕ) (prior : CommandRow) :
    DbProgram PreparedMessage := do
  assertMatchingDigest prior requestDigest
  match prior.result with
  | .complete result => return .complete result
  | .pending stored =>
    if claimIsFree prior now then
      let _ ← .statement (Db.updateCommands (fun key _ => key = command.key) fun row =>
        { row with claimOwner := some claimOwner
                   claimExpiresAt := some (now + options.pendingWorkLeaseMs) })
      return .claimed stored
    else return .observed (prior.claimExpiresAt.getD 0) stored

/-- The director state after a decision on the human message `sequence`. -/
def scheduled (decision : DirectorDecision) (sequence generation : ℕ) (row : DirectorStateRow) :
    DirectorStateRow where
  lastHumanEventSequence :=
    if decision.speaker = none then row.lastHumanEventSequence else some sequence
  lastSpeakerId := if decision.speaker = none then row.lastSpeakerId else decision.speaker
  autonomousTurns := row.autonomousTurns + if decision.speaker = none then 0 else 1
  schedulingWindowGeneration := generation

/-- `prepareMessage` for a new command. -/
def prepareNew (options : ServiceOptions) (command : MessageCommand)
    (requestDigest claimOwner : JsString) (now : ℕ) : DbProgram PreparedMessage := do
  let roomId := command.roomId
  let room ← room roomId
  .require (room.status = .active) (roomError room.status)
  let state ← .orThrow (← .query fun db => db.directorState.lookup roomId)
    (.plain (ofString "Missing director state for room: " ++ roomId))
  let humans ← .query (Db.participantsOf roomId fun row => row.kind = .human)
  let humanParticipant ← .orThrow humans.head?
    (.plain (ofString "Missing human participant for room: " ++ roomId))
  let human ← appendEventInTransaction roomId (.humanMessage humanParticipant.id command.text)
  let decision ← decide roomId state command.wantsResponse command.targetPersonaId
  let director ← appendEventInTransaction roomId (.directorDecision human decision)
  .write (Db.updateDirectorState roomId (scheduled decision human room.generation))
  let pending : PendingMessage := {
    requestId := command.requestId
    humanEventSequence := human
    directorEventSequence := director
    decision
    generation := room.generation
    prompt := command.text }
  match decision.speaker with
  | none =>
    let result : CommandResult := .message {
      requestId := command.requestId
      humanEventSequence := human
      directorEventSequence := director
      personaEventSequence := none
      decision
      outcome := .notScheduled
      generation := room.generation }
    .statement (Db.insertCommand command.key { requestDigest, result := .complete result })
    return .complete result
  | some _ =>
    .statement (Db.insertCommand command.key {
      requestDigest
      result := .pending pending
      claimOwner := some claimOwner
      claimExpiresAt := some (now + options.pendingWorkLeaseMs) })
    return .claimed pending

def prepareMessage (options : ServiceOptions) (command : MessageCommand)
    (requestDigest claimOwner : JsString) (clock : ℤ) : DbProgram PreparedMessage := do
  requireRoomSelection command.roomId command.selectionRevision
  let now ← currentTime clock
  match ← findCommand command.roomId command.requestId with
  | some prior => prepareKnown options command requestDigest claimOwner now prior
  | none => prepareNew options command requestDigest claimOwner now

section

variable (host : Host)

/-- The decision a command is pinned to. -/
def pinnedDecision (evidence : ProviderDecisionEvidence) (roomId : RoomId) (requestId : RequestId)
    (resolved : ResolvedRoomProviderDecision) : DecisionSnapshot where
  id := ofString "decision-" ++ (digest host.sha256 (.obj [(ofString "roomId", .str roomId),
    (ofString "requestId", .str requestId), (ofString "bindingId", .str resolved.binding.id),
    (ofString "bindingRevision", .num resolved.binding.revision)])).take 64
  binding := resolved.binding
  connection := resolved.connection
  model := resolved.model
  effectiveGeneration := resolved.model.generation
  adapter := {
    id := adapterForTarget resolved.connection.target
    version := evidence.adapterVersion }
  capabilityFingerprint := resolved.observation.capabilityFingerprint
  directorRevision := evidence.directorRevision
  policyRevision := evidence.policyRevision

def pinProviderDecision (options : ServiceOptions) (roomId : RoomId) (requestId : RequestId)
    (claimOwner : JsString) : DbProgram (Option DecisionSnapshot) := do
  let row ← .orThrow ((← findCommand roomId requestId).filter fun row =>
      row.claimOwner = some claimOwner)
    (.ofText "Pending provider claim was lost")
  match row.result with
  | .complete _ => .throw (.ofText "Pending command completed before provider resolution")
  | .pending stored =>
    match stored.providerDecision with
    | some providerDecision =>
      return some (← .ofExcept
        (Parse.parseDecisionSnapshot host.normalize (.ofJson providerDecision.toJson)))
    | none =>
      match ← readEffectiveRoomBinding roomId .personaDefault with
      | none => return none
      | some _ =>
        let evidence ← .orThrow options.providerDecisionEvidence
          (.ofText "Provider decision evidence is required for a bound room")
        let resolved ← resolveRoomProviderDecision roomId .personaDefault
        let providerDecision ← .ofExcept (Parse.parseDecisionSnapshot host.normalize
          (.ofJson (pinnedDecision host evidence roomId requestId resolved).toJson))
        let pinned := { stored with providerDecision := some providerDecision }
        let _ ← .statement (Db.updateCommands
          (fun key row => key = (roomId, requestId) && row.claimOwner = some claimOwner)
          fun row => { row with result := .pending pinned })
        return some providerDecision

end

def isProviderDecisionCurrent (providerDecision : DecisionSnapshot) : DbProgram Bool :=
  isResolvedRoomProviderDecisionCurrent {
    binding := providerDecision.binding
    connection := providerDecision.connection
    model := providerDecision.model
    observation := {
      id := ofString "snapshot-observation"
      connection := ⟨providerDecision.connection.id, providerDecision.connection.revision⟩
      health := .ready
      capabilityFingerprint := providerDecision.capabilityFingerprint
      evidence := [] } }

/-- The name a provider knows a participant by. -/
def providerPersonaId (roomId : RoomId) (participantId : ParticipantId) : DbProgram JsString := do
  let row ← .orThrow
    ((← .query fun db => db.participants.lookup participantId).filter fun row =>
      row.roomId = roomId && row.kind = .persona)
    (.plain (ofString "Unknown persona: " ++ participantId))
  return row.personaSlug.getD participantId

inductive ProviderResult
  | silence
  | text (text : JsString)
  deriving DecidableEq, Repr

/-- The checks of what a provider returns, which may be anything. -/
def validatedProviderResult (value : Json ℤ) : Except JsError ProviderResult :=
  match value with
  | .obj _ | .arr _ =>
    if (value.member? (ofString "kind")).bind Json.str? = some (ofString "silence") then
      .ok .silence
    else
      match (value.member? (ofString "kind")).bind Json.str?,
          (value.member? (ofString "text")).bind Json.str? with
      | some kind, some text =>
        if kind = ofString "text" ∧ 0 < text.length ∧ text.length ≤ maxProviderTextLength then
          .ok (.text text)
        else .error (.typeError (ofString "Provider text must be a nonempty bounded string"))
      | _, _ => .error (.typeError (ofString "Provider text must be a nonempty bounded string"))
  | _ => .error (.typeError (ofString "Provider result must be an object"))

structure GeneratedMessage where
  providerResult : Option ProviderResult := none
  providerDecision : Option DecisionSnapshot := none
  deriving DecidableEq

/-- Whether what was generated may no longer be committed. -/
def generatedIsStale (roomId : RoomId) (pending : PendingMessage) (speaker : ParticipantId)
    (generated : GeneratedMessage) : DbProgram Bool := do
  if ← isStale roomId pending.generation speaker then return true
  else
    match generated.providerDecision with
    | none => return false
    | some providerDecision => return !(← isProviderDecisionCurrent providerDecision)

/-- Append the reply, if there is one. -/
def appendReply (roomId : RoomId) (pending : PendingMessage) (speaker : ParticipantId)
    (stale : Bool) (providerResult : Option ProviderResult) :
    DbProgram (Option ℕ × MessageOutcome) :=
  match stale, providerResult with
  | false, some (.text text) => do
    let persona ← appendEventInTransaction roomId
      (.personaMessage speaker pending.humanEventSequence text)
    return (some persona, .text)
  | false, some .silence => return (none, .silence)
  | _, _ => return (none, .stale)

section

variable (host : Host)

/-- Commit the decision the reply was generated under, if there is one. -/
def commitDecision (roomId : RoomId) (requestId : RequestId) (stale : Bool)
    (generated : GeneratedMessage) : DbProgram Unit :=
  match stale, generated.providerResult, generated.providerDecision with
  | false, some _, some snapshot => do
    let _ ← commitDecisionSnapshotInTransaction host {
      roomId
      requestId
      snapshot := .ofJson snapshot.toJson
      providerDefinition := requiredEvidence snapshot.connection.target
      routingPolicy := SINGLE_ATTEMPT_ROUTING_POLICY }
  | _, _, _ => return ()

/-- `completeMessage` under a claim that holds. -/
def completeClaimed (roomId : RoomId) (requestId : RequestId) (pending : PendingMessage)
    (generated : GeneratedMessage) (claimOwner : JsString) : DbProgram CommandResult := do
  let speaker ← .orThrow pending.decision.speaker
    (.ofText "Stored pending command has no speaker")
  let stale ← generatedIsStale roomId pending speaker generated
  let (personaEventSequence, outcome) ←
    appendReply roomId pending speaker stale generated.providerResult
  commitDecision host roomId requestId stale generated
  let result : CommandResult := .message {
    requestId
    humanEventSequence := pending.humanEventSequence
    directorEventSequence := pending.directorEventSequence
    personaEventSequence
    decision := pending.decision
    outcome
    generation := pending.generation }
  let _ ← .statement (Db.updateCommands
    (fun key row => key = (roomId, requestId) && row.claimOwner = some claimOwner)
    fun row => { row with result := .complete result, claimOwner := none, claimExpiresAt := none })
  return result

/-- `none` when the claim does not hold. -/
def completeMessage (roomId : RoomId) (requestId : RequestId) (pending : PendingMessage)
    (generated : GeneratedMessage) (claimOwner : JsString) (clock : ℤ) :
    DbProgram (Option CommandResult) := do
  let row ← .orThrow (← findCommand roomId requestId) (.ofText "Pending command disappeared")
  match row.result with
  | .complete result => return some result
  | .pending _ =>
    match row.claimExpiresAt with
    | none => return none
    | some claimExpiresAt =>
      if row.claimOwner ≠ some claimOwner then return none
      else
        let now ← currentTime clock
        if claimExpiresAt ≤ now then return none
        else return some (← completeClaimed host roomId requestId pending generated claimOwner)

end

/-! ## Looking after a claim -/

/-- The answer is the number of claims renewed. -/
def renewClaim (options : ServiceOptions) (roomId : RoomId) (requestId : RequestId)
    (claimOwner : JsString) (clock : ℤ) : DbProgram ℕ := do
  let now ← currentTime clock
  .statement (Db.updateCommands
    (fun key row => key = (roomId, requestId) && row.claimOwner = some claimOwner &&
      row.claimExpiresAt.any (fun t => now < t) && row.result.isPending)
    fun row => { row with claimExpiresAt := some (now + options.pendingWorkLeaseMs) })

def withoutClaim (row : CommandRow) : CommandRow :=
  { row with claimOwner := none, claimExpiresAt := none }

def releaseClaim (roomId : RoomId) (requestId : RequestId) (claimOwner : JsString) :
    DbProgram Unit := do
  let _ ← .statement (Db.updateCommands
    (fun key row => key = (roomId, requestId) && row.claimOwner = some claimOwner &&
      row.result.isPending) withoutClaim)

def releaseRoomClaims (roomId : RoomId) : DbProgram Unit := do
  let _ ← .statement (Db.updateCommands
    (fun key row => key.1 = roomId && row.claimOwner.isSome && row.result.isPending) withoutClaim)

/-! ## The operator's commands -/

def roomControlName : RoomControl → String
  | .pause => "pause"
  | .resume => "resume"
  | .stop => "stop"

def targetStatus : RoomControl → RoomStatus
  | .pause => .paused
  | .resume => .active
  | .stop => .stopped

/-- The answer to an operator's command: whether work in flight is to be aborted, and the
result. -/
structure ControlAnswer where
  abort : Bool
  result : CommandResult

/-- The answer to a command that has a row. -/
def answerAgain (prior : CommandRow) (requestDigest : JsString) : DbProgram ControlAnswer := do
  assertMatchingDigest prior requestDigest
  match prior.result with
  | .pending _ => .throw (.ofText "Control command cannot be pending")
  | .complete result => return ⟨false, result⟩

/-- The update of a room's status, and what goes with it. -/
def changeStatus (roomId : RoomId) (status : RoomStatus) (fencesGeneration : Bool) :
    DbProgram Unit := do
  .write (Db.updateRoom roomId fun row => { row with
    status
    generation := row.generation + if fencesGeneration then 1 else 0 })
  .onlyIf fencesGeneration (releaseRoomClaims roomId)

/-- `roomControl` for a new command. -/
def roomControlNew (kind : RoomControl) (roomId : RoomId) (requestId : RequestId)
    (requestDigest : JsString) : DbProgram ControlAnswer := do
  let room₀ ← room roomId
  .require (kind = .stop ∨ room₀.status ≠ .stopped) (roomError room₀.status)
  let changed : Bool := room₀.status ≠ targetStatus kind
  let fencesGeneration := changed && kind ≠ .resume
  .onlyIf changed (changeStatus roomId (targetStatus kind) fencesGeneration)
  let updated ← room roomId
  let result : CommandResult := .roomControl {
    kind
    requestId
    status := updated.status
    generation := updated.generation
    changed }
  .statement (Db.insertCommand (roomId, requestId) { requestDigest, result := .complete result })
  return ⟨fencesGeneration, result⟩

/-- The update of a persona, and what goes with it. -/
def changeMuted (roomId : RoomId) (personaId : ParticipantId) (muted : Bool) :
    DbProgram Unit := do
  .write (Db.setMuted roomId personaId muted)
  .onlyIf muted do
    .write (Db.updateRoom roomId fun row => { row with generation := row.generation + 1 })
    releaseRoomClaims roomId

/-- `personaControl` for a new command. -/
def personaControlNew (kind : PersonaControl) (roomId : RoomId) (requestId : RequestId)
    (personaId : ParticipantId) (requestDigest : JsString) : DbProgram ControlAnswer := do
  let room₀ ← room roomId
  .require (room₀.status ≠ .stopped) (roomError room₀.status)
  let persona ← .orThrow ((← .query fun db => db.participants.lookup personaId).filter fun row =>
      row.roomId = roomId && row.kind = .persona)
    (.plain (ofString "Unknown persona: " ++ personaId))
  let muted : Bool := kind = .mute
  let changed : Bool := persona.muted ≠ muted
  .onlyIf changed (changeMuted roomId personaId muted)
  let updatedRoom ← room roomId
  let result : CommandResult := .personaControl {
    kind
    requestId
    personaId
    muted
    generation := updatedRoom.generation
    changed }
  .statement (Db.insertCommand (roomId, requestId) { requestDigest, result := .complete result })
  return ⟨changed && muted, result⟩

section

variable (host : Host)

def roomControl (kind : RoomControl) (command : RoomCommand) : DbProgram ControlAnswer := do
  let roomId ← .ofExcept (canonicalIdentifier command.roomId "roomId")
  let requestId ← .ofExcept (canonicalIdentifier command.requestId "requestId")
  let selectionRevision ← .ofExcept (canonicalSelectionRevision command.selectionRevision)
  let requestDigest :=
    digest host.sha256 (.obj [(ofString "kind", .str (ofString (roomControlName kind))),
    (ofString "roomId", .str roomId), (ofString "requestId", .str requestId),
    (ofString "selectionRevision", .num selectionRevision)])
  requireRoomSelection roomId selectionRevision
  match ← findCommand roomId requestId with
  | some prior => answerAgain prior requestDigest
  | none => roomControlNew kind roomId requestId requestDigest

def personaControlName : PersonaControl → String
  | .mute => "mute"
  | .unmute => "unmute"

def personaControl (kind : PersonaControl) (command : PersonaControlCommand) :
    DbProgram ControlAnswer := do
  let roomId ← .ofExcept (canonicalIdentifier command.roomId "roomId")
  let requestId ← .ofExcept (canonicalIdentifier command.requestId "requestId")
  let selectionRevision ← .ofExcept (canonicalSelectionRevision command.selectionRevision)
  let personaId ← .ofExcept (canonicalIdentifier command.personaId "personaId")
  let requestDigest :=
    digest host.sha256 (.obj [(ofString "kind", .str (ofString (personaControlName kind))),
    (ofString "roomId", .str roomId), (ofString "requestId", .str requestId),
    (ofString "selectionRevision", .num selectionRevision),
    (ofString "personaId", .str personaId)])
  requireRoomSelection roomId selectionRevision
  match ← findCommand roomId requestId with
  | some prior => answerAgain prior requestDigest
  | none => personaControlNew kind roomId requestId personaId requestDigest

/-- The checks of `replaceCast`, which looks the personas up in the catalog. -/
def requireReplacement (options : ServiceOptions) (command : ReplaceCastCommand) :
    Except JsError ReplaceCurrentRoomCastCommand := do
  let requestId ← canonicalIdentifier command.requestId "requestId"
  let _ ← canonicalSelectionRevision command.selectionRevision
  if command.personaSlugs.length < 1 ∨ 3 < command.personaSlugs.length ∨
      ¬ command.personaSlugs.Nodup then
    throw (.typeError (ofString "personaSlugs must contain one to three unique slugs"))
  let personas ← command.personaSlugs.mapM fun slug =>
    match options.personaCatalog.lookup slug with
    | some persona => .ok persona
    | none => .error (.typeError (ofString "persona slug is unknown"))
  return { requestId, expectedRevision := command.selectionRevision, personas }

def replaceCast (uuids : ℕ → JsString) (options : ServiceOptions) (command : ReplaceCastCommand) :
    DbProgram CastReplacementResult := do
  let replacement ← .ofExcept (requireReplacement options command)
  replaceCurrentRoomCast host.sha256 uuids replacement

end

end GreenRoom.Runtime
