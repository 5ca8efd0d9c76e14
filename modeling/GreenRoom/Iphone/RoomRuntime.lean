import GreenRoom.Core.DirectorInvariant
import GreenRoom.Lib.Json
import GreenRoom.Lib.Utf8

/-!
# Preparing a turn on the iPhone

`readRoomEvents`, `providerMessages` and `prepareAtomicTurn` of `ios-web/room-runtime.js`.
What the native side answers to the queries is a parameter, and so is what it answers to
the one batch a turn sends; of the other projections the parsed values are given.

## Main definitions

* `EventRecord`, `parseEvent`, `readRoomEvents` — the events of a room.
* `providerMessages` — the messages of a provider request.
* `scheduleTurn`, `planTurn`, `prepareAtomicTurn`.
-/

namespace GreenRoom.Iphone.RoomRuntime

open JsString GreenRoom.Core

def maxEventPage : ℕ := 100

def maxProviderMessageBytes : ℕ := 64 * 1024

def maxProviderMessages : ℕ := 32

/-- A lowercase hexadecimal digit. -/
def isHex (u : UInt16) : Bool := isDigit u || (97 ≤ u && u ≤ 102)

/-- The code units `UUID` allows at a place. -/
def isUuidUnit (u : UInt16) (index : ℕ) : Bool :=
  if index ∈ [8, 13, 18, 23] then u = unit '-'
  else if index = 14 then u = unit '4'
  else if index = 19 then u ∈ [unit '8', unit '9', unit 'a', unit 'b']
  else isHex u

/-- `UUID.test(value)`. -/
def isUuid (value : JsString) : Bool :=
  value.length = 36 && value.zipIdx.all fun entry => isUuidUnit entry.1 entry.2

/-- `ROOM_ID.test(value)`. -/
def isRoomId (value : JsString) : Bool :=
  value = ofString "room-local-default" ||
    (value.take 5 = ofString "room-" && value.length = 41 &&
      (value.drop 5).all fun u => isHex u || u = unit '-')

/-- `exactRecord`. -/
def exactRecord (value : Json ℤ) (keys : List String) : Bool :=
  match value with
  | .obj members =>
      join [0] ((members.map Prod.fst).insertionSort fun a b => le a b) =
        join [0] ((keys.map ofString).insertionSort fun a b => le a b)
  | _ => false

/-! ## Personas -/

structure Persona where
  slug : JsString
  prompt : JsString
  deriving DecidableEq

/-- `CATALOG.get(slug)`: of two personas with one slug a `Map` keeps the last. -/
def catalogGet (personas : List Persona) (slug : JsString) : Option Persona :=
  personas.reverse.find? fun persona => persona.slug = slug

/-! ## Events -/

inductive LocalEvent
  | humanMessage (participantId text : JsString)
  | directorDecision (generation sourceEventSequence : ℕ) (reason : JsString)
      (speaker : Option JsString)
  | personaMessage (generation : ℕ) (personaSlug : JsString) (sourceEventSequence : ℕ)
      (text : JsString)
  deriving DecidableEq

structure EventRecord where
  sequence : ℕ
  event : LocalEvent
  deriving DecidableEq

def invalidProjection {α : Type} : Except JsError α :=
  .error (.ofText "Invalid local event projection.")

/-- `DIRECTOR_REASONS`. -/
def directorReasons : List JsString :=
  ["selected", "directed", "cancelled", "unverified_event", "duplicate", "self_trigger_blocked",
    "budget_exhausted", "deliberate_silence", "no_persona", "no_eligible_persona",
    "cooldown"].map ofString

/-- `Number.isSafeInteger(value) && value >= least`. -/
def safeInteger (least : ℕ) (value : Option (Json ℤ)) : Option ℕ :=
  (Director.safeNonNegative value).filter fun n => least ≤ n

/-- The event of a record, for a room whose personas are among `personas`. -/
def parseLocalEvent (personas : List Persona) (event : Json ℤ) (sequence : ℕ) :
    Option LocalEvent :=
  let string (name : String) : Option JsString := (event.member? (ofString name)).bind Json.str?
  let integer (least : ℕ) (name : String) : Option ℕ :=
    safeInteger least (event.member? (ofString name))
  match (event.member? (ofString "type")).bind Json.str? with
  | none => none
  | some type =>
    if type = ofString "human_message" then do
      guard (exactRecord event ["participantId", "text", "type"])
      let participantId ← string "participantId"
      let text ← string "text"
      guard (1 ≤ text.length ∧ text.length ≤ 16384)
      return .humanMessage participantId text
    else if type = ofString "director_decision" then do
      guard (exactRecord event ["generation", "reason", "sourceEventSequence", "speaker", "type"])
      let generation ← integer 0 "generation"
      let sourceEventSequence ← integer 1 "sourceEventSequence"
      guard (sourceEventSequence < sequence)
      let reason ← string "reason"
      guard (reason ∈ directorReasons)
      match event.member? (ofString "speaker") with
      | some .null => return .directorDecision generation sourceEventSequence reason none
      | some (.str speaker) => do
          guard (catalogGet personas speaker).isSome
          return .directorDecision generation sourceEventSequence reason (some speaker)
      | _ => none
    else if type = ofString "persona_message" then do
      guard (exactRecord event ["generation", "personaSlug", "sourceEventSequence", "text", "type"])
      let generation ← integer 0 "generation"
      let sourceEventSequence ← integer 1 "sourceEventSequence"
      let personaSlug ← string "personaSlug"
      guard (catalogGet personas personaSlug).isSome
      let text ← string "text"
      guard (trim text ≠ [] ∧ utf8Length text ≤ 16 * 1024)
      return .personaMessage generation personaSlug sourceEventSequence text
    else none

def parseEvent (personas : List Persona) (record : Json ℤ) (expectedSequence : Option ℤ) :
    Except JsError EventRecord :=
  let parsed : Option EventRecord := do
    guard (exactRecord record ["event", "sequence"])
    let sequence ← safeInteger 1 (record.member? (ofString "sequence"))
    guard (expectedSequence = some (sequence : ℤ))
    let value ← record.member? (ofString "event")
    let event ← parseLocalEvent personas value sequence
    return { sequence, event }
  match parsed with
  | some record => .ok record
  | none => invalidProjection

/-- The loop over the rows.  A row is `none` when its first cell is not a string. -/
def parseRows (personas : List Persona) :
    List (Option JsString) → ℕ → Option ℤ → Except JsError (List EventRecord)
  | [], _, _ => .ok []
  | none :: _, _, _ => invalidProjection
  | some encoded :: rows, index, firstSequence =>
    if 20000 < encoded.length then invalidProjection
    else
      match Json.parse integerFormat encoded with
      | none => .error (.error (ofString "SyntaxError") (ofString "JSON Parse error"))
      | some value => do
          let firstSequence := if index = 0 then
            (value.member? (ofString "sequence")).bind Json.num? else firstSequence
          let record ← parseEvent personas value (firstSequence.map fun n => n + index)
          let records ← parseRows personas rows (index + 1) firstSequence
          return record :: records

/-- `rows` is what the `room_events` query answers. -/
def readRoomEvents (personas : List Persona) (rows : Except JsError (List (Option JsString))) :
    Except JsError (List EventRecord) := do
  let rows ← rows
  if maxEventPage < rows.length then invalidProjection else parseRows personas rows 0 none

/-! ## Messages -/

inductive Role
  | system | user | assistant
  deriving DecidableEq, Repr

structure Message where
  role : Role
  content : JsString
  deriving DecidableEq

/-- The message an event stands for. -/
def LocalEvent.message : LocalEvent → Option Message
  | .humanMessage _ text => some ⟨.user, text⟩
  | .directorDecision .. => none
  | .personaMessage _ _ _ text => some ⟨.assistant, text⟩

/-- The loop of `providerMessages`, over the records from the last one on. -/
def gather (sourceEventSequence : ℕ) : List EventRecord → ℕ → List Message → List Message
  | [], _, recent => recent
  | record :: records, bytes, recent =>
    if recent.length < maxProviderMessages - 1 then
      if sourceEventSequence < record.sequence then gather sourceEventSequence records bytes recent
      else
        match record.event.message with
        | none => gather sourceEventSequence records bytes recent
        | some message =>
            let messageBytes := utf8Length message.content
            if maxProviderMessageBytes < bytes + messageBytes then
              gather sourceEventSequence records bytes recent
            else gather sourceEventSequence records (bytes + messageBytes) (message :: recent)
    else recent

def providerMessages (persona : Persona) (events : List EventRecord) (sourceEventSequence : ℕ) :
    Except JsError (List Message) :=
  let system : Message := ⟨.system, persona.prompt⟩
  let recent := gather sourceEventSequence events.reverse (utf8Length system.content) []
  if recent.getLast?.map Message.role = some .user then .ok (system :: recent)
  else .error (.ofText "The selected source message is outside provider context bounds.")

/-! ## Turns -/

/-- What `crypto.randomUUID` returns. -/
abbrev Uuid := { value : JsString // isUuid value = true }

structure ProviderSelection where
  model : JsString
  profileId : JsString
  profileRevision : ℕ
  providerId : JsString
  deriving DecidableEq

structure ProviderProfile where
  profileRevision : ℕ
  ready : Bool
  tombstoned : Bool
  deriving DecidableEq

structure ContextPersona where
  id : JsString
  personaSlug : JsString
  muted : Bool
  deriving DecidableEq

structure DirectorContext where
  generation : ℕ
  nextEventSequence : ℕ
  personas : List ContextPersona
  state : Option (Json ℤ)
  deriving DecidableEq

structure Room where
  id : JsString
  /-- The participant whose kind is human. -/
  human : Option JsString
  deriving DecidableEq

structure MessageOptions where
  requestId : Option JsString := none
  targetPersonaSlug : Option JsString := none
  wantsResponse : Option Bool := none
  deriving DecidableEq

/-- What the queries of a turn answer. -/
structure Reads where
  selection : Except JsError (Option ProviderSelection)
  profile : JsString → Except JsError (Option ProviderProfile)
  events : Except JsError (List (Option JsString))
  context : Except JsError DirectorContext

inductive RequestPlan
  | silence (requestId roomId : JsString) (sourceEventSequence : ℕ)
  | provider (requestId roomId : JsString) (sourceEventSequence : ℕ) (personaSlug : JsString)
      (messages : List Message) (selection : ProviderSelection)
  deriving DecidableEq

/-- `validateMessageOptions`. -/
def validateMessageOptions (personas : List Persona) (options : MessageOptions) :
    Except JsError Unit :=
  if (options.targetPersonaSlug.any fun slug => (catalogGet personas slug).isNone) ∨
      (options.targetPersonaSlug.isSome ∧ options.wantsResponse = some false) then
    typeError "Invalid message options."
  else .ok ()

/-- `new TrustedEventAdapter(namespace).humanEvent(eventId, text, wantsResponse)`. -/
def humanEvent (eventNamespace eventId text : JsString) (wantsResponse : Bool) :
    Except JsError VerifiedDirectorEvent :=
  match hn : requireCanonicalIdentifier (some eventNamespace) "namespace" maxNamespaceLength with
  | .error e => .error e
  | .ok eventNamespace =>
    match hi : requireCanonicalIdentifier (some eventId) "eventId" maxEventIdLength with
    | .error e => .error e
    | .ok eventId => .ok {
        eventNamespace, eventId, isHuman := true, text, wantsResponse
        namespace_canonical := by
          obtain ⟨rfl, h⟩ := isCanonical_of_require hn
          exact h
        eventId_canonical := by
          obtain ⟨rfl, h⟩ := isCanonical_of_require hi
          exact h }

/-- What a turn is planned from. -/
structure ScheduledTurn where
  requestId : JsString
  human : JsString
  selection : ProviderSelection
  events : List EventRecord
  context : DirectorContext
  decision : DirectorDecision
  snapshot : Json ℤ

/-- The checks of the message. -/
def requireText (text : JsString) : Except JsError Unit :=
  if trim text = [] ∨ 16384 < text.length then
    typeError "Message must be nonblank and at most 16,384 characters."
  else .ok ()

/-- The checks of the room; the answer is its human participant. -/
def requireHuman (room : Room) : Except JsError JsString :=
  match room.human with
  | some human => if isRoomId room.id then .ok human else typeError "A valid open room is required."
  | none => typeError "A valid open room is required."

/-- `options.requestId ?? nextUuid(uuid)`, with its check. -/
def requireRequestId (options : MessageOptions) (uuid : Uuid) : Except JsError JsString :=
  let requestId := options.requestId.getD uuid
  if isUuid requestId then .ok requestId
  else typeError "requestId must be a canonical lowercase UUID."

/-- The provider selection, whose profile is ready. -/
def readReadySelection (reads : Reads) : Except JsError ProviderSelection := do
  match ← reads.selection with
  | none => .error (.ofText "Provider setup is required.")
  | some selection =>
      match ← reads.profile selection.profileId with
      | none => .error (.ofText "Provider setup is required.")
      | some profile =>
          if profile.ready && !profile.tombstoned &&
              profile.profileRevision = selection.profileRevision then .ok selection
          else .error (.ofText "Provider setup is required.")

/-- The check between the history and the context of the director. -/
def requireNextSequence (events : List EventRecord) (context : DirectorContext) :
    Except JsError Unit :=
  if context.nextEventSequence ≠ events.getLast?.elim 1 fun record => record.sequence + 1 then
    .error (.ofText "Invalid native director sequence projection.")
  else .ok ()

/-- The director of a room, with the mutes of its personas. -/
def restoreDirector (context : DirectorContext) : Except JsError Director := do
  let personaIds := context.personas.map ContextPersona.id
  let director ← context.state.elim (Director.construct personaIds none none) fun state =>
    Director.restore personaIds state none
  context.personas.foldlM
    (fun director persona => director.setMuted persona.id persona.muted) director

/-- The persona a message is directed at. -/
def requireTarget (options : MessageOptions) (context : DirectorContext) :
    Except JsError (Option JsString) :=
  match options.targetPersonaSlug with
  | none => .ok none
  | some slug =>
    match context.personas.find? fun persona => persona.personaSlug = slug with
    | none => typeError "The selected character is not in the active room."
    | some target =>
      if target.muted then typeError "The selected character is muted." else .ok (some target.id)

def requireNew (decision : DirectorDecision) : Except JsError Unit :=
  if decision.reason = .duplicate then
    .error (.ofText "The command request ID was already used.")
  else .ok ()

/-- `prepareAtomicTurn`, up to the decision. -/
def scheduleTurn (personas : List Persona) (reads : Reads) (uuid : Uuid) (room : Room)
    (text : JsString) (options : MessageOptions) : Except JsError ScheduledTurn := do
  requireText text
  let human ← requireHuman room
  validateMessageOptions personas options
  let requestId ← requireRequestId options uuid
  let selection ← readReadySelection reads
  let events ← readRoomEvents personas reads.events
  let context ← reads.context
  requireNextSequence events context
  let director ← restoreDirector context
  let target ← requireTarget options context
  let event ← humanEvent (ofString "iphone-room:" ++ room.id) requestId text
    (options.wantsResponse.getD true)
  let (decision, director) ← director.schedule (some event) target
  requireNew decision
  return { requestId, human, selection, events, context, decision, snapshot := director.snapshot }

/-- The events a turn adds to the room's. -/
def ScheduledTurn.extended (turn : ScheduledTurn) (text : JsString) : List EventRecord :=
  turn.events ++ [⟨turn.context.nextEventSequence, .humanMessage turn.human text⟩]

/-- The request plan of a turn. -/
def planTurn (personas : List Persona) (room : Room) (text : JsString) (turn : ScheduledTurn) :
    Except JsError RequestPlan :=
  let sourceEventSequence := turn.context.nextEventSequence
  match turn.decision.speaker with
  | none => .ok (.silence turn.requestId room.id sourceEventSequence)
  | some speaker =>
    match catalogGet personas speaker with
    | none => .error (.ofText "The selected bundled persona is unavailable.")
    | some persona => do
        let messages ← providerMessages persona (turn.extended text) sourceEventSequence
        return .provider turn.requestId room.id sourceEventSequence persona.slug messages
          turn.selection

/-- The parameters of `prepare_generation_command`, but for the texts and the digest that
are functions of them. -/
structure PreparedTurn where
  commandId : JsString
  turn : ScheduledTurn
  requestPlan : RequestPlan

/-- What a read-back of the unresolved command shows. -/
structure PreparedCommand where
  commandId : JsString
  requestId : JsString
  prepared : Bool
  deriving DecidableEq

/-- The answer, and the turn the batch has stored.  `store` is what the native database
answers to the batch, `unresolved` what the read-back after it gives. -/
def prepareAtomicTurn (personas : List Persona) (reads : Reads) (uuids : ℕ → Uuid)
    (store : PreparedTurn → Except JsError Unit)
    (unresolved : Except JsError (Option PreparedCommand)) (room : Room) (text : JsString)
    (options : MessageOptions) : Except JsError PreparedCommand × Option PreparedTurn :=
  let planned : Except JsError PreparedTurn := do
    let turn ← scheduleTurn personas reads (uuids 0) room text options
    let requestPlan ← planTurn personas room text turn
    return ({ commandId := uuids 1, turn, requestPlan } : PreparedTurn)
  match planned with
  | .error e => (.error e, none)
  | .ok turn =>
    match store turn with
    | .error e => (.error e, none)
    | .ok () =>
      match unresolved with
      | .error e => (.error e, some turn)
      | .ok none => (.error (.ofText "The generation command was not durably prepared."), some turn)
      | .ok (some command) =>
        if command.commandId ≠ turn.commandId ∨ command.requestId ≠ turn.turn.requestId ∨
            !command.prepared then
          (.error (.ofText "The generation command was not durably prepared."), some turn)
        else (.ok command, some turn)

end GreenRoom.Iphone.RoomRuntime
