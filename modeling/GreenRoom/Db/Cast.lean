import GreenRoom.Db.Events

/-!
# Rooms and their cast

The room library of `db/cast.ts`: which room is selected, selecting another, and
opening a room with a new cast.  `uuids` are the identifiers `randomUUID` hands out,
`sha256` is the hash function.

## Main results

* `requireRoomSelection_returns`, `selectRoom_returns` — rooms and logs stay as they are.
* `replaceCurrentRoomCast_returns` — at most one room is added, with one event.
-/

namespace GreenRoom

open JsString

structure CastPersonaInput where
  slug : JsString
  name : JsString

structure SelectRoomCommand where
  expectedRevision : ℤ
  requestId : JsString
  roomId : JsString

structure ReplaceCurrentRoomCastCommand where
  expectedRevision : ℤ
  requestId : JsString
  personas : List CastPersonaInput

def roomLibraryLimit : ℕ := 100

namespace Cast

def canonicalIdentifier (value : JsString) (field : String) (maximum : ℕ) :
    Except JsError JsString :=
  if value.length = 0 ∨ maximum < value.length ∨ trim value ≠ value then
    .error (.typeError (ofString (field ++ " must be a canonical bounded identifier")))
  else .ok value

def canonicalRevision (value : ℤ) (field : String) : Except JsError ℕ :=
  if 0 ≤ value ∧ value < Core.safeIntegerBound then .ok value.toNat
  else .error (.typeError (ofString (field ++ " must be a non-negative safe integer")))

/-- `[a-z0-9]`. -/
def isSlugUnit (u : UInt16) : Bool :=
  (unit 'a' ≤ u && u ≤ unit 'z') || (unit '0' ≤ u && u ≤ unit '9')

def canonicalSlug (value : JsString) : Except JsError JsString := do
  let value ← canonicalIdentifier value "persona slug" 128
  if (value.splitOn (unit '-')).all fun part => part ≠ [] && part.all isSlugUnit then
    return value
  else throw (.typeError (ofString "persona slug must be canonical"))

def displayName (value : JsString) : Except JsError JsString :=
  if value.length = 0 ∨ 128 < value.length ∨ trim value ≠ value then
    .error (.typeError (ofString "persona name must be a bounded display name"))
  else .ok value

def roomTitle (personas : List CastPersonaInput) : JsString :=
  let title := match personas.map CastPersonaInput.name with
    | [] => ofString "The Green Room"
    | [a] => a
    | [a, b] => a ++ ofString " & " ++ b
    | a :: b :: c :: _ => a ++ ofString ", " ++ b ++ ofString " & " ++ c
  trimEnd (title.take 128)

end Cast

open Cast

def roomDto (roomId : RoomId) : DbProgram CurrentRoomDto := do
  let room ← .orThrow (← .query fun db : Db => db.rooms.lookup roomId)
    (.ofText "Current room pointer references a missing room")
  let participants ← .query (Db.participantsOf roomId fun _ => true)
  return {
    id := roomId
    sessionId := roomId
    title := room.title
    status := room.status
    generation := room.generation
    participants := participants.map fun p =>
      ⟨p.id, p.row.kind, p.row.displayName, p.row.muted, p.row.personaSlug⟩ }

/-- The revision and the room that are selected. -/
def readRoomSelection : DbProgram (ℕ × CurrentRoomDto) := do
  let row ← .orThrow
    ((← .query Db.currentRoom).filter fun row => row.selectionRevision < Core.safeIntegerBound)
    (.ofText "Current room selection state is unavailable")
  return (row.selectionRevision, ← roomDto row.roomId)

def requireRoomSelection (roomId : JsString) (selectionRevision : ℕ) : DbProgram Unit := do
  let canonicalRoomId ← .ofExcept (canonicalIdentifier roomId "roomId" 128)
  let canonicalSelectionRevision ←
    .ofExcept (canonicalRevision selectionRevision "selectionRevision")
  let row ← .query fun db : Db => db.currentRoom.filter fun row =>
    row.roomId = canonicalRoomId && row.selectionRevision = canonicalSelectionRevision
  .require row.isSome (.ofText "Room selection revision conflict")

section

variable (sha256 : JsString → JsString)

def selectRoom (command : SelectRoomCommand) : DbProgram RoomSelectionResult := do
  let requestId ← .ofExcept (canonicalIdentifier command.requestId "requestId" 256)
  let canonicalRoomId ← .ofExcept (canonicalIdentifier command.roomId "roomId" 128)
  let expectedRevision ← .ofExcept (canonicalRevision command.expectedRevision "expectedRevision")
  let requestDigest := digest sha256 (.obj [(ofString "kind", .str (ofString "selectRoom")),
    (ofString "requestId", .str requestId), (ofString "roomId", .str canonicalRoomId),
    (ofString "expectedRevision", .num expectedRevision)])
  match ← .query fun db : Db => db.roomSelectionCommands.lookup requestId with
  | some prior =>
    .require (prior.requestDigest = requestDigest)
      (.ofText "Request id was already used for a different room selection")
    return prior.result
  | none =>
    let room ← .query fun db : Db => (db.rooms.lookup canonicalRoomId).filter fun row =>
      !row.archived
    .require room.isSome (.plain (ofString "Unknown room: " ++ canonicalRoomId))
    let changes ← .statement (Db.updateCurrentRoom canonicalRoomId expectedRevision)
    .require (changes = 1) (.ofText "Room selection revision conflict")
    let (revision, room) ← readRoomSelection
    let result := { requestId, revision, room }
    .statement (Db.insertRoomSelectionCommand requestId ⟨requestDigest, result⟩)
    return result

/-- The loop that inserts the cast, from the persona at `index` on. -/
def insertPersonas (uuids : ℕ → JsString) (sessionId : RoomId) :
    ℕ → List CastPersonaInput → DbProgram (List SelectedCastDto)
  | _, [] => return []
  | index, persona :: personas => do
    let participantId := ofString "persona-" ++ uuids (index + 2)
    let sortOrder := index + 1
    .statement (Db.insertParticipant participantId {
      roomId := sessionId
      kind := .persona
      displayName := persona.name
      sortOrder
      personaSlug := some persona.slug })
    let selectedCast ← insertPersonas uuids sessionId (index + 1) personas
    return ⟨participantId, persona.slug, persona.name, sortOrder⟩ :: selectedCast

/-- The checks of the personas of a cast. -/
def requireCast (personas : List CastPersonaInput) : Except JsError (List CastPersonaInput) := do
  if personas.length < 1 ∨ 3 < personas.length then
    throw (.typeError (ofString "cast must contain one to three personas"))
  let personas ← personas.mapM fun persona => do
    return { slug := ← canonicalSlug persona.slug, name := ← displayName persona.name }
  if (personas.map CastPersonaInput.slug).Nodup then return personas
  else throw (.typeError (ofString "duplicate persona slugs are not allowed"))

/-- What `replaceCurrentRoomCast` does for a request it has not answered yet. -/
def openRoom (uuids : ℕ → JsString) (requestId requestDigest : JsString) (expectedRevision : ℕ)
    (personas : List CastPersonaInput) : DbProgram CastReplacementResult := do
  let (revision, _) ← readRoomSelection
  .require (revision = expectedRevision) (.ofText "Room selection revision conflict")
  let roomCount ← .query fun db : Db => db.rooms.entries.countP fun e => !e.2.archived
  .require (roomCount < roomLibraryLimit) (.ofText "Room library is full")
  let sessionId := ofString "room-" ++ uuids 0
  .statement (Db.insertRoom sessionId { title := roomTitle personas, status := .active })
  let humanId := ofString "human-" ++ uuids 1
  .statement (Db.insertParticipant humanId {
    roomId := sessionId
    kind := .human
    displayName := ofString "You"
    sortOrder := 0 })
  let selectedCast ← insertPersonas uuids sessionId 0 personas
  .statement (Db.insertDirectorState sessionId)
  let _ ← appendEventInTransaction sessionId
    (.roomStarted (selectedCast.map fun persona => (persona.participantId, persona.slug)))
  let changes ← .statement (Db.updateCurrentRoom sessionId expectedRevision)
  .require (changes = 1) (.ofText "Room selection revision conflict")
  let room ← roomDto sessionId
  let result := { requestId, selectionRevision := expectedRevision + 1, sessionId, room,
                  selectedCast }
  .statement (Db.insertCastCommand requestId ⟨requestDigest, result⟩)
  return result

def replaceCurrentRoomCast (uuids : ℕ → JsString) (command : ReplaceCurrentRoomCastCommand) :
    DbProgram CastReplacementResult := do
  let requestId ← .ofExcept (canonicalIdentifier command.requestId "requestId" 256)
  let expectedRevision ← .ofExcept (canonicalRevision command.expectedRevision "expectedRevision")
  let personas ← .ofExcept (requireCast command.personas)
  let requestDigest := digest sha256 (.obj [(ofString "kind", .str (ofString "replaceCast")),
    (ofString "requestId", .str requestId), (ofString "expectedRevision", .num expectedRevision),
    (ofString "personaSlugs", .arr (personas.map fun persona => .str persona.slug))])
  match ← .query fun db : Db => db.castCommands.lookup requestId with
  | some prior =>
    .require (prior.requestDigest = requestDigest)
      (.ofText "Request id was already used for a different cast")
    return prior.result
  | none => openRoom uuids requestId requestDigest expectedRevision personas

end

/-! ## What the operations change -/

/-- A room has been added under `sessionId`, with its participants and one event. -/
structure Db.Opened (sessionId : RoomId) (db db' : Db) : Prop where
  fresh : sessionId ∉ db.rooms
  freshState : sessionId ∉ db.directorState
  rooms : ∃ row, row.status = .active ∧ row.generation = 0 ∧ row.nextEventSequence = 2 ∧
    ∀ id, db'.rooms.lookup id = if id = sessionId then some row else db.rooms.lookup id
  participants : ∃ added, db'.participants.entries = added ++ db.participants.entries ∧
    ∀ e ∈ added, e.2.roomId = sessionId
  freshEvent : (sessionId, 1) ∉ db.events
  events : ∃ cast, db'.events = db.events.insert (sessionId, 1) (.roomStarted cast)
  commands : db'.commands = db.commands
  directorState : db'.directorState = db.directorState.insert sessionId {}

theorem roomDto_readOnly (roomId : RoomId) : (roomDto roomId).ReadOnly :=
  .bind (.query _) fun _ => .bind (.orThrow _ _) fun _ => .bind (.query _) fun _ => .pure _

theorem readRoomSelection_readOnly : readRoomSelection.ReadOnly :=
  .bind (.query _) fun _ => .bind (.orThrow _ _) fun _ =>
    .bind (roomDto_readOnly _) fun _ => .pure _

/-- Selecting checks the room and the revision, and changes nothing. -/
theorem requireRoomSelection_returns {roomId : JsString} {selectionRevision : ℕ} {db db' : Db}
    {u : Unit} (h : (requireRoomSelection roomId selectionRevision).Returns db u db') :
    db' = db := by
  simp only [requireRoomSelection, Program.returns_bind, Program.returns_ofExcept,
    Program.returns_query, Program.returns_require] at h
  obtain ⟨_, _, ⟨_, rfl⟩, _, _, ⟨_, rfl⟩, _, _, ⟨_, rfl⟩, _, rfl⟩ := h
  rfl

theorem Db.updateCurrentRoom_sameRooms {roomId : RoomId} {revision n : ℕ} {db db' : Db}
    (h : Db.updateCurrentRoom roomId revision db = .ok (n, db')) : db.SameRooms db' := by
  unfold Db.updateCurrentRoom at h
  split at h
  · obtain ⟨-, rfl⟩ := Prod.mk.inj (Except.ok.inj h)
    exact .refl db
  · split at h
    · obtain ⟨-, rfl⟩ := Prod.mk.inj (Except.ok.inj h)
      exact ⟨rfl, rfl, rfl, rfl, rfl⟩
    · obtain ⟨-, rfl⟩ := Prod.mk.inj (Except.ok.inj h)
      exact .refl db

theorem selectRoom_returns {sha256 : JsString → JsString} {command : SelectRoomCommand}
    {db db' : Db} {result : RoomSelectionResult}
    (h : (selectRoom sha256 command).Returns db result db') : db.SameRooms db' := by
  simp only [selectRoom, Program.returns_bind, Program.returns_ofExcept,
    Program.returns_query] at h
  obtain ⟨_, _, ⟨_, rfl⟩, _, _, ⟨_, rfl⟩, _, _, ⟨_, rfl⟩, _, _, ⟨rfl, rfl⟩, h⟩ := h
  split at h
  · simp only [Program.returns_bind, Program.returns_require, Program.returns_pure] at h
    obtain ⟨_, _, ⟨_, rfl⟩, _, rfl⟩ := h
    exact .refl _
  · simp only [Program.returns_bind, Program.returns_query, Program.returns_require,
      Program.returns_statement, Program.returns_pure] at h
    obtain ⟨_, _, ⟨rfl, rfl⟩, _, _, ⟨_, rfl⟩, _, db₁, hupdate, _, _, ⟨_, rfl⟩, _, db₂, hread,
      _, db₃, hins, _, rfl⟩ := h
    obtain rfl := readRoomSelection_readOnly.returns hread
    have hsame := Db.updateCurrentRoom_sameRooms hupdate
    unfold Db.insertRoomSelectionCommand at hins
    split at hins
    · cases hins
    · obtain ⟨-, rfl⟩ := Prod.mk.inj (Except.ok.inj hins)
      exact ⟨hsame.rooms, hsame.participants, hsame.events, hsame.commands, hsame.directorState⟩

/-- Participants of one room have been added. -/
structure Db.ParticipantsAdded (roomId : RoomId) (db db' : Db) : Prop where
  rooms : db'.rooms = db.rooms
  events : db'.events = db.events
  commands : db'.commands = db.commands
  directorState : db'.directorState = db.directorState
  participants : ∃ added, db'.participants.entries = added ++ db.participants.entries ∧
    ∀ e ∈ added, e.2.roomId = roomId

theorem Db.ParticipantsAdded.trans {roomId : RoomId} {db₁ db₂ db₃ : Db}
    (h : db₁.ParticipantsAdded roomId db₂) (h' : db₂.ParticipantsAdded roomId db₃) :
    db₁.ParticipantsAdded roomId db₃ where
  rooms := h'.rooms.trans h.rooms
  events := h'.events.trans h.events
  commands := h'.commands.trans h.commands
  directorState := h'.directorState.trans h.directorState
  participants := by
    obtain ⟨added, hadded, hroom⟩ := h.participants
    obtain ⟨added', hadded', hroom'⟩ := h'.participants
    refine ⟨added' ++ added, by rw [hadded', hadded, List.append_assoc], ?_⟩
    intro e he
    rcases List.mem_append.mp he with he | he
    · exact hroom' e he
    · exact hroom e he

theorem Db.insertParticipant_ok {id : ParticipantId} {row : ParticipantRow} {db db' : Db}
    {u : Unit} (h : Db.insertParticipant id row db = .ok (u, db')) :
    db.ParticipantsAdded row.roomId db' := by
  unfold Db.insertParticipant at h
  split at h
  · cases h
  · next hid =>
      split at h
      · cases h
      · split at h
        · cases h
        · obtain ⟨-, rfl⟩ := Prod.mk.inj (Except.ok.inj h)
          refine ⟨rfl, rfl, rfl, rfl, [⟨id, row⟩], AList.entries_insert_of_notMem hid, ?_⟩
          intro e he
          obtain rfl := List.mem_singleton.mp he
          rfl

/-- The personas of a cast all go to its room. -/
theorem insertPersonas_returns {uuids : ℕ → JsString} {sessionId : RoomId} {index : ℕ}
    {personas : List CastPersonaInput} {db db' : Db} {selectedCast : List SelectedCastDto}
    (h : (insertPersonas uuids sessionId index personas).Returns db selectedCast db') :
    db.ParticipantsAdded sessionId db' := by
  induction personas generalizing index db selectedCast with
  | nil =>
      simp only [insertPersonas, Program.returns_pure] at h
      obtain ⟨-, rfl⟩ := h
      exact ⟨rfl, rfl, rfl, rfl, [], rfl, by simp⟩
  | cons persona personas ih =>
      simp only [insertPersonas, Program.returns_bind, Program.returns_statement,
        Program.returns_pure] at h
      obtain ⟨_, db₁, hins, _, _, hrest, _, rfl⟩ := h
      exact (Db.insertParticipant_ok hins).trans (ih hrest)

theorem Db.insertRoom_ok {roomId : RoomId} {row : RoomRow} {db db' : Db} {u : Unit}
    (h : Db.insertRoom roomId row db = .ok (u, db')) :
    roomId ∉ db.rooms ∧ db' = { db with rooms := db.rooms.insert roomId row } := by
  unfold Db.insertRoom at h
  split at h
  · cases h
  · next hid => exact ⟨hid, (Prod.mk.inj (Except.ok.inj h)).2.symm⟩

theorem Db.insertDirectorState_ok {roomId : RoomId} {db db' : Db} {u : Unit}
    (h : Db.insertDirectorState roomId db = .ok (u, db')) :
    roomId ∉ db.directorState ∧
      db' = { db with directorState := db.directorState.insert roomId {} } := by
  unfold Db.insertDirectorState at h
  split at h
  · cases h
  · next hid => exact ⟨hid, (Prod.mk.inj (Except.ok.inj h)).2.symm⟩

theorem Db.insertCastCommand_sameRooms {requestId : RequestId}
    {row : ResultRow CastReplacementResult} {db db' : Db} {u : Unit}
    (h : Db.insertCastCommand requestId row db = .ok (u, db')) : db.SameRooms db' := by
  unfold Db.insertCastCommand at h
  split at h
  · cases h
  · obtain ⟨-, rfl⟩ := Prod.mk.inj (Except.ok.inj h)
    exact ⟨rfl, rfl, rfl, rfl, rfl⟩

/-- Opening a room adds it, with the first event of its log. -/
theorem openRoom_returns {uuids : ℕ → JsString} {requestId requestDigest : JsString}
    {expectedRevision : ℕ} {personas : List CastPersonaInput} {db db' : Db}
    {result : CastReplacementResult}
    (h : (openRoom uuids requestId requestDigest expectedRevision personas).Returns db result db') :
    ∃ sessionId, db.Opened sessionId db' := by
  simp only [openRoom, Program.returns_bind, Program.returns_query, Program.returns_require,
    Program.returns_statement, Program.returns_pure] at h
  obtain ⟨_, db₀, hread, _, _, ⟨_, rfl⟩, _, _, ⟨rfl, rfl⟩, _, _, ⟨_, rfl⟩, _, db₁, hroom, _, db₂,
    hhuman, cast, db₃, hpersonas, _, db₄, hstate, _, db₅, hevent, _, db₆, hupdate, _, _,
    ⟨_, rfl⟩, _, db₇, hdto, _, db₈, hins, _, rfl⟩ := h
  obtain rfl := readRoomSelection_readOnly.returns hread
  obtain rfl := (roomDto_readOnly _).returns hdto
  obtain ⟨hfresh, rfl⟩ := Db.insertRoom_ok hroom
  have hcast := (Db.insertParticipant_ok hhuman).trans (insertPersonas_returns hpersonas)
  obtain ⟨hfreshState, rfl⟩ := Db.insertDirectorState_ok hstate
  obtain ⟨row, hrow, hseq, -, hfreshEvent, rfl⟩ := appendEventInTransaction_returns hevent
  have hselected := Db.updateCurrentRoom_sameRooms hupdate
  have hstored := Db.insertCastCommand_sameRooms hins
  simp only [hcast.rooms] at hrow
  rw [AList.lookup_insert, Option.some.injEq] at hrow
  subst hrow hseq
  simp only [hcast.events] at hfreshEvent
  simp only [hcast.directorState] at hfreshState
  refine ⟨_, hfresh, hfreshState, ?_, ?_, hfreshEvent,
    ⟨cast.map fun persona => (persona.participantId, persona.slug), ?_⟩, ?_, ?_⟩
  · refine ⟨{ title := Cast.roomTitle personas, status := .active, nextEventSequence := 2,
              activityOrder := db₃.nextActivityOrder }, rfl, rfl, rfl, ?_⟩
    intro id
    rw [hstored.rooms, hselected.rooms, Db.lookup_rooms_appended]
    simp only [hcast.rooms, KeyedTable.lookup_insert]
    split <;> simp_all
  · obtain ⟨added, hadded, hroom⟩ := hcast.participants
    exact ⟨added, by rw [hstored.participants, hselected.participants]; exact hadded, hroom⟩
  · rw [hstored.events, hselected.events, Db.appended_events]
    simp only [hcast.events]
  · rw [hstored.commands, hselected.commands, Db.appended_commands]
    exact hcast.commands
  · rw [hstored.directorState, hselected.directorState, Db.appended_directorState]
    simp only [hcast.directorState]

/-- Replacing the cast gives a stored answer again, or opens a room. -/
theorem replaceCurrentRoomCast_returns {sha256 : JsString → JsString} {uuids : ℕ → JsString}
    {command : ReplaceCurrentRoomCastCommand} {db db' : Db} {result : CastReplacementResult}
    (h : (replaceCurrentRoomCast sha256 uuids command).Returns db result db') :
    db' = db ∨ ∃ sessionId, db.Opened sessionId db' := by
  simp only [replaceCurrentRoomCast, Program.returns_bind, Program.returns_ofExcept,
    Program.returns_query] at h
  obtain ⟨_, _, ⟨_, rfl⟩, _, _, ⟨_, rfl⟩, _, _, ⟨_, rfl⟩, _, _, ⟨rfl, rfl⟩, h⟩ := h
  split at h
  · simp only [Program.returns_bind, Program.returns_require, Program.returns_pure] at h
    obtain ⟨_, _, ⟨_, rfl⟩, _, rfl⟩ := h
    exact .inl rfl
  · exact .inr (openRoom_returns h)

end GreenRoom
