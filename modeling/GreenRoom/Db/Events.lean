import GreenRoom.Db.Schema
import GreenRoom.Db.Transaction

/-!
# Events

Canonical JSON text and the appending of an event, as in `db/events.ts`.

## Main results

* `appendEventInTransaction_returns` — an append takes the room's next sequence.
-/

namespace GreenRoom

open JsString

/-- `canonicalJson`: members in the order of their names. -/
def canonicalJson (value : Json ℤ) : JsString := canonicalize value
where
  canonicalize : Json ℤ → JsString
    | .null => ofString "null"
    | .bool b => if b then ofString "true" else ofString "false"
    | .num x => printInteger x
    | .str s => Json.quote s
    | .arr elements => unit '[' :: join [unit ','] (canonicalizeElements elements) ++ [unit ']']
    | .obj members =>
      let entries := (canonicalizeMembers members).insertionSort fun a b => le a.1 b.1
      unit '\x7b' :: join [unit ','] (entries.map Prod.snd) ++ [unit '\x7d']
  canonicalizeElements : List (Json ℤ) → List JsString
    | [] => []
    | v :: vs => canonicalize v :: canonicalizeElements vs
  /-- Each name with the text of its member. -/
  canonicalizeMembers : List (JsString × Json ℤ) → List (JsString × JsString)
    | [] => []
    | (k, v) :: ms => (k, Json.quote k ++ unit ':' :: canonicalize v) :: canonicalizeMembers ms

/-- The digest of a value, over any hash function of texts. -/
def digest (sha256 : JsString → JsString) (value : Json ℤ) : JsString :=
  sha256 (canonicalJson value)

def appendEventInTransaction (roomId : RoomId) (event : RoomEvent) : DbProgram ℕ := do
  let allocated ← .statement (Db.allocateSequence roomId)
  let sequence ← .orThrow allocated (.plain (ofString "Unknown room: " ++ roomId))
  .statement (Db.insertEvent roomId sequence event)
  return sequence

namespace Db

/-- Rooms, logs and commands are the same. -/
structure SameRooms (db db' : Db) : Prop where
  rooms : db'.rooms = db.rooms
  participants : db'.participants = db.participants
  events : db'.events = db.events
  commands : db'.commands = db.commands
  directorState : db'.directorState = db.directorState

theorem SameRooms.refl (db : Db) : db.SameRooms db := ⟨rfl, rfl, rfl, rfl, rfl⟩

/-- The room gets `event` under `sequence`, and the next sequence goes up by one. -/
def appended (roomId : RoomId) (sequence : ℕ) (event : RoomEvent) (db : Db) : Db :=
  let db₁ := db.updateRoom roomId fun row =>
    { row with nextEventSequence := row.nextEventSequence + 1 }
  let db₂ := db₁.updateRoom roomId fun row => { row with activityOrder := db.nextActivityOrder }
  { db₂ with
    events := db.events.insert (roomId, sequence) event
    nextActivityOrder := db.nextActivityOrder + 1 }

variable (roomId : RoomId) (sequence : ℕ) (event : RoomEvent) (db : Db)

@[simp] theorem appended_commands :
    (db.appended roomId sequence event).commands = db.commands := rfl

@[simp] theorem appended_directorState :
    (db.appended roomId sequence event).directorState = db.directorState := rfl

@[simp] theorem appended_events :
    (db.appended roomId sequence event).events = db.events.insert (roomId, sequence) event := rfl

theorem lookup_rooms_appended (id : RoomId) :
    (db.appended roomId sequence event).rooms.lookup id = (db.rooms.lookup id).map fun row =>
      if id = roomId then { row with
        nextEventSequence := row.nextEventSequence + 1
        activityOrder := db.nextActivityOrder } else row := by
  simp only [appended, updateRoom, KeyedTable.lookup_modify, Option.map_map]
  congr 1
  funext row
  by_cases h : id = roomId <;> simp [h]

end Db

/-- An append that returns takes the room's next sequence, which is free. -/
theorem appendEventInTransaction_returns {roomId : RoomId} {event : RoomEvent} {db db' : Db}
    {sequence : ℕ} (h : (appendEventInTransaction roomId event).Returns db sequence db') :
    ∃ room, db.rooms.lookup roomId = some room ∧ sequence = room.nextEventSequence ∧
      sequence < Core.safeIntegerBound ∧ (roomId, sequence) ∉ db.events ∧
      db' = db.appended roomId sequence event := by
  simp only [appendEventInTransaction, Program.returns_bind, Program.returns_statement,
    Program.returns_orThrow, Program.returns_pure] at h
  obtain ⟨allocated, db₁, halloc, n, db₂, ⟨hn, rfl⟩, u, db₃, hins, rfl, rfl⟩ := h
  obtain ⟨rfl, hsafe, rfl⟩ := Db.allocateSequence_ok halloc
  obtain ⟨room, hroom, rfl⟩ := Option.map_eq_some_iff.mp hn
  unfold Db.insertEvent at hins
  split at hins
  · cases hins
  · next hfree =>
      simp only [Except.ok.injEq, Prod.mk.injEq] at hins
      exact ⟨room, hroom, rfl, hsafe _ hn, hfree, hins.2.symm⟩

end GreenRoom
