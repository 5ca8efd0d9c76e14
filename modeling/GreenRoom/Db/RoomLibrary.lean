import GreenRoom.Db.Cast

/-!
# The list of rooms

`listRooms` of `db/cast.ts`.  It lists the selected room and the rooms of most recent
activity besides, as many as the library may hold; where the library keeps to its
limit, these are all rooms that are not archived.

## Main definitions

* `Db.unarchivedRooms`, `Db.libraryRooms` — the rooms of the query.
* `listRooms`

## Main results

* `libraryRooms_perm` — within the limit, all rooms that are not archived are listed.
* `listRooms_returns`, `listRooms_not_throws`
-/

namespace GreenRoom

open JsString

namespace Db

/-- A row of `SELECT id, … FROM rooms`. -/
structure Room where
  id : RoomId
  row : RoomRow
  deriving DecidableEq

/-- `WHERE archived = 0`. -/
def unarchivedRooms (db : Db) : List Room :=
  (db.rooms.entries.filter fun e => !e.2.archived).map fun e => ⟨e.1, e.2⟩

/-- `ORDER BY activity_order DESC, id ASC`. -/
def Room.before (r r' : Room) : Prop :=
  r'.row.activityOrder < r.row.activityOrder ∨
    (r'.row.activityOrder = r.row.activityOrder ∧ le r.id r'.id)

instance : DecidableRel Room.before := fun _ _ => inferInstanceAs (Decidable (_ ∨ _))

/-- The query of `listRooms`, with its subquery. -/
def libraryRooms (selectedId : RoomId) (db : Db) : List Room :=
  let recent := ((db.unarchivedRooms.filter fun r => r.id ≠ selectedId).insertionSort
    Room.before).take (roomLibraryLimit - 1)
  (db.unarchivedRooms.filter fun r =>
    r.id = selectedId || r.id ∈ recent.map Room.id).insertionSort Room.before

end Db

structure RoomSummaryDto where
  id : RoomId
  title : JsString
  status : RoomStatus
  selected : Bool
  lastActivity : JsString
  cast : List RoomParticipantDto

/-- `value.replace(" ", "T")`, and a `Z`. -/
def canonicalTimestamp (value : JsString) : JsString :=
  let date := value.takeWhile fun u => u ≠ unit ' '
  let time := value.drop date.length
  date ++ (if time = [] then [] else unit 'T' :: time.drop 1) ++ ofString "Z"

def currentRoomId : DbProgram RoomId := do
  let row ← .orThrow (← .query Db.currentRoom) (.ofText "Missing singleton current room pointer")
  return row.roomId

/-- The summaries of the rows. -/
def roomSummaries (lastActivity : RoomId → JsString) (selectedId : RoomId) :
    List Db.Room → DbProgram (List RoomSummaryDto)
  | [] => return []
  | r :: rows => do
    let room ← roomDto r.id
    let summary := {
      id := r.id
      title := r.row.title
      status := r.row.status
      selected := r.id = selectedId
      lastActivity := canonicalTimestamp (lastActivity r.id)
      cast := room.participants.filter fun participant => participant.kind = .persona }
    return summary :: (← roomSummaries lastActivity selectedId rows)

/-- `lastActivity` is the newest time stamp of a room and its events. -/
def listRooms (lastActivity : RoomId → JsString) : DbProgram (List RoomSummaryDto) := do
  let selectedId ← currentRoomId
  let rows ← .query (Db.libraryRooms selectedId)
  roomSummaries lastActivity selectedId rows

/-! ## The order -/

namespace Db

instance : Std.Total Room.before where
  total r r' := by
    unfold Room.before
    rcases Nat.lt_trichotomy r.row.activityOrder r'.row.activityOrder with h | h | h
    · exact .inr (.inl h)
    · exact (JsString.le_total r.id r'.id).imp (fun hle => .inr ⟨h.symm, hle⟩) fun hle =>
        .inr ⟨h, hle⟩
    · exact .inl (.inl h)

instance : IsTrans Room Room.before where
  trans r r' r'' h h' := by
    rcases h with h | ⟨h, hle⟩ <;> rcases h' with h' | ⟨h', hle'⟩
    · exact .inl (h'.trans h)
    · exact .inl (h' ▸ h)
    · exact .inl (h ▸ h')
    · exact .inr ⟨h'.trans h, JsString.le_trans hle hle'⟩

theorem Room.before.activityOrder_le {r r' : Room} (h : r.before r') :
    r'.row.activityOrder ≤ r.row.activityOrder := by
  rcases h with h | ⟨h, -⟩
  · exact h.le
  · exact h.le

/-! ## What is listed -/

theorem mem_unarchivedRooms {db : Db} {r : Room} :
    r ∈ db.unarchivedRooms ↔ db.rooms.lookup r.id = some r.row ∧ r.row.archived = false := by
  simp only [unarchivedRooms, List.mem_map, List.mem_filter, Bool.not_eq_true']
  constructor
  · rintro ⟨e, ⟨he, harchived⟩, rfl⟩
    exact ⟨KeyedTable.mem_entries_iff.mp he, harchived⟩
  · rintro ⟨hrow, harchived⟩
    exact ⟨⟨r.id, r.row⟩, ⟨KeyedTable.mem_entries_iff.mpr hrow, harchived⟩, rfl⟩

theorem nodup_unarchivedRooms (db : Db) : (db.unarchivedRooms.map Room.id).Nodup := by
  rw [unarchivedRooms, List.map_map]
  exact (List.filter_sublist.map Sigma.fst).nodup db.rooms.nodupKeys

theorem length_unarchivedRooms (db : Db) :
    db.unarchivedRooms.length = KeyedTable.count (fun row => !row.archived) db.rooms := by
  rw [unarchivedRooms, List.length_map, KeyedTable.count, List.countP_eq_length_filter]

/-- **Within the limit, all rooms that are not archived are listed.** -/
theorem libraryRooms_perm {db : Db} {selectedId : RoomId}
    (hselected : selectedId ∈ db.unarchivedRooms.map Room.id)
    (hlimit : db.unarchivedRooms.length ≤ roomLibraryLimit) :
    (db.libraryRooms selectedId).Perm db.unarchivedRooms := by
  refine (List.perm_insertionSort _ _).trans (.of_eq (List.filter_eq_self.mpr fun r hr => ?_))
  rw [Bool.or_eq_true, decide_eq_true_eq, or_iff_not_imp_left]
  intro hne
  -- The others are one fewer than all, so none is cut off.
  have hlength : (db.unarchivedRooms.filter fun r => r.id ≠ selectedId).length ≤
      roomLibraryLimit - 1 := by
    obtain ⟨r₀, hr₀, rfl⟩ := List.mem_map.mp hselected
    have := List.length_filter_lt_length_iff_exists (p := fun r : Room => decide (r.id ≠ r₀.id))
      (l := db.unarchivedRooms) |>.mpr ⟨r₀, hr₀, by simp⟩
    omega
  rw [List.take_of_length_le (by rwa [List.length_insertionSort])]
  simp only [decide_eq_true_eq]
  refine List.mem_map_of_mem ((List.mem_insertionSort _).mpr (List.mem_filter.mpr ⟨hr, ?_⟩))
  simpa using hne

end Db

theorem roomSummaries_readOnly (lastActivity : RoomId → JsString) (selectedId : RoomId)
    (rows : List Db.Room) : (roomSummaries lastActivity selectedId rows).ReadOnly := by
  induction rows with
  | nil => exact .pure _
  | cons r rows ih => exact .bind (roomDto_readOnly _) fun _ => .bind ih fun _ => .pure _

theorem listRooms_readOnly (lastActivity : RoomId → JsString) : (listRooms lastActivity).ReadOnly :=
  .bind (.bind (.query _) fun _ => .bind (.orThrow _ _) fun _ => .pure _) fun _ =>
    .bind (.query _) fun _ => roomSummaries_readOnly _ _ _

/-- There is one summary for each row. -/
theorem roomSummaries_returns {lastActivity : RoomId → JsString} {selectedId : RoomId}
    {rows : List Db.Room} {db db' : Db} {summaries : List RoomSummaryDto}
    (h : (roomSummaries lastActivity selectedId rows).Returns db summaries db') :
    summaries.map RoomSummaryDto.id = rows.map Db.Room.id ∧
      ∀ summary ∈ summaries, summary.selected = decide (summary.id = selectedId) := by
  induction rows generalizing summaries db db' with
  | nil =>
      obtain ⟨rfl, -⟩ := Program.returns_pure.mp h
      exact ⟨rfl, by simp⟩
  | cons r rows ih =>
      simp only [roomSummaries, Program.returns_bind, Program.returns_pure] at h
      obtain ⟨room, db₁, -, rest, db₂, hrest, rfl, -⟩ := h
      obtain ⟨hids, hselected⟩ := ih hrest
      refine ⟨by rw [List.map_cons, List.map_cons, hids], ?_⟩
      rintro summary (_ | ⟨_, hsummary⟩)
      · rfl
      · exact hselected summary hsummary

theorem roomDto_not_throws {roomId : RoomId} {db : Db} {row : RoomRow} {e : JsError}
    (hrow : db.rooms.lookup roomId = some row) : ¬ (roomDto roomId).Throws db e :=
  fun h => Program.throws_pure (h.of_query.of_orThrow hrow).of_query

theorem roomSummaries_not_throws {lastActivity : RoomId → JsString} {selectedId : RoomId}
    {rows : List Db.Room} {db : Db} {e : JsError}
    (hrows : ∀ r ∈ rows, db.rooms.lookup r.id = some r.row) :
    ¬ (roomSummaries lastActivity selectedId rows).Throws db e := by
  induction rows with
  | nil => exact fun h => Program.throws_pure h
  | cons r rows ih =>
      intro h
      rcases h.bind with hroom | ⟨room, db₁, hroom, hrest⟩
      · exact roomDto_not_throws (hrows r List.mem_cons_self) hroom
      · obtain rfl := (roomDto_readOnly _).returns hroom
        rcases hrest.bind with hrest | ⟨rest, db₂, -, hpure⟩
        · exact ih (fun r hr => hrows r (List.mem_cons_of_mem _ hr)) hrest
        · exact Program.throws_pure hpure

/-- The summaries are those of the library: the rooms that are not archived, each once,
and those of later activity first. -/
structure Db.ListsLibrary (selectedId : RoomId) (summaries : List RoomSummaryDto) (db : Db) :
    Prop where
  once : (summaries.map RoomSummaryDto.id).Nodup
  all : ∀ id, id ∈ summaries.map RoomSummaryDto.id ↔
    ∃ row, db.rooms.lookup id = some row ∧ row.archived = false
  ordered : (summaries.map RoomSummaryDto.id).Pairwise fun id id' => ∀ row row',
    db.rooms.lookup id = some row → db.rooms.lookup id' = some row' →
      row'.activityOrder ≤ row.activityOrder
  selected : ∀ summary ∈ summaries, summary.selected = decide (summary.id = selectedId)

section

variable {lastActivity : RoomId → JsString} {db db' : Db} {current : CurrentRoomRow}
  {selectedRow : RoomRow}

/-- **The list of rooms is the library**, while the library keeps to its limit. -/
theorem listRooms_returns {summaries : List RoomSummaryDto}
    (hcurrent : db.currentRoom = some current)
    (hrow : db.rooms.lookup current.roomId = some selectedRow)
    (hselected : selectedRow.archived = false)
    (hlimit : KeyedTable.count (fun row => !row.archived) db.rooms ≤ roomLibraryLimit)
    (h : (listRooms lastActivity).Returns db summaries db') :
    db' = db ∧ db.ListsLibrary current.roomId summaries := by
  refine ⟨(listRooms_readOnly _).returns h, ?_⟩
  simp only [listRooms, currentRoomId, Program.returns_bind, Program.returns_query,
    Program.returns_orThrow, Program.returns_pure] at h
  obtain ⟨_, _, ⟨_, _, ⟨rfl, rfl⟩, row, _, ⟨hcurrent', rfl⟩, rfl, rfl⟩, _, db, ⟨rfl, rfl⟩, h⟩ := h
  obtain rfl := Option.some.inj (hcurrent.symm.trans hcurrent')
  have hperm : (db.libraryRooms current.roomId).Perm db.unarchivedRooms := Db.libraryRooms_perm
    (List.mem_map.mpr ⟨⟨current.roomId, selectedRow⟩, Db.mem_unarchivedRooms.mpr ⟨hrow, hselected⟩,
      rfl⟩) (Db.length_unarchivedRooms db ▸ hlimit)
  have hmem : ∀ r ∈ db.libraryRooms current.roomId, db.rooms.lookup r.id = some r.row :=
    fun r hr => (Db.mem_unarchivedRooms.mp (hperm.mem_iff.mp hr)).1
  obtain ⟨hids, hflags⟩ := roomSummaries_returns h
  refine ⟨?_, fun id => ?_, ?_, hflags⟩
  · rw [hids, (hperm.map _).nodup_iff]
    exact Db.nodup_unarchivedRooms db
  · rw [hids, (hperm.map _).mem_iff, List.mem_map]
    constructor
    · rintro ⟨r, hr, rfl⟩
      exact ⟨r.row, Db.mem_unarchivedRooms.mp hr⟩
    · rintro ⟨row, hroom, harchived⟩
      exact ⟨⟨id, row⟩, Db.mem_unarchivedRooms.mpr ⟨hroom, harchived⟩, rfl⟩
  · rw [hids, List.pairwise_map]
    refine (List.pairwise_insertionSort Db.Room.before _).imp_of_mem ?_
    intro r r' hr hr' hbefore row row' hroom hroom'
    obtain rfl := Option.some.inj ((hmem r hr).symm.trans hroom)
    obtain rfl := Option.some.inj ((hmem r' hr').symm.trans hroom')
    exact hbefore.activityOrder_le

theorem listRooms_not_throws (hcurrent : db.currentRoom = some current) {e : JsError} :
    ¬ (listRooms lastActivity).Throws db e := by
  intro h
  rcases h.bind with hcurrentId | ⟨selectedId, db₁, hcurrentId, hrest⟩
  · exact Program.throws_pure (hcurrentId.of_query.of_orThrow hcurrent)
  · obtain rfl := (Program.ReadOnly.bind (.query _) fun _ => .bind (.orThrow _ _) fun _ =>
      .pure _ : currentRoomId.ReadOnly).returns hcurrentId
    refine roomSummaries_not_throws (fun r hr => ?_) hrest.of_query
    rw [Db.libraryRooms, List.mem_insertionSort, List.mem_filter] at hr
    exact (Db.mem_unarchivedRooms.mp hr.1).1

end

end GreenRoom
