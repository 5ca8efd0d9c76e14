import GreenRoom.Iphone.Statements

/-!
# What the statements change

One lemma for each kind of write, from which the invariants of the database follow
without looking at a statement again.

## Main results

* `commitTurn_spec` — what completing a command does to its room.
* `updateCommands_lookup` — an update rewrites exactly the rows that meet its condition.
* `updateCommands_unique` — an update that finds a command by its key.
-/

namespace GreenRoom.Iphone

variable {db db' : Store} {n : ℕ}

theorem changing_eq_some {write : Option Store} :
    changing write = some (db', n) ↔ write = some db' ∧ n = 1 := by
  rw [changing, Option.map_eq_some_iff]
  constructor
  · rintro ⟨db, hdb, h⟩
    obtain ⟨rfl, rfl⟩ := Prod.mk.inj h
    exact ⟨hdb, rfl⟩
  · rintro ⟨h, rfl⟩
    exact ⟨db', h, rfl⟩

/-! ## Events and director state -/

section Rooms

variable {roomId : String} {sequence : ℕ} {event : Json ℚ}

theorem insertEvent_spec (h : insertEvent roomId sequence event db = some db') :
    ∃ room, db.rooms.lookup roomId = some room ∧ db.events.lookup (roomId, sequence) = none ∧
      db' = { db with
        events := db.events.insert (roomId, sequence) event
        rooms := db.rooms.insert roomId (room.advance sequence) } := by
  unfold insertEvent at h
  split at h
  · cases h
  · next room hroom =>
      split at h
      · next hok =>
          cases h
          exact ⟨room, hroom, hok.2.2, rfl⟩
      · cases h

theorem updateDirectorRow_spec {set : DirectorRow → Option DirectorRow}
    (h : updateDirectorRow roomId set db = some (db', n)) :
    (db.directorState.lookup roomId = none ∧ db' = db) ∨
    ∃ row new, db.directorState.lookup roomId = some row ∧ set row = some new ∧
      db' = { db with directorState := db.directorState.insert roomId new } := by
  unfold updateDirectorRow at h
  split at h
  · next hnone =>
      cases h
      exact .inl ⟨hnone, rfl⟩
  · next row hrow =>
      split at h
      · cases h
      · next new hnew =>
          split at h
          · cases h
            exact .inr ⟨row, new, hrow, hnew, rfl⟩
          · cases h

end Rooms

/-- The tables after the events of a turn, from the sequence the command expected. -/
def appendTurn (c : CommandRow) (events : KeyedTable (String × ℕ) (Json ℚ)) :
    KeyedTable (String × ℕ) (Json ℚ) :=
  let events := events.insert (c.roomId, c.expectedNextEventSequence) c.humanEvent
  let events := events.insert (c.roomId, c.expectedNextEventSequence + 1) c.directorEvent
  match c.personaSlug with
  | none => events
  | some slug =>
    events.insert (c.roomId, c.expectedNextEventSequence + 2)
      (personaEvent c.toGenerationCommand slug c.responseText)

/-- How many events a turn has. -/
def turnLength (c : GenerationCommand) : ℕ := if c.personaSlug = none then 2 else 3

/-- What `commitTurn` does: the director's row becomes the stored snapshot and the events of
the turn are appended, where there were none. -/
structure TurnCommitted (c : CommandRow) (db db' : Store) : Prop where
  events : db'.events = appendTurn c db.events
  free : ∀ i < turnLength c.toGenerationCommand,
    db.events.lookup (c.roomId, c.expectedNextEventSequence + i) = none
  directorState : (db.directorState.lookup c.roomId = none ∧
      db'.directorState = db.directorState) ∨
    ∃ row new, db.directorState.lookup c.roomId = some row ∧
      completedDirectorRow c.toGenerationCommand row = some new ∧
      db'.directorState = db.directorState.insert c.roomId new
  rooms : ∃ room next, db.rooms.lookup c.roomId = some room ∧
    db'.rooms = db.rooms.insert c.roomId { room with nextEventSequence := next } ∧
    (room.nextEventSequence = c.expectedNextEventSequence →
      next = c.expectedNextEventSequence + turnLength c.toGenerationCommand)
  frame : db' = { db with
    events := db'.events
    directorState := db'.directorState
    rooms := db'.rooms
    localDrafts := db.localDrafts.erase c.roomId }

/-- The sequence after an event at `sequence`, where the next one was `next`. -/
def nextAfter (sequence next : ℕ) : ℕ := if next = sequence then sequence + 1 else next

theorem advance_eq (sequence : ℕ) (room : RoomRow) :
    room.advance sequence =
      { room with nextEventSequence := nextAfter sequence room.nextEventSequence } := by
  unfold RoomRow.advance nextAfter
  split <;> rfl

/-- Two events in a row, the second right after the first. -/
theorem insertEvent_pair {roomId : String} {sequence : ℕ} {event event' : Json ℚ} {mid : Store}
    (h : insertEvent roomId sequence event db = some mid)
    (h' : insertEvent roomId (sequence + 1) event' mid = some db') :
    ∃ room, db.rooms.lookup roomId = some room ∧
      db.events.lookup (roomId, sequence) = none ∧
      db.events.lookup (roomId, sequence + 1) = none ∧
      db' = { db with
        events := (db.events.insert (roomId, sequence) event).insert
          (roomId, sequence + 1) event'
        rooms := db.rooms.insert roomId { room with
          nextEventSequence := nextAfter (sequence + 1)
            (nextAfter sequence room.nextEventSequence) } } := by
  obtain ⟨room, hroom, hfree, rfl⟩ := insertEvent_spec h
  obtain ⟨room', hroom', hfree', rfl⟩ := insertEvent_spec h'
  rw [AList.lookup_insert] at hroom'
  cases hroom'
  refine ⟨room, hroom, hfree, ?_, ?_⟩
  · rwa [AList.lookup_insert_ne (by simp)] at hfree'
  · simp only [advance_eq, AList.insert_insert]

theorem commitTurn_spec {c : CommandRow} (h : commitTurn c db = some db') :
    TurnCommitted c db db' := by
  simp only [commitTurn, Option.bind_eq_bind, Option.bind_eq_some_iff] at h
  obtain ⟨⟨db₁, k⟩, hdirector, db₂, hhuman, db₃, hdecision, h⟩ := h
  have hframe : db₁ = { db with directorState := db₁.directorState } := by
    obtain ⟨_, rfl⟩ | ⟨_, _, _, _, rfl⟩ := updateDirectorRow_spec hdirector <;> rfl
  have hstate : (db.directorState.lookup c.roomId = none ∧
      db₁.directorState = db.directorState) ∨
      ∃ row new, db.directorState.lookup c.roomId = some row ∧
        completedDirectorRow c.toGenerationCommand row = some new ∧
        db₁.directorState = db.directorState.insert c.roomId new := by
    obtain ⟨hnone, rfl⟩ | ⟨row, new, hrow, hnew, rfl⟩ := updateDirectorRow_spec hdirector
    · exact .inl ⟨hnone, rfl⟩
    · exact .inr ⟨row, new, hrow, hnew, rfl⟩
  generalize db₁.directorState = directorState at hframe hstate
  subst hframe
  obtain ⟨room, hroom, hfree, hfree', rfl⟩ := insertEvent_pair hhuman hdecision
  cases hslug : c.personaSlug with
  | none =>
      rw [hslug] at h
      obtain rfl := Option.some.inj h
      have hlength : turnLength c.toGenerationCommand = 2 := if_pos hslug
      refine ⟨?_, ?_, hstate, ⟨room, _, hroom, rfl, ?_⟩, rfl⟩
      · simp only [appendTurn, hslug]
      · intro i hi
        rw [hlength] at hi
        obtain rfl | rfl : i = 0 ∨ i = 1 := by omega
        · exact hfree
        · exact hfree'
      · intro hnext
        simp [hlength, hnext, nextAfter]
  | some slug =>
      rw [hslug] at h
      obtain ⟨db₄, hpersona, h⟩ := Option.bind_eq_some_iff.mp h
      obtain rfl := Option.some.inj h
      obtain ⟨room', hroom', hfree'', rfl⟩ := insertEvent_spec hpersona
      rw [AList.lookup_insert] at hroom'
      cases hroom'
      have hlength : turnLength c.toGenerationCommand = 3 := if_neg (by simp [hslug])
      refine ⟨?_, ?_, hstate, ⟨room, nextAfter (c.expectedNextEventSequence + 2)
        (nextAfter (c.expectedNextEventSequence + 1)
          (nextAfter c.expectedNextEventSequence room.nextEventSequence)), hroom, ?_, ?_⟩, rfl⟩
      · simp only [appendTurn, hslug]
      · intro i hi
        rw [hlength] at hi
        obtain rfl | rfl | rfl : i = 0 ∨ i = 1 ∨ i = 2 := by omega
        · exact hfree
        · exact hfree'
        · rwa [AList.lookup_insert_ne (by simp), AList.lookup_insert_ne (by simp)] at hfree''
      · simp only [advance_eq, AList.insert_insert]
      · intro hnext
        simp [hlength, hnext, nextAfter]

/-! ## Updates of generation commands -/

section Updates

variable {commandId : String} {old new : CommandRow}

/-- An update that is allowed writes the row, and commits the turn if it completes the
command. -/
theorem updateCommand_spec (h : updateCommand commandId old new db = some db') :
    UpdateAllowed db commandId old new ∧
      (¬ Completes old new ∧ db' = { db with commands := db.commands.insert commandId new } ∨
        Completes old new ∧
          TurnCommitted new { db with commands := db.commands.insert commandId new } db') := by
  unfold updateCommand at h
  split at h
  · next hallowed =>
      refine ⟨hallowed, ?_⟩
      split at h
      · next hcompletes => exact .inr ⟨hcompletes, commitTurn_spec h⟩
      · next hcompletes =>
          cases h
          exact .inl ⟨hcompletes, rfl⟩
  · cases h

theorem updateCommand_commands (h : updateCommand commandId old new db = some db') :
    db'.commands = db.commands.insert commandId new := by
  obtain ⟨-, ⟨-, rfl⟩ | ⟨-, hturn⟩⟩ := updateCommand_spec h
  · rfl
  · rw [hturn.frame]

/-- What one update asks of a row, apart from the other tables. -/
structure RowAllowed (old new : CommandRow) : Prop where
  immutable : new.toGenerationCommand = old.toGenerationCommand
  transition : ValidTransition old new
  attempt : Completes old new → new.attemptEpoch = old.attemptEpoch
  checked : new.Checked

theorem UpdateAllowed.row (h : UpdateAllowed db commandId old new) : RowAllowed old new :=
  ⟨h.immutable, h.transition, h.attempt, h.checked⟩

variable {set : CommandRow → CommandRow} {condition : String → CommandRow → Bool}

/-- Updating the rows of a list rewrites these rows, and each of them was allowed. -/
theorem updateCommandList_lookup {rows : List ((_ : String) × CommandRow)}
    (hnodup : (rows.map Sigma.fst).Nodup)
    (hrows : ∀ e ∈ rows, db.commands.lookup e.1 = some e.2)
    (h : updateCommandList set rows db = some db') :
    (∀ id, db'.commands.lookup id =
      if id ∈ rows.map Sigma.fst then (db.commands.lookup id).map set
      else db.commands.lookup id) ∧
    ∀ e ∈ rows, RowAllowed e.2 (set e.2) := by
  induction rows generalizing db with
  | nil =>
      cases h
      simp
  | cons e rows ih =>
      obtain ⟨id₀, row⟩ := e
      obtain ⟨mid, hmid, h⟩ := Option.bind_eq_some_iff.mp h
      rw [List.map_cons, List.nodup_cons] at hnodup
      have hcommands := updateCommand_commands hmid
      have hrows' : ∀ e ∈ rows, mid.commands.lookup e.1 = some e.2 := by
        intro e he
        have hne : e.1 ≠ id₀ := by
          rintro rfl
          exact hnodup.1 (List.mem_map.mpr ⟨e, he, rfl⟩)
        rw [hcommands, AList.lookup_insert_ne hne]
        exact hrows e (List.mem_cons_of_mem _ he)
      obtain ⟨hlookup, hallowed⟩ := ih hnodup.2 hrows' h
      refine ⟨fun id => ?_, ?_⟩
      · rw [hlookup id, hcommands]
        by_cases hid : id = id₀
        · subst hid
          rw [if_neg hnodup.1, AList.lookup_insert,
            if_pos (List.mem_map_of_mem List.mem_cons_self), hrows _ List.mem_cons_self]
          rfl
        · simp only [List.map_cons, List.mem_cons, hid, false_or, AList.lookup_insert_ne hid]
      · intro e he
        obtain rfl | he := List.mem_cons.mp he
        · exact (updateCommand_spec hmid).1.row
        · exact hallowed e he

theorem nodup_keys_filter (p : ((_ : String) × CommandRow) → Bool) :
    ((db.commands.entries.filter p).map Sigma.fst).Nodup :=
  db.commands.nodupKeys.sublist List.filter_sublist

/-- **An update rewrites exactly the rows that meet its condition**, and each of these
changes was allowed. -/
theorem updateCommands_lookup (h : updateCommands condition set db = some (db', n)) :
    (∀ id, db'.commands.lookup id =
      (db.commands.lookup id).map fun row => if condition id row then set row else row) ∧
    ∀ id row, db.commands.lookup id = some row → condition id row → RowAllowed row (set row) := by
  obtain ⟨db₁, hlist, heq⟩ := Option.map_eq_some_iff.mp h
  obtain ⟨rfl, -⟩ := Prod.mk.inj heq
  have hrows : ∀ e ∈ db.commands.entries.filter (fun e => condition e.1 e.2),
      db.commands.lookup e.1 = some e.2 := fun e he =>
    KeyedTable.mem_entries_iff.mp (List.mem_of_mem_filter he)
  obtain ⟨hlookup, hallowed⟩ := updateCommandList_lookup (nodup_keys_filter _) hrows hlist
  refine ⟨fun id => ?_, fun id row hrow hcond => ?_⟩
  · rw [hlookup id]
    cases hrow : db.commands.lookup id with
    | none => simp
    | some row =>
        have hmem : id ∈ (db.commands.entries.filter fun e => condition e.1 e.2).map Sigma.fst ↔
            condition id row := by
          rw [List.mem_map]
          constructor
          · rintro ⟨⟨id', row'⟩, he, rfl⟩
            obtain ⟨he, hcond⟩ := List.mem_filter.mp he
            rw [KeyedTable.mem_entries_iff, hrow] at he
            cases he
            exact hcond
          · intro hcond
            exact ⟨⟨id, row⟩, List.mem_filter.mpr ⟨KeyedTable.mem_entries_iff.mpr hrow, hcond⟩, rfl⟩
        simp only [hmem, Option.map_some]
        split <;> rfl
  · exact hallowed ⟨id, row⟩
      (List.mem_filter.mpr ⟨KeyedTable.mem_entries_iff.mpr hrow, hcond⟩)

/-- An update that completes no command changes nothing but the commands. -/
theorem updateCommands_frame (hquiet : ∀ row, ¬ Completes row (set row))
    (h : updateCommands condition set db = some (db', n)) :
    db' = { db with commands := db'.commands } := by
  obtain ⟨db₁, hlist, heq⟩ := Option.map_eq_some_iff.mp h
  obtain ⟨rfl, -⟩ := Prod.mk.inj heq
  clear h heq
  generalize db.commands.entries.filter (fun e => condition e.1 e.2) = rows at hlist
  induction rows generalizing db with
  | nil =>
      cases hlist
      rfl
  | cons e rows ih =>
      obtain ⟨mid, hmid, hlist⟩ := Option.bind_eq_some_iff.mp hlist
      obtain ⟨-, ⟨-, rfl⟩ | ⟨hcompletes, -⟩⟩ := updateCommand_spec hmid
      · have hrest := ih hlist
        exact hrest
      · exact absurd hcompletes (hquiet _)

/-- An update whose condition names one command changes no row or updates that one. -/
theorem updateCommands_unique {id₀ : String}
    (hunique : ∀ id row, condition id row → id = id₀)
    (h : updateCommands condition set db = some (db', n)) :
    (n = 0 ∧ db' = db) ∨
    ∃ row, n = 1 ∧ db.commands.lookup id₀ = some row ∧ condition id₀ row ∧
      updateCommand id₀ row (set row) db = some db' := by
  obtain ⟨db₁, hlist, heq⟩ := Option.map_eq_some_iff.mp h
  obtain ⟨rfl, rfl⟩ := Prod.mk.inj heq
  have hids : ∀ e ∈ db.commands.entries.filter (fun e => condition e.1 e.2), e.1 = id₀ :=
    fun e he => hunique e.1 e.2 (List.mem_filter.mp he).2
  have hnodup := @nodup_keys_filter db fun e => condition e.1 e.2
  have hmem : ∀ e ∈ db.commands.entries.filter (fun e => condition e.1 e.2),
      db.commands.lookup e.1 = some e.2 ∧ condition e.1 e.2 := fun e he =>
    ⟨KeyedTable.mem_entries_iff.mp (List.mem_of_mem_filter he), (List.mem_filter.mp he).2⟩
  clear h heq
  generalize db.commands.entries.filter (fun e => condition e.1 e.2) = rows at *
  match rows with
  | [] =>
      cases hlist
      exact .inl ⟨rfl, rfl⟩
  | [⟨id, row⟩] =>
      obtain rfl : id = id₀ := hids _ List.mem_cons_self
      obtain ⟨mid, hmid, hlist⟩ := Option.bind_eq_some_iff.mp hlist
      cases hlist
      obtain ⟨hrow, hcond⟩ := hmem _ List.mem_cons_self
      exact .inr ⟨row, rfl, hrow, hcond, hmid⟩
  | e₁ :: e₂ :: rows =>
      have h₁ := hids e₁ (by simp)
      have h₂ := hids e₂ (by simp)
      simp [h₁, h₂] at hnodup

end Updates

end GreenRoom.Iphone
