import GreenRoom.Db.RoomLibrary
import GreenRoom.Runtime.ProviderPins

/-!
# Room selection

The selected room and its revision are one row, which two commands write: the one that
selects a room and the one that opens a room with a new cast.  Each writes it only at the
revision it names, and counts it up.

## Main definitions

* `RoomSelected`, `CastReplaced` — what the two commands do when they take effect.
* `SelectionEffect` — what a step does to the selection.
* `Library` — the invariant: the selected room is there, and rooms keep to the limit.
* `Effective` — a command that takes effect.

## Main results

* `selectRoom_selects`, `replaceCurrentRoomCast_replaces`
* `Step.selectionEffect`, `library_inductive`, `run_revisionLe`
-/

namespace GreenRoom

open JsString GreenRoom.Core

variable {host : Host}

/-! ## The two commands -/

section

variable (host)

def SelectRoomCommand.digest (command : SelectRoomCommand) : JsString :=
  GreenRoom.digest host.sha256 (.obj [(ofString "kind", .str (ofString "selectRoom")),
    (ofString "requestId", .str command.requestId), (ofString "roomId", .str command.roomId),
    (ofString "expectedRevision", .num command.expectedRevision)])

def ReplaceCurrentRoomCastCommand.digest (command : ReplaceCurrentRoomCastCommand) : JsString :=
  GreenRoom.digest host.sha256 (.obj [(ofString "kind", .str (ofString "replaceCast")),
    (ofString "requestId", .str command.requestId),
    (ofString "expectedRevision", .num command.expectedRevision),
    (ofString "personaSlugs", .arr (command.personas.map fun persona => .str persona.slug))])

/-- The room has been selected, at the revision the command names. -/
structure RoomSelected (command : SelectRoomCommand) (result : RoomSelectionResult) (db db' : Db) :
    Prop where
  new : command.requestId ∉ db.roomSelectionCommands
  found : ∃ room, db.rooms.lookup command.roomId = some room ∧ room.archived = false
  selected : ∃ (roomId : RoomId) (n : ℕ), (n : ℤ) = command.expectedRevision ∧
    db.currentRoom = some ⟨roomId, n⟩ ∧ result.revision = n + 1 ∧
    db' = { db with
      currentRoom := some ⟨command.roomId, n + 1⟩
      roomSelectionCommands := db.roomSelectionCommands.insert command.requestId
        ⟨command.digest host, result⟩ }

/-- A room with a new cast has been opened and selected, at the revision the command names. -/
structure CastReplaced (command : ReplaceCurrentRoomCastCommand) (result : CastReplacementResult)
    (db db' : Db) : Prop where
  new : command.requestId ∉ db.castCommands
  selected : ∃ (roomId : RoomId) (n : ℕ), (n : ℤ) = command.expectedRevision ∧
    db.currentRoom = some ⟨roomId, n⟩ ∧
    db'.currentRoom = some ⟨result.sessionId, n + 1⟩ ∧ result.selectionRevision = n + 1
  fresh : result.sessionId ∉ db.rooms
  room : KeyedTable.count (fun row => !row.archived) db.rooms < roomLibraryLimit
  library : ∀ id, (db'.rooms.lookup id).map RoomRow.archived =
    if id = result.sessionId then some false else (db.rooms.lookup id).map RoomRow.archived
  castCommands : db'.castCommands = db.castCommands.insert command.requestId
    ⟨command.digest host, result⟩
  roomSelectionCommands : db'.roomSelectionCommands = db.roomSelectionCommands

end

theorem Cast.canonicalIdentifier_ok {value value' : JsString} {field : String} {maximum : ℕ}
    (h : canonicalIdentifier value field maximum = .ok value') : value' = value := by
  unfold canonicalIdentifier at h
  split at h
  · cases h
  · exact (Except.ok.inj h).symm

theorem Cast.canonicalRevision_ok {value : ℤ} {field : String} {n : ℕ}
    (h : canonicalRevision value field = .ok n) : (n : ℤ) = value := by
  unfold canonicalRevision at h
  split at h
  · next hrange => rw [← Except.ok.inj h, Int.toNat_of_nonneg hrange.1]
  · cases h

/-- The checks of a cast let it through as it is. -/
theorem requireCast_ok {personas personas' : List CastPersonaInput}
    (h : requireCast personas = .ok personas') : personas' = personas := by
  have hcheck : ∀ persona persona' : CastPersonaInput, (do
      return {
        slug := ← Cast.canonicalSlug persona.slug
        name := ← Cast.displayName persona.name } : Except JsError CastPersonaInput) =
        .ok persona' → persona' = persona := by
    intro persona persona' h
    obtain ⟨slug, hslug, h⟩ := Except.bind_eq_ok.mp h
    obtain ⟨name, hname, h⟩ := Except.bind_eq_ok.mp h
    obtain ⟨_, hslug, h'⟩ := Except.bind_eq_ok.mp hslug
    obtain rfl := Cast.canonicalIdentifier_ok hslug
    unfold Cast.displayName at hname
    split at hname
    · cases hname
    · split at h'
      · rw [← Except.ok.inj h, ← Except.ok.inj hname, ← Except.ok.inj h']
      · cases h'
  unfold requireCast at h
  split at h
  · cases h
  · obtain ⟨checked, hchecked, h⟩ := Except.bind_eq_ok.mp h
    split at h
    · rw [← Except.ok.inj h]
      exact Except.mapM_eq_self hcheck hchecked
    · cases h

/-- The compare-and-swap: it takes place at the expected revision only. -/
theorem Db.updateCurrentRoom_one {roomId : RoomId} {n : ℕ} {db db' : Db}
    (h : Db.updateCurrentRoom roomId n db = .ok (1, db')) :
    ∃ old, db.currentRoom = some ⟨old, n⟩ ∧
      db' = { db with currentRoom := some ⟨roomId, n + 1⟩ } := by
  unfold Db.updateCurrentRoom at h
  split at h
  · cases (Prod.mk.inj (Except.ok.inj h)).1
  · next row hrow =>
      split at h
      · next hn =>
          subst hn
          exact ⟨row.roomId, hrow, (Prod.mk.inj (Except.ok.inj h)).2.symm⟩
      · cases (Prod.mk.inj (Except.ok.inj h)).1

theorem readRoomSelection_returns {db db' : Db} {revision : ℕ} {room : CurrentRoomDto}
    (h : readRoomSelection.Returns db (revision, room) db') :
    ∃ roomId, db.currentRoom = some ⟨roomId, revision⟩ := by
  simp only [readRoomSelection, Program.returns_bind, Program.returns_query,
    Program.returns_orThrow, Program.returns_pure] at h
  obtain ⟨_, _, ⟨rfl, rfl⟩, row, _, ⟨hrow, rfl⟩, dto, _, -, heq, -⟩ := h
  obtain ⟨rfl, -⟩ := Prod.mk.inj heq
  exact ⟨row.roomId, (Option.filter_eq_some_iff.mp hrow).1⟩

/-- Selecting a room answers again, or selects it. -/
theorem selectRoom_selects {command : SelectRoomCommand} {db db' : Db}
    {result : RoomSelectionResult} (h : (selectRoom host.sha256 command).Returns db result db') :
    (db' = db ∧ db.roomSelectionCommands.lookup command.requestId =
        some ⟨command.digest host, result⟩) ∨
      RoomSelected host command result db db' := by
  simp only [selectRoom, Program.returns_bind, Program.returns_ofExcept,
    Program.returns_query] at h
  obtain ⟨_, _, ⟨hrequestId, rfl⟩, _, _, ⟨hroomId, rfl⟩, n, _, ⟨hn, rfl⟩, prior, db, ⟨hprior, rfl⟩,
    h⟩ := h
  obtain rfl := Cast.canonicalIdentifier_ok hrequestId
  obtain rfl := Cast.canonicalIdentifier_ok hroomId
  have hn := Cast.canonicalRevision_ok hn
  rw [hn] at h
  split at h
  · next row =>
      simp only [Program.returns_bind, Program.returns_require, Program.returns_pure] at h
      obtain ⟨_, _, ⟨hdigest, rfl⟩, rfl, rfl⟩ := h
      refine .inl ⟨rfl, hprior.symm.trans ?_⟩
      rw [SelectRoomCommand.digest, ← hdigest]
  · simp only [Program.returns_bind, Program.returns_query, Program.returns_require,
      Program.returns_statement, Program.returns_pure] at h
    obtain ⟨_, _, ⟨rfl, rfl⟩, _, _, ⟨hroom, rfl⟩, changes, db₁, hupdate, _, _, ⟨hchanges, rfl⟩,
      ⟨revision, room⟩, db₂, hread, _, db₃, hinsert, rfl, rfl⟩ := h
    subst hchanges
    obtain ⟨old, hold, rfl⟩ := Db.updateCurrentRoom_one hupdate
    obtain ⟨_, hrevision⟩ := readRoomSelection_returns hread
    obtain rfl := readRoomSelection_readOnly.returns hread
    obtain ⟨row, hrow⟩ := Option.isSome_iff_exists.mp hroom
    obtain ⟨hrow, harchived⟩ := Option.filter_eq_some_iff.mp hrow
    unfold Db.insertRoomSelectionCommand at hinsert
    split at hinsert
    · cases hinsert
    · next hnew =>
        refine .inr ⟨hnew, ⟨row, hrow, by simpa using harchived⟩, old, n, hn, hold, ?_, ?_⟩
        · exact (CurrentRoomRow.mk.inj (Option.some.inj hrevision)).2.symm
        · exact (Prod.mk.inj (Except.ok.inj hinsert)).2.symm

/-- What opening a room adds to the library before the room is selected. -/
theorem insertParticipant_selectionKept (id : ParticipantId) (row : ParticipantRow) :
    (.statement (Db.insertParticipant id row) : DbProgram Unit).Keeps Db.SelectionKept := by
  refine .statement fun db u db' h => ?_
  unfold Db.insertParticipant Db.uniqueFailed at h
  repeat' split at h
  all_goals cases h
  exact ⟨rfl, rfl, rfl, .of_rooms rfl⟩

theorem insertPersonas_selectionKept (uuids : ℕ → JsString) (sessionId : RoomId)
    (personas : List CastPersonaInput) (index : ℕ) :
    (insertPersonas uuids sessionId index personas).Keeps Db.SelectionKept := by
  induction personas generalizing index with
  | nil => exact (Program.ReadOnly.pure _).keeps .refl
  | cons persona personas ih =>
      refine (insertParticipant_selectionKept _ _).bind (fun _ _ _ => .trans) fun _ => ?_
      exact (ih _).bind (fun _ _ _ => .trans) fun _ => (Program.ReadOnly.pure _).keeps .refl

theorem insertDirectorState_selectionKept {roomId : RoomId} {db db' : Db} {u : Unit}
    (h : Db.insertDirectorState roomId db = .ok (u, db')) : db.SelectionKept db' := by
  obtain ⟨-, rfl⟩ := Db.insertDirectorState_ok h
  exact ⟨rfl, rfl, rfl, .of_rooms rfl⟩

/-- Replacing the cast answers again, or opens a room and selects it. -/
theorem replaceCurrentRoomCast_replaces {uuids : ℕ → JsString}
    {command : ReplaceCurrentRoomCastCommand} {db db' : Db} {result : CastReplacementResult}
    (h : (replaceCurrentRoomCast host.sha256 uuids command).Returns db result db') :
    (db' = db ∧ db.castCommands.lookup command.requestId = some ⟨command.digest host, result⟩) ∨
      CastReplaced host command result db db' := by
  simp only [replaceCurrentRoomCast, Program.returns_bind, Program.returns_ofExcept,
    Program.returns_query] at h
  obtain ⟨_, _, ⟨hrequestId, rfl⟩, n, _, ⟨hn, rfl⟩, personas, _, ⟨hpersonas, rfl⟩, prior, db,
    ⟨hprior, rfl⟩, h⟩ := h
  obtain rfl := Cast.canonicalIdentifier_ok hrequestId
  obtain rfl := requireCast_ok hpersonas
  have hn := Cast.canonicalRevision_ok hn
  rw [hn] at h
  split at h
  · next row =>
      simp only [Program.returns_bind, Program.returns_require, Program.returns_pure] at h
      obtain ⟨_, _, ⟨hdigest, rfl⟩, rfl, rfl⟩ := h
      refine .inl ⟨rfl, hprior.symm.trans ?_⟩
      rw [ReplaceCurrentRoomCastCommand.digest, ← hdigest]
  · simp only [openRoom, Program.returns_bind, Program.returns_query, Program.returns_require,
      Program.returns_statement, Program.returns_pure] at h
    obtain ⟨_, _, hread, _, _, ⟨-, rfl⟩, _, _, ⟨rfl, rfl⟩, _, db₀, ⟨hcount, rfl⟩, _, db₁,
      hroom, _, db₂, hhuman, cast, db₃, hcast, _, db₄, hstate, _, db₅, hevent, changes, db₆,
      hupdate, _, _, ⟨hchanges, rfl⟩, dto, db₇, hdto, _, db₈, hinsert, rfl, rfl⟩ := h
    subst hchanges
    obtain rfl := readRoomSelection_readOnly.returns hread
    obtain rfl := (roomDto_readOnly _).returns hdto
    obtain ⟨hfresh, rfl⟩ := Db.insertRoom_ok hroom
    -- Between the new room and the selection nothing else is selected or stored.
    have hkept :=
      (((insertParticipant_selectionKept _ _ _ _ _ (Program.returns_statement.mpr hhuman)).trans
      (insertPersonas_selectionKept _ _ _ _ _ _ _ hcast)).trans
      (insertDirectorState_selectionKept hstate)).trans
      (appendEventInTransaction_kept _ _ _ _ _ hevent).toSelectionKept
    obtain ⟨old, hold, rfl⟩ := Db.updateCurrentRoom_one hupdate
    unfold Db.insertCastCommand at hinsert
    split at hinsert
    · cases hinsert
    · next hnew =>
        obtain ⟨-, rfl⟩ := Prod.mk.inj (Except.ok.inj hinsert)
        have hcastCommands : db₅.castCommands = db₀.castCommands := hkept.castCommands
        refine .inr ⟨by rwa [← hcastCommands], ⟨old, n, hn, hkept.currentRoom ▸ hold, rfl, rfl⟩,
          hfresh, hcount, fun id => ?_, by rw [← hcastCommands]; rfl, hkept.roomSelectionCommands⟩
        refine (hkept.library id).trans ?_
        rw [KeyedTable.lookup_insert]
        split <;> rfl

namespace Runtime

section

variable (host)

/-- What a step does to the selection: nothing, unless it is one of the two commands and has
not been answered before. -/
inductive SelectionEffect (s : System) (l : Label) (t : System) : Prop
  | kept : s.db.SelectionKept t.db →
      (∀ command, l = .transaction (.selectRoom command) none →
        command.requestId ∈ s.db.roomSelectionCommands) →
      (∀ command, l = .transaction (.replaceCast command) none →
        command.requestId ∈ s.db.castCommands) →
      SelectionEffect s l t
  | selected (command : SelectRoomCommand) (result : RoomSelectionResult) :
      l = .transaction (.selectRoom command) none →
      RoomSelected host command result s.db t.db → SelectionEffect s l t
  | replaced (command : ReplaceCastCommand) (replacement : ReplaceCurrentRoomCastCommand)
      (result : CastReplacementResult) :
      l = .transaction (.replaceCast command) none →
      replacement.requestId = command.requestId →
      replacement.expectedRevision = command.selectionRevision →
      CastReplaced host replacement result s.db t.db → SelectionEffect s l t

end

theorem SelectionEffect.of_kept {s t : System} {l : Label} (h : s.db.SelectionKept t.db)
    (hselect : ∀ command, l ≠ .transaction (.selectRoom command) none)
    (hreplace : ∀ command, l ≠ .transaction (.replaceCast command) none) :
    SelectionEffect host s l t :=
  .kept h (fun command hl => absurd hl (hselect command)) fun command hl =>
    absurd hl (hreplace command)

theorem selectionKept_of_transact {α : Type} {action : DbProgram α} {faults : Faults JsError}
    {db db' : Db} {answer : Except JsError α} (h : transact faults action db = (answer, db'))
    (hkeeps : action.Keeps Db.Kept) : db.SelectionKept db' := by
  cases answer with
  | error error =>
      rw [transact_error h]
      exact .refl db
  | ok a => exact (hkeeps _ _ _ (returns_of_transact h)).toSelectionKept

theorem requireReplacement_ok {options : ServiceOptions} {command : ReplaceCastCommand}
    {replacement : ReplaceCurrentRoomCastCommand}
    (h : requireReplacement options command = .ok replacement) :
    replacement.requestId = command.requestId ∧
      replacement.expectedRevision = command.selectionRevision := by
  obtain ⟨requestId, hrequestId, h⟩ := Except.bind_eq_ok.mp h
  obtain ⟨_, -, h⟩ := Except.bind_eq_ok.mp h
  split at h
  · cases h
  · obtain ⟨personas, -, h⟩ := Except.bind_eq_ok.mp h
    obtain rfl := Except.ok.inj h
    refine ⟨?_, rfl⟩
    unfold canonicalIdentifier at hrequestId
    split at hrequestId
    · cases hrequestId
    · exact (Except.ok.inj hrequestId).symm

theorem Step.selectionEffect {s t : System} {l : Label} (h : Step host s l t) :
    SelectionEffect host s l t := by
  cases h with
  | prepare token e service faults clock answer db' _ _ _ _ ht =>
      obtain ⟨grants, granted, hgrant⟩ :=
        System.grantIfClaimed_frame e.key token answer (s.commit (some e.key) db')
      rw [hgrant]
      exact .of_kept (selectionKept_of_transact ht (prepareMessage_kept _ _ _ _ _))
        (by rintro _ ⟨⟩) (by rintro _ ⟨⟩)
  | pin token e service pending faults answer db' _ _ _ ht =>
      refine .of_kept ?_ (by rintro _ ⟨⟩) (by rintro _ ⟨⟩)
      cases answer with
      | error error =>
          rw [show (System.setExecution _ _ _).db = s.db from transact_error ht]
          exact .refl _
      | ok answer =>
          cases @pinProviderDecision_pins _ _ e.key _ _ _ _ (returns_of_transact ht) with
          | again _ _ hdb => exact hdb ▸ .refl _
          | unbound _ _ _ _ hdb => exact hdb ▸ .refl _
          | pinned _ _ _ _ _ _ _ _ hselection _ => exact hselection
  | renew token e service faults clock answer db' _ _ _ _ _ _ ht =>
      exact .of_kept (selectionKept_of_transact ht (renewClaim_kept _ _ _ _ _)) (by rintro _ ⟨⟩)
        (by rintro _ ⟨⟩)
  | discard token e pending error faults answer db' _ _ ht =>
      exact .of_kept (selectionKept_of_transact ht (releaseClaim_kept _ _ _)) (by rintro _ ⟨⟩)
        (by rintro _ ⟨⟩)
  | release token e pending error faults answer db' _ _ ht =>
      exact .of_kept (selectionKept_of_transact ht (releaseClaim_kept _ _ _)) (by rintro _ ⟨⟩)
        (by rintro _ ⟨⟩)
  | closeRelease token e service faults answer db' _ _ _ _ ht =>
      exact .of_kept (selectionKept_of_transact ht (releaseClaim_kept _ _ _)) (by rintro _ ⟨⟩)
        (by rintro _ ⟨⟩)
  | complete token e service pending generated work faults clock answer db' he _ _ hphase ht =>
      refine .of_kept ?_ (by rintro _ ⟨⟩) (by rintro _ ⟨⟩)
      cases answer with
      | error error =>
          rw [show (System.setExecution _ _ _).db = s.db from transact_error ht]
          exact .refl _
      | ok answer =>
          rcases @completeMessage_outcome _ e.key _ _ _ _ _ _ _ (returns_of_transact ht) with
            rfl | ⟨sent, -, houtcome⟩
          · exact .refl _
          · exact houtcome.selection
  | roomControl id service kind command faults answer db' _ _ ht =>
      exact .of_kept (selectionKept_of_transact ht (roomControl_kept _ _ _)) (by rintro _ ⟨⟩)
        (by rintro _ ⟨⟩)
  | personaControl id service kind command faults answer db' _ _ ht =>
      exact .of_kept (selectionKept_of_transact ht (personaControl_kept _ _ _)) (by rintro _ ⟨⟩)
        (by rintro _ ⟨⟩)
  | replaceCast id service uuids command faults answer db' _ _ ht =>
      cases answer with
      | error error =>
          refine .of_kept ?_ (by rintro _ ⟨⟩) (by rintro _ ⟨⟩)
          rw [show (s.commit none db').db = s.db from transact_error ht]
          exact .refl _
      | ok result =>
          have hreturns := returns_of_transact ht
          simp only [Runtime.replaceCast, Program.returns_bind,
            Program.returns_ofExcept] at hreturns
          obtain ⟨replacement, _, ⟨hcheck, rfl⟩, h⟩ := hreturns
          obtain ⟨hrequestId, hrevision⟩ := requireReplacement_ok hcheck
          rcases replaceCurrentRoomCast_replaces h with ⟨rfl, hrow⟩ | hreplaced
          · refine .kept (.refl _) (by rintro _ ⟨⟩) ?_
            rintro _ ⟨⟩
            rw [← hrequestId]
            exact AList.lookup_isSome.mp (Option.isSome_of_mem hrow)
          · exact .replaced command replacement result rfl hrequestId hrevision hreplaced
  | selectRoom command faults answer db' ht =>
      cases answer with
      | error error =>
          refine .of_kept ?_ (by rintro _ ⟨⟩) (by rintro _ ⟨⟩)
          rw [show (s.commit none db').db = s.db from transact_error ht]
          exact .refl _
      | ok result =>
          rcases selectRoom_selects (returns_of_transact ht) with ⟨rfl, hrow⟩ | hselected
          · refine .kept (.refl _) ?_ (by rintro _ ⟨⟩)
            rintro _ ⟨⟩
            exact AList.lookup_isSome.mp (Option.isSome_of_mem hrow)
          · exact .selected command result rfl hselected
  | providers db' hchange =>
      refine .of_kept ?_ (by rintro _ ⟨⟩) (by rintro _ ⟨⟩)
      obtain ⟨providers, rfl⟩ := hchange.frame
      exact ⟨rfl, rfl, rfl, .of_rooms rfl⟩
  | _ => exact .of_kept (.refl _) (by rintro _ ⟨⟩) (by rintro _ ⟨⟩)

/-! ## The library -/

/-- The selected room is there, and the library keeps to its limit. -/
structure Library (db : Db) : Prop where
  selected : ∃ current row, db.currentRoom = some current ∧
    db.rooms.lookup current.roomId = some row ∧ row.archived = false
  limit : KeyedTable.count (fun row => !row.archived) db.rooms ≤ roomLibraryLimit

theorem Library.congr {db db' : Db} (h : Library db) (hlibrary : db.LibraryKept db')
    (hselected : ∃ current row, db'.currentRoom = some current ∧
      db.rooms.lookup current.roomId = some row ∧ row.archived = false) : Library db' := by
  constructor
  · obtain ⟨current, row, hcurrent, hrow, harchived⟩ := hselected
    have hmap := hlibrary current.roomId
    rw [hrow, Option.map_some, harchived] at hmap
    obtain ⟨row', hrow', harchived'⟩ := Option.map_eq_some_iff.mp hmap
    exact ⟨current, row', hcurrent, hrow', harchived'⟩
  · rw [KeyedTable.count_eq_of_lookup (p := Bool.not) hlibrary]
    exact h.limit

/-- One room more is not archived. -/
theorem count_of_opened {db db' : Db} {sessionId : RoomId} (hfresh : sessionId ∉ db.rooms)
    (h : ∀ id, (db'.rooms.lookup id).map RoomRow.archived =
      if id = sessionId then some false else (db.rooms.lookup id).map RoomRow.archived) :
    KeyedTable.count (fun row => !row.archived) db'.rooms =
      KeyedTable.count (fun row => !row.archived) db.rooms + 1 := by
  let opened : RoomRow := { title := [], status := .active }
  have hinsert : ∀ id, (db'.rooms.lookup id).map RoomRow.archived =
      ((db.rooms.insert sessionId opened).lookup id).map RoomRow.archived := by
    intro id
    rw [h, KeyedTable.lookup_insert]
    split <;> rfl
  rw [KeyedTable.count_eq_of_lookup (p := Bool.not) hinsert, KeyedTable.count_insert,
    KeyedTable.count_erase _ db.rooms sessionId, AList.lookup_eq_none.mpr hfresh]
  rfl

theorem SelectionEffect.library {s t : System} {l : Label} (h : SelectionEffect host s l t)
    (hs : Library s.db) : Library t.db := by
  cases h with
  | kept hkept _ _ =>
      refine hs.congr hkept.library ?_
      rw [hkept.currentRoom]
      exact hs.selected
  | selected command result _ hselected =>
      obtain ⟨roomId, n, -, -, -, hdb⟩ := hselected.selected
      obtain ⟨row, hrow, harchived⟩ := hselected.found
      refine hs.congr ?_ ⟨⟨command.roomId, n + 1⟩, row, by rw [hdb], hrow, harchived⟩
      rw [hdb]
      exact .of_rooms rfl
  | replaced command replacement result _ _ _ hreplaced =>
      obtain ⟨roomId, n, -, -, hcurrent, -⟩ := hreplaced.selected
      constructor
      · have hmap := hreplaced.library result.sessionId
        rw [if_pos rfl] at hmap
        obtain ⟨row, hrow, harchived⟩ := Option.map_eq_some_iff.mp hmap
        exact ⟨_, row, hcurrent, hrow, harchived⟩
      · rw [count_of_opened hreplaced.fresh hreplaced.library]
        exact hreplaced.room

/-- A database with a selected room, in which no selection has been answered yet. -/
structure Furnished (db : Db) : Prop where
  fresh : Fresh db
  library : Library db

theorem library_inductive :
    (roomSystem host Furnished).Inductive fun s => Library s.db where
  init _ hs := hs.1.library
  step _ _ _ h hstep := (Step.selectionEffect hstep).library h

/-! ## The revision -/

/-- A command that is successful and has not been answered before, at the revision it
carries. -/
def Effective (s : System) (l : Label) (revision : ℤ) : Prop :=
  (∃ command, l = .transaction (.selectRoom command) none ∧
    command.requestId ∉ s.db.roomSelectionCommands ∧ command.expectedRevision = revision) ∨
  ∃ command, l = .transaction (.replaceCast command) none ∧
    command.requestId ∉ s.db.castCommands ∧ command.selectionRevision = revision

/-- An effective command counts up the revision it carries, which is the current one. -/
theorem SelectionEffect.effective {s t : System} {l : Label} {revision : ℤ}
    (h : SelectionEffect host s l t) (heffective : Effective s l revision) :
    ∃ (roomId roomId' : RoomId) (n : ℕ), (n : ℤ) = revision ∧
      s.db.currentRoom = some ⟨roomId, n⟩ ∧ t.db.currentRoom = some ⟨roomId', n + 1⟩ := by
  cases h with
  | kept _ hselect hreplace =>
      rcases heffective with ⟨command, hl, hnew, -⟩ | ⟨command, hl, hnew, -⟩
      · exact absurd (hselect command hl) hnew
      · exact absurd (hreplace command hl) hnew
  | selected command result hl hselected =>
      obtain ⟨roomId, n, hn, hcurrent, -, hdb⟩ := hselected.selected
      refine ⟨roomId, command.roomId, n, ?_, hcurrent, by rw [hdb]⟩
      rcases heffective with ⟨command', hl', -, hrevision⟩ | ⟨command', hl', -, -⟩
      · rw [hl] at hl'
        cases hl'
        exact hn.trans hrevision
      · rw [hl] at hl'
        cases hl'
  | replaced command replacement result hl _ hexpected hreplaced =>
      obtain ⟨roomId, n, hn, hcurrent, hcurrent', -⟩ := hreplaced.selected
      refine ⟨roomId, result.sessionId, n, ?_, hcurrent, hcurrent'⟩
      rcases heffective with ⟨command', hl', -, -⟩ | ⟨command', hl', -, hrevision⟩
      · rw [hl] at hl'
        cases hl'
      · rw [hl] at hl'
        cases hl'
        exact (hn.trans hexpected).trans hrevision

/-- What is not effective leaves the selection alone. -/
theorem SelectionEffect.not_effective {s t : System} {l : Label} (h : SelectionEffect host s l t)
    (heffective : ∀ revision, ¬ Effective s l revision) : t.db.currentRoom = s.db.currentRoom := by
  cases h with
  | kept hkept _ _ => exact hkept.currentRoom
  | selected command result hl hselected =>
      exact absurd (.inl ⟨command, hl, hselected.new, rfl⟩) (heffective _)
  | replaced command replacement result hl hrequestId _ hreplaced =>
      exact absurd (.inr ⟨command, hl, hrequestId ▸ hreplaced.new, rfl⟩) (heffective _)

/-- The revision never goes down. -/
def RevisionLe (s t : System) : Prop :=
  ∀ current, s.db.currentRoom = some current → ∃ current', t.db.currentRoom = some current' ∧
    current.selectionRevision ≤ current'.selectionRevision

theorem SelectionEffect.revisionLe {s t : System} {l : Label} (h : SelectionEffect host s l t) :
    RevisionLe s t := by
  intro current hcurrent
  by_cases heffective : ∃ revision, Effective s l revision
  · obtain ⟨revision, heffective⟩ := heffective
    obtain ⟨roomId, roomId', n, -, hs, ht⟩ := h.effective heffective
    obtain rfl := Option.some.inj (hcurrent.symm.trans hs)
    exact ⟨_, ht, Nat.le_succ n⟩
  · rw [h.not_effective (not_exists.mp heffective)]
    exact ⟨current, hcurrent, le_rfl⟩

theorem run_revisionLe {fresh : Db → Prop} {s t : System} {ls : List Label}
    (h : (roomSystem host fresh).Run s ls t) : RevisionLe s t := by
  induction h with
  | nil s => exact fun current hcurrent => ⟨current, hcurrent, le_rfl⟩
  | cons hstep _ ih =>
      intro current hcurrent
      obtain ⟨current', hcurrent', hle⟩ := (Step.selectionEffect hstep).revisionLe current hcurrent
      obtain ⟨current'', hcurrent'', hle'⟩ := ih current' hcurrent'
      exact ⟨current'', hcurrent'', hle.trans hle'⟩

end Runtime

end GreenRoom
