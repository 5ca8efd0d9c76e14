import GreenRoom.Iphone.CommandUpdates
import GreenRoom.Lib.TransitionSystem

/-!
# The writes of the iPhone database

Whatever is written to the database is one of the templates, the transaction that
creates a room, or an update of the native side; the database is the transition
system of these writes.  A statement that fails, and a transaction that is rolled
back, leave no trace, so that they are no steps.

## Main definitions

* `NewRoom.statements` — the transaction of `createLocalRoom`.
* `Write`, `storeSystem` — the writes, and the database as a transition system.
* `Apart` — a write that concerns neither commands nor the selected provider.

## Main results

* `Statement.exec_apart`, `NewRoom.create_apart`
* `KeepsRooms.whole` — every room keeps its director's state.
-/

namespace GreenRoom.Iphone

/-- Execute statements one after the other, adding up the changes. -/
def execAll : List Statement → Store → Executed
  | [], db => some (db, 0)
  | s :: statements, db => do
    let (db, n) ← s.exec db
    let (db, m) ← execAll statements db
    some (db, n + m)

/-- What `createLocalRoom` is given. -/
structure NewRoom where
  roomId : String
  title : String
  humanId : String
  inferenceMode : InferenceMode
  /-- The slug and the name of each persona, in the order of the cast. -/
  personas : List (String × String)

/-- The statements of `createLocalRoom`. -/
def NewRoom.statements (r : NewRoom) : List Statement :=
  .createRoom r.roomId r.title r.inferenceMode ::
    .createHuman r.humanId r.roomId "You" ::
      (r.personas.mapIdx fun i p => .createPersona p.1 r.roomId p.2 (i + 1) p.1) ++
        [.createDirectorState r.roomId, .selectRoom r.roomId]

/-- The room a template creates. -/
def Statement.createdRoom : Statement → Option String
  | .createRoom id .. => some id
  | _ => none

/-- A write to the database that takes effect. -/
inductive Write
  | statement (s : Statement)
  | createLocalRoom (room : NewRoom)
  | saveProviderSelectionAndConsent (selection : ProviderSelection)
      (providerDefinitionVersion disclosureVersion : ℕ)
  | interruptInFlightGenerationCommands
  | interruptAttempt (requestId : String) (attemptEpoch : ℕ) (failureCode : String)
  | failGenerationCommandNotStarted (id : CommandIdentity) (priorAttemptEpoch : ℕ)
  | markCredentialReady (id : CredentialIdentity)
  | markCredentialMissing (id : CredentialIdentity)
  | markCredentialUnavailable (id : CredentialIdentity)

namespace Write

/-- The tables after a write. -/
def exec : Write → Store → Executed
  | .statement s, db => s.exec db
  | .createLocalRoom room, db => execAll room.statements db
  | .saveProviderSelectionAndConsent selection definition disclosure, db =>
    Iphone.saveProviderSelectionAndConsent selection definition disclosure db
  | .interruptInFlightGenerationCommands, db => Iphone.interruptInFlightGenerationCommands db
  | .interruptAttempt requestId attempt code, db =>
    Iphone.interruptAttempt requestId attempt code db
  | .failGenerationCommandNotStarted id prior, db =>
    Iphone.failGenerationCommandNotStarted id prior db
  | .markCredentialReady id, db => changing (Iphone.markCredentialReady id db)
  | .markCredentialMissing id, db => changing (Iphone.markCredentialMissing id db)
  | .markCredentialUnavailable id, db => changing (Iphone.markCredentialUnavailable id db)

/-- Rooms are created by `createLocalRoom` only. -/
def Permitted : Write → Prop
  | .statement s => s.createdRoom = none
  | _ => True

end Write

/-- Every room has its director's state. -/
def Store.Whole (db : Store) : Prop :=
  ∀ id, db.directorState.lookup id = none → db.rooms.lookup id = none

/-- The database under any order of writes, from any tables without a command and
without a consent. -/
def storeSystem : TransitionSystem Store Write where
  init db := db.commands = ∅ ∧ db.consent = none ∧ db.Whole
  step db w db' := w.Permitted ∧ ∃ n, w.exec db = some (db', n)

/-! ## Writes that concern something else -/

variable {db db' : Store} {n : ℕ}

/-- No room but `new` appears and no director's state goes. -/
structure KeepsRooms (new : Option String) (db db' : Store) : Prop where
  rooms : ∀ id, some id ≠ new → db.rooms.lookup id = none → db'.rooms.lookup id = none
  directorState : ∀ id, db'.directorState.lookup id = none → db.directorState.lookup id = none

theorem KeepsRooms.whole (h : KeepsRooms none db db') (hw : db.Whole) : db'.Whole := fun id hid =>
  h.rooms id (Option.some_ne_none id) (hw id (h.directorState id hid))

theorem KeepsRooms.of_eq {new : Option String} (hrooms : db'.rooms = db.rooms)
    (hstate : db'.directorState = db.directorState) : KeepsRooms new db db' where
  rooms id _ h := by rwa [hrooms]
  directorState id h := by rwa [hstate] at h

/-- The selected provider and the consent to it are left alone. -/
structure KeepsProvider (db db' : Store) : Prop where
  selection : db'.selection = db.selection
  consent : db'.consent = db.consent

/-- A write that concerns neither the commands nor the selected provider. -/
structure Apart (new : Option String) (db db' : Store) : Prop extends
    KeepsProvider db db', KeepsRooms new db db' where
  commands : db'.commands = db.commands

theorem Apart.of_eq {new : Option String} (hselection : db'.selection = db.selection)
    (hconsent : db'.consent = db.consent) (hcommands : db'.commands = db.commands)
    (hrooms : db'.rooms = db.rooms) (hstate : db'.directorState = db.directorState) :
    Apart new db db' :=
  ⟨⟨hselection, hconsent⟩, .of_eq hrooms hstate, hcommands⟩

theorem lookup_insert_eq_none {κ ρ : Type} [DecidableEq κ] {t : KeyedTable κ ρ} {k k' : κ} {r : ρ} :
    (t.insert k r).lookup k' = none ↔ k' ≠ k ∧ t.lookup k' = none := by
  rw [KeyedTable.lookup_insert]
  split <;> simp_all

theorem insertEvent_keeps {roomId : String} {sequence : ℕ} {event : Json ℚ}
    (h : insertEvent roomId sequence event db = some db') :
    Apart none db db' := by
  obtain ⟨room, hroom, -, rfl⟩ := insertEvent_spec h
  refine ⟨⟨rfl, rfl⟩, ⟨fun id _ hid => ?_, fun id hid => hid⟩, rfl⟩
  refine lookup_insert_eq_none.mpr ⟨?_, hid⟩
  rintro rfl
  rw [hid] at hroom
  cases hroom

theorem appendEventIf_keeps {condition : RoomRow → Bool} {event : Json ℚ} {roomId : String}
    (h : appendEventIf condition event roomId db = some (db', n)) :
    Apart none db db' := by
  unfold appendEventIf at h
  split at h
  · cases h
    exact .of_eq rfl rfl rfl rfl rfl
  · split at h
    · exact insertEvent_keeps (changing_eq_some.mp h).1
    · cases h
      exact .of_eq rfl rfl rfl rfl rfl

theorem updateDirectorRow_keeps {roomId : String} {set : DirectorRow → Option DirectorRow}
    (h : updateDirectorRow roomId set db = some (db', n)) :
    Apart none db db' := by
  obtain ⟨-, rfl⟩ | ⟨row, new, -, -, rfl⟩ := updateDirectorRow_spec h
  · exact .of_eq rfl rfl rfl rfl rfl
  · exact ⟨⟨rfl, rfl⟩,
      ⟨fun id _ hid => hid, fun id hid => (lookup_insert_eq_none.mp hid).2⟩, rfl⟩

theorem insertParticipant_keeps {id roomId : String} {row : ParticipantRow}
    (h : insertParticipant id roomId row db = some (db', n)) :
    Apart none db db' := by
  unfold insertParticipant at h
  split at h
  · cases h
    exact .of_eq rfl rfl rfl rfl rfl
  · cases h

theorem updateCredential_eq {key : String × ℕ} {old new : CredentialRow}
    (h : updateCredential key old new db = some db') :
    ValidLifecycle old new ∧ db' = { db with credentials := db.credentials.insert key new } := by
  unfold updateCredential at h
  split at h
  · next hok =>
      cases h
      exact ⟨hok.1, rfl⟩
  · cases h

theorem tombstoneCredential_keeps {profileId providerId credentialRef mutationId : String}
    {profileRevision : ℕ}
    (h : tombstoneCredential profileId profileRevision providerId credentialRef mutationId db =
      some (db', n)) :
    Apart none db db' := by
  unfold tombstoneCredential at h
  dsimp only at h
  split at h
  · have hblock := (changing_eq_some.mp h).1
    unfold blockUse at hblock
    dsimp only at hblock
    split at hblock
    · cases hblock
      exact .of_eq rfl rfl rfl rfl rfl
    · obtain ⟨-, rfl⟩ := updateCredential_eq hblock
      exact .of_eq rfl rfl rfl rfl rfl
  · cases h

theorem markCredential_keeps {state : CredentialState} {condition : CredentialRow → Bool}
    {id : CredentialIdentity} (h : markCredential state condition id db = some db') :
    Apart none db db' := by
  unfold markCredential at h
  split at h
  · cases h
  · split at h
    · obtain ⟨-, rfl⟩ := updateCredential_eq h
      exact .of_eq rfl rfl rfl rfl rfl
    · cases h

/-- The template that writes the selected provider. -/
def Statement.savesSelection : Statement → Bool
  | .saveProviderSelection .. => true
  | _ => false

theorem saveProviderSelection_spec {selection : ProviderSelection} {profileId providerId : String}
    {profileRevision : ℕ}
    (h : saveProviderSelection selection profileId profileRevision providerId db = some (db', n)) :
    (n = 0 ∧ db' = db) ∨ (n = 1 ∧ db' = writeSelection selection db) := by
  unfold saveProviderSelection at h
  split at h
  · split at h
    · cases h
      exact .inr ⟨rfl, rfl⟩
    · cases h
  · cases h
    exact .inl ⟨rfl, rfl⟩

theorem saveProviderSelectionAndConsent_spec {selection : ProviderSelection}
    {definition disclosure : ℕ}
    (h : saveProviderSelectionAndConsent selection definition disclosure db = some (db', n)) :
    db' = { writeSelection selection db with
      consent := some
        { providerId := selection.providerId
          providerDefinitionVersion := definition
          model := selection.model
          disclosureVersion := disclosure } } := by
  unfold saveProviderSelectionAndConsent at h
  split at h
  · split at h
    · next hsave =>
        cases h
        obtain ⟨hn, -⟩ | ⟨-, rfl⟩ := saveProviderSelection_spec hsave
        · cases hn
        · rfl
    · cases h
  · cases h

/-- A template that is not about commands nor the selection leaves both alone. -/
theorem Statement.exec_apart {s : Statement} (hcommands : s.onCommands = false)
    (hselection : s.savesSelection = false) (h : s.exec db = some (db', n)) :
    Apart s.createdRoom db db' := by
  cases s with
  | prepareGenerationCommand | beginGenerationCommand | failGenerationCommand
  | interruptGenerationCommand | completeGenerationCommand | completeSilentGenerationCommand
  | abandonGenerationCommand => cases hcommands
  | saveProviderSelection => cases hselection
  | appendEvent | appendPersonaEvent | appendReviewDemoHumanEvent
  | appendReviewDemoDirectorEvent | appendReviewDemoPersonaEvent =>
      exact appendEventIf_keeps h
  | createHuman | createPersona => exact insertParticipant_keeps h
  | createRoom id title mode =>
      simp only [exec, Iphone.createRoom] at h
      split at h <;> cases h
      refine ⟨⟨rfl, rfl⟩, ⟨fun id' hne hid => ?_, fun id' hid => hid⟩, rfl⟩
      exact lookup_insert_eq_none.mpr ⟨fun heq => hne (congrArg some heq), hid⟩
  | createDirectorState room =>
      simp only [exec, Iphone.createDirectorState] at h
      split at h <;> cases h
      exact ⟨⟨rfl, rfl⟩,
        ⟨fun id _ hid => hid, fun id hid => (lookup_insert_eq_none.mp hid).2⟩, rfl⟩
  | saveLocalDraft room text =>
      simp only [exec, Iphone.saveLocalDraft] at h
      split at h <;> cases h
      exact .of_eq rfl rfl rfl rfl rfl
  | deleteLocalDraft room =>
      cases h
      exact .of_eq rfl rfl rfl rfl rfl
  | selectRoom room =>
      simp only [exec, Iphone.selectRoom] at h
      split at h <;> cases h
      exact .of_eq rfl rfl rfl rfl rfl
  | updateReviewDemoDirectorState state last speaker turns window room generation next =>
      simp only [exec, Iphone.updateReviewDemoDirectorState] at h
      split at h
      · exact updateDirectorRow_keeps h
      · cases h
        exact .of_eq rfl rfl rfl rfl rfl
  | updateDirectorState state last speaker₁ speaker₂ turns window room generation next =>
      simp only [exec, Iphone.updateDirectorState] at h
      split at h
      · exact updateDirectorRow_keeps h
      · cases h
        exact .of_eq rfl rfl rfl rfl rfl
  | createConnectionProfileRevision profile revision provider prior =>
      simp only [exec, Iphone.createConnectionProfileRevision] at h
      split at h <;> cases h
      exact .of_eq rfl rfl rfl rfl rfl
  | reserveCredential profile revision provider credentialRef prior mutationId =>
      simp only [exec, Iphone.reserveCredential] at h
      split at h <;> cases h
      exact .of_eq rfl rfl rfl rfl rfl
  | tombstoneCredential => exact tombstoneCredential_keeps h

/-! ## Creating a room -/

theorem execAll_cons {s : Statement} {statements : List Statement}
    (h : execAll (s :: statements) db = some (db', n)) :
    ∃ mid k m, s.exec db = some (mid, k) ∧ execAll statements mid = some (db', m) := by
  simp only [execAll, Option.bind_eq_bind, Option.bind_eq_some_iff] at h
  obtain ⟨⟨mid, k⟩, hs, ⟨last, m⟩, hrest, h⟩ := h
  cases h
  exact ⟨mid, k, m, hs, hrest⟩

/-- A transaction of templates that concern neither commands nor the selection. -/
theorem execAll_apart {statements : List Statement}
    (hapart : ∀ s ∈ statements, s.onCommands = false ∧ s.savesSelection = false)
    (h : execAll statements db = some (db', n)) :
    db'.commands = db.commands ∧ KeepsProvider db db' ∧
      (∀ id, (∀ s ∈ statements, s.createdRoom ≠ some id) →
        db.rooms.lookup id = none → db'.rooms.lookup id = none) ∧
      (∀ id, db'.directorState.lookup id = none → db.directorState.lookup id = none ∧
        Statement.createDirectorState id ∉ statements) := by
  induction statements generalizing db n with
  | nil =>
      cases h
      exact ⟨rfl, ⟨rfl, rfl⟩, fun id _ hid => hid, fun id hid => ⟨hid, List.not_mem_nil⟩⟩
  | cons s statements ih =>
      obtain ⟨mid, k, m, hs, hrest⟩ := execAll_cons h
      have hfirst := Statement.exec_apart (hapart s List.mem_cons_self).1
        (hapart s List.mem_cons_self).2 hs
      obtain ⟨hcommands, hprovider, hrooms, hstate⟩ :=
        ih (fun s hs => hapart s (List.mem_cons_of_mem _ hs)) hrest
      refine ⟨hcommands.trans hfirst.commands,
        ⟨hprovider.selection.trans hfirst.selection, hprovider.consent.trans hfirst.consent⟩,
        fun id hid hnone => ?_, fun id hid => ?_⟩
      · refine hrooms id (fun s hs => hid s (List.mem_cons_of_mem _ hs)) ?_
        exact hfirst.rooms id (hid s List.mem_cons_self).symm hnone
      · obtain ⟨hmid, hnot⟩ := hstate id hid
        refine ⟨hfirst.directorState id hmid, fun hmem => ?_⟩
        obtain rfl | hmem := List.mem_cons.mp hmem
        · simp only [Statement.exec, Iphone.createDirectorState] at hs
          split at hs <;> cases hs
          exact (lookup_insert_eq_none.mp hmid).1 rfl
        · exact hnot hmem

/-- The statement is one of those that create the room. -/
theorem NewRoom.mem_statements {r : NewRoom} {s : Statement} (h : s ∈ r.statements) :
    s.onCommands = false ∧ s.savesSelection = false ∧
      ∀ id, s.createdRoom = some id → id = r.roomId := by
  simp only [NewRoom.statements, List.cons_append, List.mem_cons, List.mem_append,
    List.mem_mapIdx, List.not_mem_nil, or_false] at h
  obtain rfl | rfl | ⟨i, hi, rfl⟩ | rfl | rfl := h <;>
    simp [Statement.onCommands, Statement.savesSelection, Statement.createdRoom, eq_comm]

/-- Creating a room leaves the commands and the selected provider alone, and gives the room
its director's state. -/
theorem NewRoom.create_apart {r : NewRoom} (h : execAll r.statements db = some (db', n)) :
    db'.commands = db.commands ∧ KeepsProvider db db' ∧ (db.Whole → db'.Whole) := by
  obtain ⟨hcommands, hprovider, hrooms, hstate⟩ :=
    execAll_apart (fun s hs => ⟨(mem_statements hs).1, (mem_statements hs).2.1⟩) h
  refine ⟨hcommands, hprovider, fun hw id hid => ?_⟩
  obtain ⟨hold, hnot⟩ := hstate id hid
  refine hrooms id (fun s hs hcreated => ?_) (hw id hold)
  obtain rfl := (mem_statements hs).2.2 id hcreated
  exact hnot (by simp [NewRoom.statements])

end GreenRoom.Iphone
