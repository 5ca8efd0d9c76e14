import GreenRoom.Runtime.RoomEffects

/-!
# What the transactions leave alone

Most transactions of a service touch neither the provider tables nor the selection of
the room, keep every stored result, and pin no decision; those that do are few, and
each is looked at where it matters.

## Main definitions

* `Db.pinned` — the decision a command is pinned to.
* `Db.Kept` — what most transactions keep; `Db.PinsKept`, what those of the cast keep.

## Main results

* `prepareMessage_kept`, `renewClaim_kept`, `releaseClaim_kept`, `roomControl_kept`,
  `personaControl_kept`, `selectRoom_pinsKept`, `replaceCast_pinsKept`
-/

namespace GreenRoom

open JsString Providers

namespace Db

/-- The decision a pending command is pinned to. -/
def pinned (key : CommandKey) (db : Db) : Option DecisionSnapshot :=
  match db.stored key with
  | some (.pending message) => message.providerDecision
  | _ => none

/-- The provider tables are the same, results stay, and no decision is pinned. -/
structure PinsKept (db db' : Db) : Prop where
  providers : db'.providers = db.providers
  stored : ∀ key result, db.stored key = some result → db'.stored key = some result
  pinned : ∀ key snapshot, db'.pinned key = some snapshot → db.pinned key = some snapshot

/-- There are the same rooms, and the same ones are archived. -/
def LibraryKept (db db' : Db) : Prop :=
  ∀ id, (db'.rooms.lookup id).map RoomRow.archived = (db.rooms.lookup id).map RoomRow.archived

/-- The selected room, what has been answered about selections, and the library are the same. -/
structure SelectionKept (db db' : Db) : Prop where
  currentRoom : db'.currentRoom = db.currentRoom
  castCommands : db'.castCommands = db.castCommands
  roomSelectionCommands : db'.roomSelectionCommands = db.roomSelectionCommands
  library : db.LibraryKept db'

/-- What a transaction keeps that has to do with neither providers nor the selection. -/
structure Kept (db db' : Db) : Prop extends PinsKept db db', SelectionKept db db'

theorem PinsKept.trans (db₁ db₂ db₃ : Db) (h : db₁.PinsKept db₂) (h' : db₂.PinsKept db₃) :
    db₁.PinsKept db₃ where
  providers := h'.providers.trans h.providers
  stored key result hstored := h'.stored key result (h.stored key result hstored)
  pinned key snapshot hpinned := h.pinned key snapshot (h'.pinned key snapshot hpinned)

/-- A change of neither the commands nor the provider tables. -/
theorem PinsKept.of_eq {db db' : Db} (hcommands : db'.commands = db.commands)
    (hproviders : db'.providers = db.providers) : db.PinsKept db' where
  providers := hproviders
  stored key result h := by rwa [Db.stored, hcommands]
  pinned key snapshot h := by rwa [Db.pinned, Db.stored, hcommands] at h

theorem PinsKept.refl (db : Db) : db.PinsKept db := .of_eq rfl rfl

theorem LibraryKept.of_rooms {db db' : Db} (h : db'.rooms = db.rooms) : db.LibraryKept db' :=
  fun id => by rw [h]

theorem libraryKept_updateRoom {f : RoomRow → RoomRow} (hf : ∀ row, (f row).archived = row.archived)
    (roomId : RoomId) (db : Db) : db.LibraryKept (db.updateRoom roomId f) := by
  intro id
  rw [updateRoom, KeyedTable.lookup_modify, Option.map_map]
  congr 1
  funext row
  by_cases h : id = roomId <;> simp [h, hf]

theorem SelectionKept.refl (db : Db) : db.SelectionKept db := ⟨rfl, rfl, rfl, .of_rooms rfl⟩

theorem SelectionKept.trans {db₁ db₂ db₃ : Db} (h : db₁.SelectionKept db₂)
    (h' : db₂.SelectionKept db₃) : db₁.SelectionKept db₃ :=
  ⟨h'.currentRoom.trans h.currentRoom, h'.castCommands.trans h.castCommands,
    h'.roomSelectionCommands.trans h.roomSelectionCommands,
    fun id => (h'.library id).trans (h.library id)⟩

theorem Kept.refl (db : Db) : db.Kept db := ⟨.refl db, .refl db⟩

theorem Kept.trans (db₁ db₂ db₃ : Db) (h : db₁.Kept db₂) (h' : db₂.Kept db₃) : db₁.Kept db₃ :=
  ⟨.trans _ _ _ h.toPinsKept h'.toPinsKept, h.toSelectionKept.trans h'.toSelectionKept⟩

/-! ## Statements -/

theorem updateCommands_frame {condition : CommandKey → CommandRow → Bool}
    {f : CommandRow → CommandRow} {db db' : Db} {n : ℕ}
    (h : updateCommands condition f db = .ok (n, db')) :
    db' = { db with commands := db'.commands } := by
  unfold updateCommands at h
  split at h
  · rw [← (Prod.mk.inj (Except.ok.inj h)).2]
  · cases h

theorem updateCommands_selectionKept {condition : CommandKey → CommandRow → Bool}
    {f : CommandRow → CommandRow} {db db' : Db} {n : ℕ}
    (h : updateCommands condition f db = .ok (n, db')) : db.SelectionKept db' := by
  rw [updateCommands_frame h]
  exact ⟨rfl, rfl, rfl, .of_rooms rfl⟩

/-- An update that changes no result. -/
theorem updateCommands_kept {condition : CommandKey → CommandRow → Bool}
    {f : CommandRow → CommandRow} (hf : ∀ row, (f row).result = row.result) (db : Db) (n : ℕ)
    (db' : Db) (h : updateCommands condition f db = .ok (n, db')) : db.Kept db' := by
  have hstored : ∀ key, db'.stored key = db.stored key := by
    intro key
    rw [Db.stored, Db.stored, updateCommands_lookup h key, Option.map_map]
    congr 1
    funext row
    by_cases hc : condition key row <;> simp [hc, hf]
  have hframe := updateCommands_frame h
  refine ⟨⟨?_, fun key result hresult => ?_, fun key snapshot hpinned => ?_⟩, ?_⟩
  · rw [hframe]
  · rw [hstored, hresult]
  · rwa [Db.pinned, hstored] at hpinned
  · exact updateCommands_selectionKept h

/-- A new command that is pinned to nothing. -/
theorem insertCommand_kept {key : CommandKey} {row : CommandRow}
    (hrow : ∀ message, row.result = .pending message → message.providerDecision = none) (db : Db)
    (u : Unit) (db' : Db) (h : insertCommand key row db = .ok (u, db')) : db.Kept db' := by
  unfold insertCommand at h
  split at h
  · cases h
  · next hnew =>
      split at h
      · obtain ⟨-, rfl⟩ := Prod.mk.inj (Except.ok.inj h)
        refine ⟨⟨rfl, fun k result hresult => ?_, fun k snapshot hpinned => ?_⟩,
          rfl, rfl, rfl, .of_rooms rfl⟩
        · rw [Db.stored, KeyedTable.lookup_insert, if_neg]
          · exact hresult
          · rintro rfl
            rw [Db.stored, AList.lookup_eq_none.mpr hnew] at hresult
            cases hresult
        · rw [Db.pinned, Db.stored, KeyedTable.lookup_insert] at hpinned
          split at hpinned
          · next hpending =>
              split at hpending
              · rw [hrow _ (Option.some.inj hpending)] at hpinned
                cases hpinned
              · rw [Db.pinned, Db.stored, hpending]
                exact hpinned
          · cases hpinned
      · cases h

/-- An update that archives no room. -/
theorem updateRoom_kept (f : RoomRow → RoomRow) (hf : ∀ row, (f row).archived = row.archived)
    (roomId : RoomId) (db : Db) : db.Kept (db.updateRoom roomId f) :=
  ⟨.of_eq rfl rfl, rfl, rfl, rfl, libraryKept_updateRoom hf roomId db⟩

end Db

/-! ## Programs -/

section

variable {α β : Type}

theorem kept_bind {p : DbProgram α} {f : α → DbProgram β} (hp : p.Keeps Db.Kept)
    (hf : ∀ a, (f a).Keeps Db.Kept) : (p >>= f).Keeps Db.Kept := hp.bind .trans hf

theorem kept_pure (a : α) : (pure a : DbProgram α).Keeps Db.Kept :=
  (Program.ReadOnly.pure a).keeps .refl

theorem kept_throw (e : JsError) : (.throw e : DbProgram α).Keeps Db.Kept :=
  (Program.ReadOnly.throw e).keeps .refl

theorem kept_write {f : Db → Db} (h : ∀ db : Db, db.Kept (f db)) :
    (.write f : DbProgram Unit).Keeps Db.Kept := by
  refine .statement fun db u db' hok => ?_
  obtain ⟨-, rfl⟩ := Prod.mk.inj (Except.ok.inj hok)
  exact h db

theorem kept_query (read : Db → α) : (.query read : DbProgram α).Keeps Db.Kept :=
  (Program.ReadOnly.query read).keeps .refl

theorem kept_orThrow (o : Option α) (e : JsError) : (.orThrow o e : DbProgram α).Keeps Db.Kept :=
  (Program.ReadOnly.orThrow o e).keeps .refl

theorem kept_ofExcept (r : Except JsError α) : (.ofExcept r : DbProgram α).Keeps Db.Kept :=
  (Program.ReadOnly.ofExcept r).keeps .refl

theorem kept_require (condition : Prop) [Decidable condition] (e : JsError) :
    (.require condition e : DbProgram Unit).Keeps Db.Kept :=
  (Program.ReadOnly.require condition e).keeps .refl

end

theorem appendEventInTransaction_kept (roomId : RoomId) (event : RoomEvent) :
    (appendEventInTransaction roomId event).Keeps Db.Kept := by
  intro db sequence db' h
  obtain ⟨room, -, -, -, -, rfl⟩ := appendEventInTransaction_returns h
  refine ⟨.of_eq rfl rfl, rfl, rfl, rfl, fun id => ?_⟩
  rw [Db.lookup_rooms_appended, Option.map_map]
  congr 1
  funext row
  by_cases h : id = roomId <;> simp [h]

namespace Runtime

theorem currentTime_kept (clock : ℤ) : (currentTime clock).Keeps Db.Kept := by
  unfold currentTime
  split
  · exact kept_pure _
  · exact kept_throw _

theorem room_kept (roomId : RoomId) : (room roomId).Keeps Db.Kept :=
  kept_bind (kept_query _) fun _ => kept_orThrow _ _

theorem requireRoomSelection_kept (roomId : JsString) (selectionRevision : ℕ) :
    (requireRoomSelection roomId selectionRevision).Keeps Db.Kept := by
  intro db u db' h
  rw [requireRoomSelection_returns h]
  exact .refl db

/-! ## The upkeep of claims -/

section

variable (options : ServiceOptions) (roomId : RoomId) (requestId : RequestId)
  (claimOwner : JsString) (clock : ℤ)

theorem renewClaim_kept : (renewClaim options roomId requestId claimOwner clock).Keeps Db.Kept :=
  kept_bind (currentTime_kept clock) fun _ => .statement (Db.updateCommands_kept fun _ => rfl)

theorem releaseClaim_kept : (releaseClaim roomId requestId claimOwner).Keeps Db.Kept :=
  kept_bind (.statement (Db.updateCommands_kept fun _ => rfl)) fun _ => kept_pure _

theorem releaseRoomClaims_kept : (releaseRoomClaims roomId).Keeps Db.Kept :=
  kept_bind (.statement (Db.updateCommands_kept fun _ => rfl)) fun _ => kept_pure _

end

/-! ## Preparing -/

section

variable (options : ServiceOptions) (command : MessageCommand) (requestDigest claimOwner : JsString)

theorem prepareKnown_kept (now : ℕ) (prior : CommandRow) :
    (prepareKnown options command requestDigest claimOwner now prior).Keeps Db.Kept := by
  refine kept_bind (kept_require _ _) fun _ => ?_
  split
  · exact kept_pure _
  · split
    · exact kept_bind (.statement (Db.updateCommands_kept fun _ => rfl)) fun _ => kept_pure _
    · exact kept_pure _

theorem prepareNew_kept (now : ℕ) :
    (prepareNew options command requestDigest claimOwner now).Keeps Db.Kept := by
  refine kept_bind (room_kept _) fun room => kept_bind (kept_require _ _) fun _ => ?_
  refine kept_bind (kept_query _) fun _ => kept_bind (kept_orThrow _ _) fun state => ?_
  refine kept_bind (kept_query _) fun _ => kept_bind (kept_orThrow _ _) fun _ => ?_
  refine kept_bind (appendEventInTransaction_kept _ _) fun human => ?_
  refine kept_bind ((decide_readOnly _ _ _ _).keeps .refl) fun decision => ?_
  refine kept_bind (appendEventInTransaction_kept _ _) fun director => ?_
  refine kept_bind (kept_write fun db => ⟨.of_eq rfl rfl, rfl, rfl, rfl, .of_rooms rfl⟩) fun _ => ?_
  split
  · refine kept_bind (.statement (Db.insertCommand_kept ?_)) fun _ => kept_pure _
    rintro message ⟨⟩
  · refine kept_bind (.statement (Db.insertCommand_kept ?_)) fun _ => kept_pure _
    rintro message ⟨⟩
    rfl

theorem prepareMessage_kept (clock : ℤ) :
    (prepareMessage options command requestDigest claimOwner clock).Keeps Db.Kept := by
  refine kept_bind (requireRoomSelection_kept _ _) fun _ => kept_bind (currentTime_kept _) fun _ =>
    kept_bind (kept_query _) fun prior => ?_
  split
  · exact prepareKnown_kept _ _ _ _ _ _
  · exact prepareNew_kept _ _ _ _ _

end

/-! ## The operator's commands -/

theorem answerAgain_kept (prior : CommandRow) (requestDigest : JsString) :
    (answerAgain prior requestDigest).Keeps Db.Kept := by
  intro db answer db' h
  rw [(answerAgain_returns h).1]
  exact .refl db

theorem insertResult_kept (key : CommandKey) (requestDigest : JsString) (result : CommandResult) :
    (.statement (Db.insertCommand key { requestDigest, result := .complete result }) :
      DbProgram Unit).Keeps Db.Kept := by
  refine .statement (Db.insertCommand_kept ?_)
  rintro message ⟨⟩

theorem changeStatus_kept (roomId : RoomId) (status : RoomStatus) (fencesGeneration : Bool) :
    (changeStatus roomId status fencesGeneration).Keeps Db.Kept := by
  refine kept_bind (kept_write fun db => ?_) fun _ => .onlyIf .refl (releaseRoomClaims_kept _)
  exact Db.updateRoom_kept _ (by exact fun _ => rfl) roomId db

theorem roomControlNew_kept (kind : RoomControl) (roomId : RoomId) (requestId : RequestId)
    (requestDigest : JsString) :
    (roomControlNew kind roomId requestId requestDigest).Keeps Db.Kept := by
  refine kept_bind (room_kept _) fun _ => kept_bind (kept_require _ _) fun _ => ?_
  refine kept_bind (.onlyIf .refl (changeStatus_kept _ _ _)) fun _ => ?_
  exact kept_bind (room_kept _) fun _ => kept_bind (insertResult_kept _ _ _) fun _ => kept_pure _

theorem roomControl_kept (host : Host) (kind : RoomControl) (command : RoomCommand) :
    (roomControl host kind command).Keeps Db.Kept := by
  refine kept_bind (kept_ofExcept _) fun _ => kept_bind (kept_ofExcept _) fun _ =>
    kept_bind (kept_ofExcept _) fun _ => kept_bind (requireRoomSelection_kept _ _) fun _ =>
    kept_bind (kept_query _) fun prior => ?_
  split
  · exact answerAgain_kept _ _
  · exact roomControlNew_kept _ _ _ _

theorem changeMuted_kept (roomId : RoomId) (personaId : ParticipantId) (muted : Bool) :
    (changeMuted roomId personaId muted).Keeps Db.Kept := by
  refine kept_bind (kept_write fun db => ?_) fun _ =>
    .onlyIf .refl (kept_bind (kept_write fun db => ?_) fun _ => releaseRoomClaims_kept _)
  · exact ⟨.of_eq rfl rfl, rfl, rfl, rfl, .of_rooms rfl⟩
  · exact Db.updateRoom_kept _ (by exact fun _ => rfl) roomId db

theorem personaControlNew_kept (kind : PersonaControl) (roomId : RoomId) (requestId : RequestId)
    (personaId : ParticipantId) (requestDigest : JsString) :
    (personaControlNew kind roomId requestId personaId requestDigest).Keeps Db.Kept := by
  refine kept_bind (room_kept _) fun _ => kept_bind (kept_require _ _) fun _ => ?_
  refine kept_bind (kept_query _) fun _ => kept_bind (kept_orThrow _ _) fun _ => ?_
  refine kept_bind (.onlyIf .refl (changeMuted_kept _ _ _)) fun _ => ?_
  exact kept_bind (room_kept _) fun _ => kept_bind (insertResult_kept _ _ _) fun _ => kept_pure _

theorem personaControl_kept (host : Host) (kind : PersonaControl)
    (command : PersonaControlCommand) : (personaControl host kind command).Keeps Db.Kept := by
  refine kept_bind (kept_ofExcept _) fun _ => kept_bind (kept_ofExcept _) fun _ =>
    kept_bind (kept_ofExcept _) fun _ => kept_bind (kept_ofExcept _) fun _ =>
    kept_bind (requireRoomSelection_kept _ _) fun _ => kept_bind (kept_query _) fun prior => ?_
  split
  · exact answerAgain_kept _ _
  · exact personaControlNew_kept _ _ _ _ _

/-! ## The cast and the selection -/

section

variable {α β : Type}

private theorem pinsKept_bind {p : DbProgram α} {f : α → DbProgram β} (hp : p.Keeps Db.PinsKept)
    (hf : ∀ a, (f a).Keeps Db.PinsKept) : (p >>= f).Keeps Db.PinsKept := hp.bind .trans hf

private theorem pinsKept_of_readOnly {p : DbProgram α} (hp : p.ReadOnly) : p.Keeps Db.PinsKept :=
  hp.keeps .refl

/-- A statement on a table of its own. -/
private theorem pinsKept_statement {exec : Db → Except JsError (α × Db)}
    (h : ∀ db a db', exec db = .ok (a, db') →
      db'.commands = db.commands ∧ db'.providers = db.providers) :
    (.statement exec : DbProgram α).Keeps Db.PinsKept :=
  .statement fun db a db' h' => .of_eq (h db a db' h').1 (h db a db' h').2

end

private theorem updateCurrentRoom_pinsKept (roomId : RoomId) (revision : ℕ) :
    (.statement (Db.updateCurrentRoom roomId revision) : DbProgram ℕ).Keeps Db.PinsKept := by
  refine pinsKept_statement fun db n db' h => ?_
  unfold Db.updateCurrentRoom at h
  repeat' split at h
  all_goals
    obtain ⟨-, rfl⟩ := Prod.mk.inj (Except.ok.inj h)
    exact ⟨rfl, rfl⟩

private theorem insertParticipant_pinsKept (id : ParticipantId) (row : ParticipantRow) :
    (.statement (Db.insertParticipant id row) : DbProgram Unit).Keeps Db.PinsKept := by
  refine pinsKept_statement fun db u db' h => ?_
  unfold Db.insertParticipant Db.uniqueFailed at h
  repeat' split at h
  all_goals cases h
  exact ⟨rfl, rfl⟩

theorem selectRoom_pinsKept (host : Host) (command : SelectRoomCommand) :
    (selectRoom host.sha256 command).Keeps Db.PinsKept := by
  refine pinsKept_bind (pinsKept_of_readOnly (.ofExcept _)) fun _ =>
    pinsKept_bind (pinsKept_of_readOnly (.ofExcept _)) fun _ =>
    pinsKept_bind (pinsKept_of_readOnly (.ofExcept _)) fun _ =>
    pinsKept_bind (pinsKept_of_readOnly (.query _)) fun prior => ?_
  split
  · exact pinsKept_of_readOnly (.bind (.require _ _) fun _ => .pure _)
  · refine pinsKept_bind (pinsKept_of_readOnly (.query _)) fun _ =>
      pinsKept_bind (pinsKept_of_readOnly (.require _ _)) fun _ =>
      pinsKept_bind (updateCurrentRoom_pinsKept _ _) fun _ =>
      pinsKept_bind (pinsKept_of_readOnly (.require _ _)) fun _ =>
      pinsKept_bind (pinsKept_of_readOnly readRoomSelection_readOnly) fun _ =>
      pinsKept_bind (pinsKept_statement fun db u db' h => ?_) fun _ =>
      pinsKept_of_readOnly (.pure _)
    unfold Db.insertRoomSelectionCommand Db.uniqueFailed at h
    split at h <;> cases h
    exact ⟨rfl, rfl⟩

theorem insertPersonas_pinsKept (uuids : ℕ → JsString) (sessionId : RoomId)
    (personas : List CastPersonaInput) (index : ℕ) :
    (insertPersonas uuids sessionId index personas).Keeps Db.PinsKept := by
  induction personas generalizing index with
  | nil => exact pinsKept_of_readOnly (.pure _)
  | cons persona personas ih =>
      exact pinsKept_bind (insertParticipant_pinsKept _ _) fun _ =>
        pinsKept_bind (ih _) fun _ => pinsKept_of_readOnly (.pure _)

theorem openRoom_pinsKept (uuids : ℕ → JsString) (requestId requestDigest : JsString)
    (expectedRevision : ℕ) (personas : List CastPersonaInput) :
    (openRoom uuids requestId requestDigest expectedRevision personas).Keeps Db.PinsKept := by
  refine pinsKept_bind (pinsKept_of_readOnly readRoomSelection_readOnly) fun _ =>
    pinsKept_bind (pinsKept_of_readOnly (.require _ _)) fun _ =>
    pinsKept_bind (pinsKept_of_readOnly (.query _)) fun _ =>
    pinsKept_bind (pinsKept_of_readOnly (.require _ _)) fun _ =>
    pinsKept_bind (pinsKept_statement fun db u db' h => ?_) fun _ =>
    pinsKept_bind (insertParticipant_pinsKept _ _) fun _ =>
    pinsKept_bind (insertPersonas_pinsKept _ _ _ _) fun _ =>
    pinsKept_bind (pinsKept_statement fun db u db' h => ?_) fun _ =>
    pinsKept_bind ((appendEventInTransaction_kept _ _).mono fun _ _ h => h.toPinsKept) fun _ =>
    pinsKept_bind (updateCurrentRoom_pinsKept _ _) fun _ =>
    pinsKept_bind (pinsKept_of_readOnly (.require _ _)) fun _ =>
    pinsKept_bind (pinsKept_of_readOnly (roomDto_readOnly _)) fun _ =>
    pinsKept_bind (pinsKept_statement fun db u db' h => ?_) fun _ =>
    pinsKept_of_readOnly (.pure _)
  · unfold Db.insertRoom Db.uniqueFailed at h
    split at h <;> cases h
    exact ⟨rfl, rfl⟩
  · unfold Db.insertDirectorState Db.uniqueFailed at h
    split at h <;> cases h
    exact ⟨rfl, rfl⟩
  · unfold Db.insertCastCommand Db.uniqueFailed at h
    split at h <;> cases h
    exact ⟨rfl, rfl⟩

theorem replaceCast_pinsKept (host : Host) (uuids : ℕ → JsString)
    (options : ServiceOptions) (command : ReplaceCastCommand) :
    (replaceCast host uuids options command).Keeps Db.PinsKept := by
  refine pinsKept_bind (pinsKept_of_readOnly (.ofExcept _)) fun replacement =>
    pinsKept_bind (pinsKept_of_readOnly (.ofExcept _)) fun _ =>
    pinsKept_bind (pinsKept_of_readOnly (.ofExcept _)) fun _ =>
    pinsKept_bind (pinsKept_of_readOnly (.ofExcept _)) fun _ =>
    pinsKept_bind (pinsKept_of_readOnly (.query _)) fun prior => ?_
  split
  · exact pinsKept_of_readOnly (.bind (.require _ _) fun _ => .pure _)
  · exact openRoom_pinsKept _ _ _ _ _

end Runtime

end GreenRoom
