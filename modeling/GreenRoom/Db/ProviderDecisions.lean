import GreenRoom.Db.ProviderProfiles

/-!
# Provider decisions

Which provider answers for a room: `db/provider-bindings.ts`, which binds rooms to
models and finds out what a binding comes to.

## Main results

* `isResolvedRoomProviderDecisionCurrent_returns` — asking changes nothing.
* `bindRoom_returns`, `rebindRoom_returns` — a revision of a binding has been added.
-/

namespace GreenRoom

open JsString Providers

structure ResolvedRoomProviderDecision where
  binding : RoomBinding
  connection : SnapshotConnectionProfile
  model : ModelProfile
  observation : ProviderObservation

def ProviderHealth.name : ProviderHealth → String
  | .ready => "ready"
  | .degraded => "degraded"
  | .failed => "failed"

def readEffectiveRoomBinding (roomId : RoomId) (purpose : BindingPurpose) :
    DbProgram (Option RoomBinding) :=
  .query fun db =>
    db.providers.roomBindingRevisions.newest fun _ binding =>
      binding.roomId = roomId && binding.purpose = purpose

def requireBindableModel (binding : RoomBinding) : DbProgram Unit := do
  let model ← .orThrow (← readModelProfile binding.model)
    (.ofText "Room binding model revision does not exist")
  .require (model.state = .enabled)
    (.ofText ("Room binding model revision is " ++ model.state.name))
  let currentModel ← readCurrentModelProfile binding.model.profileId
  .require ((currentModel.map fun m => m.profile.revision) = some binding.model.revision)
    (.ofText "Room binding model revision is stale")
  let connection ← .orThrow (← readConnectionProfile model.profile.connection)
    (.ofText "Room binding connection revision does not exist")
  .require (connection.state = .enabled)
    (.ofText ("Room binding connection revision is " ++ connection.state.name))
  let currentConnection ← readCurrentConnectionProfile connection.profile.id
  .require ((currentConnection.map fun c => c.profile.revision) = some connection.profile.revision)
    (.ofText "Room binding connection revision is stale")

/-- `INSERT INTO room_binding_revisions`, with the three triggers. -/
def Db.insertRoomBinding (binding : RoomBinding) (db : Db) : Except JsError (Unit × Db) :=
  let table := db.providers.roomBindingRevisions
  if table.entries.any fun e => e.2.roomId = binding.roomId && e.2.purpose = binding.purpose &&
      e.1.1 ≠ binding.id then
    Db.aborted "room binding identity mismatch"
  else if table.entries.any fun e => e.1.1 = binding.id &&
      (e.2.roomId ≠ binding.roomId || e.2.purpose ≠ binding.purpose) then
    Db.aborted "room binding lineage mismatch"
  else if binding.revision ≠ table.next binding.id then
    Db.aborted "room binding revision gap or conflict"
  else if binding.roomId ∈ db.rooms ∧
      (binding.model.profileId, binding.model.revision) ∈ db.providers.modelProfileRevisions then
    .ok ((), { db with
      providers := { db.providers with
        roomBindingRevisions := table.insert (binding.id, binding.revision) binding } })
  else Db.foreignKeyFailed

def bindRoom (value : RoomBinding) : DbProgram RoomBinding := do
  let binding ← .ofExcept (parseRoomBinding value)
  .require (binding.revision = 1) (.ofText "Room binding must start at revision 1")
  let effective ← readEffectiveRoomBinding binding.roomId binding.purpose
  .require (effective = none) (.ofText "Room binding already exists")
  requireBindableModel binding
  .statement (Db.insertRoomBinding binding)
  return binding

def rebindRoom (value : RoomBinding) (expectedRevision : ℕ) : DbProgram RoomBinding := do
  let binding ← .ofExcept (parseRoomBinding value)
  let current ← .orThrow (← readEffectiveRoomBinding binding.roomId binding.purpose)
    (.ofText "Room binding does not exist")
  .require (current.id = binding.id ∧ current.revision = expectedRevision ∧
      binding.revision = expectedRevision + 1)
    (.ofText "Room binding revision conflict")
  requireBindableModel binding
  .statement (Db.insertRoomBinding binding)
  return binding

def resolveRoomProviderDecision (roomId : RoomId) (purpose : BindingPurpose) :
    DbProgram ResolvedRoomProviderDecision := do
  let binding ← .orThrow (← readEffectiveRoomBinding roomId purpose)
    (.ofText "Room has no provider binding")
  let model ← .orThrow (← readModelProfile binding.model)
    (.ofText "Room binding references a missing model revision")
  let currentModel ← readCurrentModelProfile binding.model.profileId
  .require ((currentModel.map fun m => m.profile.revision) = some binding.model.revision)
    (.ofText "Room binding references a stale model revision")
  .require (model.state = .enabled)
    (.ofText ("Room binding references a " ++ model.state.name ++ " model revision"))
  let connectionReference := model.profile.connection
  let connection ← .orThrow (← readConnectionProfile connectionReference)
    (.ofText "Model profile references a missing connection revision")
  let currentConnection ← readCurrentConnectionProfile connectionReference.profileId
  .require ((currentConnection.map fun c => c.profile.revision) =
      some connectionReference.revision)
    (.ofText "Model profile references a stale connection revision")
  .require (connection.state = .enabled)
    (.ofText ("Model profile references a " ++ connection.state.name ++ " connection revision"))
  let observation ← .orThrow (← readLatestConnectionObservation connectionReference)
    (.ofText "Connection revision has no capability observation")
  .require (observation.health = .ready)
    (.ofText ("Connection revision health is " ++ observation.health.name))
  return {
    binding
    connection := connection.profile.toSnapshotConnectionProfile
    model := model.profile
    observation }

/-- Whether a decision is still what its room resolves to; `false` if that cannot be
found out. -/
def isResolvedRoomProviderDecisionCurrent (decision : ResolvedRoomProviderDecision) :
    DbProgram Bool :=
  Program.attempt (fun _ => pure false) do
    let current ← resolveRoomProviderDecision decision.binding.roomId decision.binding.purpose
    return current.binding.id = decision.binding.id &&
      current.binding.revision = decision.binding.revision &&
      current.model.id = decision.model.id &&
      current.model.revision = decision.model.revision &&
      current.connection.id = decision.connection.id &&
      current.connection.revision = decision.connection.revision &&
      current.observation.capabilityFingerprint = decision.observation.capabilityFingerprint

theorem resolveRoomProviderDecision_readOnly (roomId : RoomId) (purpose : BindingPurpose) :
    (resolveRoomProviderDecision roomId purpose).ReadOnly := by
  refine .bind (.query _) fun _ => .bind (.orThrow _ _) fun _ => ?_
  refine .bind (.query _) fun _ => .bind (.orThrow _ _) fun _ => ?_
  refine .bind (.query _) fun _ => .bind (.require _ _) fun _ => .bind (.require _ _) fun _ => ?_
  refine .bind (.query _) fun _ => .bind (.orThrow _ _) fun _ => ?_
  refine .bind (.query _) fun _ => .bind (.require _ _) fun _ => .bind (.require _ _) fun _ => ?_
  refine .bind (.query _) fun _ => .bind (.orThrow _ _) fun _ => ?_
  exact .bind (.require _ _) fun _ => .pure _

theorem isResolvedRoomProviderDecisionCurrent_returns {decision : ResolvedRoomProviderDecision}
    {db db' : Db} {current : Bool}
    (h : (isResolvedRoomProviderDecisionCurrent decision).Returns db current db') : db' = db := by
  have hreads : (isResolvedRoomProviderDecisionCurrent decision).ReadOnly :=
    .attempt (.bind (resolveRoomProviderDecision_readOnly _ _) fun _ => .pure _) fun _ => .pure _
  exact hreads.returns h

theorem parseRoomBinding_eq {value binding : RoomBinding}
    (h : parseRoomBinding value = .ok binding) : binding = value := by
  obtain ⟨_, -, h⟩ := Except.bind_eq_ok.mp h
  obtain ⟨_, -, h⟩ := Except.bind_eq_ok.mp h
  exact (Except.ok.inj h).symm

theorem requireBindableModel_readOnly (binding : RoomBinding) :
    (requireBindableModel binding).ReadOnly := by
  refine .bind (.query _) fun _ => .bind (.orThrow _ _) fun _ => .bind (.require _ _) fun _ => ?_
  refine .bind (.query _) fun _ => .bind (.require _ _) fun _ => ?_
  refine .bind (.query _) fun _ => .bind (.orThrow _ _) fun _ => .bind (.require _ _) fun _ => ?_
  exact .bind (.query _) fun _ => .require _ _

/-- `binding` has been added as the next revision of a binding that belongs to its room. -/
structure BindingAppended (binding : RoomBinding) (db db' : Db) : Prop where
  revision : binding.revision = db.providers.roomBindingRevisions.next binding.id
  identity : ∀ id n other, db.providers.roomBindingRevisions.lookup (id, n) = some other →
    other.roomId = binding.roomId → other.purpose = binding.purpose → id = binding.id
  lineage : ∀ n other, db.providers.roomBindingRevisions.lookup (binding.id, n) = some other →
    other.roomId = binding.roomId ∧ other.purpose = binding.purpose
  model : (binding.model.profileId, binding.model.revision) ∈ db.providers.modelProfileRevisions
  result : db' = { db with
    providers := { db.providers with
      roomBindingRevisions := db.providers.roomBindingRevisions.append binding.id binding } }

theorem Db.insertRoomBinding_eq_ok {binding : RoomBinding} {db db' : Db} {u : Unit}
    (h : Db.insertRoomBinding binding db = .ok (u, db')) : BindingAppended binding db db' := by
  unfold Db.insertRoomBinding at h
  simp only [ne_eq, ite_not] at h
  split at h
  · cases h
  · next hidentity =>
      split at h
      · cases h
      · next hlineage =>
          split at h
          · next hrevision =>
              split at h
              · next hreferences =>
                  obtain ⟨-, rfl⟩ := Prod.mk.inj (Except.ok.inj h)
                  refine ⟨hrevision, fun id n other hother hroom _ => ?_,
                    fun n other hother => ?_, hreferences.2, by rw [hrevision]; rfl⟩
                  · by_contra hid
                    exact hidentity (List.any_eq_true.mpr ⟨⟨(id, n), other⟩,
                      KeyedTable.mem_entries_iff.mpr hother, by simp [hroom, hid]⟩)
                  · by_contra hroom
                    refine hlineage (List.any_eq_true.mpr ⟨⟨(binding.id, n), other⟩,
                      KeyedTable.mem_entries_iff.mpr hother, ?_⟩)
                    simpa [not_and_or] using hroom
              · cases h
          · cases h

theorem bindRoom_returns {value answer : RoomBinding} {db db' : Db}
    (h : (bindRoom value).Returns db answer db') :
    answer = value ∧ BindingAppended answer db db' := by
  simp only [bindRoom, readEffectiveRoomBinding, Program.returns_bind, Program.returns_ofExcept,
    Program.returns_require, Program.returns_query, Program.returns_statement,
    Program.returns_pure] at h
  obtain ⟨binding, _, ⟨hparse, rfl⟩, _, _, ⟨-, rfl⟩, _, _, ⟨-, rfl⟩, _, _, ⟨-, rfl⟩, _, _,
    hbindable, _, _, hinsert, rfl, rfl⟩ := h
  obtain rfl := parseRoomBinding_eq hparse
  obtain rfl := (requireBindableModel_readOnly _).returns hbindable
  exact ⟨rfl, Db.insertRoomBinding_eq_ok hinsert⟩

theorem rebindRoom_returns {value answer : RoomBinding} {expectedRevision : ℕ} {db db' : Db}
    (h : (rebindRoom value expectedRevision).Returns db answer db') :
    answer = value ∧ BindingAppended answer db db' := by
  simp only [rebindRoom, readEffectiveRoomBinding, Program.returns_bind, Program.returns_ofExcept,
    Program.returns_orThrow, Program.returns_require, Program.returns_query,
    Program.returns_statement, Program.returns_pure] at h
  obtain ⟨binding, _, ⟨hparse, rfl⟩, _, _, ⟨-, rfl⟩, _, _, ⟨-, rfl⟩, _, _, ⟨-, rfl⟩, _, _,
    hbindable, _, _, hinsert, rfl, rfl⟩ := h
  obtain rfl := parseRoomBinding_eq hparse
  obtain rfl := (requireBindableModel_readOnly _).returns hbindable
  exact ⟨rfl, Db.insertRoomBinding_eq_ok hinsert⟩

end GreenRoom
