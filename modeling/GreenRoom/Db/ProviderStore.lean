import GreenRoom.Db.ProviderDecisions
import GreenRoom.Db.Transaction
import GreenRoom.Lib.TransitionSystem

/-!
# The provider store

The operations on profiles, observations and bindings in any order, each in its own
transaction, with any faults.

Revisions have no gaps whatever happens.  That a deleted profile stays deleted is
another matter: `transition` asks whether a profile is deleted before it deletes it,
and not before it disables it.  A disabled profile may be revised, so disabling
takes a deleted profile back.

## Main definitions

* `ProfileOperation`, `ProviderOperation` — the operations.
* `providerStore` — the transition system.
* `ProfileKind.DisablesDeleted` — a deleted profile is disabled at its last revision.
* `ProviderChange` — a transaction of operations has been committed.

## Main results

* `profiles_inductive` — revisions are `1..n` in every reachable state.
* `deletion_is_terminal` — deletion is final unless a deleted profile is disabled.
* `ProviderChange.step` — the tables only grow, and nothing else changes.
-/

namespace GreenRoom

open JsString Providers

/-! ## Operations -/

/-- What is done to a profile of one kind. -/
inductive ProfileOperation (ρ : Type)
  | create (value : ρ)
  | revise (value : ρ) (expectedRevision : ℕ)
  | disable (profileId : JsString) (expectedRevision : ℕ)
  | delete (profileId : JsString) (expectedRevision : Option ℕ)

/-- `create…Profile`, `revise…Profile`, `disable…Profile` and `delete…Profile`. -/
def ProfileKind.program {ρ : Type} (K : ProfileKind ρ) :
    ProfileOperation ρ → DbProgram (ProfileRevision ρ)
  | .create value => K.create value
  | .revise value expectedRevision => K.revise value expectedRevision
  | .disable profileId expectedRevision => K.transition profileId (some expectedRevision) .disabled
  | .delete profileId expectedRevision => K.transition profileId expectedRevision .deleted

inductive ProviderOperation
  | connection (operation : ProfileOperation ConnectionProfile)
  | model (operation : ProfileOperation ModelProfile)
  | observe (observation : ProviderObservation)
  | bind (binding : RoomBinding)
  | rebind (binding : RoomBinding) (expectedRevision : ℕ)

def ProviderOperation.program : ProviderOperation → DbProgram Unit
  | .connection operation => do
    let _ ← connectionProfiles.program operation
    return
  | .model operation => do
    let _ ← modelProfiles.program operation
    return
  | .observe observation => do
    let _ ← observeConnection observation
    return
  | .bind binding => do
    let _ ← bindRoom binding
    return
  | .rebind binding expectedRevision => do
    let _ ← rebindRoom binding expectedRevision
    return

namespace ProfileKind

variable {ρ : Type} {K : ProfileKind ρ}

/-- The newest revision of the profile, numbered `n`, is deleted. -/
def Deleted (K : ProfileKind ρ) (tables : ProviderTables) (profileId : JsString) (n : ℕ)
    (row : ProfileRevision ρ) : Prop :=
  (K.table tables).Latest profileId n row ∧ row.state = .deleted

/-- The operation disables a profile that is deleted, naming its last revision. -/
def DisablesDeleted (K : ProfileKind ρ) (tables : ProviderTables) :
    ProfileOperation ρ → Prop
  | .disable profileId expectedRevision =>
    ∃ n row, K.Deleted tables profileId n row ∧ K.revision row.profile = expectedRevision ∧
      expectedRevision < maxRevision
  | _ => False

/-- The revisions of every profile are numbered `1..n`, and stored under what they say. -/
structure WellKept (K : ProfileKind ρ) (tables : ProviderTables) : Prop where
  contiguous : (K.table tables).Contiguous
  keyed : ∀ id n row, (K.table tables).lookup (id, n) = some row →
    K.id row.profile = id ∧ K.revision row.profile = n

theorem WellKept.of_empty {tables : ProviderTables} (h : K.table tables = ∅) :
    K.WellKept tables where
  contiguous := h ▸ RevisionTable.contiguous_empty
  keyed id n row hrow := by
    rw [h, AList.lookup_empty] at hrow
    cases hrow

theorem WellKept.congr {tables tables' : ProviderTables} (hkept : K.WellKept tables)
    (h : K.table tables' = K.table tables) : K.WellKept tables' where
  contiguous := h ▸ hkept.contiguous
  keyed := by
    rw [h]
    exact hkept.keyed

theorem Appended.table {row : ProfileRevision ρ} {db db' : Db} (h : K.Appended row db db') :
    K.table db'.providers = (K.table db.providers).append (K.id row.profile) row := by
  rw [h.result]
  exact K.table_withTable _ _

/-- Adding a revision keeps a table as it should be. -/
theorem WellKept.appended {row : ProfileRevision ρ} {db db' : Db} (hkept : K.WellKept db.providers)
    (h : K.Appended row db db') : K.WellKept db'.providers where
  contiguous := h.table ▸ hkept.contiguous.append _ _
  keyed id n row' hrow := by
    rw [h.table, RevisionTable.lookup_append] at hrow
    split at hrow
    · next hkey =>
        obtain ⟨rfl, rfl⟩ := Prod.mk.inj hkey
        obtain rfl := Option.some.inj hrow
        exact ⟨rfl, h.revision⟩
    · exact hkept.keyed id n row' hrow

/-- An operation adds a revision or leaves everything as it was.  It adds one to a
deleted profile only by disabling it. -/
theorem program_returns {operation : ProfileOperation ρ} {answer : ProfileRevision ρ}
    {db db' : Db} (h : (K.program operation).Returns db answer db') :
    db' = db ∨ ∃ row, K.Appended row db db' ∧
      (K.WellKept db.providers → ∀ n current,
        K.Deleted db.providers (K.id row.profile) n current →
          K.DisablesDeleted db.providers operation) := by
  cases operation with
  | create value =>
      obtain ⟨rfl, -, hnone, happended⟩ := create_returns h
      refine .inr ⟨_, happended, fun hkept n current hdeleted => ?_⟩
      exact absurd (hnone.symm.trans hdeleted.1.2) (by rintro ⟨⟩)
  | revise value expectedRevision =>
      obtain ⟨rfl, ⟨m, row, hlatest, hstate, -⟩, happended⟩ := revise_returns h
      refine .inr ⟨_, happended, fun hkept n current hdeleted => ?_⟩
      obtain ⟨-, rfl⟩ := hlatest.unique hdeleted.1
      exact absurd hdeleted.2 hstate
  | disable profileId expectedRevision =>
      obtain ⟨m, row, hlatest, ⟨hstate, -⟩ | ⟨-, hexpected, hbound, rfl, happended⟩⟩ :=
        transition_returns h
      · cases hstate
      · refine .inr ⟨_, happended, fun hkept n current hdeleted => ?_⟩
        obtain rfl := Option.some.inj hexpected
        rw [K.id_successor, (hkept.keyed _ _ _ hlatest.1).1] at hdeleted
        obtain ⟨-, rfl⟩ := hlatest.unique hdeleted.1
        exact ⟨n, current, hdeleted, rfl, hbound⟩
  | delete profileId expectedRevision =>
      obtain ⟨m, row, hlatest, ⟨-, -, -, rfl⟩ | ⟨hstate, hexpected, hbound, rfl, happended⟩⟩ :=
        transition_returns h
      · exact .inl rfl
      · refine .inr ⟨_, happended, fun hkept n current hdeleted => ?_⟩
        rw [K.id_successor, (hkept.keyed _ _ _ hlatest.1).1] at hdeleted
        obtain ⟨-, rfl⟩ := hlatest.unique hdeleted.1
        exact absurd ⟨rfl, hdeleted.2⟩ hstate

/-- What is deleted stays deleted if a row is added to another profile. -/
theorem Deleted.appended {row current : ProfileRevision ρ} {db db' : Db} {profileId : JsString}
    {n : ℕ} (hdeleted : K.Deleted db.providers profileId n current)
    (h : K.Appended row db db') (hid : K.id row.profile ≠ profileId) :
    K.Deleted db'.providers profileId n current := by
  refine ⟨?_, hdeleted.2⟩
  rw [h.table, RevisionTable.latest_append_ne (Ne.symm hid)]
  exact hdeleted.1

end ProfileKind

/-! ## The system -/

/-- A step is an operation or, unlabelled, another part of the program. -/
def providerStore : TransitionSystem Db (Option ProviderOperation) where
  init db := db.providers.connectionProfileRevisions = ∅ ∧ db.providers.modelProfileRevisions = ∅
  step db label db' :=
    match label with
    | some operation => ∃ faults answer, transact faults operation.program db = (answer, db')
    | none =>
      db'.providers.connectionProfileRevisions = db.providers.connectionProfileRevisions ∧
        db'.providers.modelProfileRevisions = db.providers.modelProfileRevisions

/-- The operation disables a deleted profile. -/
def ProviderOperation.DisablesDeleted (tables : ProviderTables) : ProviderOperation → Prop
  | .connection operation => connectionProfiles.DisablesDeleted tables operation
  | .model operation => modelProfiles.DisablesDeleted tables operation
  | _ => False

/-- `part` selects the operations on profiles of kind `K`; all others leave them alone. -/
def ProfileKind.Covers {ρ : Type} (K : ProfileKind ρ)
    (part : ProviderOperation → Option (ProfileOperation ρ)) : Prop :=
  ∀ {operation db db' u}, operation.program.Returns db u db' →
    K.table db'.providers = K.table db.providers ∨
      ∃ o answer, part operation = some o ∧ (K.program o).Returns db answer db'

def ProviderOperation.onConnection : ProviderOperation → Option (ProfileOperation ConnectionProfile)
  | .connection operation => some operation
  | _ => none

def ProviderOperation.onModel : ProviderOperation → Option (ProfileOperation ModelProfile)
  | .model operation => some operation
  | _ => none

private theorem frame_of_returns {operation : ProviderOperation} {db db' : Db} {u : Unit}
    (h : operation.program.Returns db u db') :
    (operation.onConnection = none →
      db'.providers.connectionProfileRevisions = db.providers.connectionProfileRevisions) ∧
    (operation.onModel = none →
      db'.providers.modelProfileRevisions = db.providers.modelProfileRevisions) := by
  cases operation <;>
    obtain ⟨answer, _, h, hpure⟩ := Program.returns_bind.mp h <;>
    obtain ⟨-, rfl⟩ := Program.returns_pure.mp hpure
  case connection operation =>
    refine ⟨by rintro ⟨⟩, fun _ => ?_⟩
    rcases ProfileKind.program_returns h with rfl | ⟨row, happended, -⟩
    · rfl
    · rw [happended.result]
      rfl
  case model operation =>
    refine ⟨fun _ => ?_, by rintro ⟨⟩⟩
    rcases ProfileKind.program_returns h with rfl | ⟨row, happended, -⟩
    · rfl
    · rw [happended.result]
      rfl
  case observe => rw [(observeConnection_returns h).2]; exact ⟨fun _ => rfl, fun _ => rfl⟩
  case bind => rw [(bindRoom_returns h).2.result]; exact ⟨fun _ => rfl, fun _ => rfl⟩
  case rebind => rw [(rebindRoom_returns h).2.result]; exact ⟨fun _ => rfl, fun _ => rfl⟩

theorem connectionProfiles_covers : connectionProfiles.Covers ProviderOperation.onConnection := by
  intro operation db db' u h
  cases operation with
  | connection operation =>
      obtain ⟨answer, _, h, hpure⟩ := Program.returns_bind.mp h
      obtain ⟨-, rfl⟩ := Program.returns_pure.mp hpure
      exact .inr ⟨operation, answer, rfl, h⟩
  | _ => exact .inl ((frame_of_returns h).1 rfl)

theorem modelProfiles_covers : modelProfiles.Covers ProviderOperation.onModel := by
  intro operation db db' u h
  cases operation with
  | model operation =>
      obtain ⟨answer, _, h, hpure⟩ := Program.returns_bind.mp h
      obtain ⟨-, rfl⟩ := Program.returns_pure.mp hpure
      exact .inr ⟨operation, answer, rfl, h⟩
  | _ => exact .inl ((frame_of_returns h).2 rfl)

namespace ProfileKind

variable {ρ : Type} {K : ProfileKind ρ} {part : ProviderOperation → Option (ProfileOperation ρ)}

/-- A step of the system adds a revision to the table or leaves it alone, and adds one
to a deleted profile only by disabling it. -/
def StepwiseAppends (K : ProfileKind ρ)
    (part : ProviderOperation → Option (ProfileOperation ρ)) : Prop :=
  ∀ {db db' : Db} {label : Option ProviderOperation}, providerStore.step db label db' →
    K.table db'.providers = K.table db.providers ∨ ∃ row, K.Appended row db db' ∧
      (K.WellKept db.providers → ∀ n current,
        K.Deleted db.providers (K.id row.profile) n current →
          ∃ operation o, label = some operation ∧ part operation = some o ∧
            K.DisablesDeleted db.providers o)

theorem Covers.stepwiseAppends (hpart : K.Covers part)
    (hother : ∀ {tables tables' : ProviderTables},
      tables'.connectionProfileRevisions = tables.connectionProfileRevisions →
      tables'.modelProfileRevisions = tables.modelProfileRevisions →
        K.table tables' = K.table tables) : K.StepwiseAppends part := by
  intro db db' label h
  cases label with
  | none => exact .inl (hother h.1 h.2)
  | some operation =>
      obtain ⟨faults, answer, h⟩ := h
      cases answer with
      | error e => exact .inl (by rw [transact_error h])
      | ok u =>
          rcases hpart (returns_of_transact h) with h | ⟨o, answer, ho, h⟩
          · exact .inl h
          · rcases program_returns h with rfl | ⟨row, happended, hdeleted⟩
            · exact .inl rfl
            · exact .inr ⟨row, happended, fun hkept n current h =>
                ⟨operation, o, rfl, ho, hdeleted hkept n current h⟩⟩

theorem StepwiseAppends.wellKept (hsteps : K.StepwiseAppends part) {db db' : Db}
    {label : Option ProviderOperation} (hkept : K.WellKept db.providers)
    (h : providerStore.step db label db') : K.WellKept db'.providers := by
  rcases hsteps h with htable | ⟨row, happended, -⟩
  · exact hkept.congr htable
  · exact hkept.appended happended

/-- A step that disables no deleted profile keeps deleted profiles as they are. -/
theorem StepwiseAppends.deleted (hsteps : K.StepwiseAppends part) {db db' : Db}
    {label : Option ProviderOperation} (hkept : K.WellKept db.providers)
    (hlabel : ∀ operation ∈ label, ∀ o ∈ part operation, ¬ K.DisablesDeleted db.providers o)
    {profileId : JsString} {n : ℕ} {row : ProfileRevision ρ}
    (hdeleted : K.Deleted db.providers profileId n row) (h : providerStore.step db label db') :
    K.Deleted db'.providers profileId n row := by
  rcases hsteps h with htable | ⟨row', happended, hdisables⟩
  · exact ⟨htable ▸ hdeleted.1, hdeleted.2⟩
  · refine hdeleted.appended happended fun hid => ?_
    subst hid
    obtain ⟨operation, o, ho, hpart, hdis⟩ := hdisables hkept n row hdeleted
    exact hlabel operation ho o hpart hdis

end ProfileKind

theorem connectionProfiles_stepwiseAppends :
    connectionProfiles.StepwiseAppends ProviderOperation.onConnection :=
  connectionProfiles_covers.stepwiseAppends fun h _ => h

theorem modelProfiles_stepwiseAppends :
    modelProfiles.StepwiseAppends ProviderOperation.onModel :=
  modelProfiles_covers.stepwiseAppends fun _ h => h

/-- Both tables are kept as they should be, in every reachable state. -/
theorem profiles_inductive :
    providerStore.Inductive fun db =>
      connectionProfiles.WellKept db.providers ∧ modelProfiles.WellKept db.providers where
  init _ h := ⟨.of_empty h.1, .of_empty h.2⟩
  step _ _ _ h hstep :=
    ⟨connectionProfiles_stepwiseAppends.wellKept h.1 hstep,
      modelProfiles_stepwiseAppends.wellKept h.2 hstep⟩

/-- The steps that disable no deleted profile. -/
def LeavesDeleted (db : Db) (label : Option ProviderOperation) : Prop :=
  ∀ operation ∈ label, ¬ operation.DisablesDeleted db.providers

/-- Revisions of a profile are `1..n` in every reachable state.  From there on a run
that disables no deleted profile at its last revision leaves every deleted profile as
it is: deleted, with no revision after the one that deleted it. -/
theorem deletion_is_terminal {db : Db} (h : providerStore.Reachable db) :
    (db.providers.connectionProfileRevisions.Contiguous ∧
      db.providers.modelProfileRevisions.Contiguous) ∧
    ∀ labels db', (providerStore.restrict LeavesDeleted).Run db labels db' →
      (∀ id n row, connectionProfiles.Deleted db.providers id n row →
        connectionProfiles.Deleted db'.providers id n row) ∧
      ∀ id n row, modelProfiles.Deleted db.providers id n row →
        modelProfiles.Deleted db'.providers id n row := by
  have hkept := profiles_inductive.reachable h
  refine ⟨⟨hkept.1.contiguous, hkept.2.contiguous⟩, fun labels db' hrun => ?_⟩
  clear h
  induction hrun with
  | nil db => exact ⟨fun _ _ _ h => h, fun _ _ _ h => h⟩
  | @cons db db₁ db' label labels hstep _ ih =>
      obtain ⟨hlabel, hstep⟩ := hstep
      obtain ⟨hconnections, hmodels⟩ := ih (profiles_inductive.step _ _ _ hkept hstep)
      constructor
      · intro id n row hdeleted
        refine hconnections id n row
          (connectionProfiles_stepwiseAppends.deleted hkept.1 ?_ hdeleted hstep)
        rintro (o | _ | _ | _ | _) hoperation o' ho' <;> cases ho'
        exact hlabel _ hoperation
      · intro id n row hdeleted
        refine hmodels id n row (modelProfiles_stepwiseAppends.deleted hkept.2 ?_ hdeleted hstep)
        rintro (_ | o | _ | _ | _) hoperation o' ho' <;> cases ho'
        exact hlabel _ hoperation

/-! ## What all operations keep -/

/-- Rows may have been added to the tables of profiles and bindings. -/
structure ProviderTables.Grown (tables tables' : ProviderTables) : Prop where
  connections : tables.connectionProfileRevisions.Extends tables'.connectionProfileRevisions
  models : tables.modelProfileRevisions.Extends tables'.modelProfileRevisions
  bindings : tables.roomBindingRevisions.Extends tables'.roomBindingRevisions

theorem ProviderTables.Grown.refl (tables : ProviderTables) : tables.Grown tables :=
  ⟨.refl _, .refl _, .refl _⟩

theorem ProviderTables.Grown.trans {t₁ t₂ t₃ : ProviderTables} (h : t₁.Grown t₂)
    (h' : t₂.Grown t₃) : t₁.Grown t₃ :=
  ⟨h.connections.trans h'.connections, h.models.trans h'.models, h.bindings.trans h'.bindings⟩

/-- Profiles and bindings are kept under what they say. -/
structure ProviderTables.Keyed (tables : ProviderTables) : Prop where
  connections : connectionProfiles.WellKept tables
  models : modelProfiles.WellKept tables
  bindings : ∀ id n binding, tables.roomBindingRevisions.lookup (id, n) = some binding →
    binding.id = id ∧ binding.revision = n

/-- What every operation that returns does: only the provider tables change, they only
grow and get no snapshot, and they stay keyed. -/
structure ProviderStep (db db' : Db) : Prop where
  frame : db' = { db with providers := db'.providers }
  grown : db.providers.Grown db'.providers
  snapshots : db'.providers.decisionSnapshots = db.providers.decisionSnapshots
  keyed : db.providers.Keyed → db'.providers.Keyed

theorem ProviderStep.refl (db : Db) : ProviderStep db db := ⟨rfl, .refl _, rfl, id⟩

theorem ProviderStep.trans {db₁ db₂ db₃ : Db} (h : ProviderStep db₁ db₂)
    (h' : ProviderStep db₂ db₃) : ProviderStep db₁ db₃ where
  frame := by
    rw [h'.frame, h.frame]
  grown := h.grown.trans h'.grown
  snapshots := h'.snapshots.trans h.snapshots
  keyed := h'.keyed ∘ h.keyed

theorem ProviderStep.of_connection {row : ProfileRevision ConnectionProfile} {db db' : Db}
    (h : connectionProfiles.Appended row db db') : ProviderStep db db' where
  frame := by rw [h.result]
  grown := by
    rw [h.result]
    exact ⟨RevisionTable.extends_append _ _ _, .refl _, .refl _⟩
  snapshots := by
    rw [h.result]
    rfl
  keyed hkeyed := by
    refine ⟨hkeyed.connections.appended h, hkeyed.models.congr ?_, ?_⟩
    · rw [h.result]
      rfl
    · rw [h.result]
      exact hkeyed.bindings

theorem ProviderStep.of_model {row : ProfileRevision ModelProfile} {db db' : Db}
    (h : modelProfiles.Appended row db db') : ProviderStep db db' where
  frame := by rw [h.result]
  grown := by
    rw [h.result]
    exact ⟨.refl _, RevisionTable.extends_append _ _ _, .refl _⟩
  snapshots := by
    rw [h.result]
    rfl
  keyed hkeyed := by
    refine ⟨hkeyed.connections.congr ?_, hkeyed.models.appended h, ?_⟩
    · rw [h.result]
      rfl
    · rw [h.result]
      exact hkeyed.bindings

theorem ProviderStep.of_binding {binding : RoomBinding} {db db' : Db}
    (h : BindingAppended binding db db') : ProviderStep db db' where
  frame := by rw [h.result]
  grown := by
    rw [h.result]
    exact ⟨.refl _, .refl _, RevisionTable.extends_append _ _ _⟩
  snapshots := by rw [h.result]
  keyed hkeyed := by
    refine ⟨hkeyed.connections.congr ?_, hkeyed.models.congr ?_, fun id n other hother => ?_⟩
    · rw [h.result]
      rfl
    · rw [h.result]
      rfl
    · rw [h.result] at hother
      rw [RevisionTable.lookup_append] at hother
      split at hother
      · next hkey =>
          obtain ⟨rfl, rfl⟩ := Prod.mk.inj hkey
          obtain rfl := Option.some.inj hother
          exact ⟨rfl, h.revision⟩
      · exact hkeyed.bindings id n other hother

/-- An operation that returns. -/
theorem ProviderOperation.step_of_returns {operation : ProviderOperation} {db db' : Db} {u : Unit}
    (h : operation.program.Returns db u db') : ProviderStep db db' := by
  cases operation <;>
    obtain ⟨answer, _, h, hpure⟩ := Program.returns_bind.mp h <;>
    obtain ⟨-, rfl⟩ := Program.returns_pure.mp hpure
  case connection operation =>
    rcases ProfileKind.program_returns h with rfl | ⟨row, happended, -⟩
    · exact .refl _
    · exact .of_connection happended
  case model operation =>
    rcases ProfileKind.program_returns h with rfl | ⟨row, happended, -⟩
    · exact .refl _
    · exact .of_model happended
  case observe =>
    obtain ⟨-, rfl⟩ := observeConnection_returns h
    exact ⟨rfl, ⟨.refl _, .refl _, .refl _⟩, rfl, fun hkeyed =>
      ⟨hkeyed.connections.congr rfl, hkeyed.models.congr rfl, hkeyed.bindings⟩⟩
  case bind => exact .of_binding (bindRoom_returns h).2
  case rebind => exact .of_binding (rebindRoom_returns h).2

/-- A transaction of operations, one or several, has been committed. -/
def ProviderChange : Db → Db → Prop :=
  Relation.ReflTransGen fun db db' =>
    ∃ operation : ProviderOperation, operation.program.Returns db () db'

theorem ProviderChange.step {db db' : Db} (h : ProviderChange db db') : ProviderStep db db' := by
  induction h with
  | refl => exact .refl _
  | tail _ hstep ih =>
      obtain ⟨operation, h⟩ := hstep
      exact ih.trans (ProviderOperation.step_of_returns h)

theorem ProviderChange.frame {db db' : Db} (h : ProviderChange db db') :
    ∃ providers, db' = { db with providers } := ⟨_, h.step.frame⟩

/-! ## A profile that comes back -/

/-- The operations one after another, without faults. -/
def ProviderOperation.carryOut (db : Db) (operations : List ProviderOperation) : Db :=
  operations.foldl (fun db operation => (transact {} operation.program db).2) db

theorem ProviderOperation.run_carryOut (db : Db) (operations : List ProviderOperation) :
    providerStore.Run db (operations.map some) (carryOut db operations) := by
  induction operations generalizing db with
  | nil => exact .nil db
  | cons operation operations ih => exact .cons ⟨{}, _, rfl⟩ (ih _)

namespace Cloud

open ProviderOperation

def id : JsString := ofString "cloud"

def profile (revision : ℕ) : ConnectionProfile where
  id
  revision
  target := .approvedProvider .openrouter

/-- A profile has been created and deleted. -/
def deleted : Db :=
  carryOut {} [.connection (.create (profile 1)), .connection (.delete id (some 1))]

theorem reachable_deleted : providerStore.Reachable deleted :=
  ⟨{}, _, ⟨rfl, rfl⟩, run_carryOut _ _⟩

theorem deleted_deleted : connectionProfiles.Deleted deleted.providers id 2 ⟨.deleted, profile 2⟩ :=
  ⟨⟨rfl, rfl⟩, rfl⟩

/-- Disabled at its last revision and then revised, it is there again. -/
def revived : Db :=
  carryOut deleted [.connection (.disable id 2), .connection (.revise (profile 4) 3)]

end Cloud

/-- Disabling takes a deleted profile back: it gets revisions again, and is enabled. -/
theorem deletion_is_undone :
    providerStore.Reachable Cloud.deleted ∧
      connectionProfiles.Deleted Cloud.deleted.providers Cloud.id 2 ⟨.deleted, Cloud.profile 2⟩ ∧
      (∃ labels, providerStore.Run Cloud.deleted labels Cloud.revived) ∧
      Cloud.revived.providers.connectionProfileRevisions.Latest Cloud.id 4
        ⟨.enabled, Cloud.profile 4⟩ :=
  ⟨Cloud.reachable_deleted, Cloud.deleted_deleted, ⟨_, ProviderOperation.run_carryOut _ _⟩,
    rfl, rfl⟩

/-- Deleted once more, and revised in vain, the profile is still as deletion left it. -/
theorem deletion_is_terminal_cloud :
    connectionProfiles.Deleted
      (ProviderOperation.carryOut Cloud.deleted
        [.connection (.delete Cloud.id none),
          .connection (.revise (Cloud.profile 3) 2)]).providers
      Cloud.id 2 ⟨.deleted, Cloud.profile 2⟩ := by
  refine ((deletion_is_terminal Cloud.reachable_deleted).2
    [some (.connection (.delete Cloud.id none)), some (.connection (.revise (Cloud.profile 3) 2))]
    _ ?_).1 _ _ _ Cloud.deleted_deleted
  refine .cons ⟨?_, {}, _, rfl⟩ (.cons ⟨?_, {}, _, rfl⟩ (.nil _))
  · rintro operation ⟨⟩ ⟨⟩
  · rintro operation ⟨⟩ ⟨⟩

end GreenRoom
