import GreenRoom.Lib.KeyedTable
import GreenRoom.Lib.SqlJson
import Mathlib.Algebra.Order.Ring.Rat

/-!
# The tables of the iPhone database

The tables the migrations create, with the conditions their CHECK constraints,
triggers and indexes put on a row.  A JSON column holds the value its text denotes.
Of a CHECK constraint on a text, its length and its alphabet are left out: they only
make a statement fail.  Of a time stamp it is kept whether it is set, where a
constraint reads that.

## Main definitions

* `GenerationCommand`, `CommandRow` — a generation command: what never changes, and
  where its attempts stand.
* `CommandRow.Checked`, `ValidTransition` — its CHECK constraints and its transitions.
* `Store` — the tables.
-/

namespace GreenRoom.Iphone

inductive RoomStatus
  | active
  | paused
  | stopped
  deriving DecidableEq, Repr

inductive InferenceMode
  | provider
  | reviewDemo
  deriving DecidableEq, Repr

/-- A row of `rooms`. -/
structure RoomRow where
  title : String
  status : RoomStatus
  generation : ℕ
  nextEventSequence : ℕ
  inferenceMode : InferenceMode
  deriving DecidableEq

inductive ParticipantKind
  | human
  | persona
  deriving DecidableEq, Repr

/-- A row of `participants`, whose key is the room and the participant. -/
structure ParticipantRow where
  kind : ParticipantKind
  displayName : String
  sortOrder : ℕ
  personaSlug : Option String
  deriving DecidableEq

/-- The CHECK constraint on kind, persona and place. -/
def ParticipantRow.Checked (p : ParticipantRow) : Prop :=
  (p.kind = .human ∧ p.personaSlug = none ∧ p.sortOrder = 0) ∨
    (p.kind = .persona ∧ p.personaSlug ≠ none ∧ 1 ≤ p.sortOrder ∧ p.sortOrder ≤ 3)

instance (p : ParticipantRow) : Decidable p.Checked := inferInstanceAs (Decidable (_ ∨ _))

/-- A row of `director_state`. -/
structure DirectorRow where
  stateJson : Option (Json ℚ) := none
  lastHumanEventSequence : Option ℕ := none
  lastSpeakerId : Option String := none
  autonomousTurns : ℕ := 0
  schedulingWindowGeneration : ℕ := 0
  deriving DecidableEq

/-! ## Generation commands -/

inductive CommandState
  | prepared
  | inFlight
  | failed
  | interrupted
  | completed
  | abandoned
  deriving DecidableEq, Repr

/-- `state IN ('prepared', 'in_flight', 'failed', 'interrupted')`. -/
def CommandState.unresolved : CommandState → Bool
  | .prepared | .inFlight | .failed | .interrupted => true
  | .completed | .abandoned => false

/-- What a generation command is about: the columns no update may change. -/
structure GenerationCommand where
  requestId : String
  roomId : String
  requestDigest : String
  requestPlan : Json ℚ
  humanEvent : Json ℚ
  directorEvent : Json ℚ
  directorState : Json ℚ
  expectedGeneration : ℕ
  expectedNextEventSequence : ℕ
  personaSlug : Option String
  deriving DecidableEq

/-- A row of `generation_commands`; the key is the command. -/
structure CommandRow extends GenerationCommand where
  state : CommandState
  attemptEpoch : ℕ := 0
  failureCode : Option String := none
  responseText : Option String := none
  started : Bool := false
  finished : Bool := false
  deriving DecidableEq

namespace GenerationCommand

/-- The CHECK constraints on the columns that never change. -/
def Checked (c : GenerationCommand) : Prop :=
  ((c.humanEvent.extract "type").mayEqual (.ofText "human_message") ∧
    (c.directorEvent.extract "type").mayEqual (.ofText "director_decision") ∧
    c.requestPlan.isObject ∧ c.directorState.isObject ∧ 1 ≤ c.expectedNextEventSequence) ∧
  (c.requestPlan.extract "kind").mayEqual
    (.ofText (if c.personaSlug = none then "silence" else "provider")) ∧
  (c.requestPlan.extract "requestId").mayEqual (.ofText c.requestId) ∧
  (c.requestPlan.extract "roomId").mayEqual (.ofText c.roomId) ∧
  (c.requestPlan.extract "sourceEventSequence").mayEqual (.ofNat c.expectedNextEventSequence) ∧
  c.requestPlan.extract "personaSlug" = .ofText? c.personaSlug ∧
  (c.directorEvent.extract "generation").mayEqual (.ofNat c.expectedGeneration) ∧
  (c.directorEvent.extract "sourceEventSequence").mayEqual (.ofNat c.expectedNextEventSequence) ∧
  c.directorEvent.extract "speaker" = .ofText? c.personaSlug

instance (c : GenerationCommand) : Decidable c.Checked :=
  inferInstanceAs (Decidable ((_ ∧ _ ∧ _ ∧ _ ∧ _) ∧ _ ∧ _ ∧ _ ∧ _ ∧ _ ∧ _ ∧ _ ∧ _))

end GenerationCommand

namespace CommandRow

/-- `length(trim(response_text)) > 0 AND length(CAST(response_text AS BLOB)) <= 16384`. -/
def responseChecked (r : CommandRow) : Bool :=
  r.responseText.all fun text => text.toList.any (· ≠ ' ') && text.utf8ByteSize ≤ 16384

/-- What each state says of the columns that change. -/
def stateChecked (r : CommandRow) : Bool :=
  match r.state with
  | .prepared =>
    r.attemptEpoch = 0 && !r.started && !r.finished && r.failureCode = none &&
      r.responseText = none
  | .inFlight =>
    1 ≤ r.attemptEpoch && r.started && !r.finished && r.failureCode = none &&
      r.responseText = none
  | .failed =>
    !r.started && !r.finished && r.failureCode ≠ none && r.responseText = none &&
      (r.attemptEpoch = 0 || r.failureCode = some "not_started")
  | .interrupted =>
    1 ≤ r.attemptEpoch && r.started && !r.finished && r.failureCode ≠ none &&
      r.responseText = none
  | .completed =>
    r.finished && r.failureCode = none && r.personaSlug.isNone = r.responseText.isNone
  | .abandoned => r.finished && r.responseText = none

/-- The CHECK constraints of `generation_commands`. -/
def Checked (r : CommandRow) : Prop :=
  r.toGenerationCommand.Checked ∧ r.responseChecked ∧ r.stateChecked

instance (r : CommandRow) : Decidable r.Checked := inferInstanceAs (Decidable (_ ∧ _ ∧ _))

end CommandRow

/-- `generation_command_transition_is_valid`. -/
def ValidTransition (old new : CommandRow) : Prop :=
  (old.state = .prepared ∧
    new.state ∈ [.inFlight, .failed, .completed, CommandState.abandoned]) ∨
  (old.state = .failed ∧
    new.state ∈ [.failed, .inFlight, .completed, CommandState.abandoned]) ∨
  (old.state = .interrupted ∧ new.state ∈ [.inFlight, CommandState.abandoned]) ∨
  (old.state = .inFlight ∧
    (new.state = .interrupted ∨
      (new.state = .completed ∧ new.attemptEpoch = old.attemptEpoch) ∨
      (new.state = .failed ∧ new.failureCode = some "not_started" ∧
        new.attemptEpoch + 1 = old.attemptEpoch ∧ new.started = false))) ∨
  (old.state = new.state ∧ old.attemptEpoch = new.attemptEpoch ∧
    old.failureCode = new.failureCode ∧ old.responseText = new.responseText ∧
    old.started = new.started ∧ old.finished = new.finished)

instance (old new : CommandRow) : Decidable (ValidTransition old new) :=
  inferInstanceAs (Decidable (_ ∨ _ ∨ _ ∨ _ ∨ _))

/-! ## Providers -/

/-- A row of `connection_profile_revisions`, whose key is the profile and its
revision. -/
structure ProfileRevisionRow where
  providerId : String
  expectedPriorRevision : Option ℕ
  tombstoned : Bool := false
  deriving DecidableEq

inductive CredentialState
  | credentialPending
  | ready
  | deletePending
  | missing
  deriving DecidableEq, Repr

/-- A row of `credential_revisions`, under the key of its profile revision. -/
structure CredentialRow where
  providerId : String
  credentialRef : String
  expectedPriorRevision : Option ℕ
  mutationId : String
  lifecycleState : CredentialState
  tombstoned : Bool := false
  deriving DecidableEq

/-- `'credential:' || profile_id || ':' || profile_revision`. -/
def credentialReference (profileId : String) (profileRevision : ℕ) : String :=
  "credential:" ++ profileId ++ ":" ++ toString profileRevision

/-- The CHECK constraint on an expected prior revision. -/
def PriorChecked (profileRevision : ℕ) (expectedPriorRevision : Option ℕ) : Prop :=
  (profileRevision = 1 ∧ expectedPriorRevision = none) ∨
    (1 < profileRevision ∧ expectedPriorRevision = some (profileRevision - 1))

instance (n : ℕ) (prior : Option ℕ) : Decidable (PriorChecked n prior) :=
  inferInstanceAs (Decidable (_ ∨ _))

/-- `credential_revisions_lifecycle_only`, on the columns that change. -/
def ValidLifecycle (old new : CredentialRow) : Prop :=
  (old.lifecycleState = .credentialPending ∧ new.lifecycleState = .ready ∧
    new.tombstoned = false) ∨
  (old.lifecycleState = .ready ∧ new.lifecycleState = .missing ∧ new.tombstoned = false) ∨
  (old.lifecycleState ∈ [.credentialPending, .ready, CredentialState.deletePending] ∧
    new.lifecycleState = .deletePending ∧ new.tombstoned = true) ∨
  (old.lifecycleState = .deletePending ∧ new.lifecycleState = .missing ∧
    new.tombstoned = true) ∨
  (old.lifecycleState = new.lifecycleState ∧ old.tombstoned = new.tombstoned)

instance (old new : CredentialRow) : Decidable (ValidLifecycle old new) :=
  inferInstanceAs (Decidable (_ ∨ _ ∨ _ ∨ _ ∨ _))

/-- A row of `credential_tombstones`, under the key of its profile revision. -/
structure TombstoneRow where
  providerId : String
  credentialRef : String
  mutationId : String
  deriving DecidableEq

/-- The row of `iphone_provider_selection`. -/
structure ProviderSelection where
  providerId : String
  profileId : String
  profileRevision : ℕ
  model : String
  deriving DecidableEq

/-- The row of `iphone_provider_data_use_consent`. -/
structure ProviderConsent where
  providerId : String
  providerDefinitionVersion : ℕ
  model : String
  disclosureVersion : ℕ
  deriving DecidableEq

/-! ## The store -/

/-- The tables of the database; a table with a `singleton` key is its row. -/
structure Store where
  rooms : KeyedTable String RoomRow := ∅
  participants : KeyedTable (String × String) ParticipantRow := ∅
  events : KeyedTable (String × ℕ) (Json ℚ) := ∅
  directorState : KeyedTable String DirectorRow := ∅
  currentRoom : Option String := none
  localDrafts : KeyedTable String String := ∅
  profileRevisions : KeyedTable (String × ℕ) ProfileRevisionRow := ∅
  credentials : KeyedTable (String × ℕ) CredentialRow := ∅
  tombstones : KeyedTable (String × ℕ) TombstoneRow := ∅
  selection : Option ProviderSelection := none
  consent : Option ProviderConsent := none
  commands : KeyedTable String CommandRow := ∅

/-- `SELECT max(profile_revision) FROM t WHERE profile_id = ?`. -/
def maxRevision {ρ : Type} (t : KeyedTable (String × ℕ) ρ) (profileId : String) : Option ℕ :=
  (t.keys.filterMap fun k => if k.1 = profileId then some k.2 else none).max?

/-- The joined row of the selection, its profile revision, its credential and the
consent, when all four are there and agree. -/
structure ProviderAuthority where
  selection : ProviderSelection
  profile : ProfileRevisionRow
  credential : CredentialRow
  consent : ProviderConsent

/-- The selection joined with its profile revision, its credential and the consent. -/
def Store.authority (db : Store) : Option ProviderAuthority := do
  let selection ← db.selection
  let profile ← db.profileRevisions.lookup (selection.profileId, selection.profileRevision)
  let credential ← db.credentials.lookup (selection.profileId, selection.profileRevision)
  let consent ← db.consent
  if profile.providerId = selection.providerId ∧ credential.providerId = selection.providerId ∧
      consent.providerId = selection.providerId ∧ consent.model = selection.model then
    some { selection, profile, credential, consent }
  else none

/-- The selection is the one a provider plan names. -/
def ProviderSelection.Matches (selection : ProviderSelection) (plan : Json ℚ) : Prop :=
  plan.extract "providerId" = .ofText selection.providerId ∧
    plan.extract "profileId" = .ofText selection.profileId ∧
    plan.extract "profileRevision" = .ofNat selection.profileRevision ∧
    plan.extract "model" = .ofText selection.model

instance (selection : ProviderSelection) (plan : Json ℚ) : Decidable (selection.Matches plan) :=
  inferInstanceAs (Decidable (_ ∧ _ ∧ _ ∧ _))

end GreenRoom.Iphone
