import GreenRoom.Db.Events
import GreenRoom.Lib.Checks
import GreenRoom.Lib.SqlText
import GreenRoom.Providers.SnapshotParser

/-!
# Provider profiles in the database

`db/provider-profiles.ts`: connection profiles and model profiles, each a table of
revisions that triggers keep append-only, and what has been observed of a
connection.  A profile is created, revised, disabled and deleted; every one of
these adds a revision.  The two kinds of profile do so in the same way and differ
in their tables, in their words and in what a model profile refers to.

## Main definitions

* `ProfileKind` — what one kind of profile brings.
* `ProfileKind.create`, `revise`, `transition` — the operations, for either kind.
* `createConnectionProfile`, `createModelProfile`, … — the operations of each kind.
* `ProfileKind.Appended` — a revision has been added.

## Main results

* `ProfileKind.create_returns`, `revise_returns`, `transition_returns` — what the
  operations have found and done when they return.
-/

namespace GreenRoom

open JsString Providers

def ProviderProfileState.name : ProviderProfileState → String
  | .enabled => "enabled"
  | .disabled => "disabled"
  | .deleted => "deleted"

/-! ## A kind of profile -/

/-- The words, the table and the checks of a kind of profile. -/
structure ProfileKind (ρ : Type) where
  name : String
  /-- What the trigger of the table calls it. -/
  noun : String
  id : ρ → JsString
  revision : ρ → ℕ
  parse : ρ → Except JsError ρ
  /-- The profile of a transition, made from the current one. -/
  successor : ρ → ρ
  table : ProviderTables → RevisionTable JsString (ProfileRevision ρ)
  withTable : RevisionTable JsString (ProfileRevision ρ) → ProviderTables → ProviderTables
  /-- The foreign keys of the table. -/
  referencesExist : ρ → ProviderTables → Bool
  /-- What `create` and `revise` ask of the references of a profile. -/
  requireReferences : ρ → DbProgram Unit
  table_withTable : ∀ rows tables, table (withTable rows tables) = rows
  parse_eq : ∀ {value profile}, parse value = .ok profile → profile = value
  revision_le : ∀ {value profile}, parse value = .ok profile → revision profile ≤ maxRevision
  id_successor : ∀ profile, id (successor profile) = id profile
  revision_successor : ∀ profile, revision (successor profile) = revision profile + 1
  references_readOnly : ∀ profile, (requireReferences profile).ReadOnly

namespace ProfileKind

variable {ρ : Type} (K : ProfileKind ρ)

/-- `INSERT INTO …_profile_revisions`, with the trigger `…_profile_revisions_are_contiguous`. -/
def insert (row : ProfileRevision ρ) (db : Db) : Except JsError (Unit × Db) :=
  let table := K.table db.providers
  if K.revision row.profile ≠ table.next (K.id row.profile) then
    Db.aborted (K.noun ++ " revision gap or conflict")
  else if K.referencesExist row.profile db.providers then
    .ok ((), { db with
      providers := K.withTable (table.insert (K.id row.profile, K.revision row.profile) row)
        db.providers })
  else Db.foreignKeyFailed

def latestRevision (profileId : JsString) : DbProgram (Option ℕ) :=
  .query fun db => (K.table db.providers).last profileId

def readCurrent (profileId : JsString) : DbProgram (Option (ProfileRevision ρ)) :=
  .query fun db => (K.table db.providers).newest fun id _ => id = profileId

def create (value : ρ) : DbProgram (ProfileRevision ρ) := do
  let profile ← .ofExcept (K.parse value)
  .require (K.revision profile = 1) (.ofText (K.name ++ " must start at revision 1"))
  let latest ← K.latestRevision (K.id profile)
  .require (latest = none) (.ofText (K.name ++ " already exists"))
  K.requireReferences profile
  .statement (K.insert ⟨.enabled, profile⟩)
  return ⟨.enabled, profile⟩

def revise (value : ρ) (expectedRevision : ℕ) : DbProgram (ProfileRevision ρ) := do
  let profile ← .ofExcept (K.parse value)
  let current ← .orThrow (← K.readCurrent (K.id profile)) (.ofText (K.name ++ " does not exist"))
  .require (current.state ≠ .deleted) (.ofText (K.name ++ " does not exist"))
  .require (K.revision current.profile = expectedRevision ∧
      K.revision profile = expectedRevision + 1)
    (.ofText (K.name ++ " revision conflict"))
  K.requireReferences profile
  .statement (K.insert ⟨.enabled, profile⟩)
  return ⟨.enabled, profile⟩

/-- Disabling and deleting.  What is deleted already stays as it is if it is deleted
again; that it is deleted is not asked before it is disabled. -/
def transition (profileId : JsString) (expectedRevision : Option ℕ)
    (state : ProviderProfileState) : DbProgram (ProfileRevision ρ) := do
  let current ← .orThrow (← K.readCurrent profileId) (.ofText (K.name ++ " does not exist"))
  if state = .deleted ∧ current.state = .deleted then
    return current
  .require (expectedRevision = some (K.revision current.profile))
    (.ofText (K.name ++ " revision conflict"))
  let profile ← .ofExcept (K.parse (K.successor current.profile))
  .statement (K.insert ⟨state, profile⟩)
  return ⟨state, profile⟩

end ProfileKind

/-! ## Connection profiles -/

def readConnectionProfile (reference : ProfileRevisionRef) :
    DbProgram (Option (ProfileRevision ConnectionProfile)) :=
  .query fun db =>
    db.providers.connectionProfileRevisions.lookup (reference.profileId, reference.revision)

theorem le_of_requireRevision {value : ℕ} {label : String} {u : Unit}
    (h : requireRevision value label = .ok u) : value ≤ maxRevision := by
  unfold requireRevision at h
  split at h
  · next hvalue => exact hvalue.2
  · cases h

theorem parseConnectionProfile_revision_le {value profile : ConnectionProfile}
    (h : parseConnectionProfile value = .ok profile) : profile.revision ≤ maxRevision := by
  obtain ⟨_, hrevision, h⟩ := Except.bind_eq_ok.mp h
  split at h
  · exact (Except.ok.inj h) ▸ le_of_requireRevision hrevision
  · cases h

theorem parseConnectionProfile_eq {value profile : ConnectionProfile}
    (h : parseConnectionProfile value = .ok profile) : profile = value := by
  obtain ⟨_, -, h⟩ := Except.bind_eq_ok.mp h
  split at h
  · exact (Except.ok.inj h).symm
  · cases h

/-- `transitionConnection` drops `credentialRef` and `mutationId`. -/
def connectionProfiles : ProfileKind ConnectionProfile where
  name := "Connection profile"
  noun := "connection profile"
  id profile := profile.id
  revision profile := profile.revision
  parse := parseConnectionProfile
  successor profile :=
    { id := profile.id, revision := profile.revision + 1, target := profile.target }
  table tables := tables.connectionProfileRevisions
  withTable table tables := { tables with connectionProfileRevisions := table }
  referencesExist _ _ := true
  requireReferences _ := pure ()
  table_withTable _ _ := rfl
  parse_eq := parseConnectionProfile_eq
  revision_le := parseConnectionProfile_revision_le
  id_successor _ := rfl
  revision_successor _ := rfl
  references_readOnly _ := .pure _

def readCurrentConnectionProfile (profileId : JsString) :
    DbProgram (Option (ProfileRevision ConnectionProfile)) :=
  connectionProfiles.readCurrent profileId

def createConnectionProfile (value : ConnectionProfile) :
    DbProgram (ProfileRevision ConnectionProfile) :=
  connectionProfiles.create value

def reviseConnectionProfile (value : ConnectionProfile) (expectedRevision : ℕ) :
    DbProgram (ProfileRevision ConnectionProfile) :=
  connectionProfiles.revise value expectedRevision

def disableConnectionProfile (profileId : JsString) (expectedRevision : ℕ) :
    DbProgram (ProfileRevision ConnectionProfile) :=
  connectionProfiles.transition profileId (some expectedRevision) .disabled

def deleteConnectionProfile (profileId : JsString) (expectedRevision : Option ℕ) :
    DbProgram (ProfileRevision ConnectionProfile) :=
  connectionProfiles.transition profileId expectedRevision .deleted

/-! ## Model profiles -/

def readModelProfile (reference : ProfileRevisionRef) :
    DbProgram (Option (ProfileRevision ModelProfile)) :=
  .query fun db =>
    db.providers.modelProfileRevisions.lookup (reference.profileId, reference.revision)

def requireCurrentEnabledConnection (reference : ProfileRevisionRef) : DbProgram Unit := do
  let exact ← .orThrow (← readConnectionProfile reference)
    (.ofText "Model profile connection revision does not exist")
  .require (exact.state = .enabled)
    (.ofText ("Model profile connection revision is " ++ exact.state.name))
  let current ← readCurrentConnectionProfile reference.profileId
  .require ((current.map fun c => c.profile.revision) = some reference.revision)
    (.ofText "Model profile connection revision is stale")

theorem requireCurrentEnabledConnection_readOnly (reference : ProfileRevisionRef) :
    (requireCurrentEnabledConnection reference).ReadOnly := by
  refine .bind (.query _) fun _ => .bind (.orThrow _ _) fun _ => .bind (.require _ _) fun _ => ?_
  exact .bind (.query _) fun _ => .require _ _

theorem parseModelProfile_eq {value profile : ModelProfile}
    (h : parseModelProfile value = .ok profile) : profile = value := by
  obtain ⟨_, -, h⟩ := Except.bind_eq_ok.mp h
  obtain ⟨_, -, h⟩ := Except.bind_eq_ok.mp h
  exact (Except.ok.inj h).symm

theorem parseModelProfile_revision_le {value profile : ModelProfile}
    (h : parseModelProfile value = .ok profile) : profile.revision ≤ maxRevision := by
  obtain ⟨_, hrevision, h⟩ := Except.bind_eq_ok.mp h
  obtain ⟨_, -, h⟩ := Except.bind_eq_ok.mp h
  exact (Except.ok.inj h) ▸ le_of_requireRevision hrevision

/-- `transitionModel` keeps everything but the revision. -/
def modelProfiles : ProfileKind ModelProfile where
  name := "Model profile"
  noun := "model profile"
  id profile := profile.id
  revision profile := profile.revision
  parse := parseModelProfile
  successor profile := { profile with revision := profile.revision + 1 }
  table tables := tables.modelProfileRevisions
  withTable table tables := { tables with modelProfileRevisions := table }
  referencesExist profile tables :=
    (profile.connection.profileId, profile.connection.revision) ∈ tables.connectionProfileRevisions
  requireReferences profile := requireCurrentEnabledConnection profile.connection
  table_withTable _ _ := rfl
  parse_eq := parseModelProfile_eq
  revision_le := parseModelProfile_revision_le
  id_successor _ := rfl
  revision_successor _ := rfl
  references_readOnly _ := requireCurrentEnabledConnection_readOnly _

def readCurrentModelProfile (profileId : JsString) :
    DbProgram (Option (ProfileRevision ModelProfile)) :=
  modelProfiles.readCurrent profileId

def createModelProfile (value : ModelProfile) : DbProgram (ProfileRevision ModelProfile) :=
  modelProfiles.create value

def reviseModelProfile (value : ModelProfile) (expectedRevision : ℕ) :
    DbProgram (ProfileRevision ModelProfile) :=
  modelProfiles.revise value expectedRevision

def disableModelProfile (profileId : JsString) (expectedRevision : ℕ) :
    DbProgram (ProfileRevision ModelProfile) :=
  modelProfiles.transition profileId (some expectedRevision) .disabled

def deleteModelProfile (profileId : JsString) (expectedRevision : Option ℕ) :
    DbProgram (ProfileRevision ModelProfile) :=
  modelProfiles.transition profileId expectedRevision .deleted

/-! ## Observations -/

/-- `OBSERVATION_EVIDENCE_FIELDS`. -/
def observationEvidenceFields : List JsString :=
  ["chat", "jsonOutput", "streaming", "systemMessages"].map ofString

/-- `canonicalJson(evidence)`. -/
def evidenceJson (evidence : List (JsString × Bool)) : JsString :=
  canonicalJson (.obj (evidence.map fun field => (field.1, .bool field.2)))

def validateObservation (value : ProviderObservation) : Except JsError ProviderObservation := do
  if value.id = [] ∨ 128 < value.id.length ∨ trim value.id ≠ value.id then
    throw (.typeError (ofString "Observation id must be a canonical bounded identifier"))
  if !isIdText value.connection.profileId ∨ value.connection.revision < 1 then
    throw (.typeError (ofString "Observation connection reference is invalid"))
  if !Parse.isFingerprint value.capabilityFingerprint then
    throw (.typeError (ofString "Observation capability fingerprint is invalid"))
  if !value.evidence.all fun field => field.1 ∈ observationEvidenceFields then
    throw (.typeError (ofString "Observation evidence contains an unknown or invalid field"))
  if 16384 < (evidenceJson value.evidence).length then
    throw (.typeError (ofString "Observation evidence is oversized"))
  return value

/-- `length(…) = 71 AND … GLOB 'sha256:*' AND substr(…, 8) NOT GLOB '*[^0-9a-f]*'`. -/
def isSqlFingerprint (s : JsString) : Bool :=
  sqlLength s = 71 && (ofString "sha256:").isPrefixOf (sqlText s) &&
    ((sqlText s).drop 7).all fun u => isDigit u || (unit 'a' ≤ u && u ≤ unit 'f')

def fingerprintCheck : String :=
  "length(capability_fingerprint) = 71 AND\n    capability_fingerprint GLOB 'sha256:*' AND\n" ++
    "    substr(capability_fingerprint, 8) NOT GLOB '*[^0-9a-f]*'"

/-- The trigger and the `CHECK`s of `provider_observations`. -/
def Db.checkObservation (observation : ProviderObservation) : Except JsError Unit := do
  Db.abortWhen (∃ field ∈ observation.evidence, field.1 ∉ observationEvidenceFields)
    "provider observation evidence contains an unknown or invalid field"
  Db.check (1 ≤ sqlLength observation.id ∧ sqlLength observation.id ≤ 128 ∧
      sqlTrim observation.id = observation.id)
    "length(id) BETWEEN 1 AND 128 AND id = trim(id)"
  Db.check (isSqlFingerprint observation.capabilityFingerprint) fingerprintCheck
  Db.check (sqlLength (evidenceJson observation.evidence) ≤ 16384)
    ("json_valid(evidence_json) AND json_type(evidence_json) = 'object' AND\n" ++
      "    length(evidence_json) <= 16384")

def Db.insertObservation (observation : ProviderObservation) (db : Db) :
    Except JsError (Unit × Db) := do
  Db.checkObservation observation
  if db.providers.observations.any fun o => o.id = observation.id then
    Db.uniqueFailed "provider_observations.id"
  else if (observation.connection.profileId, observation.connection.revision) ∈
      db.providers.connectionProfileRevisions then
    .ok ((), { db with
      providers := { db.providers with
        observations := db.providers.observations ++ [observation] } })
  else Db.foreignKeyFailed

def observeConnection (value : ProviderObservation) : DbProgram ProviderObservation := do
  let observation ← .ofExcept (validateObservation value)
  let connection ← .orThrow (← readConnectionProfile observation.connection)
    (.ofText "Observation connection revision does not exist")
  .require (connection.state ≠ .deleted) (.ofText "Observation connection revision is deleted")
  .statement (Db.insertObservation observation)
  return observation

def readLatestConnectionObservation (reference : ProfileRevisionRef) :
    DbProgram (Option ProviderObservation) :=
  .query fun db => (db.providers.observations.filter fun o => o.connection = reference).getLast?

/-! ## What the operations do -/

namespace ProfileKind

variable {ρ : Type} {K : ProfileKind ρ}

/-- `row` has been added as the next revision of its profile. -/
structure Appended (K : ProfileKind ρ) (row : ProfileRevision ρ) (db db' : Db) : Prop where
  revision : K.revision row.profile = (K.table db.providers).next (K.id row.profile)
  references : K.referencesExist row.profile db.providers = true
  result : db' = { db with
    providers := K.withTable ((K.table db.providers).append (K.id row.profile) row) db.providers }

theorem insert_eq_ok {row : ProfileRevision ρ} {db db' : Db} {u : Unit} :
    K.insert row db = .ok (u, db') ↔ K.Appended row db db' := by
  unfold insert
  simp only [ne_eq, ite_not]
  split
  · next hrevision =>
      split
      · next hreferences =>
          rw [Except.ok.injEq, Prod.mk.injEq, hrevision]
          exact ⟨fun h => ⟨hrevision, hreferences, h.2.symm⟩, fun h => ⟨rfl, h.result.symm⟩⟩
      · next hreferences =>
          exact iff_of_false (by rintro ⟨⟩) fun h => hreferences h.references
  · next hrevision => exact iff_of_false (by rintro ⟨⟩) fun h => hrevision h.revision

/-- A profile that `create` returns is new, and its only revision. -/
theorem create_returns {value : ρ} {answer : ProfileRevision ρ} {db db' : Db}
    (h : (K.create value).Returns db answer db') :
    answer = ⟨.enabled, value⟩ ∧ K.revision value = 1 ∧
      (K.table db.providers).last (K.id value) = none ∧ K.Appended answer db db' := by
  simp only [create, latestRevision, Program.returns_bind, Program.returns_ofExcept,
    Program.returns_require, Program.returns_query, Program.returns_statement,
    Program.returns_pure] at h
  obtain ⟨profile, _, ⟨hparse, rfl⟩, _, _, ⟨hrevision, rfl⟩, latest, _, ⟨rfl, rfl⟩, _, _,
    ⟨hlatest, rfl⟩, _, _, hreferences, _, _, hinsert, rfl, rfl⟩ := h
  obtain rfl := K.parse_eq hparse
  obtain rfl := (K.references_readOnly _).returns hreferences
  exact ⟨rfl, hrevision, hlatest, insert_eq_ok.mp hinsert⟩

/-- What `revise` returns follows a revision that was not deleted. -/
theorem revise_returns {value : ρ} {expectedRevision : ℕ} {answer : ProfileRevision ρ}
    {db db' : Db} (h : (K.revise value expectedRevision).Returns db answer db') :
    answer = ⟨.enabled, value⟩ ∧
      (∃ n current, (K.table db.providers).Latest (K.id value) n current ∧
        current.state ≠ .deleted ∧ K.revision current.profile = expectedRevision) ∧
      K.Appended answer db db' := by
  simp only [revise, readCurrent, Program.returns_bind, Program.returns_ofExcept,
    Program.returns_orThrow, Program.returns_require, Program.returns_query,
    Program.returns_statement, Program.returns_pure] at h
  obtain ⟨profile, _, ⟨hparse, rfl⟩, _, _, ⟨rfl, rfl⟩, current, _, ⟨hcurrent, rfl⟩, _, _,
    ⟨hstate, rfl⟩, _, _, ⟨⟨hexpected, -⟩, rfl⟩, _, _, hreferences, _, _, hinsert, rfl, rfl⟩ := h
  obtain rfl := K.parse_eq hparse
  obtain rfl := (K.references_readOnly _).returns hreferences
  obtain ⟨n, hlatest⟩ := RevisionTable.newest_of_id.mp hcurrent
  exact ⟨rfl, ⟨n, current, hlatest, hstate, hexpected⟩, insert_eq_ok.mp hinsert⟩

/-- A transition has found the latest revision of its profile.  It leaves what is
deleted deleted, or it adds the next revision to the one expected. -/
theorem transition_returns {profileId : JsString} {expectedRevision : Option ℕ}
    {state : ProviderProfileState} {answer : ProfileRevision ρ} {db db' : Db}
    (h : (K.transition profileId expectedRevision state).Returns db answer db') :
    ∃ n current, (K.table db.providers).Latest profileId n current ∧
      ((state = .deleted ∧ current.state = .deleted ∧ answer = current ∧ db' = db) ∨
        (¬ (state = .deleted ∧ current.state = .deleted) ∧
          expectedRevision = some (K.revision current.profile) ∧
          K.revision current.profile < maxRevision ∧
          answer = ⟨state, K.successor current.profile⟩ ∧ K.Appended answer db db')) := by
  simp only [transition, readCurrent, Program.returns_bind, Program.returns_orThrow,
    Program.returns_query] at h
  obtain ⟨_, _, ⟨rfl, rfl⟩, current, _, ⟨hcurrent, rfl⟩, h⟩ := h
  obtain ⟨n, hlatest⟩ := RevisionTable.newest_of_id.mp hcurrent
  refine ⟨n, current, hlatest, ?_⟩
  split at h
  · next hdeleted =>
      obtain ⟨rfl, rfl⟩ := Program.returns_pure.mp h
      exact .inl ⟨hdeleted.1, hdeleted.2, rfl, rfl⟩
  · next hdeleted =>
      simp only [Program.returns_bind, Program.returns_require, Program.returns_ofExcept,
        Program.returns_statement, Program.returns_pure] at h
      obtain ⟨_, _, ⟨hexpected, rfl⟩, profile, _, ⟨hparse, rfl⟩, _, _, hinsert, rfl, rfl⟩ := h
      obtain rfl := K.parse_eq hparse
      have hbound := K.revision_le hparse
      rw [K.revision_successor] at hbound
      exact .inr ⟨hdeleted, hexpected, hbound, rfl, insert_eq_ok.mp hinsert⟩

end ProfileKind

theorem Db.check_ok {condition : Prop} [Decidable condition] {expression : String} {u : Unit} :
    Db.check condition expression = .ok u ↔ condition := by
  unfold Db.check
  split
  · next h => exact iff_of_true rfl h
  · next h => exact iff_of_false (by rintro ⟨⟩) h

theorem Db.abortWhen_ok {condition : Prop} [Decidable condition] {message : String} {u : Unit} :
    Db.abortWhen condition message = .ok u ↔ ¬ condition := by
  unfold Db.abortWhen
  split
  · next h => exact iff_of_false (by rintro ⟨⟩) (not_not.mpr h)
  · next h => exact iff_of_true rfl h

/-- What the parser takes for a fingerprint, the tables do. -/
theorem isSqlFingerprint_of_isFingerprint {s : JsString} (h : Parse.isFingerprint s = true) :
    isSqlFingerprint s = true := by
  simp only [Parse.isFingerprint, Bool.and_eq_true, decide_eq_true_eq, List.all_eq_true] at h
  obtain ⟨⟨hscheme, hlength⟩, hdigits⟩ := h
  have hhex : ∀ u : UInt16, (isDigit u || (unit 'a' ≤ u && u ≤ unit 'f')) = true →
      u ≠ 0 ∧ u < 0x80 := by
    intro u hu
    have hle : u ≤ unit 'f' := by
      simp only [isDigit, Bool.or_eq_true, Bool.and_eq_true, decide_eq_true_eq] at hu
      rcases hu with ⟨-, hu⟩ | ⟨-, hu⟩
      · exact UInt16.le_trans hu (by decide)
      · exact hu
    refine ⟨?_, UInt16.lt_of_le_of_lt hle (by decide)⟩
    rintro rfl
    exact absurd hu (by decide)
  have htext : s.IsText := by
    rw [← List.take_append_drop 7 s, hscheme]
    intro u hu
    rcases List.mem_append.mp hu with hu | hu
    · have hall : (ofString "sha256:").all fun u => u ≠ 0 && u < 0x80 := by decide
      simpa using List.all_eq_true.mp hall u hu
    · exact hhex u (hdigits u hu)
  simp only [isSqlFingerprint, htext.sqlText, htext.sqlLength, Bool.and_eq_true, decide_eq_true_eq,
    List.all_eq_true]
  exact ⟨⟨hlength, List.isPrefixOf_iff_prefix.mpr (hscheme ▸ List.take_prefix 7 s)⟩, hdigits⟩

theorem validateObservation_eq {value observation : ProviderObservation}
    (h : validateObservation value = .ok observation) : observation = value := by
  simp only [validateObservation, Except.ite_throw_bind] at h
  exact (Except.ok.inj h.2.2.2.2.2).symm

theorem Db.insertObservation_eq_ok {observation : ProviderObservation} {db db' : Db} {u : Unit}
    (h : Db.insertObservation observation db = .ok (u, db')) :
    (observation.connection.profileId, observation.connection.revision) ∈
        db.providers.connectionProfileRevisions ∧
      db' = { db with
        providers := { db.providers with
          observations := db.providers.observations ++ [observation] } } := by
  obtain ⟨_, -, h⟩ := Except.bind_eq_ok.mp h
  split at h
  · cases h
  · split at h
    · next hreference => exact ⟨hreference, (Prod.mk.inj (Except.ok.inj h)).2.symm⟩
    · cases h

theorem observeConnection_returns {observation answer : ProviderObservation} {db db' : Db}
    (h : (observeConnection observation).Returns db answer db') :
    (observation.connection.profileId, observation.connection.revision) ∈
        db.providers.connectionProfileRevisions ∧
      db' = { db with
        providers := { db.providers with
          observations := db.providers.observations ++ [observation] } } := by
  simp only [observeConnection, readConnectionProfile, Program.returns_bind,
    Program.returns_ofExcept, Program.returns_orThrow, Program.returns_require,
    Program.returns_query, Program.returns_statement, Program.returns_pure] at h
  obtain ⟨_, _, ⟨hvalid, rfl⟩, _, _, ⟨rfl, rfl⟩, connection, _, ⟨hconnection, rfl⟩, _, _,
    ⟨hstate, rfl⟩, _, _, hinsert, rfl, rfl⟩ := h
  obtain rfl := validateObservation_eq hvalid
  exact Db.insertObservation_eq_ok hinsert

/-- An observation of a connection that passes the checks is added. -/
theorem transact_observeConnection {observation : ProviderObservation} {db : Db}
    {row : ProfileRevision ConnectionProfile}
    (hvalid : validateObservation observation = .ok observation)
    (hcheck : Db.checkObservation observation = .ok ())
    (hconnection : db.providers.connectionProfileRevisions.lookup
      (observation.connection.profileId, observation.connection.revision) = some row)
    (hstate : row.state ≠ .deleted)
    (hnew : ∀ other ∈ db.providers.observations, other.id ≠ observation.id) :
    transact {} (observeConnection observation) db = (.ok observation, { db with
      providers := { db.providers with
        observations := db.providers.observations ++ [observation] } }) := by
  have hmem : (observation.connection.profileId, observation.connection.revision) ∈
      db.providers.connectionProfileRevisions :=
    AList.lookup_isSome.mp (by rw [hconnection]; rfl)
  have hany : ¬ (db.providers.observations.any fun other => other.id = observation.id) = true := by
    simpa using hnew
  have hinsert : Db.insertObservation observation db = .ok ((), { db with
      providers := { db.providers with
        observations := db.providers.observations ++ [observation] } }) := by
    rw [Db.insertObservation, hcheck]
    change (if _ then _ else _) = _
    rw [if_neg hany, if_pos hmem]
  refine transact_of_runs (.bind (.ofExcept hvalid) (.bind (.query _ _) ?_))
  refine .bind (.orThrow hconnection) (.bind (.require hstate) ?_)
  exact .bind (.statement hinsert) (.pure _ _)

end GreenRoom
