import GreenRoom.Api.ModelRequests

/-!
# Whether a decision rests on a test of its model

Requests for connections, tests of models, model profiles and bindings come in any order, and
a test or a probe is under way while others are served.  What a test finds out is kept under
the revision of the connection, so a decision carries what the last test of its connection
found, of whichever model that was.

## Main definitions

* `modelApi` — the transition system.
* `ModelApi.Meets` — a model is tested, and a room is bound, only if the model is the one that the
  rooms use of that connection.

## Main results

* `readiness_evidence` — then every decision rests on a test of its own model, and no test
  makes a decision stale.
* `readiness_evidence_fails` — a room is bound to a model that has never been tested.
-/

namespace GreenRoom.Api

open JsString Providers

structure ModelApi where
  connections : ConnectionApi
  /-- The connection has been read, the credential not yet. -/
  testing : List Testing := []
  /-- The provider has been sent the credential and has not answered. -/
  sent : List Testing := []
  probing : List Probing := []
  /-- The tests that have been successful. -/
  tests : List Tested := []

namespace ModelApi

def backend (s : ModelApi) : Backend := s.connections.backend

def providers (s : ModelApi) : ProviderTables := s.backend.db.providers

def withBackend (s : ModelApi) (backend : Backend) : ModelApi :=
  { s with connections := { s.connections with backend } }

end ModelApi

inductive ModelLabel
  | connection (label : ApiLabel)
  | startTest
  | sendTest
  | tested (testing : Testing)
  | saveModel
  | bindCloud (body : Json ℚ)
  | startLmStudio
  | boundLmStudio (probing : Probing)
  | abandon
  | other
  | restart

section

variable (normalize sha256 : JsString → JsString)

inductive ModelStep : ModelApi → ModelLabel → ModelApi → Prop
  | connection (s : ModelApi) (label : ApiLabel) (connections : ConnectionApi) :
      ApiStep s.connections label connections → label ≠ .restart →
      ModelStep s (.connection label) { s with connections }
  | startTest (s : ModelApi) (connectionId : JsString) (body : Json ℚ)
      (faults : ℕ → Option RouteError) (testing : Testing) (backend : Backend) :
      (startTest normalize connectionId body).run faults 0 s.backend = (.ok testing, backend) →
      ModelStep s .startTest { s.withBackend backend with testing := testing :: s.testing }
  | sendTest (s : ModelApi) (testing : Testing) (faults : ℕ → Option RouteError) (key : Secret)
      (backend : Backend) : testing ∈ s.testing →
      (sendTest testing).run faults 0 s.backend = (.ok key, backend) →
      ModelStep s .sendTest { s.withBackend backend with
        testing := s.testing.erase testing
        sent := testing :: s.sent }
  /-- The provider has answered as it should. -/
  | tested (s : ModelApi) (testing : Testing) (id : JsString) (faults : ℕ → Option RouteError)
      (reply : ModelReply) (backend : Backend) : testing ∈ s.sent →
      (finishTest sha256 testing id).run faults 0 s.backend = (.ok reply, backend) →
      ModelStep s (.tested testing) { s.withBackend backend with
        sent := s.sent.erase testing
        tests := s.tests ++ [⟨testing.reference, testing.modelId,
          cloudFingerprint sha256 testing.connection.definitionId testing.modelId⟩] }
  | saveModel (s : ModelApi) (modelProfileId : Option JsString) (body : Json ℚ)
      (faults : ℕ → Option RouteError) (reply : ModelReply) (backend : Backend) :
      (saveModel normalize modelProfileId body).run faults 0 s.backend = (.ok reply, backend) →
      ModelStep s .saveModel (s.withBackend backend)
  | bindCloud (s : ModelApi) (roomId : RoomId) (body : Json ℚ) (faults : ℕ → Option RouteError)
      (reply : ModelReply) (backend : Backend) :
      (bindCloud roomId body).run faults 0 s.backend = (.ok reply, backend) →
      ModelStep s (.bindCloud body) (s.withBackend backend)
  | startLmStudio (s : ModelApi) (lmStudioModel : Option JsString) (roomId : RoomId)
      (body : Json ℚ) (faults : ℕ → Option RouteError) (probing : Probing) (db : Db) :
      (startLmStudio lmStudioModel roomId body).run faults 0 s.backend.db = (.ok probing, db) →
      ModelStep s .startLmStudio { s with probing := probing :: s.probing }
  /-- LM Studio has answered the probe. -/
  | boundLmStudio (s : ModelApi) (probing : Probing) (id : JsString) (faults : Faults RouteError)
      (result : RoomBinding × ProfileRevision ModelProfile) (db : Db)
      (observation : ProviderObservation) : probing ∈ s.probing →
      transact faults (finishLmStudio sha256 probing id) s.backend.db = (.ok result, db) →
      db.providers.observations.getLast? = some observation →
      ModelStep s (.boundLmStudio probing) { s.withBackend { s.backend with db } with
        probing := s.probing.erase probing
        tests := s.tests ++ [⟨observation.connection, probing.lmStudioModel,
          observation.capabilityFingerprint⟩] }
  /-- Requests fail. -/
  | abandon (s : ModelApi) (testing sent : List Testing) (probing : List Probing) :
      testing.Sublist s.testing → sent.Sublist s.sent → probing.Sublist s.probing →
      ModelStep s .abandon { s with testing, sent, probing }
  /-- The rest of the program works on the rest of the database. -/
  | other (s : ModelApi) (db : Db)
    (decisionSnapshots : KeyedTable JsString DecisionSnapshotRecord) :
      db.providers = { s.providers with decisionSnapshots } →
      ModelStep s .other (s.withBackend { s.backend with db })
  | restart (s : ModelApi) (connections : ConnectionApi) :
      ApiStep s.connections .restart connections →
      ModelStep s .restart { connections, tests := s.tests }

/-- No connection, model or binding there is, and no secret is stored. -/
def modelApi : TransitionSystem ModelApi ModelLabel where
  init s := connectionApi.init s.connections ∧ s.providers = {} ∧
    s = { connections := s.connections }
  step := ModelStep normalize sha256

/-- A model is tested only if the rooms that use the connection use that model; and a room is
bound to a model only if it was tested last of its connection, or none was.  A room that is
bound to LM Studio meets this, unless the model profile of that name has been revised to
another connection. -/
def ModelApi.Meets (s : ModelApi) : ModelLabel → Prop
  | .tested testing => ∀ roomId purpose model, Bound s.providers roomId purpose model →
    model.connection = testing.reference → model.modelId = testing.modelId
  | .bindCloud body => ∀ modelId, namedModel body = some modelId → ∀ n row,
    s.providers.modelProfileRevisions.Latest modelId n row →
      ∀ test ∈ lastTest s.tests row.profile.connection, test.modelId = row.profile.modelId
  | .boundLmStudio probing => ∀ n row,
    s.providers.modelProfileRevisions.Latest (lmStudioModelId sha256 probing.roomId) n row →
      row.profile.connection.profileId ≠ lmStudioConnectionId sha256 probing.roomId →
      ∀ test ∈ lastTest s.tests row.profile.connection, test.modelId = probing.lmStudioModel
  | _ => True

/-- The tables can be followed, and the requests that are served only make connections grow. -/
structure ModelApi.Sound (s : ModelApi) : Prop where
  evidence : Evidence s.providers s.tests
  serving : ∀ serving, s.connections.serving = some serving →
    serving.program.Each ConnectionsWritten

variable {normalize sha256}

/-- What a step does to the tables, for the tests and for the models that rooms use. -/
structure Kept (ok : Prop) (s t : ModelApi) : Prop where
  evidence : Evidence s.providers s.tests → Evidence t.providers t.tests
  about : ok → Evidence s.providers s.tests → About s.providers s.tests → About t.providers t.tests

theorem Kept.of_connections {ok : Prop} {s t : ModelApi} (htests : t.tests = s.tests)
    (h : ConnectionsGrown s.providers t.providers) : Kept ok s t where
  evidence hevidence := htests ▸ hevidence.connections h
  about _ _ habout := htests ▸ habout.connections h

theorem ModelStep.kept {s t : ModelApi} {l : ModelLabel} (h : s.Sound)
    (hstep : ModelStep normalize sha256 s l t) : Kept (s.Meets sha256 l) s t := by
  cases hstep with
  | connection label connections hstep hlabel =>
      refine .of_connections rfl ?_
      cases hstep with
      | request => exact .refl _
      | serve => exact .refl _
      | statement serving program backend hserving hadvances =>
          exact ((h.serving serving hserving).advance (ConnectionsGrown.refl _) hadvances).2
      | answer => exact .refl _
      | restart => exact absurd rfl hlabel
  | startTest connectionId body faults testing backend hrun =>
      obtain rfl := startTest_returns (Program.returns_of_run hrun)
      exact .of_connections rfl (.refl _)
  | sendTest testing faults key backend hmem hrun =>
      obtain rfl := (sendTest_readOnly testing).returns (Program.returns_of_run hrun)
      exact .of_connections rfl (.refl _)
  | tested testing id faults reply backend hmem hrun =>
      have hproviders := finishTest_returns (Program.returns_of_run hrun)
      refine ⟨fun hevidence => ?_, fun hmeets hevidence habout => ?_⟩
      · show Evidence backend.db.providers _
        rw [hproviders]
        exact hevidence.observed _ rfl rfl
      · show About backend.db.providers _
        rw [hproviders]
        refine habout.observed _ ?_ _
        exact hmeets
  | saveModel modelProfileId body faults reply backend hrun =>
      obtain ⟨row, happended, connection, definitionId, hconnection, htarget⟩ :=
        saveModel_returns (Program.returns_of_run hrun)
      refine ⟨fun hevidence => hevidence.model happended fun connection' hconnection' hlocal => ?_,
        fun _ hevidence habout => habout.model hevidence happended⟩
      obtain ⟨adapter, hlocal⟩ := hlocal
      rw [hconnection, Option.some.injEq] at hconnection'
      rw [← hconnection', htarget] at hlocal
      cases hlocal
  | bindCloud roomId body faults reply backend hrun =>
      obtain ⟨added, happended, hnamed⟩ := bindCloud_returns (Program.returns_of_run hrun)
      refine ⟨fun hevidence => hevidence.roomBound happended, fun hmeets hevidence habout => ?_⟩
      exact habout.roomBound happended fun state model hlatest => hmeets _ hnamed _ _ hlatest
  | startLmStudio lmStudioModel roomId body faults probing db hrun =>
      exact .of_connections rfl (.refl _)
  | boundLmStudio probing id faults result db observation hmem hrun hlast =>
      obtain ⟨db₁, db₂, db₃, connection, model, added, hsteps⟩ :=
        finishLmStudio_returns (returns_of_transact hrun)
      rw [hsteps.observation h.evidence, Option.some.injEq] at hlast
      subst hlast
      exact ⟨fun hevidence => hsteps.evidence hevidence,
        fun hmeets hevidence habout => hsteps.about hevidence habout hmeets⟩
  | abandon testing sent probing htesting hsent hprobing => exact .of_connections rfl (.refl _)
  | other db decisionSnapshots hproviders =>
      refine .of_connections rfl ?_
      show ConnectionsGrown s.providers db.providers
      rw [hproviders]
      exact ⟨fun hkeyed => ⟨hkeyed.connections.congr rfl, hkeyed.models.congr rfl, hkeyed.bindings⟩,
        .refl _, rfl, rfl, rfl⟩
  | restart connections hstep =>
      cases hstep
      exact .of_connections rfl (.refl _)

theorem evidence_empty : Evidence {} [] where
  keyed := ⟨.of_empty rfl, .of_empty rfl, fun _ _ _ h => by cases h⟩
  recorded := rfl
  models _ _ h := by cases h
  bindings _ _ h := by cases h
  locals _ _ _ h := by cases h

theorem about_empty : About {} [] := by
  rintro roomId purpose model ⟨_, _, hnewest, -⟩
  cases hnewest

theorem modelApi_sound : (modelApi normalize sha256).Inductive ModelApi.Sound where
  init s hs := by
    obtain ⟨hconnections, hproviders, hs⟩ := hs
    refine ⟨?_, ?_⟩
    · rw [hproviders, hs]
      exact evidence_empty
    · rw [hconnections.2]
      rintro _ ⟨⟩
  step s l t h hstep := by
    refine ⟨(ModelStep.kept h hstep).evidence h.evidence, ?_⟩
    cases hstep with
    | connection label connections hstep hlabel =>
        cases hstep with
        | request => exact h.serving
        | serve loopback request =>
            rintro _ ⟨⟩
            exact each_connectionsWritten loopback request
        | statement serving program backend hserving hadvances =>
            rintro _ ⟨⟩
            exact ((h.serving serving hserving).advance (ConnectionsGrown.refl _) hadvances).1
        | answer =>
            rintro _ ⟨⟩
        | restart => exact absurd rfl hlabel
    | restart connections hstep =>
        cases hstep
        rintro _ ⟨⟩
    | _ => exact h.serving

/-- While every step meets the condition, the rooms use the models that were tested last. -/
theorem about_inductive : ((modelApi normalize sha256).restrict (ModelApi.Meets sha256)).Inductive
    fun s => s.Sound ∧ About s.providers s.tests where
  init s hs := by
    have hsound : (modelApi normalize sha256).Inductive ModelApi.Sound := modelApi_sound
    refine ⟨hsound.init s hs, ?_⟩
    rw [hs.2.1, hs.2.2]
    exact about_empty
  step s l t h hstep := by
    obtain ⟨hsound, habout⟩ := h
    obtain ⟨hmeets, hstep⟩ := hstep
    exact ⟨modelApi_sound.step s l t hsound hstep,
      (ModelStep.kept hsound hstep).about hmeets hsound.evidence habout⟩

/-- A decision rests on a test: there was one of the same revision of its connection, with its
model, that recorded its fingerprint. -/
def Rests (tests : List Tested) (d : ResolvedRoomProviderDecision) : Prop :=
  ∃ test ∈ tests, test.connection = d.model.connection ∧ test.modelId = d.model.modelId ∧
    test.capabilityFingerprint = d.observation.capabilityFingerprint

/-- **Readiness evidence.**  In every run whose steps all meet the condition: every decision
there is rests on a test of its own model; and a decision that is current stays current when
another model is tested. -/
theorem readiness_evidence {s : ModelApi}
    (hs : ((modelApi normalize sha256).restrict (ModelApi.Meets sha256)).Reachable s) :
    ∀ roomId purpose d db', (resolveRoomProviderDecision roomId purpose).Returns s.backend.db
      d db' → (Rests s.tests d ∧ d.model.connection = ⟨d.connection.id, d.connection.revision⟩) ∧
      ∀ testing t, ((modelApi normalize sha256).restrict (ModelApi.Meets sha256)).step s
          (.tested testing) t → testing.modelId ≠ d.model.modelId →
        ((isResolvedRoomProviderDecisionCurrent d).run (fun _ => none) 0 t.backend.db).1 =
          .ok true := by
  intro roomId purpose d db' hreturns
  obtain ⟨hsound, habout⟩ := about_inductive.reachable hs
  have hevidence := hsound.evidence
  have hresolves := resolveRoomProviderDecision_returns hreturns
  have hbound := hresolves.bound hevidence.keyed
  refine ⟨?_, fun testing t hstep hother => ?_⟩
  · obtain ⟨test, htest, hfingerprint⟩ := hevidence.lastTest hresolves.observation
    obtain ⟨hmem, hconnection⟩ := lastTest_mem htest
    refine ⟨⟨test, hmem, hconnection, habout roomId purpose d.model hbound test htest,
      hfingerprint⟩, ?_⟩
    obtain ⟨profile, hrow, hprofile⟩ := hresolves.connection
    obtain ⟨hid, hrevision⟩ := hevidence.keyed.connections.keyed _ _ _ hrow
    rw [← hprofile]
    exact ref_eq hid.symm hrevision.symm
  · obtain ⟨hmeets, hstep⟩ := hstep
    cases hstep with
    | tested _ id faults reply backend hmem hrun =>
        have hproviders := finishTest_returns (Program.returns_of_run hrun)
        have hafter : Resolves backend.db.providers roomId purpose d := by
          rw [hproviders]
          exact hresolves.observed fun hconnection =>
            hother (hmeets roomId purpose d.model hbound hconnection.symm).symm
        exact hafter.isCurrent

/-! ## Two models of a connection -/

/-- Requests for connections are served, and the models are as they were. -/
theorem connections_run {s : ModelApi} {connections : ConnectionApi} {ls : List ApiLabel}
    (h : (connectionApi.restrict fun _ label => label ≠ .restart).Run s.connections ls
      connections) :
    ((modelApi normalize sha256).restrict (ModelApi.Meets sha256)).Run s (ls.map .connection)
      { s with connections } := by
  generalize hc : s.connections = c at h
  induction h generalizing s with
  | nil c =>
      subst hc
      exact .nil s
  | cons hstep _ ih =>
      subst hc
      exact .cons ⟨trivial, .connection s _ _ hstep.2 hstep.1⟩ (ih rfl)

end

namespace CloudModel

def room : RoomId := ofString "room-1"

def acknowledged : JsString × Json ℚ := (ofString "acknowledgedConnectionRevision", .num 1)

def test (modelId : String) : Json ℚ :=
  .obj [(ofString "connectionRevision", .num 1), (ofString "modelId", .str (ofString modelId))]

def model (id modelId : String) : Json ℚ := .obj [(ofString "id", .str (ofString id)),
  (ofString "connectionId", .str CloudKey.id), (ofString "connectionRevision", .num 1),
  (ofString "modelId", .str (ofString modelId)), (ofString "temperature", .num 1),
  (ofString "maxOutputTokens", .num 256), acknowledged]

def binding (modelProfileId : String) : Json ℚ := .obj [
  (ofString "id", .str (ofString "binding-1")),
  (ofString "expectedRevision", .num 0),
  (ofString "modelProfileId", .str (ofString modelProfileId)),
  (ofString "modelProfileRevision", .num 1), acknowledged]

def connected : ConnectionProfile where
  id := CloudKey.id
  revision := 1
  target := .approvedProvider .openrouter
  credentialRef := some (credentialReference CloudKey.id 1)

/-- The first of the models is tested. -/
def testing : Testing where
  connection := {
    profile := connected
    definitionId := .openrouter
    credentialRef := credentialReference CloudKey.id 1 }
  modelId := ofString "maker/model-a"

def saved (modelId : String) : ModelProfile where
  id := ofString "model-1"
  revision := 1
  connection := ⟨CloudKey.id, 1⟩
  modelId := ofString modelId
  requiredCapabilities := [.chat]
  generation := { temperature := 1, maxOutputTokens := 256 }

def bound : RoomBinding where
  id := ofString "binding-1"
  revision := 1
  roomId := room
  purpose := .personaDefault
  model := ⟨ofString "model-1", 1⟩

/-- There is a room, and the secret of the connection is stored. -/
def backend (providers : ProviderTables) : Backend where
  db := {
    rooms := (∅ : KeyedTable _ _).insert room { title := ofString "Stage", status := .active }
    providers }
  credentials := (∅ : KeyedTable _ _).insert (credentialReference CloudKey.id 1) (ofString "key-1")
  lastWritten := (∅ : KeyedTable _ _).insert (credentialReference CloudKey.id 1) (ofString "key-1")

def connectedTables : ProviderTables where
  connectionProfileRevisions := (∅ : KeyedTable _ _).insert (CloudKey.id, 1) ⟨.enabled, connected⟩

/-- A digest in hexadecimal. -/
def isHexDigest (s : JsString) : Bool :=
  s.length = 64 && s.all fun u => isDigit u || (unit 'a' ≤ u && u ≤ unit 'f')

theorem isFingerprint_of_isHexDigest {s : JsString} (h : isHexDigest s = true) :
    Parse.isFingerprint (ofString "sha256:" ++ s) = true := by
  simp only [isHexDigest, Bool.and_eq_true, decide_eq_true_eq] at h
  have hlength : (ofString "sha256:").length = 7 := by decide
  simp only [Parse.isFingerprint, Bool.and_eq_true, decide_eq_true_eq]
  refine ⟨⟨List.take_left' hlength, by rw [List.length_append, hlength, h.1]⟩, ?_⟩
  rw [List.drop_left' hlength]
  exact h.2

variable (sha256 : JsString → JsString)

def testedTables : ProviderTables :=
  { connectedTables with observations := [testing.observation sha256 (ofString "1")] }

def savedTables (modelId : String) : ProviderTables :=
  { testedTables sha256 with
    modelProfileRevisions :=
      (∅ : KeyedTable _ _).insert (ofString "model-1", 1) ⟨.enabled, saved modelId⟩ }

def boundTables (modelId : String) : ProviderTables :=
  { savedTables sha256 modelId with
    roomBindingRevisions := (∅ : KeyedTable _ _).insert (ofString "binding-1", 1) bound }

theorem created_eq : CloudKey.created.1 = .ok CloudKey.createdReply := rfl

theorem start_run : (startTest id CloudKey.id (test "maker/model-a")).run (fun _ => none) 0
    (backend connectedTables) = (.ok testing, backend connectedTables) := rfl

theorem send_run : (sendTest testing).run (fun _ => none) 0 (backend connectedTables) =
    (.ok (ofString "key-1"), backend connectedTables) := rfl

variable {sha256} in
/-- The answer of the provider is recorded. -/
theorem observed (hsha : ∀ text, isHexDigest (sha256 text) = true) :
    transact {} (observeConnection (testing.observation sha256 (ofString "1")))
      (backend connectedTables).db = (.ok (testing.observation sha256 (ofString "1")),
        (backend (testedTables sha256)).db) := by
  have hprint :
    Parse.isFingerprint (testing.observation sha256 (ofString "1")).capabilityFingerprint =
      true := isFingerprint_of_isHexDigest (hsha _)
  have hevidence : (evidenceJson [(ofString "chat", true)]).length ≤ 16384 := by decide
  have hconnection : connectedTables.connectionProfileRevisions.lookup (CloudKey.id, 1) =
      some ⟨.enabled, connected⟩ := rfl
  refine transact_observeConnection ?_ ?_ hconnection (by decide) (List.forall_mem_nil _)
  · simp only [validateObservation, Except.ite_throw_bind, hprint]
    exact ⟨show ¬ (ofString "observation-1" = [] ∨ 128 < (ofString "observation-1").length ∨
        trim (ofString "observation-1") ≠ ofString "observation-1") by decide,
      show ¬ ((!isIdText CloudKey.id) = true ∨ 1 < 1) by decide, by simp,
      show ¬ (!([(ofString "chat", true)].all fun field => field.1 ∈ observationEvidenceFields)) =
        true by decide, not_lt.mpr hevidence, rfl⟩
  · refine Except.bind_eq_ok.mpr ⟨(), Db.abortWhen_ok.mpr ?_, ?_⟩
    · exact show ¬ ∃ field ∈ [(ofString "chat", true)],
        field.1 ∉ observationEvidenceFields by decide
    refine Except.bind_eq_ok.mpr ⟨(), Db.check_ok.mpr ?_, ?_⟩
    · exact show 1 ≤ sqlLength (ofString "observation-1") ∧
        sqlLength (ofString "observation-1") ≤ 128 ∧
        sqlTrim (ofString "observation-1") = ofString "observation-1" by decide
    refine Except.bind_eq_ok.mpr ⟨(), Db.check_ok.mpr (isSqlFingerprint_of_isFingerprint hprint),
      ?_⟩
    exact Db.check_ok.mpr ((sqlLength_le _).trans hevidence)

variable {sha256} in
theorem finish_run (hsha : ∀ text, isHexDigest (sha256 text) = true) :
    ∃ reply, (finishTest sha256 testing (ofString "1")).run (fun _ => none) 0
      (backend connectedTables) = (.ok reply, backend (testedTables sha256)) := by
  refine ⟨.tested 1 testing.modelId
    (testing.observation sha256 (ofString "1")).capabilityFingerprint, ?_⟩
  simp only [finishTest, onDatabase, Program.statement, Bind.bind, Program.bind, Program.run,
    observed hsha]
  rfl

theorem save_run_a : ∃ reply, (saveModel id none (model "model-1" "maker/model-a")).run
    (fun _ => none) 0 (backend (testedTables sha256)) =
      (.ok reply, backend (savedTables sha256 "maker/model-a")) := ⟨_, rfl⟩

theorem save_run_b : ∃ reply, (saveModel id none (model "model-1" "maker/model-b")).run
    (fun _ => none) 0 (backend (testedTables sha256)) =
      (.ok reply, backend (savedTables sha256 "maker/model-b")) := ⟨_, rfl⟩

theorem bind_run (modelId : String) : ∃ reply, (bindCloud room (binding "model-1")).run
    (fun _ => none) 0 (backend (savedTables sha256 modelId)) =
      (.ok reply, backend (boundTables sha256 modelId)) := ⟨_, rfl⟩

def decision (modelId : String) : ResolvedRoomProviderDecision where
  binding := bound
  model := saved modelId
  connection := connected.toSnapshotConnectionProfile
  observation := testing.observation sha256 (ofString "1")

theorem resolve_run (modelId : String) : (resolveRoomProviderDecision room .personaDefault).run
    (fun _ => none) 0 (backend (boundTables sha256 modelId)).db =
      (.ok (decision sha256 modelId), (backend (boundTables sha256 modelId)).db) := rfl

/-- The first model has been tested. -/
def passed : Tested :=
  ⟨⟨CloudKey.id, 1⟩, ofString "maker/model-a",
    cloudFingerprint sha256 .openrouter (ofString "maker/model-a")⟩

/-- The connection has been created, and the request for that answered. -/
def afterCreation (providers : ProviderTables) : ConnectionApi where
  backend := backend providers
  served := [⟨CloudKey.creation, {}, CloudKey.createdReply, CloudKey.created.2⟩]

variable {sha256} in
theorem tested_run (hsha : ∀ text, isHexDigest (sha256 text) = true) :
    ((modelApi id sha256).restrict (ModelApi.Meets sha256)).Reachable
    { connections := afterCreation (testedTables sha256), tests := [passed sha256] } := by
  have hok : ∀ (s : ConnectionApi) (label : ApiLabel), label ≠ .serve → label ≠ .restart →
      label ≠ .restart := fun _ _ _ h => h
  let s₁ : ModelApi := { connections := {
    backend := CloudKey.created.2
    served := [⟨CloudKey.creation, {}, CloudKey.createdReply, CloudKey.created.2⟩] } }
  obtain ⟨ls, hcreated⟩ : ∃ ls, (connectionApi.restrict fun _ label => label ≠ .restart).Run
      { backend := {}, served := [] } ls s₁.connections :=
    request_run hok (by decide)
      (Prod.ext created_eq rfl : CloudKey.created = (.ok CloudKey.createdReply, CloudKey.created.2))
  let s₀ : ModelApi := { connections := { backend := {} } }
  have hinit : ((modelApi id sha256).restrict (ModelApi.Meets sha256)).init s₀ :=
    ⟨⟨CloudKey.unstored, rfl⟩, rfl, rfl⟩
  have hconnected : ((modelApi id sha256).restrict (ModelApi.Meets sha256)).Run s₀
      (ls.map .connection) s₁ := connections_run hcreated
  have hother : ModelStep id sha256 s₁ .other { connections := afterCreation connectedTables } :=
    .other s₁ (backend connectedTables).db ∅ rfl
  let s₂ : ModelApi := { connections := afterCreation connectedTables }
  have hstart : ModelStep id sha256 s₂ .startTest { s₂ with testing := [testing] } :=
    .startTest s₂ _ _ _ _ _ start_run
  have hsend : ModelStep id sha256 { s₂ with testing := [testing] } .sendTest
      { s₂ with sent := [testing] } :=
    .sendTest { s₂ with testing := [testing] } testing _ _ _ List.mem_cons_self send_run
  obtain ⟨reply, hfinish⟩ := finish_run hsha
  have htested : ModelStep id sha256 { s₂ with sent := [testing] } (.tested testing)
      { connections := afterCreation (testedTables sha256), tests := [passed sha256] } :=
    .tested { s₂ with sent := [testing] } testing _ _ _ _ List.mem_cons_self hfinish
  have hmeets : ModelApi.Meets sha256 { s₂ with sent := [testing] } (.tested testing) := by
    rintro roomId purpose model ⟨_, _, hnewest, -⟩
    cases hnewest
  have h₁ := (TransitionSystem.Reachable.of_init hinit).run hconnected
  have h₂ := h₁.step (l := ModelLabel.other) ⟨trivial, hother⟩
  have h₃ := h₂.step (l := ModelLabel.startTest) ⟨trivial, hstart⟩
  have h₄ := h₃.step (l := ModelLabel.sendTest) ⟨trivial, hsend⟩
  exact h₄.step ⟨hmeets, htested⟩

/-- The digest of what the fingerprint of the first model is made of. -/
def modelDigest (_ : JsString) : JsString :=
  ofString "33bb12272715cacb6b156077338c3fb1a667d17d0522af5d4ba56467da724adc"

theorem isHexDigest_modelDigest (text : JsString) : isHexDigest (modelDigest text) = true :=
  show isHexDigest (modelDigest []) = true by decide

end CloudModel

open CloudModel in
/-- The first model is tested and saved, and the room is bound to it. -/
theorem readiness_evidence_tested :
    Rests [passed modelDigest] (decision modelDigest "maker/model-a") := by
  let s : ModelApi := {
    connections := afterCreation (testedTables modelDigest)
    tests := [passed modelDigest] }
  obtain ⟨_, hsave⟩ := save_run_a modelDigest
  have hsaved : ModelStep id modelDigest s .saveModel
      { s with connections := afterCreation (savedTables modelDigest "maker/model-a") } :=
    .saveModel s _ _ _ _ _ hsave
  obtain ⟨_, hbind⟩ := bind_run modelDigest "maker/model-a"
  have hbound : ModelStep id modelDigest
      { s with connections := afterCreation (savedTables modelDigest "maker/model-a") }
      (.bindCloud _)
      { s with connections := afterCreation (boundTables modelDigest "maker/model-a") } :=
    .bindCloud { s with connections := afterCreation (savedTables modelDigest "maker/model-a") }
      _ _ _ _ _ hbind
  have hmeets : ModelApi.Meets modelDigest
      { s with connections := afterCreation (savedTables modelDigest "maker/model-a") }
      (.bindCloud (binding "model-1")) := by
    rintro _ ⟨⟩ n row hlatest test htest
    have hrow : (savedTables modelDigest "maker/model-a").modelProfileRevisions.Latest
        (ofString "model-1") 1 ⟨.enabled, saved "maker/model-a"⟩ := ⟨rfl, rfl⟩
    obtain ⟨rfl, rfl⟩ := hrow.unique hlatest
    obtain ⟨hmem, -⟩ := lastTest_mem htest
    rw [List.mem_singleton.mp hmem]
    rfl
  have htested := tested_run isHexDigest_modelDigest
  have hreachable :=
    (htested.step (l := ModelLabel.saveModel) ⟨trivial, hsaved⟩).step ⟨hmeets, hbound⟩
  exact (readiness_evidence hreachable room .personaDefault _ _
    (Program.returns_of_run (resolve_run modelDigest "maker/model-a"))).1.1

open CloudModel in
/-- One model of a connection is tested, and the room is bound to another. -/
theorem readiness_evidence_fails : ¬ ∃ sha256 : JsString → JsString,
    (∀ text, isHexDigest (sha256 text) = true) ∧
      ∀ s, (modelApi id sha256).Reachable s → ∀ roomId purpose d db',
        (resolveRoomProviderDecision roomId purpose).Returns s.backend.db d db' →
          Rests s.tests d := by
  rintro ⟨sha256, hsha, h⟩
  let s : ModelApi := {
    connections := afterCreation (testedTables sha256)
    tests := [passed sha256] }
  obtain ⟨_, hsave⟩ := save_run_b sha256
  have hsaved : ModelStep id sha256 s .saveModel
      { s with connections := afterCreation (savedTables sha256 "maker/model-b") } :=
    .saveModel s _ _ _ _ _ hsave
  obtain ⟨_, hbind⟩ := bind_run sha256 "maker/model-b"
  have hbound : ModelStep id sha256
      { s with connections := afterCreation (savedTables sha256 "maker/model-b") } (.bindCloud _)
      { s with connections := afterCreation (boundTables sha256 "maker/model-b") } :=
    .bindCloud { s with connections := afterCreation (savedTables sha256 "maker/model-b") }
      _ _ _ _ _ hbind
  have hreachable := ((tested_run hsha).of_restrict.step hsaved).step hbound
  obtain ⟨test, hmem, -, hmodel, -⟩ :=
    h _ hreachable room .personaDefault _ _
    (Program.returns_of_run (resolve_run sha256 "maker/model-b"))
  rw [List.mem_singleton.mp hmem] at hmodel
  have hother : ofString "maker/model-a" ≠ ofString "maker/model-b" := by decide
  exact hother hmodel

end GreenRoom.Api
