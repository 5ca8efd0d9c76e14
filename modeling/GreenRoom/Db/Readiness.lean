import GreenRoom.Db.DecisionCommit

/-!
# What a room's model was tested with

An observation is kept under the revision of a connection, a decision is made for a model
of it.  Here the observations are followed by the tests they are from, and the rooms by the
models they are bound to.

## Main definitions

* `Tested` — a model of a connection has been tested.
* `Bound` — a room is bound to the latest revision of a model.
* `Evidence` — the tables record the tests, and every reference in them leads somewhere.
* `About` — what was tested last of a connection is the model a room uses of it.

## Main results

* `Evidence.connections`, `.model`, `.observed`, `.roomBound` — what the writes keep.
* `About.connections`, `.model`, `.observed`, `.roomBound`
-/

namespace GreenRoom

open JsString Providers

/-- The model `modelId` of a connection revision has answered. -/
structure Tested where
  connection : ProfileRevisionRef
  modelId : JsString
  capabilityFingerprint : JsString
  deriving DecidableEq

/-- The last test of a connection revision. -/
def lastTest (tests : List Tested) (connection : ProfileRevisionRef) : Option Tested :=
  (tests.filter fun test => test.connection = connection).getLast?

theorem lastTest_append (tests : List Tested) (test : Tested) (connection : ProfileRevisionRef) :
    lastTest (tests ++ [test]) connection =
      if test.connection = connection then some test else lastTest tests connection := by
  rw [lastTest, List.filter_append]
  split
  · next h => simp [h]
  · next h => simp [h, lastTest]

theorem lastTest_mem {tests : List Tested} {test : Tested} {connection : ProfileRevisionRef}
    (h : lastTest tests connection = some test) : test ∈ tests ∧ test.connection = connection := by
  have hmem := List.mem_of_getLast? h
  rw [List.mem_filter, decide_eq_true_eq] at hmem
  exact hmem

/-- The tables may be followed: observations to their tests, models to their connections,
bindings to their models, and a model of LM Studio has the name of its connection. -/
structure Evidence (tables : ProviderTables) (tests : List Tested) : Prop where
  keyed : tables.Keyed
  recorded : (tables.observations.map fun o => (o.connection, o.capabilityFingerprint)) =
    tests.map fun test => (test.connection, test.capabilityFingerprint)
  models : ∀ key row, tables.modelProfileRevisions.lookup key = some row →
    (row.profile.connection.profileId, row.profile.connection.revision) ∈
      tables.connectionProfileRevisions
  bindings : ∀ key binding, tables.roomBindingRevisions.lookup key = some binding →
    (binding.model.profileId, binding.model.revision) ∈ tables.modelProfileRevisions
  locals : ∀ key row connection, tables.modelProfileRevisions.lookup key = some row →
    tables.connectionProfileRevisions.lookup
      (row.profile.connection.profileId, row.profile.connection.revision) = some connection →
    (∃ adapter, connection.profile.target = .localEndpoint adapter) →
    ∃ suffix, row.profile.connection.profileId = ofString "lmstudio-" ++ suffix ∧
      row.profile.id = ofString "lmstudio-model-" ++ suffix

/-- The binding is of that room. -/
def ofRoom (roomId : RoomId) (purpose : BindingPurpose) (_ : JsString) (binding : RoomBinding) :
    Bool :=
  binding.roomId = roomId && binding.purpose = purpose

/-- A room is bound to `model`, and `model` is the latest revision of its profile. -/
def Bound (tables : ProviderTables) (roomId : RoomId) (purpose : BindingPurpose)
    (model : ModelProfile) : Prop :=
  ∃ binding state, tables.roomBindingRevisions.newest (ofRoom roomId purpose) = some binding ∧
    tables.modelProfileRevisions.Latest binding.model.profileId binding.model.revision
      ⟨state, model⟩

/-- Whoever uses a model of a connection uses the one that was tested last, if any was. -/
def About (tables : ProviderTables) (tests : List Tested) : Prop :=
  ∀ roomId purpose model, Bound tables roomId purpose model →
    ∀ test ∈ lastTest tests model.connection, test.modelId = model.modelId

section

variable {tables tables' : ProviderTables} {tests : List Tested}

/-- The last observation is of the last test. -/
theorem Evidence.lastTest (h : Evidence tables tests) {connection : ProfileRevisionRef}
    {observation : ProviderObservation}
    (hlast : (tables.observations.filter fun o => o.connection = connection).getLast? =
      some observation) :
    ∃ test, lastTest tests connection = some test ∧
      test.capabilityFingerprint = observation.capabilityFingerprint := by
  have hfilter := congrArg (fun pairs : List (ProfileRevisionRef × JsString) =>
    (pairs.filter fun pair => pair.1 = connection).getLast?) h.recorded
  simp only [List.filter_map, List.getLast?_map] at hfilter
  have hobservation : (tables.observations.filter
      ((fun pair : ProfileRevisionRef × JsString => decide (pair.1 = connection)) ∘
        fun o : ProviderObservation => (o.connection, o.capabilityFingerprint))).getLast? =
      some observation := hlast
  rw [hobservation, Option.map_some, eq_comm, Option.map_eq_some_iff] at hfilter
  obtain ⟨test, htest, heq⟩ := hfilter
  exact ⟨test, htest, (Prod.mk.inj heq).2⟩

/-- Tables that differ in their connections, of which there are only more. -/
structure ConnectionsGrown (tables tables' : ProviderTables) : Prop where
  keyed : tables.Keyed → tables'.Keyed
  connections : tables.connectionProfileRevisions.Extends tables'.connectionProfileRevisions
  models : tables'.modelProfileRevisions = tables.modelProfileRevisions
  bindings : tables'.roomBindingRevisions = tables.roomBindingRevisions
  observations : tables'.observations = tables.observations

theorem ConnectionsGrown.refl (tables : ProviderTables) : ConnectionsGrown tables tables :=
  ⟨id, .refl _, rfl, rfl, rfl⟩

theorem ConnectionsGrown.appended {row : ProfileRevision ConnectionProfile} {db db' : Db}
    (h : connectionProfiles.Appended row db db') : ConnectionsGrown db.providers db'.providers := by
  have hstep := ProviderStep.of_connection h
  refine ⟨hstep.keyed, hstep.grown.connections, ?_, ?_, ?_⟩ <;>
  · rw [h.result]
    rfl

theorem Evidence.connections (h : Evidence tables tests)
    (hgrown : ConnectionsGrown tables tables') : Evidence tables' tests where
  keyed := hgrown.keyed h.keyed
  recorded := hgrown.observations ▸ h.recorded
  models key row hrow := hgrown.connections.mem (h.models key row (hgrown.models ▸ hrow))
  bindings key binding hbinding := by
    rw [hgrown.models]
    exact h.bindings key binding (hgrown.bindings ▸ hbinding)
  locals key row connection hrow hconnection htarget := by
    rw [hgrown.models] at hrow
    obtain ⟨connection', hold⟩ := RevisionTable.mem_iff_exists.mp (h.models key row hrow)
    rw [hgrown.connections _ _ hold] at hconnection
    exact h.locals key row connection hrow (Option.some.inj hconnection ▸ hold) htarget

theorem Bound.of_connections {roomId : RoomId} {purpose : BindingPurpose} {model : ModelProfile}
    (hgrown : ConnectionsGrown tables tables') (hbound : Bound tables' roomId purpose model) :
    Bound tables roomId purpose model := by
  unfold Bound at hbound ⊢
  rwa [hgrown.models, hgrown.bindings] at hbound

theorem About.connections (h : About tables tests) (hgrown : ConnectionsGrown tables tables') :
    About tables' tests :=
  fun roomId purpose model hbound => h roomId purpose model (hbound.of_connections hgrown)

/-! ## A new model revision -/

variable {db db' : Db} {row : ProfileRevision ModelProfile}

theorem Evidence.model (h : Evidence db.providers tests)
    (happended : modelProfiles.Appended row db db')
    (hlocal : ∀ connection, db.providers.connectionProfileRevisions.lookup
        (row.profile.connection.profileId, row.profile.connection.revision) = some connection →
      (∃ adapter, connection.profile.target = .localEndpoint adapter) →
      ∃ suffix, row.profile.connection.profileId = ofString "lmstudio-" ++ suffix ∧
        row.profile.id = ofString "lmstudio-model-" ++ suffix) :
    Evidence db'.providers tests := by
  have hstep := ProviderStep.of_model happended
  have hreferences := of_decide_eq_true happended.references
  rw [happended.result] at hstep ⊢
  refine ⟨hstep.keyed h.keyed, h.recorded, fun key other hother => ?_, fun key binding hbinding =>
    ?_, fun key other connection hother hconnection htarget => ?_⟩
  · have hother : (db.providers.modelProfileRevisions.append row.profile.id row).lookup key =
        some other := hother
    rw [RevisionTable.lookup_append] at hother
    split at hother
    · obtain rfl := Option.some.inj hother
      exact hreferences
    · exact h.models key other hother
  · exact hstep.grown.models.mem (h.bindings key binding hbinding)
  · have hother : (db.providers.modelProfileRevisions.append row.profile.id row).lookup key =
        some other := hother
    rw [RevisionTable.lookup_append] at hother
    split at hother
    · obtain rfl := Option.some.inj hother
      exact hlocal connection hconnection htarget
    · exact h.locals key other connection hother hconnection htarget

/-- Who is bound to the latest revision of a model after one more was bound to it before, and
it is another profile. -/
theorem Bound.of_model {roomId : RoomId} {purpose : BindingPurpose} {model : ModelProfile}
    (h : Evidence db.providers tests) (happended : modelProfiles.Appended row db db')
    (hbound : Bound db'.providers roomId purpose model) :
    Bound db.providers roomId purpose model ∧ model.id ≠ row.profile.id := by
  obtain ⟨binding, state, hbinding, hlatest⟩ := hbound
  rw [happended.result] at hbinding hlatest
  have hbinding : db.providers.roomBindingRevisions.newest (ofRoom roomId purpose) =
    some binding := hbinding
  have hlatest : (db.providers.modelProfileRevisions.append row.profile.id row).Latest
    binding.model.profileId binding.model.revision ⟨state, model⟩ := hlatest
  obtain ⟨id, n, hstored, -⟩ := RevisionTable.of_newest hbinding
  have hmem := h.bindings _ _ hstored
  have hne : binding.model.profileId ≠ row.profile.id := by
    intro heq
    rw [heq] at hlatest hmem
    have hlast := (hlatest.2.symm.trans (RevisionTable.last_append _ _ _))
    have hlt := RevisionTable.lt_next_of_mem hmem
    rw [Option.some.inj hlast] at hlt
    exact Nat.lt_irrefl _ hlt
  rw [RevisionTable.latest_append_ne hne] at hlatest
  refine ⟨⟨binding, state, hbinding, hlatest⟩, ?_⟩
  rw [show model.id = binding.model.profileId from (h.keyed.models.keyed _ _ _ hlatest.1).1]
  exact hne

theorem About.model (habout : About db.providers tests) (h : Evidence db.providers tests)
    (happended : modelProfiles.Appended row db db') : About db'.providers tests :=
  fun roomId purpose model hbound => habout roomId purpose model (hbound.of_model h happended).1

/-! ## A new observation -/

theorem Evidence.observed (h : Evidence tables tests) (test : Tested)
    {observation : ProviderObservation} (hconnection : observation.connection = test.connection)
    (hfingerprint : observation.capabilityFingerprint = test.capabilityFingerprint) :
    Evidence { tables with observations := tables.observations ++ [observation] }
      (tests ++ [test]) where
  keyed := ⟨h.keyed.connections.congr rfl, h.keyed.models.congr rfl, h.keyed.bindings⟩
  recorded := by
    rw [List.map_append, List.map_append, h.recorded, List.map_singleton, List.map_singleton,
      hconnection, hfingerprint]
  models := h.models
  bindings := h.bindings
  locals := h.locals

theorem About.observed (habout : About tables tests) (test : Tested)
    (hmeets : ∀ roomId purpose model, Bound tables roomId purpose model →
      model.connection = test.connection → model.modelId = test.modelId)
    (observations : List ProviderObservation) :
    About { tables with observations } (tests ++ [test]) := by
  intro roomId purpose model hbound last hlast
  rw [lastTest_append] at hlast
  split at hlast
  · next hconnection =>
      cases hlast
      exact (hmeets roomId purpose model hbound hconnection.symm).symm
  · exact habout roomId purpose model hbound last hlast

/-! ## A new binding -/

variable {added : RoomBinding}

theorem Evidence.roomBound (h : Evidence db.providers tests)
    (happended : BindingAppended added db db') : Evidence db'.providers tests := by
  have hstep := ProviderStep.of_binding happended
  have hmodel := happended.model
  rw [happended.result] at hstep ⊢
  refine ⟨hstep.keyed h.keyed, h.recorded, h.models, fun key other hother => ?_, h.locals⟩
  have hother : (db.providers.roomBindingRevisions.append added.id added).lookup key =
    some other := hother
  rw [RevisionTable.lookup_append] at hother
  split at hother
  · obtain rfl := Option.some.inj hother
    exact hmodel
  · exact h.bindings key other hother

/-- After a room has been bound it is bound to that model, and the others are as before. -/
theorem Bound.of_roomBound {roomId : RoomId} {purpose : BindingPurpose} {model : ModelProfile}
    (happended : BindingAppended added db db') (hbound : Bound db'.providers roomId purpose model) :
    (∃ state, db.providers.modelProfileRevisions.Latest added.model.profileId added.model.revision
      ⟨state, model⟩) ∨ Bound db.providers roomId purpose model := by
  obtain ⟨newest, state, hnewest, hlatest⟩ := hbound
  rw [happended.result] at hnewest hlatest
  have hnewest : (db.providers.roomBindingRevisions.append added.id added).newest
    (ofRoom roomId purpose) = some newest := hnewest
  by_cases hroom : ofRoom roomId purpose added.id added = true
  · rw [RevisionTable.newest_append_of_true hroom] at hnewest
    · obtain rfl := Option.some.inj hnewest
      exact .inl ⟨state, hlatest⟩
    · intro id n other hother hsame
      rw [ofRoom, Bool.and_eq_true, decide_eq_true_eq, decide_eq_true_eq] at hroom hsame
      exact happended.identity id n other hother (hsame.1.trans hroom.1.symm)
        (hsame.2.trans hroom.2.symm)
  · rw [RevisionTable.newest_append_of_false (Bool.eq_false_iff.mpr hroom)] at hnewest
    exact .inr ⟨newest, state, hnewest, hlatest⟩

theorem About.roomBound (habout : About db.providers tests)
    (happended : BindingAppended added db db')
    (hmeets : ∀ state model, db.providers.modelProfileRevisions.Latest added.model.profileId
        added.model.revision ⟨state, model⟩ →
      ∀ test ∈ lastTest tests model.connection, test.modelId = model.modelId) :
    About db'.providers tests := by
  intro roomId purpose model hbound
  rcases hbound.of_roomBound happended with ⟨state, hlatest⟩ | hbound
  · exact hmeets state model hlatest
  · exact habout roomId purpose model hbound

end

/-! ## Decisions -/

/-- A room for which a decision is made is bound to its model. -/
theorem Resolves.bound {tables : ProviderTables} {roomId : RoomId} {purpose : BindingPurpose}
    {d : ResolvedRoomProviderDecision} (h : Resolves tables roomId purpose d)
    (hkeyed : tables.Keyed) : Bound tables roomId purpose d.model := by
  refine ⟨d.binding, .enabled, h.binding, h.model, ?_⟩
  obtain ⟨current, hcurrent, hrevision⟩ := h.modelCurrent
  obtain ⟨n, hlatest⟩ := RevisionTable.newest_of_id.mp hcurrent
  have hn : current.profile.revision = n := (hkeyed.models.keyed _ _ _ hlatest.1).2
  rw [← hrevision, hn]
  exact hlatest.2

/-- What a room resolves to is current. -/
theorem Resolves.isCurrent {db : Db} {roomId : RoomId} {purpose : BindingPurpose}
    {d : ResolvedRoomProviderDecision} (h : Resolves db.providers roomId purpose d) :
    ((isResolvedRoomProviderDecisionCurrent d).run (fun _ => none) 0 db).1 = .ok true := by
  obtain ⟨id, n, -, hroom, -⟩ := RevisionTable.of_newest h.binding
  rw [Bool.and_eq_true, decide_eq_true_eq, decide_eq_true_eq] at hroom
  obtain ⟨rfl, rfl⟩ := hroom
  have hruns := Program.Runs.bind (f := fun current => (pure
    (current.binding.id = d.binding.id && current.binding.revision = d.binding.revision &&
      current.model.id = d.model.id && current.model.revision = d.model.revision &&
      current.connection.id = d.connection.id &&
      current.connection.revision = d.connection.revision &&
      current.observation.capabilityFingerprint = d.observation.capabilityFingerprint) :
    DbProgram Bool)) (resolveRoomProviderDecision_runs h) (.pure _ _)
  rw [isResolvedRoomProviderDecisionCurrent, Program.run_attempt (hruns 0)]
  simp

/-- A test of another connection revision leaves a decision as it is. -/
theorem Resolves.observed {tables : ProviderTables} {roomId : RoomId} {purpose : BindingPurpose}
    {d : ResolvedRoomProviderDecision} (h : Resolves tables roomId purpose d)
    {observation : ProviderObservation} (hother : observation.connection ≠ d.model.connection) :
    Resolves { tables with observations := tables.observations ++ [observation] } roomId purpose
      d where
  binding := h.binding
  model := h.model
  modelCurrent := h.modelCurrent
  connection := h.connection
  connectionCurrent := h.connectionCurrent
  observation := by
    rw [List.filter_append, List.filter_cons_of_neg (by simp [hother]), List.filter_nil,
      List.append_nil]
    exact h.observation
  ready := h.ready

end GreenRoom
