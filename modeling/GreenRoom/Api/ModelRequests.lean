import GreenRoom.Api.ConnectionRequests
import GreenRoom.Api.ModelRoutes
import GreenRoom.Db.Readiness

/-!
# What the routes do to the tables of profiles

Each route changes one thing at most: the connections grow, or a model revision, an
observation or a binding is added; only the binding to LM Studio does several of these, in one
transaction.

## Main results

* `each_connectionsWritten` — every statement of a request for a connection.
* `startTest_returns`, `finishTest_returns`, `saveModel_returns`, `bindCloud_returns` — the
  routes of models.
* `finishLmStudio_returns` — the transaction, step by step.
-/

namespace GreenRoom.Api

open JsString Providers

/-! ## Requests for connections -/

/-- The connections have grown, and nothing else has changed but the credentials. -/
def ConnectionsWritten (b b' : Backend) : Prop := ConnectionsGrown b.db.providers b'.db.providers

section

variable {α : Type}

theorem onDatabase_returns {action : DbProgram α} {b b' : Backend} {a : α}
    (h : (onDatabase action).Returns b a b') :
    action.Returns b.db a b'.db ∧ b' = { b with db := b'.db } := by
  have hexec := Program.returns_statement.mp h
  split at hexec
  · next hrun =>
      obtain ⟨rfl, rfl⟩ := Prod.mk.inj (Except.ok.inj hexec)
      exact ⟨returns_of_transact hrun, rfl⟩
  · cases hexec

theorem each_onDatabase {action : DbProgram α}
    (h : ∀ db a db', action.Returns db a db' → ConnectionsGrown db.providers db'.providers) :
    (onDatabase action).Each ConnectionsWritten := by
  refine .statement fun b a b' hexec => ?_
  exact h _ _ _ (onDatabase_returns (Program.returns_statement.mpr hexec)).1

theorem each_profiles (operation : ProfileOperation ConnectionProfile) :
    (onDatabase (connectionProfiles.program operation)).Each ConnectionsWritten := by
  refine each_onDatabase fun db a db' h => ?_
  rcases ProfileKind.program_returns h with rfl | ⟨row, happended, -⟩
  · exact ConnectionsGrown.refl _
  · exact .appended happended

theorem each_readCurrent (id : JsString) :
    (onDatabase (readCurrentConnectionProfile id)).Each ConnectionsWritten := by
  refine each_onDatabase fun db a db' h => ?_
  obtain ⟨-, rfl⟩ := Program.returns_query.mp h
  exact ConnectionsGrown.refl _

theorem each_onCredentials (operation : CredentialStore → Except JsError (α × CredentialStore)) :
    (onCredentials operation).Each ConnectionsWritten := by
  refine .statement fun b a b' hexec => ?_
  split at hexec
  · obtain ⟨-, rfl⟩ := Prod.mk.inj (Except.ok.inj hexec)
    exact ConnectionsGrown.refl _
  · cases hexec

theorem each_writing (reference : JsString) (secret : Secret)
    (operation : JsString → Secret → CredentialStore → Except JsError (Unit × CredentialStore)) :
    (writing reference secret operation).Each ConnectionsWritten := by
  refine .statement fun b a b' hexec => ?_
  split at hexec
  · obtain ⟨-, rfl⟩ := Prod.mk.inj (Except.ok.inj hexec)
    exact ConnectionsGrown.refl _
  · cases hexec

theorem each_orUnavailable {p : RouteProgram α} (h : p.Each ConnectionsWritten) :
    (orUnavailable p).Each ConnectionsWritten :=
  h.attempt fun _ => trivial

end

theorem each_deleteCredential (reference : JsString) :
    (deleteCredential reference).Each ConnectionsWritten :=
  .bind (each_orUnavailable (each_onCredentials _)) fun _ => trivial

theorem each_writeCredential (reference : JsString) (value : Secret) :
    (writeCredential reference value).Each ConnectionsWritten := by
  refine .bind (each_orUnavailable (each_onCredentials _)) fun existing => each_orUnavailable ?_
  cases existing <;> exact each_writing _ _ _

theorem each_deletePrevious (id : JsString) (expected : ℕ) :
    (deletePrevious id expected).Each ConnectionsWritten :=
  .onlyIf (.bind (.ofExcept _) fun _ => each_deleteCredential _)

theorem each_replying {p : RouteProgram RouteReply} (h : p.Each ConnectionsWritten) :
    (replying p).Each ConnectionsWritten :=
  h.attempt fun _ => trivial

theorem each_createConnection (loopback : Bool) (body : Json ℚ) :
    (createConnection loopback body).Each ConnectionsWritten := by
  refine each_replying (.bind (.require _ _) fun _ => .bind (.ofExcept _) fun _ => ?_)
  refine .bind (.ofExcept _) fun _ => .bind (each_readCurrent _) fun existing => ?_
  cases existing with
  | some existing =>
      refine .bind (.require _ _) fun _ => .bind (each_orUnavailable (each_onCredentials _))
        fun _ => ?_
      exact .bind (.require _ _) fun _ => .bind (each_writeCredential _ _) fun _ => trivial
  | none =>
      refine .bind (each_writeCredential _ _) fun _ => ?_
      exact .bind (each_profiles (.create _)) fun _ => trivial

theorem each_replaceCredential (loopback : Bool) (connectionId : JsString) (body : Json ℚ) :
    (replaceCredential loopback connectionId body).Each ConnectionsWritten := by
  refine each_replying (.bind (.require _ _) fun _ => .bind (.ofExcept _) fun _ => ?_)
  refine .bind (.ofExcept _) fun _ => .bind (.ofExcept _) fun _ =>
    .bind (each_readCurrent _) fun _ => ?_
  refine .bind (.orThrow _ _) fun _ => .bind (.require _ _) fun _ => .bind (.ofExcept _) fun _ => ?_
  refine .bind (.ofExcept _) fun _ => .bind (.ofExcept _) fun _ => ?_
  split
  · refine .bind (.require _ _) fun _ => .bind (each_writeCredential _ _) fun _ => ?_
    exact .bind (each_deleteCredential _) fun _ => trivial
  · refine .bind (.require _ _) fun _ => .bind (each_deletePrevious _ _) fun _ => ?_
    refine .bind (each_writeCredential _ _) fun _ => .bind (each_profiles (.revise _ _)) fun _ => ?_
    exact .bind (each_deleteCredential _) fun _ => trivial

theorem each_disableConnection (loopback : Bool) (connectionId : JsString) (body : Json ℚ) :
    (disableConnection loopback connectionId body).Each ConnectionsWritten := by
  refine each_replying (.bind (.require _ _) fun _ => .bind (.ofExcept _) fun _ => ?_)
  refine .bind (each_readCurrent _) fun _ => .bind (.orThrow _ _) fun _ =>
    .bind (.ofExcept _) fun _ => ?_
  split
  · exact .bind (each_deleteCredential _) fun _ => trivial
  · refine .bind (.require _ _) fun _ => .bind (each_deletePrevious _ _) fun _ => ?_
    refine .bind (each_profiles (.disable _ _)) fun _ => ?_
    exact .bind (each_deleteCredential _) fun _ => trivial

theorem each_deleteConnection (loopback : Bool) (connectionId : JsString) (body : Json ℚ) :
    (deleteConnection loopback connectionId body).Each ConnectionsWritten := by
  refine each_replying (.bind (.require _ _) fun _ => .bind (.ofExcept _) fun _ => ?_)
  refine .bind (each_readCurrent _) fun _ => .bind (.orThrow _ _) fun _ =>
    .bind (.ofExcept _) fun _ => ?_
  split
  · split
    · exact .bind (each_deleteCredential _) fun _ => trivial
    · exact .bind (.require _ _) fun _ => trivial
  · refine .bind (.require _ _) fun _ => .bind (each_deletePrevious _ _) fun _ => ?_
    refine .bind (each_profiles (.delete _ _)) fun _ => ?_
    exact .bind (each_deleteCredential _) fun _ => trivial

/-- **Requests for connections only make the connections grow.** -/
theorem each_connectionsWritten (loopback : Bool) (request : ConnectionRequest) :
    (request.program loopback).Each ConnectionsWritten := by
  cases request with
  | create body => exact each_createConnection loopback body
  | replace connectionId body => exact each_replaceCredential loopback connectionId body
  | disable connectionId body => exact each_disableConnection loopback connectionId body
  | delete connectionId body => exact each_deleteConnection loopback connectionId body

/-! ## Requests for models -/

section

variable {normalize sha256 : JsString → JsString} {b b' : Backend}

theorem cloudConnection_returns {id : JsString} {connectionRevision : ℕ}
    {connection : CloudConnection}
    (h : (cloudConnection id connectionRevision).Returns b connection b') :
    b' = b ∧ ∃ row, b.db.providers.connectionProfileRevisions.lookup (id, connectionRevision) =
      some row ∧ row.profile = connection.profile ∧
        row.profile.target = .approvedProvider connection.definitionId := by
  simp only [cloudConnection, readConnectionProfile, readCurrentConnectionProfile,
    Program.returns_bind] at h
  obtain ⟨found, b₁, hfound, current, b₂, hcurrent, h⟩ := h
  obtain ⟨hfound, hb₁⟩ := onDatabase_returns hfound
  obtain ⟨hfound, hdb₁⟩ := Program.returns_query.mp hfound
  obtain rfl : b₁ = b := by rw [hb₁, hdb₁]
  obtain ⟨hcurrent, hb₂⟩ := onDatabase_returns hcurrent
  obtain ⟨-, hdb₂⟩ := Program.returns_query.mp hcurrent
  obtain rfl : b₂ = b₁ := by rw [hb₂, hdb₂]
  obtain ⟨_, _, hdeleted, row, _, hrow, _, _, hrevision, _, _, hstate, h⟩ := h
  obtain ⟨-, rfl⟩ := Program.returns_require.mp hdeleted
  obtain ⟨rfl, rfl⟩ := Program.returns_orThrow.mp hrow
  obtain ⟨-, rfl⟩ := Program.returns_require.mp hrevision
  obtain ⟨-, rfl⟩ := Program.returns_require.mp hstate
  split at h
  · exact absurd h Program.returns_throw
  · next definitionId htarget =>
      simp only [Program.returns_bind, Program.returns_orThrow, Program.returns_pure] at h
      obtain ⟨_, _, ⟨-, rfl⟩, rfl, rfl⟩ := h
      exact ⟨rfl, row, hfound.symm, rfl, htarget⟩

theorem startTest_returns {connectionId : JsString} {value : Json ℚ} {testing : Testing}
    (h : (startTest normalize connectionId value).Returns b testing b') : b' = b := by
  simp only [startTest, Program.returns_bind, Program.returns_ofExcept, Program.returns_pure] at h
  obtain ⟨_, _, ⟨-, rfl⟩, _, _, ⟨-, rfl⟩, _, _, ⟨-, rfl⟩, _, _, hconnection, _, _, ⟨-, rfl⟩,
    -, rfl⟩ := h
  exact (cloudConnection_returns hconnection).1

theorem sendTest_readOnly (testing : Testing) : (sendTest testing).ReadOnly := by
  refine .bind (.attempt (.stmt (fun b a b' hexec => ?_) fun r => ?_) fun _ => .throw _)
    fun _ => .orThrow _ _
  · obtain ⟨-, rfl⟩ := Prod.mk.inj (Except.ok.inj hexec)
    rfl
  · cases r
    · exact .throw _
    · exact .pure _

theorem finishTest_returns {testing : Testing} {id : JsString} {reply : ModelReply}
    (h : (finishTest sha256 testing id).Returns b reply b') :
    b'.db.providers = { b.db.providers with
      observations := b.db.providers.observations ++ [testing.observation sha256 id] } := by
  simp only [finishTest, Program.returns_bind, Program.returns_pure] at h
  obtain ⟨_, _, hobserve, -, rfl⟩ := h
  rw [(observeConnection_returns (onDatabase_returns hobserve).1).2]

/-- A model profile is saved only for a connection to a cloud provider. -/
theorem saveModel_returns {modelProfileId : Option JsString} {value : Json ℚ} {reply : ModelReply}
    (h : (saveModel normalize modelProfileId value).Returns b reply b') :
    ∃ row, modelProfiles.Appended row b.db b'.db ∧
      ∃ connection definitionId, b.db.providers.connectionProfileRevisions.lookup
        (row.profile.connection.profileId, row.profile.connection.revision) = some connection ∧
          connection.profile.target = .approvedProvider definitionId := by
  simp only [saveModel, Program.returns_bind, Program.returns_ofExcept,
    Program.returns_require] at h
  obtain ⟨_, _, ⟨-, rfl⟩, _, _, ⟨-, rfl⟩, _, _, ⟨-, rfl⟩, _, _, ⟨-, rfl⟩, _, _, ⟨-, rfl⟩, _, _,
    ⟨-, rfl⟩, cloud, _, hcloud, _, _, ⟨-, rfl⟩, _, _, ⟨-, rfl⟩, _, _, ⟨-, rfl⟩, expected, _,
    ⟨-, rfl⟩, _, _, ⟨-, rfl⟩, h⟩ := h
  obtain ⟨rfl, connection, hconnection, -, htarget⟩ := cloudConnection_returns hcloud
  cases expected with
  | some expected =>
      obtain ⟨_, _, hrevise, hpure⟩ := Program.returns_bind.mp h
      obtain ⟨-, rfl⟩ := Program.returns_pure.mp hpure
      obtain ⟨rfl, -, happended⟩ := ProfileKind.revise_returns (onDatabase_returns hrevise).1
      exact ⟨_, happended, connection, _, hconnection, htarget⟩
  | none =>
      obtain ⟨_, _, hcreate, hpure⟩ := Program.returns_bind.mp h
      obtain ⟨-, rfl⟩ := Program.returns_pure.mp hpure
      obtain ⟨rfl, -, -, happended⟩ := ProfileKind.create_returns (onDatabase_returns hcreate).1
      exact ⟨_, happended, connection, _, hconnection, htarget⟩

theorem bindOrRebind_returns {value answer : RoomBinding} {expected : ℕ} {db db' : Db}
    (h : (bindOrRebind value expected).Returns db answer db') :
    answer = value ∧ BindingAppended answer db db' := by
  unfold bindOrRebind at h
  split at h
  · exact bindRoom_returns h
  · exact rebindRoom_returns h

/-- The model profile that a body names. -/
def namedModel (value : Json ℚ) : Option JsString :=
  (value.member? (ofString "modelProfileId")).bind Json.str?

theorem canonicalId_eq {value : Option (Json ℚ)} {id : JsString} (h : canonicalId value = .ok id) :
    value.bind Json.str? = some id := by
  unfold canonicalId at h
  split at h
  · split at h
    · cases h
    · rw [Except.ok.inj h]
      rfl
  · cases h

theorem exact_eq {value body : Json ℚ} {required : List String}
    (h : exact value required = .ok body) : body = value := by
  unfold exact at h
  split at h
  · split at h
    · exact (Except.ok.inj h).symm
    · cases h
  · cases h

/-- A room is bound to the latest revision of the profile that the body names. -/
theorem bindCloud_returns {roomId : RoomId} {value : Json ℚ} {reply : ModelReply}
    (h : (bindCloud roomId value).Returns b reply b') :
    ∃ added, BindingAppended added b.db b'.db ∧ namedModel value = some added.model.profileId := by
  simp only [bindCloud, readCurrentModelProfile, readConnectionProfile, ProfileKind.readCurrent,
    Program.returns_bind, Program.returns_ofExcept, Program.returns_require,
    Program.returns_orThrow, Program.returns_pure] at h
  obtain ⟨body, _, ⟨hbody, rfl⟩, expected, _, ⟨-, rfl⟩, modelId, _, ⟨hmodelId, rfl⟩, _, _, ⟨-, rfl⟩,
    _, _, hread, model, _, ⟨-, rfl⟩, _, _, ⟨-, rfl⟩, _, _, hconnection, _, _, ⟨-, rfl⟩, _, _,
    ⟨-, rfl⟩, _, _, ⟨-, rfl⟩, _, _, ⟨-, rfl⟩, added, _, hbind, -, rfl⟩ := h
  obtain ⟨hread, hb⟩ := onDatabase_returns hread
  obtain ⟨-, hdb⟩ := Program.returns_query.mp hread
  obtain ⟨hconnection, hb'⟩ := onDatabase_returns hconnection
  obtain ⟨-, hdb'⟩ := Program.returns_query.mp hconnection
  obtain ⟨rfl, happended⟩ := bindOrRebind_returns (onDatabase_returns hbind).1
  rw [hdb', hdb] at happended
  refine ⟨_, happended, ?_⟩
  rw [namedModel, ← exact_eq hbody]
  exact canonicalId_eq hmodelId

/-! ## The binding to LM Studio -/

variable {db db' : Db} {tests : List Tested}

theorem inTransaction_returns {α : Type} {action : DbProgram α} {a : α}
    (h : (inTransaction action).Returns db a db') : action.Returns db a db' := by
  have hexec := Program.returns_statement.mp h
  split at hexec
  · next hrun =>
      obtain ⟨rfl, rfl⟩ := Prod.mk.inj (Except.ok.inj hexec)
      exact Program.returns_of_run hrun
  · cases hexec

theorem requireExpectedBinding_returns {probing : Probing} {u : Unit}
    (h : (requireExpectedBinding probing).Returns db u db') : db' = db := by
  simp only [requireExpectedBinding, readEffectiveRoomBinding, Program.returns_bind,
    Program.returns_query, Program.returns_require] at h
  obtain ⟨_, _, ⟨-, rfl⟩, _, _, ⟨-, rfl⟩, _, _, hread, _, _, ⟨-, rfl⟩, -, rfl⟩ := h
  exact (Program.returns_query.mp (inTransaction_returns hread)).2

theorem lmStudioConnection_returns {connectionId : JsString}
    {connection : ProfileRevision ConnectionProfile}
    (h : (lmStudioConnection connectionId).Returns db connection db') :
    ConnectionsGrown db.providers db'.providers ∧
      ∃ n, db'.providers.connectionProfileRevisions.Latest connectionId n connection := by
  obtain ⟨current, db₁, hread, h⟩ := Program.returns_bind.mp h
  obtain ⟨rfl, rfl⟩ := Program.returns_query.mp (inTransaction_returns hread)
  split at h
  · next hcurrent =>
      obtain ⟨rfl, rfl⟩ := Program.returns_pure.mp h
      exact ⟨.refl _, RevisionTable.newest_of_id.mp hcurrent⟩
  · obtain ⟨rfl, -, -, happended⟩ := ProfileKind.create_returns (inTransaction_returns h)
    have htable : db'.providers.connectionProfileRevisions = _ := happended.table
    rw [htable]
    exact ⟨.appended happended, _, RevisionTable.latest_append _ _ _⟩

/-- The profile is the one there is, if it is of that model; else a revision has been added. -/
theorem lmStudioProfile_returns (hkeyed : db.providers.Keyed) {lmStudioModel modelId : JsString}
    {connection : ProfileRevisionRef} {model : ProfileRevision ModelProfile}
    (h : (lmStudioProfile lmStudioModel modelId connection).Returns db model db') :
    model.profile.modelId = lmStudioModel ∧ model.profile.id = modelId ∧
      ((db' = db ∧ ∃ n, db.providers.modelProfileRevisions.Latest modelId n model) ∨
        modelProfiles.Appended model db db' ∧ (model.profile.connection = connection ∨
          ∃ n current, db.providers.modelProfileRevisions.Latest modelId n current ∧
            model.profile.connection = current.profile.connection)) := by
  obtain ⟨current, db₁, hread, h⟩ := Program.returns_bind.mp h
  obtain ⟨rfl, rfl⟩ := Program.returns_query.mp (inTransaction_returns hread)
  split at h
  · obtain ⟨rfl, -, -, happended⟩ := ProfileKind.create_returns (inTransaction_returns h)
    exact ⟨rfl, rfl, .inr ⟨happended, .inl rfl⟩⟩
  · next current hcurrent =>
      obtain ⟨n, hlatest⟩ := RevisionTable.newest_of_id.mp hcurrent
      have hid : current.profile.id = modelId := (hkeyed.models.keyed _ _ _ hlatest.1).1
      split at h
      · next hmodel =>
          obtain ⟨rfl, rfl⟩ := Program.returns_pure.mp h
          exact ⟨hmodel, hid, .inl ⟨rfl, n, hlatest⟩⟩
      · obtain ⟨rfl, -, happended⟩ := ProfileKind.revise_returns (inTransaction_returns h)
        exact ⟨rfl, hid, .inr ⟨happended, .inr ⟨n, current, hlatest, rfl⟩⟩⟩

/-- A room is bound only to a model whose connection is the latest revision. -/
theorem requireBindableModel_returns (hkeyed : db.providers.Keyed) {binding : RoomBinding}
    {u : Unit} (h : (requireBindableModel binding).Returns db u db') :
    ∃ model, db.providers.modelProfileRevisions.lookup
      (binding.model.profileId, binding.model.revision) = some model ∧
        db.providers.connectionProfileRevisions.last model.profile.connection.profileId =
          some model.profile.connection.revision := by
  simp only [requireBindableModel, readModelProfile, readCurrentModelProfile, readConnectionProfile,
    readCurrentConnectionProfile, ProfileKind.readCurrent, Program.returns_bind,
    Program.returns_query, Program.returns_orThrow, Program.returns_require] at h
  obtain ⟨_, _, ⟨rfl, rfl⟩, model, _, ⟨hmodel, rfl⟩, _, _, ⟨-, rfl⟩, _, _, ⟨rfl, rfl⟩, _, _,
    ⟨-, rfl⟩, _, _, ⟨rfl, rfl⟩, connection, _, ⟨hconnection, rfl⟩, _, _, ⟨-, rfl⟩, _, _,
    ⟨rfl, rfl⟩, hcurrent, -⟩ := h
  obtain ⟨current, hnewest, hrevision⟩ := Option.map_eq_some_iff.mp hcurrent
  obtain ⟨hid, hnumber⟩ := hkeyed.connections.keyed _ _ _ hconnection
  obtain ⟨n, hlatest⟩ := RevisionTable.newest_of_id.mp hnewest
  have hn : current.profile.revision = n := (hkeyed.connections.keyed _ _ _ hlatest.1).2
  refine ⟨model, hmodel, ?_⟩
  rw [← show connection.profile.id = _ from hid, ← show connection.profile.revision = _
    from hnumber, ← hrevision, hn]
  exact hlatest.2

theorem bindOrRebind_bindable (hkeyed : db.providers.Keyed) {value answer : RoomBinding}
    {expected : ℕ} (h : (bindOrRebind value expected).Returns db answer db') :
    ∃ model, db.providers.modelProfileRevisions.lookup
      (value.model.profileId, value.model.revision) = some model ∧
        db.providers.connectionProfileRevisions.last model.profile.connection.profileId =
          some model.profile.connection.revision := by
  unfold bindOrRebind at h
  split at h
  · simp only [bindRoom, readEffectiveRoomBinding, Program.returns_bind, Program.returns_ofExcept,
      Program.returns_require, Program.returns_query] at h
    obtain ⟨_, _, ⟨hparse, rfl⟩, _, _, ⟨-, rfl⟩, _, _, ⟨-, rfl⟩, _, _, ⟨-, rfl⟩, _, _, hbindable,
      -⟩ := h
    exact parseRoomBinding_eq hparse ▸ requireBindableModel_returns hkeyed hbindable
  · simp only [rebindRoom, readEffectiveRoomBinding, Program.returns_bind, Program.returns_ofExcept,
      Program.returns_orThrow, Program.returns_require, Program.returns_query] at h
    obtain ⟨_, _, ⟨hparse, rfl⟩, _, _, ⟨-, rfl⟩, _, _, ⟨-, rfl⟩, _, _, ⟨-, rfl⟩, _, _, hbindable,
      -⟩ := h
    exact parseRoomBinding_eq hparse ▸ requireBindableModel_returns hkeyed hbindable

/-- The connection and the model of a room at LM Studio have the same suffix. -/
theorem lmStudio_suffix {roomId : RoomId} {x id : JsString}
    (h : lmStudioConnectionId sha256 roomId = ofString "lmstudio-" ++ x)
    (hid : id = ofString "lmstudio-model-" ++ x) : id = lmStudioModelId sha256 roomId := by
  rw [hid, ← List.append_cancel_left h]
  rfl

/-- The steps of the transaction, with the states between them. -/
structure LmStudioSteps (sha256 : JsString → JsString) (probing : Probing) (id : JsString)
    (db db₁ db₂ db₃ db' : Db) (connection : ProfileRevision ConnectionProfile)
    (model : ProfileRevision ModelProfile) (added : RoomBinding) : Prop where
  connections : ConnectionsGrown db.providers db₁.providers
  local' : ∃ adapter, connection.profile.target = .localEndpoint adapter
  latest : ∃ n, db₁.providers.connectionProfileRevisions.Latest
    (lmStudioConnectionId sha256 probing.roomId) n connection
  observed : db₂.providers = { db₁.providers with
    observations := db₁.providers.observations ++ [probing.observation sha256 id
      ⟨lmStudioConnectionId sha256 probing.roomId, connection.profile.revision⟩] }
  profile : (lmStudioProfile probing.lmStudioModel (lmStudioModelId sha256 probing.roomId)
    ⟨lmStudioConnectionId sha256 probing.roomId, connection.profile.revision⟩).Returns db₂ model db₃
  bound : BindingAppended added db₃ db'
  named : added.model = ⟨model.profile.id, model.profile.revision⟩
  bindable : db₃.providers.Keyed → ∃ row, db₃.providers.modelProfileRevisions.lookup
    (model.profile.id, model.profile.revision) = some row ∧
      db₃.providers.connectionProfileRevisions.last row.profile.connection.profileId =
        some row.profile.connection.revision

theorem finishLmStudio_returns {probing : Probing} {id : JsString}
    {result : RoomBinding × ProfileRevision ModelProfile}
    (h : (finishLmStudio sha256 probing id).Returns db result db') :
    ∃ db₁ db₂ db₃ connection model added,
      LmStudioSteps sha256 probing id db db₁ db₂ db₃ db' connection model added := by
  simp only [finishLmStudio, Program.returns_bind, Program.returns_require,
    Program.returns_pure] at h
  obtain ⟨_, _, hexpected, connection, db₁, hconnection, _, _, ⟨⟨-, htarget⟩, rfl⟩, _, db₂,
    hobserve, model, db₃, hmodel, added, _, hbind, -, rfl⟩ := h
  obtain rfl := requireExpectedBinding_returns hexpected
  obtain ⟨hgrown, hlatest⟩ := lmStudioConnection_returns hconnection
  have hbind := inTransaction_returns hbind
  obtain ⟨rfl, happended⟩ := bindOrRebind_returns hbind
  refine ⟨_, db₂, db₃, connection, model, _, hgrown, ?_, hlatest, ?_, hmodel, happended, rfl,
    fun hkeyed => bindOrRebind_bindable hkeyed hbind⟩
  · cases ht : connection.profile.target with
    | localEndpoint adapter => exact ⟨adapter, rfl⟩
    | approvedProvider definitionId =>
        rw [ht] at htarget
        exact absurd rfl htarget
  · rw [(observeConnection_returns (inTransaction_returns hobserve)).2]

section

variable {probing : Probing} {id : JsString} {db₁ db₂ db₃ : Db}
  {connection : ProfileRevision ConnectionProfile} {model : ProfileRevision ModelProfile}
  {added : RoomBinding}

/-- The test that the probe was. -/
def Probing.tested (sha256 : JsString → JsString) (probing : Probing) (revision : ℕ) : Tested where
  connection := ⟨lmStudioConnectionId sha256 probing.roomId, revision⟩
  modelId := probing.lmStudioModel
  capabilityFingerprint := lmStudioFingerprint sha256 probing.lmStudioModel

theorem LmStudioSteps.evidence₂
    (h : LmStudioSteps sha256 probing id db db₁ db₂ db₃ db' connection model added)
    (hevidence : Evidence db.providers tests) :
    Evidence db₂.providers (tests ++ [probing.tested sha256 connection.profile.revision]) := by
  rw [h.observed]
  exact (hevidence.connections h.connections).observed _ rfl rfl

/-- The connection of LM Studio is the local one whose revision is tested. -/
theorem LmStudioSteps.lookup
    (h : LmStudioSteps sha256 probing id db db₁ db₂ db₃ db' connection model added)
    (hevidence : Evidence db.providers tests) :
    db₁.providers.connectionProfileRevisions.Latest (lmStudioConnectionId sha256 probing.roomId)
      connection.profile.revision connection := by
  obtain ⟨n, hlatest⟩ := h.latest
  have hkeyed := (hevidence.connections h.connections).keyed.connections
  rw [show connection.profile.revision = n from (hkeyed.keyed _ _ _ hlatest.1).2]
  exact hlatest

theorem LmStudioSteps.evidence₃
    (h : LmStudioSteps sha256 probing id db db₁ db₂ db₃ db' connection model added)
    (hevidence : Evidence db.providers tests) :
    Evidence db₃.providers (tests ++ [probing.tested sha256 connection.profile.revision]) := by
  have h₂ := h.evidence₂ hevidence
  obtain ⟨-, hid, ⟨rfl, -⟩ | ⟨happended, hconnection⟩⟩ := lmStudioProfile_returns h₂.keyed h.profile
  · exact h₂
  · refine h₂.model happended fun row hrow htarget => ?_
    rcases hconnection with hconnection | ⟨n, current, hcurrent, hconnection⟩
    · rw [hconnection]
      exact ⟨_, rfl, hid⟩
    · rw [hconnection] at hrow ⊢
      obtain ⟨x, hx, hcurrentId⟩ := h₂.locals _ _ row hcurrent.1 hrow htarget
      have hkeyed : current.profile.id = _ := (h₂.keyed.models.keyed _ _ _ hcurrent.1).1
      exact ⟨x, hx, hid.trans (hkeyed.symm.trans hcurrentId)⟩

theorem LmStudioSteps.evidence
    (h : LmStudioSteps sha256 probing id db db₁ db₂ db₃ db' connection model added)
    (hevidence : Evidence db.providers tests) :
    Evidence db'.providers (tests ++ [probing.tested sha256 connection.profile.revision]) :=
  (h.evidence₃ hevidence).roomBound h.bound

/-- The observation of the probe is the last one. -/
theorem LmStudioSteps.observation
    (h : LmStudioSteps sha256 probing id db db₁ db₂ db₃ db' connection model added)
    (hevidence : Evidence db.providers tests) : db'.providers.observations.getLast? =
      some (probing.observation sha256 id
        ⟨lmStudioConnectionId sha256 probing.roomId, connection.profile.revision⟩) := by
  have h₂ : db₃.providers.observations = db₂.providers.observations := by
    obtain ⟨-, -, ⟨rfl, -⟩ | ⟨happended, -⟩⟩ :=
      lmStudioProfile_returns (h.evidence₂ hevidence).keyed h.profile
    · rfl
    · rw [happended.result]
      rfl
  have h₃ : db'.providers.observations = db₃.providers.observations := by rw [h.bound.result]
  rw [h₃, h₂, h.observed]
  exact List.getLast?_concat

/-- Only the model of LM Studio is used of its connection. -/
theorem LmStudioSteps.only
    (h : LmStudioSteps sha256 probing id db db₁ db₂ db₃ db' connection model added)
    (hevidence : Evidence db.providers tests) {key : JsString × ℕ}
    {row : ProfileRevision ModelProfile}
    (hrow : db.providers.modelProfileRevisions.lookup key = some row)
    (hconnection : row.profile.connection =
      (probing.tested sha256 connection.profile.revision).connection) :
    row.profile.id = lmStudioModelId sha256 probing.roomId := by
  obtain ⟨old, hold⟩ := RevisionTable.mem_iff_exists.mp (hevidence.models key row hrow)
  have hnew := h.connections.connections _ _ hold
  rw [hconnection] at hnew
  obtain rfl := Option.some.inj (hnew.symm.trans (h.lookup hevidence).1)
  obtain ⟨x, hx, hid⟩ := hevidence.locals key row old hrow hold h.local'
  rw [hconnection] at hx
  exact lmStudio_suffix hx hid

/-- The profile is the latest one of its name when the room is bound. -/
theorem LmStudioSteps.latestModel
    (h : LmStudioSteps sha256 probing id db db₁ db₂ db₃ db' connection model added)
    (hevidence : Evidence db.providers tests) :
    db₃.providers.modelProfileRevisions.Latest (lmStudioModelId sha256 probing.roomId)
      model.profile.revision model := by
  have h₃ := h.evidence₃ hevidence
  obtain ⟨-, hid, hmodel⟩ := lmStudioProfile_returns (h.evidence₂ hevidence).keyed h.profile
  have hlatest : ∃ n, db₃.providers.modelProfileRevisions.Latest
      (lmStudioModelId sha256 probing.roomId) n model := by
    rcases hmodel with ⟨rfl, hlatest⟩ | ⟨happended, -⟩
    · exact hlatest
    · have htable : db₃.providers.modelProfileRevisions = _ := happended.table
      rw [htable, show modelProfiles.id model.profile =
        lmStudioModelId sha256 probing.roomId from hid]
      exact ⟨_, RevisionTable.latest_append _ _ _⟩
  obtain ⟨n, hlatest⟩ := hlatest
  rw [show model.profile.revision = n from (h₃.keyed.models.keyed _ _ _ hlatest.1).2]
  exact hlatest

theorem ref_eq {reference : ProfileRevisionRef} {profileId : JsString} {revision : ℕ}
    (hid : reference.profileId = profileId) (hrevision : reference.revision = revision) :
    reference = ⟨profileId, revision⟩ := by
  subst hid hrevision
  rfl

/-- If it is of the connection of LM Studio, then of its latest revision. -/
theorem LmStudioSteps.connection_eq
    (h : LmStudioSteps sha256 probing id db db₁ db₂ db₃ db' connection model added)
    (hevidence : Evidence db.providers tests)
    (hprofile : model.profile.connection.profileId = lmStudioConnectionId sha256 probing.roomId) :
    model.profile.connection = (probing.tested sha256 connection.profile.revision).connection := by
  have hlatest := h.latestModel hevidence
  obtain ⟨-, hid, hmodel⟩ := lmStudioProfile_returns (h.evidence₂ hevidence).keyed h.profile
  have hconnections : db₃.providers.connectionProfileRevisions =
      db₁.providers.connectionProfileRevisions := by
    have h₂ : db₂.providers.connectionProfileRevisions =
      db₁.providers.connectionProfileRevisions := by
      rw [h.observed]
    rcases hmodel with ⟨rfl, -⟩ | ⟨happended, -⟩
    · exact h₂
    · rw [happended.result]
      exact h₂
  obtain ⟨row, hrow, hlast⟩ := h.bindable (h.evidence₃ hevidence).keyed
  rw [hid] at hrow
  obtain rfl := Option.some.inj (hrow.symm.trans hlatest.1)
  rw [hconnections, hprofile, (h.lookup hevidence).2, Option.some.injEq] at hlast
  exact ref_eq hprofile hlast.symm

/-- **The binding to LM Studio keeps evidence and model together**, if the room's profile is of
that connection or was tested last with that model. -/
theorem LmStudioSteps.about
    (h : LmStudioSteps sha256 probing id db db₁ db₂ db₃ db' connection model added)
    (hevidence : Evidence db.providers tests) (habout : About db.providers tests)
    (hmeets : ∀ n current, db.providers.modelProfileRevisions.Latest
        (lmStudioModelId sha256 probing.roomId) n current →
      current.profile.connection.profileId ≠ lmStudioConnectionId sha256 probing.roomId →
      ∀ last ∈ lastTest tests current.profile.connection, last.modelId = probing.lmStudioModel) :
    About db'.providers (tests ++ [probing.tested sha256 connection.profile.revision]) := by
  have h₂ := h.evidence₂ hevidence
  have h₃ := h.evidence₃ hevidence
  obtain ⟨hmodelId, hid, hmodel⟩ := lmStudioProfile_returns h₂.keyed h.profile
  have hmodels : db₂.providers.modelProfileRevisions = db.providers.modelProfileRevisions := by
    rw [h.observed]
    exact h.connections.models
  have hback : ∀ roomId purpose m, Bound db₂.providers roomId purpose m →
      Bound db.providers roomId purpose m := by
    intro roomId purpose m hbound
    rw [h.observed] at hbound
    exact Bound.of_connections h.connections hbound
  intro roomId purpose m hbound last hlast
  rw [lastTest_append] at hlast
  rcases hbound.of_roomBound h.bound with ⟨state, hlatest⟩ | hbound
  · -- The room that has just been bound.
    rw [h.named, hid] at hlatest
    obtain rfl : m = model.profile :=
      congrArg ProfileRevision.profile ((h.latestModel hevidence).unique hlatest).2
    split at hlast
    · obtain rfl := Option.some.inj hlast
      exact hmodelId.symm
    · next hne =>
        have hother :
          model.profile.connection.profileId ≠ lmStudioConnectionId sha256 probing.roomId :=
          fun hprofile => hne (h.connection_eq hevidence hprofile).symm
        rw [hmodelId]
        rcases hmodel with ⟨-, n, hcurrent⟩ | ⟨-, hconnection | ⟨n, current, hcurrent, hconnection⟩⟩
        · exact hmeets n model (hmodels ▸ hcurrent) hother last hlast
        · exact absurd hconnection.symm hne
        · rw [hconnection] at hother hlast
          exact hmeets n current (hmodels ▸ hcurrent) hother last hlast
  · -- The other rooms.
    have hold : Bound db₂.providers roomId purpose m ∧
        (m.id = model.profile.id → m = model.profile) := by
      rcases hmodel with ⟨rfl, n, hcurrent⟩ | ⟨happended, -⟩
      · refine ⟨hbound, fun hmid => ?_⟩
        obtain ⟨binding, state, -, hlatest⟩ := hbound
        have hkey : m.id = binding.model.profileId := (h₂.keyed.models.keyed _ _ _ hlatest.1).1
        rw [← hkey, hmid, hid] at hlatest
        exact congrArg ProfileRevision.profile (hcurrent.unique hlatest).2
      · obtain ⟨hbound, hne⟩ := hbound.of_model h₂ happended
        exact ⟨hbound, fun hmid => absurd hmid hne⟩
    have hbound := hback roomId purpose m hold.1
    split at hlast
    · next hconnection =>
        obtain rfl := Option.some.inj hlast
        obtain ⟨binding, state, -, hlatest⟩ := hbound
        have hname := h.only hevidence hlatest.1 hconnection.symm
        rw [hold.2 (hname.trans hid.symm), hmodelId]
        rfl
    · exact habout roomId purpose m hbound last hlast

end

end

end GreenRoom.Api
