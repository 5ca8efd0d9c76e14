import GreenRoom.Api.ProviderRoutes
import GreenRoom.Db.ProviderDecisions

/-!
# The routes of models

`api/provider-routes.ts`: testing a model of a connection, saving a model profile, and
binding a room to a model, in the cloud or of LM Studio.  A test and the binding to LM
Studio wait for the provider, so each of them is two pieces of code; the rest of the routes
runs without a pause.

## Main definitions

* `startTest`, `sendTest`, `finishTest` — the test of a model.
* `saveModel` — `POST /api/providers/model-profiles`, and its `/revise`.
* `bindCloud` — the binding to a model profile.
* `startLmStudio`, `finishLmStudio` — the binding to LM Studio.
-/

namespace GreenRoom.Api

open JsString Providers

/-! ## Model identifiers -/

section

-- `String.prototype.normalize`, and the hexadecimal SHA-256 of a text.
variable (normalize sha256 : JsString → JsString)

/-- `[A-Za-z0-9][…]*`, with `extra` besides letters and digits from the second place on. -/
def isSlug (extra : List Char) : JsString → Bool
  | [] => false
  | u :: rest => isAlphanumeric u && rest.all fun u => isAlphanumeric u || u ∈ extra.map unit

def isOpenRouterModelId (value : JsString) : Bool :=
  isSlug ['.', '_', '-'] (value.takeWhile (· ≠ unit '/')) &&
    isSlug ['.', '_', ':', '-'] ((value.dropWhile (· ≠ unit '/')).drop 1) &&
    !(ofString "openrouter/").isPrefixOf value &&
    !([":nitro", ":floor", ":online", ":exacto"].any fun suffix =>
      (ofString suffix).isSuffixOf value)

def concreteModel (value : Option (Json ℚ)) (provider : ApprovedCloudProviderId) :
    Except RouteError JsString :=
  match value with
  | some (.str value) =>
    if isBoundedOpaqueModelId normalize value ∧
        (provider = .openrouter → isOpenRouterModelId value) then .ok value
    else .error (httpError 400 "invalid_request" "A concrete provider model is required")
  | _ => .error (httpError 400 "invalid_request" "A concrete provider model is required")

def finiteNumber (value : Option (Json ℚ)) (minimum maximum : ℚ) : Except RouteError ℚ :=
  match value with
  | some (.num value) =>
    if minimum ≤ value ∧ value ≤ maximum then .ok value else .error invalidRequest
  | _ => .error invalidRequest

/-- `revision(value, true)`. -/
def revisionOrZero : Option (Json ℚ) → Except RouteError ℕ
  | some (.num value) => if value = 0 then .ok 0 else revision (some (.num value))
  | value => revision value

/-! ## Replies -/

inductive Execution
  | cloud | lmstudio
  deriving DecidableEq, Repr

inductive ModelReply
  | tested (connectionRevision : ℕ) (modelId capabilityFingerprint : JsString)
  | saved (status : ℕ) (modelProfile : ProfileRevision ModelProfile)
  | bound (status : ℕ) (binding : RoomBinding) (execution : Execution)
      (modelProfile : Option (ProfileRevision ModelProfile))

/-! ## Testing -/

structure CloudConnection where
  profile : ConnectionProfile
  definitionId : ApprovedCloudProviderId
  credentialRef : JsString
  deriving DecidableEq

def cloudConnection (id : JsString) (connectionRevision : ℕ) : RouteProgram CloudConnection := do
  let found ← onDatabase (readConnectionProfile ⟨id, connectionRevision⟩)
  let current ← onDatabase (readCurrentConnectionProfile id)
  let credentialMissing :=
    httpError 409 "credential_missing" "The connection credential is missing"
  let notCurrent := conflict "Connection revision is not current and enabled"
  .require ((current.map ProfileRevision.state) ≠ some .deleted) credentialMissing
  let found ← .orThrow found notCurrent
  .require ((current.map fun c => c.profile.revision) = some connectionRevision) notCurrent
  .require (found.state = .enabled) notCurrent
  match found.profile.target with
  | .localEndpoint _ => .throw notCurrent
  | .approvedProvider definitionId =>
    let credentialRef ← .orThrow found.profile.credentialRef credentialMissing
    return { profile := found.profile, definitionId, credentialRef }

/-- A test whose connection has been read, and then one that the provider has been sent. -/
structure Testing where
  connection : CloudConnection
  modelId : JsString
  deriving DecidableEq

def Testing.reference (testing : Testing) : ProfileRevisionRef :=
  ⟨testing.connection.profile.id, testing.connection.profile.revision⟩

/-- `POST /api/providers/connections/:connectionId/test`, as far as the credential. -/
def startTest (connectionId : JsString) (value : Json ℚ) : RouteProgram Testing := do
  let body ← .ofExcept (exact value ["connectionRevision", "modelId"])
  let connectionRevision ← .ofExcept (revision (body.member? (ofString "connectionRevision")))
  let id ← .ofExcept (canonicalId (some (.str connectionId)))
  let connection ← cloudConnection id connectionRevision
  let modelId ← .ofExcept
    (concreteModel normalize (body.member? (ofString "modelId")) connection.definitionId)
  return { connection, modelId }

/-- `withCredential`: the key that the provider is sent. -/
def sendTest (testing : Testing) : RouteProgram Secret := do
  let bytes ← readCredential testing.connection.credentialRef
  .orThrow bytes (httpError 409 "credential_missing" "The connection credential is missing")

/-- What a capability fingerprint is the digest of. -/
def fingerprint (kind name modelId : JsString) : JsString :=
  ofString "sha256:" ++ sha256 (Json.stringify integerFormat (.obj
    [(kind, .str name), (ofString "modelId", .str modelId), (ofString "chat", .bool true)]))

def cloudFingerprint (definitionId : ApprovedCloudProviderId) (modelId : JsString) : JsString :=
  fingerprint sha256 (ofString "definitionId")
    (((approvedCloudProviderIds.map Prod.swap).lookup definitionId).getD []) modelId

def lmStudioFingerprint (modelId : JsString) : JsString :=
  fingerprint sha256 (ofString "adapter") (ofString "lmstudio") modelId

def Testing.observation (testing : Testing) (id : JsString) : ProviderObservation where
  id := ofString "observation-" ++ id
  connection := testing.reference
  health := .ready
  capabilityFingerprint :=
    cloudFingerprint sha256 testing.connection.definitionId testing.modelId
  evidence := [(ofString "chat", true)]

/-- The provider has answered. -/
def finishTest (testing : Testing) (id : JsString) : RouteProgram ModelReply := do
  let observation ← onDatabase (observeConnection (testing.observation sha256 id))
  return .tested testing.connection.profile.revision testing.modelId
    observation.capabilityFingerprint

/-! ## Model profiles -/

def maxModelOutputTokens : ℕ := 32768

/-- The members of a body that saves a model profile, after the first. -/
def modelKeys : List String :=
  ["connectionId", "connectionRevision", "modelId", "temperature", "maxOutputTokens",
    "acknowledgedConnectionRevision"]

/-- `saveModel(revise)`; `modelProfileId` is the path parameter of a revision. -/
def saveModel (modelProfileId : Option JsString) (value : Json ℚ) : RouteProgram ModelReply := do
  let body ← .ofExcept (exact value
    ((if modelProfileId.isSome then "expectedRevision" else "id") :: modelKeys))
  let id ← .ofExcept (match modelProfileId with
    | some modelProfileId => canonicalId (some (.str modelProfileId))
    | none => canonicalId (body.member? (ofString "id")))
  let connectionId ← .ofExcept (canonicalId (body.member? (ofString "connectionId")))
  let connectionRevision ← .ofExcept (revision (body.member? (ofString "connectionRevision")))
  let acknowledged ← .ofExcept (revision (body.member? (ofString "acknowledgedConnectionRevision")))
  .require (acknowledged = connectionRevision) acknowledgementRequired
  let connection ← cloudConnection connectionId connectionRevision
  let modelId ← .ofExcept
    (concreteModel normalize (body.member? (ofString "modelId")) connection.definitionId)
  let maxOutputTokens ← .ofExcept (revision (body.member? (ofString "maxOutputTokens")))
  .require (maxOutputTokens ≤ maxModelOutputTokens) invalidRequest
  let expected ← .ofExcept (match modelProfileId with
    | some _ => (revision (body.member? (ofString "expectedRevision"))).map some
    | none => .ok none)
  let temperature ← .ofExcept (finiteNumber (body.member? (ofString "temperature")) 0 2)
  let value : ModelProfile := {
    id
    revision := (expected.map (· + 1)).getD 1
    connection := ⟨connectionId, connectionRevision⟩
    modelId
    requiredCapabilities := [.chat]
    generation := { temperature, maxOutputTokens } }
  match expected with
  | some expected =>
    let saved ← onDatabase (reviseModelProfile value expected)
    return .saved 200 saved
  | none =>
    let saved ← onDatabase (createModelProfile value)
    return .saved 201 saved

/-! ## Bindings -/

/-- The new binding of a room: the first one, or a revision of the one it has. -/
def bindOrRebind (value : RoomBinding) (expected : ℕ) : DbProgram RoomBinding :=
  if expected = 0 then bindRoom value else rebindRoom value expected

def boundStatus (expected : ℕ) : ℕ := if expected = 0 then 201 else 200

/-- `POST /api/rooms/:roomId/provider-binding` with the profile of a cloud model. -/
def bindCloud (roomId : RoomId) (value : Json ℚ) : RouteProgram ModelReply := do
  let body ← .ofExcept (exact value
    ["id", "expectedRevision", "modelProfileId", "modelProfileRevision",
      "acknowledgedConnectionRevision"])
  let expected ← .ofExcept (revisionOrZero (body.member? (ofString "expectedRevision")))
  let modelId ← .ofExcept (canonicalId (body.member? (ofString "modelProfileId")))
  let modelRevision ← .ofExcept (revision (body.member? (ofString "modelProfileRevision")))
  let model ← .orThrow (← onDatabase (readCurrentModelProfile modelId))
    (conflict "Model profile revision is stale")
  .require (model.profile.revision = modelRevision ∧ model.state = .enabled)
    (conflict "Model profile revision is stale")
  let connection ← onDatabase (readConnectionProfile model.profile.connection)
  .require ((connection.map fun c => ConnectionTarget.isApproved c.profile.target) = some true)
    (conflict "Cloud binding requires an approved-provider model")
  let acknowledged ← .ofExcept (revision (body.member? (ofString "acknowledgedConnectionRevision")))
  .require (acknowledged = model.profile.connection.revision) acknowledgementRequired
  let id ← .ofExcept (canonicalId (body.member? (ofString "id")))
  let binding ← onDatabase (bindOrRebind {
    id
    revision := expected + 1
    roomId
    purpose := .personaDefault
    model := ⟨modelId, modelRevision⟩ } expected)
  return .bound (boundStatus expected) binding .cloud none

/-- A binding to LM Studio that waits for the probe. -/
structure Probing where
  lmStudioModel : JsString
  bindingId : JsString
  expected : ℕ
  roomId : RoomId
  deriving DecidableEq

/-- A call of the database inside a transaction; what it throws ends the transaction. -/
def inTransaction {α : Type} (action : DbProgram α) : Program Db RouteError α :=
  .statement fun db =>
    match action.run (fun _ => none) 0 db with
    | (.ok a, db) => .ok (a, db)
    | (.error e, _) => .error (.thrown e)

/-- `requireExpectedBinding`. -/
def requireExpectedBinding (probing : Probing) : Program Db RouteError Unit := do
  let room ← .query fun db => decide (probing.roomId ∈ db.rooms)
  .require (room = true) (conflict "Room does not exist")
  let current ← inTransaction (readEffectiveRoomBinding probing.roomId .personaDefault)
  .require ((current = none) ↔ probing.expected = 0) (conflict "Room binding revision is stale")
  .require (∀ binding ∈ current, binding.revision = probing.expected ∧
    binding.id = probing.bindingId) (conflict "Room binding revision is stale")

/-- `POST /api/rooms/:roomId/provider-binding` with LM Studio, as far as the probe. -/
def startLmStudio (lmStudioModel : Option JsString) (roomId : RoomId) (value : Json ℚ) :
    Program Db RouteError Probing := do
  let body ← .ofExcept (exact value ["id", "expectedRevision", "provider"])
  let unavailable :=
    httpError 409 "provider_unavailable" "LM Studio is not active in this runtime"
  .require ((body.member? (ofString "provider")).bind Json.str? = some (ofString "lmstudio"))
    unavailable
  let lmStudioModel ← .orThrow lmStudioModel unavailable
  let bindingId ← .ofExcept (canonicalId (body.member? (ofString "id")))
  let expected ← .ofExcept (revisionOrZero (body.member? (ofString "expectedRevision")))
  let roomId ← .ofExcept (canonicalId (some (.str roomId)))
  let probing : Probing := { lmStudioModel, bindingId, expected, roomId }
  requireExpectedBinding probing
  return probing

/-- The first 16 digits of the digest of a room's name. -/
def suffix (roomId : RoomId) : JsString := (sha256 roomId).take 16

def lmStudioConnectionId (roomId : RoomId) : JsString :=
  ofString "lmstudio-" ++ suffix sha256 roomId

def lmStudioModelId (roomId : RoomId) : JsString :=
  ofString "lmstudio-model-" ++ suffix sha256 roomId

def lmStudioConnection (connectionId : JsString) :
    Program Db RouteError (ProfileRevision ConnectionProfile) := do
  match ← inTransaction (readCurrentConnectionProfile connectionId) with
  | some connection => return connection
  | none => inTransaction (createConnectionProfile {
      id := connectionId, revision := 1, target := .localEndpoint .openaiCompatible })

def lmStudioProfile (lmStudioModel modelId : JsString) (connection : ProfileRevisionRef) :
    Program Db RouteError (ProfileRevision ModelProfile) := do
  match ← inTransaction (readCurrentModelProfile modelId) with
  | none => inTransaction (createModelProfile {
      id := modelId
      revision := 1
      connection
      modelId := lmStudioModel
      requiredCapabilities := [.chat]
      generation := { temperature := 2 / 5, maxOutputTokens := 256 } })
  | some model =>
    if model.profile.modelId = lmStudioModel then return model
    else inTransaction (reviseModelProfile { model.profile with
      revision := model.profile.revision + 1
      modelId := lmStudioModel } model.profile.revision)

/-- What is recorded of a probe. -/
def Probing.observation (probing : Probing) (id : JsString) (connection : ProfileRevisionRef) :
    ProviderObservation where
  id := ofString "observation-" ++ id
  connection
  health := .ready
  capabilityFingerprint := lmStudioFingerprint sha256 probing.lmStudioModel
  evidence := [(ofString "chat", true)]

/-- The transaction that follows the probe. -/
def finishLmStudio (probing : Probing) (id : JsString) :
    Program Db RouteError (RoomBinding × ProfileRevision ModelProfile) := do
  requireExpectedBinding probing
  let connectionId := lmStudioConnectionId sha256 probing.roomId
  let connection ← lmStudioConnection connectionId
  .require (connection.state = .enabled ∧ ¬ ConnectionTarget.isApproved connection.profile.target)
    (conflict "Local provider profile conflicts with current state")
  let reference := ⟨connectionId, connection.profile.revision⟩
  let _ ← inTransaction (observeConnection (probing.observation sha256 id reference))
  let model ← lmStudioProfile probing.lmStudioModel (lmStudioModelId sha256 probing.roomId)
    reference
  let binding ← inTransaction (bindOrRebind {
    id := probing.bindingId
    revision := probing.expected + 1
    roomId := probing.roomId
    purpose := .personaDefault
    model := ⟨model.profile.id, model.profile.revision⟩ } probing.expected)
  return (binding, model)

end

end GreenRoom.Api
