import GreenRoom.Db.ProviderProfiles
import GreenRoom.Db.Transaction
import GreenRoom.Lib.Json
import GreenRoom.Providers.CredentialStore

/-!
# The routes of connections

`api/provider-routes.ts`: creating a connection, replacing its credential, disabling and
deleting it.  The profile is in the database and the secret in the credential store, and
no transaction spans the two.

## Main definitions

* `Backend` — the database and the credential store.
* `createConnection`, `replaceCredential`, `disableConnection`, `deleteConnection` — the routes.
-/

namespace GreenRoom.Api

open JsString Providers

/-- The database, the credential store, and which secret a request has written last under
a reference. -/
structure Backend where
  db : Db := {}
  credentials : CredentialStore := ∅
  lastWritten : KeyedTable JsString Secret := ∅

structure ProviderHttpError where
  status : ℕ
  code : JsString
  publicMessage : JsString
  deriving DecidableEq, Repr

inductive RouteError
  | http (error : ProviderHttpError)
  | thrown (error : JsError)
  deriving DecidableEq, Repr

structure ConnectionDto where
  id : JsString
  revision : ℕ
  definitionId : ApprovedCloudProviderId
  state : ProviderProfileState
  /-- `stored`, or `not_stored`. -/
  credentialStored : Bool
  deriving DecidableEq, Repr

/-- `connection` is `undefined` for a connection to a local endpoint. -/
inductive RouteReply
  | connection (status : ℕ) (connection : Option ConnectionDto)
  | error (status : ℕ) (code message : JsString)
  deriving DecidableEq, Repr

def RouteReply.isSuccess : RouteReply → Bool
  | .connection _ _ => true
  | .error _ _ _ => false

abbrev RouteProgram := Program Backend RouteError

def httpError (status : ℕ) (code publicMessage : String) : RouteError :=
  .http ⟨status, ofString code, ofString publicMessage⟩

/-! ## Bodies -/

def invalidRequest : RouteError := httpError 400 "invalid_request" "Request body is invalid"

def exact (value : Json ℚ) (required : List String) : Except RouteError (Json ℚ) :=
  match value with
  | .obj members =>
    if members.length = required.length ∧
        (required.all fun key => ofString key ∈ members.map Prod.fst) ∧
        members.all fun member => member.1 ∈ required.map ofString then
      .ok (.obj members)
    else .error invalidRequest
  | _ => .error invalidRequest

def canonicalId : Option (Json ℚ) → Except RouteError JsString
  | some (.str value) =>
    if 128 < value.length ∨ !isIdText value then .error invalidRequest else .ok value
  | _ => .error invalidRequest

def revision : Option (Json ℚ) → Except RouteError ℕ
  | some (.num value) =>
    if value.den = 1 ∧ 1 ≤ value.num ∧ value.num ≤ maxRevision then .ok value.num.toNat
    else .error invalidRequest
  | _ => .error invalidRequest

def maxKeyLength : ℕ := 8192

def credential : Option (Json ℚ) → Except RouteError Secret
  | some (.str value) =>
    if value.length = 0 ∨ maxKeyLength < value.length ∨
        value.any fun u => u = 0x0D || u = 0x0A || u = 0 then
      .error invalidRequest
    else .ok value
  | _ => .error invalidRequest

/-- `/^[a-z0-9][a-z0-9-]{0,127}$/`. -/
def mutationId : Option (Json ℚ) → Except RouteError JsString
  | some (.str (u :: rest)) =>
    if isLowerAlphanumeric u ∧ rest.length ≤ 127 ∧
        rest.all fun u => isLowerAlphanumeric u || u = unit '-' then
      .ok (u :: rest)
    else .error invalidRequest
  | _ => .error invalidRequest

def approvedCloudProviderIds : List (JsString × ApprovedCloudProviderId) :=
  [(ofString "openrouter", .openrouter), (ofString "openai", .openai), (ofString "xai", .xai),
    (ofString "groq", .groq), (ofString "together", .together)]

def approvedCloudProviderId : Option (Json ℚ) → Except RouteError ApprovedCloudProviderId
  | some (.str value) =>
    match approvedCloudProviderIds.lookup value with
    | some id => .ok id
    | none => .error invalidRequest
  | _ => .error invalidRequest

/-- What the acknowledgement of a revision says if it is not of that revision. -/
def acknowledgementRequired : RouteError :=
  httpError 400 "acknowledgement_required"
    "Cloud disclosure acknowledgement must match the connection revision"

def conflict (message : String) : RouteError := httpError 409 "revision_conflict" message

/-! ## Replies -/

def connectionDto (record : ProfileRevision ConnectionProfile) : Option ConnectionDto :=
  match record.profile.target with
  | .approvedProvider definitionId => some {
      id := record.profile.id
      revision := record.profile.revision
      definitionId
      state := record.state
      credentialStored := record.state = .enabled && record.profile.credentialRef.isSome }
  | .localEndpoint _ => none

def conflictPhrases : List String :=
  ["revision conflict", "stale", "already exists", "does not exist", "is disabled", "is deleted",
    "no capability observation"]

def sendError : RouteError → RouteReply
  | .http error => .error error.status error.code error.publicMessage
  | .thrown error =>
    if conflictPhrases.any fun phrase => ofString phrase <:+: error.message.map asciiLower then
      .error 409 (ofString "revision_conflict")
        (ofString "Request conflicts with current provider state")
    else .error 503 (ofString "provider_unavailable") (ofString "Provider operation failed")

/-! ## Calls -/

/-- A call into the database, which reads or writes in one go. -/
def onDatabase {α : Type} (action : DbProgram α) : RouteProgram α :=
  .statement fun b =>
    match transact {} action b.db with
    | (.ok a, db) => .ok (a, { b with db })
    | (.error e, _) => .error (.thrown e)

/-- A call of the credential store. -/
def onCredentials {α : Type} (operation : CredentialStore → Except JsError (α × CredentialStore)) :
    RouteProgram α :=
  .statement fun b =>
    match operation b.credentials with
    | .ok (a, credentials) => .ok (a, { b with credentials })
    | .error e => .error (.thrown e)

/-- A call of the credential store that writes a secret. -/
def writing (reference : JsString) (secret : Secret)
    (operation : JsString → Secret → CredentialStore → Except JsError (Unit × CredentialStore)) :
    RouteProgram Unit :=
  .statement fun b =>
    match operation reference secret b.credentials with
    | .ok (_, credentials) =>
      .ok ((), { b with credentials, lastWritten := b.lastWritten.insert reference secret })
    | .error e => .error (.thrown e)

def credentialUnavailable : RouteError :=
  httpError 503 "credential_unavailable" "Credential storage is unavailable"

/-- `try p catch { throw credentialUnavailable() }`. -/
def orUnavailable {α : Type} (p : RouteProgram α) : RouteProgram α :=
  p.attempt fun _ => .throw credentialUnavailable

def deleteCredential (reference : JsString) : RouteProgram Unit := do
  let _ ← orUnavailable (onCredentials (CredentialStore.delete reference))

def readCredential (reference : JsString) : RouteProgram (Option Secret) :=
  orUnavailable (onCredentials (CredentialStore.get reference))

def writeCredential (reference : JsString) (value : Secret) : RouteProgram Unit := do
  let existing ← readCredential reference
  orUnavailable <| match existing with
    | none => writing reference value CredentialStore.put
    | some _ => writing reference value CredentialStore.replace

def reference (connectionId : JsString) (revision : ℕ) : Except RouteError JsString :=
  (canonicalCredentialReference connectionId revision).mapError .thrown

/-- The credential of the revision before is erased, if there is one before. -/
def deletePrevious (id : JsString) (expected : ℕ) : RouteProgram Unit :=
  .onlyIf (1 < expected) do
    let previous ← .ofExcept (reference id (expected - 1))
    deleteCredential previous

/-! ## Routes -/

variable (loopback : Bool)

def requireLoopback : RouteProgram Unit :=
  .require (loopback = true)
    (httpError 403 "loopback_required" "Credential changes are available only from loopback")

/-- `try p catch (error) { return sendError(reply, error) }`. -/
def replying (p : RouteProgram RouteReply) : RouteProgram RouteReply :=
  p.attempt fun error => pure (sendError error)

structure CreateBody where
  id : JsString
  definitionId : ApprovedCloudProviderId
  secret : Secret

def createBody (value : Json ℚ) : Except RouteError CreateBody := do
  let body ← exact value ["id", "definitionId", "credential", "acknowledgedConnectionRevision"]
  let id ← canonicalId (body.member? (ofString "id"))
  let definitionId ← approvedCloudProviderId (body.member? (ofString "definitionId"))
  let acknowledged ← revision (body.member? (ofString "acknowledgedConnectionRevision"))
  if acknowledged ≠ 1 then throw acknowledgementRequired
  let secret ← credential (body.member? (ofString "credential"))
  return { id, definitionId, secret }

/-- `POST /api/providers/connections`. -/
def createConnection (value : Json ℚ) : RouteProgram RouteReply := replying do
  requireLoopback loopback
  let body ← .ofExcept (createBody value)
  let reference ← .ofExcept (reference body.id 1)
  match ← onDatabase (readCurrentConnectionProfile body.id) with
  | some existing =>
    .require (existing.profile.revision = 1 ∧ existing.state = .enabled ∧
        existing.profile.target = .approvedProvider body.definitionId ∧
        existing.profile.credentialRef = some reference)
      (conflict "Connection already exists")
    let stored ← readCredential reference
    .require (stored = none) (conflict "Connection already exists")
    writeCredential reference body.secret
    return .connection 200 (connectionDto existing)
  | none =>
    writeCredential reference body.secret
    let created ← onDatabase (createConnectionProfile {
      id := body.id
      revision := 1
      target := .approvedProvider body.definitionId
      credentialRef := some reference })
    return .connection 201 (connectionDto created)

def ConnectionTarget.isApproved : ConnectionTarget → Bool
  | .approvedProvider _ => true
  | .localEndpoint _ => false

structure ReplaceBody where
  expected : ℕ
  mutationId : JsString

def replaceBody (body : Json ℚ) : Except RouteError ReplaceBody := do
  let expected ← revision (body.member? (ofString "expectedRevision"))
  let mutationId ← mutationId (body.member? (ofString "mutationId"))
  let acknowledged ← revision (body.member? (ofString "acknowledgedConnectionRevision"))
  if acknowledged ≠ expected + 1 then throw acknowledgementRequired
  return { expected, mutationId }

/-- `POST /api/providers/connections/:connectionId/replace`. -/
def replaceCredential (connectionId : JsString) (value : Json ℚ) : RouteProgram RouteReply :=
  replying do
  requireLoopback loopback
  let id ← .ofExcept (canonicalId (some (.str connectionId)))
  let body ← .ofExcept (exact value
    ["expectedRevision", "credential", "acknowledgedConnectionRevision", "mutationId"])
  let { expected, mutationId } ← .ofExcept (replaceBody body)
  let current ← .orThrow (← onDatabase (readCurrentConnectionProfile id))
    (conflict "Connection revision is stale")
  .require (current.state ≠ .deleted ∧ ConnectionTarget.isApproved current.profile.target)
    (conflict "Connection revision is stale")
  let nextReference ← .ofExcept (reference id (expected + 1))
  let previousReference ← .ofExcept (reference id expected)
  let secret ← .ofExcept (credential (body.member? (ofString "credential")))
  if current.profile.revision = expected + 1 ∧ current.state = .enabled ∧
      current.profile.credentialRef = some nextReference then
    .require (current.profile.mutationId = some mutationId)
      (conflict "Connection revision is stale")
    writeCredential nextReference secret
    deleteCredential previousReference
    return .connection 200 (connectionDto current)
  .require (current.profile.revision = expected) (conflict "Connection revision is stale")
  deletePrevious id expected
  writeCredential nextReference secret
  let revised ← onDatabase (reviseConnectionProfile {
    id
    revision := expected + 1
    target := current.profile.target
    credentialRef := some nextReference
    mutationId := some mutationId } expected)
  deleteCredential previousReference
  return .connection 200 (connectionDto revised)

/-- The connection and the revision that a request to disable or to delete names. -/
def expectedRevision (connectionId : JsString) (value : Json ℚ) :
    Except RouteError (JsString × ℕ) := do
  let id ← canonicalId (some (.str connectionId))
  let body ← exact value ["expectedRevision"]
  let expected ← revision (body.member? (ofString "expectedRevision"))
  return (id, expected)

/-- `POST /api/providers/connections/:connectionId/disable`. -/
def disableConnection (connectionId : JsString) (value : Json ℚ) : RouteProgram RouteReply :=
  replying do
  requireLoopback loopback
  let (id, expected) ← .ofExcept (expectedRevision connectionId value)
  let current ← .orThrow (← onDatabase (readCurrentConnectionProfile id))
    (conflict "Connection revision is stale")
  let reference ← .ofExcept (reference id expected)
  if current.state = .disabled ∧ current.profile.revision = expected + 1 then
    deleteCredential reference
    return .connection 200 (connectionDto current)
  .require (current.profile.revision = expected ∧ current.state = .enabled)
    (conflict "Connection revision is stale")
  deletePrevious id expected
  let disabled ← onDatabase (disableConnectionProfile id expected)
  deleteCredential reference
  return .connection 200 (connectionDto disabled)

/-- `DELETE /api/providers/connections/:connectionId`. -/
def deleteConnection (connectionId : JsString) (value : Json ℚ) : RouteProgram RouteReply :=
  replying do
  requireLoopback loopback
  let (id, expected) ← .ofExcept (expectedRevision connectionId value)
  let current ← .orThrow (← onDatabase (readCurrentConnectionProfile id))
    (conflict "Connection does not exist")
  let reference ← .ofExcept (reference id expected)
  if current.state = .deleted then
    if current.profile.revision = expected + 1 then
      deleteCredential reference
      return .connection 200 (connectionDto current)
    .require (current.profile.revision = expected) (conflict "Connection revision is stale")
    return .connection 200 (connectionDto current)
  .require (current.profile.revision = expected) (conflict "Connection revision is stale")
  deletePrevious id expected
  let deleted ← onDatabase (deleteConnectionProfile id (some expected))
  deleteCredential reference
  return .connection 200 (connectionDto deleted)

end GreenRoom.Api
