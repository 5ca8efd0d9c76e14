import GreenRoom.Lib.Pattern
import GreenRoom.Lib.Utf8
import GreenRoom.Providers.CredentialStore
import GreenRoom.Providers.PlainData

/-!
# Parsing decision snapshots

The parsers of `providers/profile-contracts.ts` over values of unknown type, with the model
identifiers of `providers/opaque-model-id.ts`.

## Main definitions

* `isBoundedOpaqueModelId` — the identifiers a provider may give its models.
* `Parse.parseDecisionSnapshot` — a snapshot read from a value.
* `DecisionSnapshot.toJson` — the snapshot as the object the parser returns.
-/

namespace GreenRoom.Providers

open JsString

/-! ## Model identifiers -/

/-- `/[\p{Cc}\p{White_Space}]/u`. -/
def isControlOrWhitespace (u : UInt16) : Bool :=
  u ≤ 0x20 || (0x7F ≤ u && u ≤ 0xA0) || (0x2000 ≤ u && u ≤ 0x200A) ||
    u ∈ ([0x1680, 0x2028, 0x2029, 0x202F, 0x205F, 0x3000] : List UInt16)

def maxOpaqueModelIdBytes : ℕ := 256

/-- `normalize` is `String.prototype.normalize`. -/
def isBoundedOpaqueModelId (normalize : JsString → JsString) (value : JsString) : Bool :=
  0 < value.length && value.length ≤ maxOpaqueModelIdBytes &&
    !value.any isControlOrWhitespace && isWellFormed value && normalize value = value &&
    utf8Length value ≤ maxOpaqueModelIdBytes

/-! ## Names -/

def ApprovedCloudProviderId.name : ApprovedCloudProviderId → String
  | .openrouter => "openrouter"
  | .openai => "openai"
  | .xai => "xai"
  | .groq => "groq"
  | .together => "together"

def LocalAdapter.name : LocalAdapter → String
  | .ollama => "ollama"
  | .openaiCompatible => "openai-compatible"

def ModelCapability.name : ModelCapability → String
  | .chat => "chat"
  | .jsonOutput => "json-output"
  | .streaming => "streaming"
  | .systemMessages => "system-messages"

def BindingPurpose.name : BindingPurpose → String
  | .personaDefault => "persona-default"

/-- The value whose name a text is. -/
def named {α : Type} (values : List α) (name : α → String) (s : JsString) : Option α :=
  values.find? fun a => ofString (name a) = s

def ApprovedCloudProviderId.all : List ApprovedCloudProviderId :=
  [.openrouter, .openai, .xai, .groq, .together]

def LocalAdapter.all : List LocalAdapter := [.ollama, .openaiCompatible]

def ModelCapability.all : List ModelCapability :=
  [.chat, .jsonOutput, .streaming, .systemMessages]

namespace Parse

/-! ## Single values -/

def MAX_ID_LENGTH : ℕ := 128

def canonicalId (value : Unknown) (label : String) : Except JsError JsString :=
  match value with
  | .str s =>
    if s ≠ [] ∧ s.length ≤ MAX_ID_LENGTH ∧ isIdText s then .ok s
    else .error (.typeError
      (ofString (label ++ " must be a canonical ID of at most 128 characters")))
  | _ => .error (.typeError
      (ofString (label ++ " must be a canonical ID of at most 128 characters")))

/-- A whole number in bounds. -/
def integer (value : Unknown) (minimum maximum : ℕ) (message : String) : Except JsError ℕ :=
  match value with
  | .num x =>
    if x.den = 1 ∧ minimum ≤ x ∧ x ≤ maximum then .ok x.num.toNat
    else .error (.typeError (ofString message))
  | _ => .error (.typeError (ofString message))

def revision (value : Unknown) (label : String) : Except JsError ℕ :=
  integer value 1 maxRevision (label ++ " must be an integer from 1 through 2147483647")

def connectionTarget (value : Unknown) : Except JsError ConnectionTarget := do
  let target ← dataFields value ["class"] ["adapter", "definitionId"] "connection target"
  match get target "class" with
  | .str targetClass =>
    if targetClass = ofString "approved-provider" then
      let approvedTarget ← dataFields value ["class", "definitionId"] [] "connection target"
      match get approvedTarget "definitionId" with
      | .str definitionId =>
        match named ApprovedCloudProviderId.all ApprovedCloudProviderId.name definitionId with
        | some definitionId => return .approvedProvider definitionId
        | none => throw (.typeError
            (ofString "connection target definitionId is not approved"))
      | _ => throw (.typeError (ofString "connection target definitionId is not approved"))
    else if targetClass = ofString "local-endpoint" then
      let localTarget ← dataFields value ["adapter", "class"] [] "connection target"
      match get localTarget "adapter" with
      | .str adapter =>
        match named LocalAdapter.all LocalAdapter.name adapter with
        | some adapter => return .localEndpoint adapter
        | none => throw (.typeError (ofString "connection target adapter is not supported"))
      | _ => throw (.typeError (ofString "connection target adapter is not supported"))
    else throw (.typeError (ofString "connection target class is not supported"))
  | _ => throw (.typeError (ofString "connection target class is not supported"))

/-- `/^[a-z0-9][a-z0-9-]{0,127}$/`. -/
def isMutationId : JsString → Bool
  | [] => false
  | u :: rest => isLowerAlphanumeric u && rest.length ≤ 127 &&
    rest.all fun u => isLowerAlphanumeric u || u = unit '-'

/-- An optional field that is text which passes a check. -/
def optionalText (value : Unknown) (check : JsString → Bool) (message : String) :
    Except JsError (Option JsString) :=
  match value with
  | .undefined => .ok none
  | .str s => if check s then .ok (some s) else .error (.typeError (ofString message))
  | _ => .error (.typeError (ofString message))

def parseConnectionProfile (value : Unknown) : Except JsError ConnectionProfile := do
  let profile ← dataFields value ["id", "revision", "target"] ["credentialRef", "mutationId"]
    "connection profile"
  let id ← canonicalId (get profile "id") "connection profile id"
  let target ← connectionTarget (get profile "target")
  let revision ← revision (get profile "revision") "connection profile revision"
  let credentialRef ← optionalText (get profile "credentialRef")
    (fun s => s = credentialReference id revision)
    "connection profile credentialRef must be its opaque local reference"
  let mutationId ← optionalText (get profile "mutationId") isMutationId
    "connection profile mutationId must be a canonical non-secret ID"
  return { id, revision, target, credentialRef, mutationId }

def profileRevisionRef (value : Unknown) (label : String) : Except JsError ProfileRevisionRef := do
  let reference ← dataFields value ["profileId", "revision"] [] label
  let profileId ← canonicalId (get reference "profileId") (label ++ " profileId")
  let revision ← revision (get reference "revision") (label ++ " revision")
  return { profileId, revision }

/-! ## Models -/

/-- `/^(?:0|[1-9]\d*)$/`. -/
def isIndexKey (s : JsString) : Bool :=
  s ≠ [] && s.all isDigit && (s.head? ≠ some (unit '0') || s.length = 1)

/-- A property of an array of plain data. -/
def isElement : PropertyKey × Descriptor → Bool
  | (.string key, .data _ true) => isIndexKey key
  | _ => false

/-- The capability at an index. -/
def capabilityAt (own : List (PropertyKey × Descriptor)) (index : ℕ) :
    Except JsError ModelCapability :=
  match own.lookup (.string (ofNat index)) with
  | some (.data (.str capability) true) =>
    match named ModelCapability.all ModelCapability.name capability with
    | some capability => .ok capability
    | none => .error (.typeError
        (ofString "model profile contains an unsupported required capability"))
  | some (.data _ true) => .error (.typeError
      (ofString "model profile contains an unsupported required capability"))
  | _ => .error (.typeError
      (ofString "model profile requiredCapabilities contains an unknown field"))

/-- Every name comes after the one before it. -/
def ascending : List ModelCapability → Bool
  | [] => true
  | [_] => true
  | c :: d :: rest => !le (ofString d.name) (ofString c.name) && ascending (d :: rest)

def requiredCapabilities (value : Unknown) : Except JsError (List ModelCapability) :=
  match value with
  | .array true length own => do
    if !own.all isElement then
      throw (.typeError
        (ofString "model profile requiredCapabilities contains an unknown field"))
    let capabilities ← (List.range length).mapM (capabilityAt own)
    if ModelCapability.all.length < capabilities.length ∨ !ascending capabilities then
      throw (.typeError
        (ofString "model profile requiredCapabilities must be unique and sorted"))
    return capabilities
  | _ => .error (.typeError
      (ofString "model profile requiredCapabilities must be a plain array"))

def generationDefaults (value : Unknown) : Except JsError GenerationDefaults := do
  let generation ← dataFields value ["maxOutputTokens", "temperature"] []
    "model profile generation"
  match get generation "temperature" with
  | .num temperature =>
    if temperature < 0 ∨ 2 < temperature then
      throw (.typeError (ofString "model profile temperature must be from 0 through 2"))
    let maxOutputTokens ← integer (get generation "maxOutputTokens") 1 32768
      "model profile maxOutputTokens must be an integer from 1 through 32768"
    return { temperature, maxOutputTokens }
  | _ => throw (.typeError (ofString "model profile temperature must be from 0 through 2"))

section

-- `String.prototype.normalize`.
variable (normalize : JsString → JsString)

def modelId (value : Unknown) : Except JsError JsString :=
  match value with
  | .str s =>
    if isBoundedOpaqueModelId normalize s then .ok s
    else .error (.typeError
      (ofString "model profile modelId must be a bounded opaque provider ID"))
  | _ => .error (.typeError
      (ofString "model profile modelId must be a bounded opaque provider ID"))

def parseModelProfile (value : Unknown) : Except JsError ModelProfile := do
  let profile ← dataFields value
    ["connection", "generation", "id", "modelId", "requiredCapabilities", "revision"] []
    "model profile"
  let id ← canonicalId (get profile "id") "model profile id"
  let revision ← revision (get profile "revision") "model profile revision"
  let connection ← profileRevisionRef (get profile "connection") "model profile connection"
  let modelId ← modelId normalize (get profile "modelId")
  let requiredCapabilities ← requiredCapabilities (get profile "requiredCapabilities")
  let generation ← generationDefaults (get profile "generation")
  return { id, revision, connection, modelId, requiredCapabilities, generation }

def parseRoomBinding (value : Unknown) : Except JsError RoomBinding := do
  let binding ← dataFields value ["id", "model", "purpose", "revision", "roomId"] []
    "room binding"
  match get binding "purpose" with
  | .str purpose =>
    if purpose ≠ ofString BindingPurpose.personaDefault.name then
      throw (.typeError (ofString "room binding purpose is not supported"))
    let id ← canonicalId (get binding "id") "room binding id"
    let revision ← revision (get binding "revision") "room binding revision"
    let roomId ← canonicalId (get binding "roomId") "room binding roomId"
    let model ← profileRevisionRef (get binding "model") "room binding model"
    return { id, revision, roomId, purpose := .personaDefault, model }
  | _ => throw (.typeError (ofString "room binding purpose is not supported"))

/-! ## Snapshots -/

open Pattern in
/-- `0|[1-9]\d*`. -/
def numericPattern : Pattern :=
  .alt (char '0') (.seq (.unit fun u => isDigit u && u ≠ unit '0') (.star (.unit isDigit)))

/-- `[0-9A-Za-z-]`. -/
def isIdentifierUnit (u : UInt16) : Bool := isAlphanumeric u || u = unit '-'

open Pattern in
/-- `0|[1-9]\d*|[0-9A-Za-z-]*[A-Za-z-][0-9A-Za-z-]*`. -/
def prereleasePattern : Pattern :=
  .alt numericPattern (all [.star (.unit isIdentifierUnit),
    .unit fun u => isIdentifierUnit u && !isDigit u, .star (.unit isIdentifierUnit)])

open Pattern in
/-- The text of a version: three numbers, then what comes before a release after a dash, and
what belongs to a build after a plus. -/
def semverPattern : Pattern :=
  all [.start, numericPattern, char '.', numericPattern, char '.', numericPattern,
    opt (all [char '-', prereleasePattern, .star (.seq (char '.') prereleasePattern)]),
    opt (all [char '+', plus (.unit isIdentifierUnit),
      .star (.seq (char '.') (plus (.unit isIdentifierUnit)))]),
    .stop]

def isVersion (s : JsString) : Bool := s.length ≤ 32 && semverPattern.test s

def adapterEvidence (value : Unknown) : Except JsError AdapterEvidence := do
  let adapter ← dataFields value ["id", "version"] [] "decision snapshot adapter"
  match get adapter "version" with
  | .str version =>
    if !isVersion version then
      throw (.typeError (ofString "decision snapshot adapter version must be canonical semver"))
    let id ← canonicalId (get adapter "id") "decision snapshot adapter id"
    match named LocalAdapter.all LocalAdapter.name id with
    | some id => return { id, version }
    | none => throw (.typeError (ofString "decision snapshot adapter id is not supported"))
  | _ => throw (.typeError
      (ofString "decision snapshot adapter version must be canonical semver"))

/-- `/^sha256:[0-9a-f]{64}$/`. -/
def isFingerprint (s : JsString) : Bool :=
  s.take 7 = ofString "sha256:" && s.length = 71 &&
    (s.drop 7).all fun u => isDigit u || (unit 'a' ≤ u && u ≤ unit 'f')

def fingerprint (value : Unknown) : Except JsError JsString :=
  match value with
  | .str s =>
    if isFingerprint s then .ok s
    else .error (.typeError
      (ofString "decision snapshot capabilityFingerprint must be canonical sha256"))
  | _ => .error (.typeError
      (ofString "decision snapshot capabilityFingerprint must be canonical sha256"))

/-- The connection of a snapshot, which has no credential. -/
def snapshotConnection (value : Unknown) : Except JsError SnapshotConnectionProfile := do
  let connection ← parseConnectionProfile value
  if connection.credentialRef ≠ none then
    throw (.typeError (ofString "decision snapshots must not contain credential references"))
  return connection.toSnapshotConnectionProfile

def parseDecisionSnapshot (value : Unknown) : Except JsError DecisionSnapshot := do
  let snapshot ← dataFields value
    ["adapter", "binding", "capabilityFingerprint", "connection", "directorRevision",
      "effectiveGeneration", "id", "model", "policyRevision"] [] "decision snapshot"
  let connection ← snapshotConnection (get snapshot "connection")
  let model ← parseModelProfile normalize (get snapshot "model")
  let binding ← parseRoomBinding (get snapshot "binding")
  if !sameReference model.connection connection.id connection.revision then
    throw (.typeError
      (ofString "decision snapshot model does not reference its exact connection revision"))
  if !sameReference binding.model model.id model.revision then
    throw (.typeError
      (ofString "decision snapshot binding does not reference its exact model revision"))
  let capabilityFingerprint ← fingerprint (get snapshot "capabilityFingerprint")
  let adapter ← adapterEvidence (get snapshot "adapter")
  if adapter.id ≠ adapterForTarget connection.target then
    throw (.typeError
      (ofString "decision snapshot adapter does not match its connection target"))
  let id ← canonicalId (get snapshot "id") "decision snapshot id"
  let effectiveGeneration ← generationDefaults (get snapshot "effectiveGeneration")
  let directorRevision ← revision (get snapshot "directorRevision")
    "decision snapshot directorRevision"
  let policyRevision ← revision (get snapshot "policyRevision")
    "decision snapshot policyRevision"
  return {
    id, binding, connection, model, effectiveGeneration, adapter, capabilityFingerprint,
    directorRevision, policyRevision }

end

end Parse

/-! ## The returned objects -/

/-- Text under a name. -/
def text (s : String) : Json ℚ := .str (ofString s)

def ConnectionTarget.toJson : ConnectionTarget → Json ℚ
  | .approvedProvider definitionId => .obj [(ofString "class", text "approved-provider"),
      (ofString "definitionId", text definitionId.name)]
  | .localEndpoint adapter => .obj [(ofString "class", text "local-endpoint"),
      (ofString "adapter", text adapter.name)]

def SnapshotConnectionProfile.toJson (profile : SnapshotConnectionProfile) : Json ℚ :=
  .obj [(ofString "id", .str profile.id), (ofString "revision", .num profile.revision),
    (ofString "target", profile.target.toJson)]

def ProfileRevisionRef.toJson (reference : ProfileRevisionRef) : Json ℚ :=
  .obj [(ofString "profileId", .str reference.profileId),
    (ofString "revision", .num reference.revision)]

def GenerationDefaults.toJson (generation : GenerationDefaults) : Json ℚ :=
  .obj [(ofString "temperature", .num generation.temperature),
    (ofString "maxOutputTokens", .num generation.maxOutputTokens)]

def ModelProfile.toJson (profile : ModelProfile) : Json ℚ :=
  .obj [(ofString "id", .str profile.id), (ofString "revision", .num profile.revision),
    (ofString "connection", profile.connection.toJson),
    (ofString "modelId", .str profile.modelId),
    (ofString "requiredCapabilities",
      .arr (profile.requiredCapabilities.map fun capability => text capability.name)),
    (ofString "generation", profile.generation.toJson)]

def RoomBinding.toJson (binding : RoomBinding) : Json ℚ :=
  .obj [(ofString "id", .str binding.id), (ofString "revision", .num binding.revision),
    (ofString "roomId", .str binding.roomId), (ofString "purpose", text binding.purpose.name),
    (ofString "model", binding.model.toJson)]

def AdapterEvidence.toJson (adapter : AdapterEvidence) : Json ℚ :=
  .obj [(ofString "id", text adapter.id.name), (ofString "version", .str adapter.version)]

def DecisionSnapshot.toJson (snapshot : DecisionSnapshot) : Json ℚ :=
  .obj [(ofString "id", .str snapshot.id), (ofString "binding", snapshot.binding.toJson),
    (ofString "connection", snapshot.connection.toJson),
    (ofString "model", snapshot.model.toJson),
    (ofString "effectiveGeneration", snapshot.effectiveGeneration.toJson),
    (ofString "adapter", snapshot.adapter.toJson),
    (ofString "capabilityFingerprint", .str snapshot.capabilityFingerprint),
    (ofString "directorRevision", .num snapshot.directorRevision),
    (ofString "policyRevision", .num snapshot.policyRevision)]

end GreenRoom.Providers
