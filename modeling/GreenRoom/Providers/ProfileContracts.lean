import GreenRoom.Lib.JsError
import Mathlib.Data.Rat.Defs

/-!
# Provider profiles

The records of `providers/profile-contracts.ts`: connections to a provider, models
behind a connection, the binding of a room to a model, and the snapshot of all
three a reply is generated under.  A profile or a binding of these types has passed the
checks of its single fields, but for those a revision may come to fail by being counted
up; what is left of their parsers are these and the checks between fields.
-/

namespace GreenRoom.Providers

open JsString

/-- `APPROVED_CLOUD_PROVIDER_IDS`. -/
inductive ApprovedCloudProviderId
  | openrouter | openai | xai | groq | together
  deriving DecidableEq, Repr

/-- The `version` of a provider definition. -/
def ApprovedCloudProviderId.version (_ : ApprovedCloudProviderId) : ℕ := 1

inductive LocalAdapter
  | ollama | openaiCompatible
  deriving DecidableEq, Repr

inductive ConnectionTarget
  | approvedProvider (definitionId : ApprovedCloudProviderId)
  | localEndpoint (adapter : LocalAdapter)
  deriving DecidableEq, Repr

/-- A connection profile as a decision snapshot has it. -/
structure SnapshotConnectionProfile where
  id : JsString
  revision : ℕ
  target : ConnectionTarget
  deriving DecidableEq, Repr

structure ConnectionProfile extends SnapshotConnectionProfile where
  credentialRef : Option JsString := none
  mutationId : Option JsString := none
  deriving DecidableEq, Repr

inductive ModelCapability
  | chat | jsonOutput | streaming | systemMessages
  deriving DecidableEq, Repr

structure ProfileRevisionRef where
  profileId : JsString
  revision : ℕ
  deriving DecidableEq, Repr

structure GenerationDefaults where
  temperature : ℚ
  maxOutputTokens : ℕ
  deriving DecidableEq, Repr

structure ModelProfile where
  id : JsString
  revision : ℕ
  connection : ProfileRevisionRef
  modelId : JsString
  requiredCapabilities : List ModelCapability
  generation : GenerationDefaults
  deriving DecidableEq, Repr

inductive BindingPurpose
  | personaDefault
  deriving DecidableEq, Repr

structure RoomBinding where
  id : JsString
  revision : ℕ
  roomId : JsString
  purpose : BindingPurpose
  model : ProfileRevisionRef
  deriving DecidableEq, Repr

structure AdapterEvidence where
  id : LocalAdapter
  version : JsString
  deriving DecidableEq, Repr

structure DecisionSnapshot where
  id : JsString
  binding : RoomBinding
  connection : SnapshotConnectionProfile
  model : ModelProfile
  effectiveGeneration : GenerationDefaults
  adapter : AdapterEvidence
  capabilityFingerprint : JsString
  directorRevision : ℕ
  policyRevision : ℕ
  deriving DecidableEq, Repr

def maxRevision : ℕ := 2147483647

/-- `revision`: the check of a revision number. -/
def requireRevision (value : ℕ) (label : String) : Except JsError Unit :=
  if 1 ≤ value ∧ value ≤ maxRevision then .ok ()
  else .error (.typeError
    (ofString (label ++ " must be an integer from 1 through 2147483647")))

/-- The name of the secret of a connection revision. -/
def credentialReference (id : JsString) (revision : ℕ) : JsString :=
  join (ofString ":") [ofString "credential", id, ofNat revision]

def parseConnectionProfile (profile : ConnectionProfile) : Except JsError ConnectionProfile := do
  requireRevision profile.revision "connection profile revision"
  if profile.credentialRef.all fun reference =>
      reference = credentialReference profile.id profile.revision then
    return profile
  else throw (.typeError
    (ofString "connection profile credentialRef must be its opaque local reference"))

def parseModelProfile (profile : ModelProfile) : Except JsError ModelProfile := do
  requireRevision profile.revision "model profile revision"
  requireRevision profile.connection.revision "model profile connection revision"
  return profile

def parseRoomBinding (binding : RoomBinding) : Except JsError RoomBinding := do
  requireRevision binding.revision "room binding revision"
  requireRevision binding.model.revision "room binding model revision"
  return binding

def adapterForTarget : ConnectionTarget → LocalAdapter
  | .localEndpoint adapter => adapter
  | .approvedProvider _ => .openaiCompatible

def sameReference (reference : ProfileRevisionRef) (id : JsString) (revision : ℕ) : Bool :=
  reference.profileId = id && reference.revision = revision

end GreenRoom.Providers
