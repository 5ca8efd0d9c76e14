import GreenRoom.Iphone.AtomicTurns
import GreenRoom.Iphone.Callbacks

/-!
# Runs of provider generation

`GreenRoomProviderService.generate` loads a command, installs an entry in the task
registry and begins the command's next attempt when the entry's turn comes; the closures
of the entry, the network task and the page's reconciliation end the attempt.  All of
these run on threads of their own.  A critical section of the registry, and a section that
holds the database, is one step.

Requests for lists of models use the registry too, but touch no command; they are left
out.  What may make `generate` refuse a command besides the database (its plan does not
decode, the credential cannot be read) is a step that refuses it.

## Main definitions

* `providerCommandAuthority`, `beginAttempt` — what a call reads and how an attempt begins.
* `GenerationState`, `GenerationStep`, `generationSystem` — the calls, the registry, the
  closures and the page as one transition system.
-/

namespace GreenRoom.Iphone

/-- The code of a failure as the database stores it. -/
def FailureCode.text : FailureCode → String
  | .invalidCall => "invalid_call"
  | .incompatibleContract => "incompatible_contract"
  | .databaseLocked => "database_locked"
  | .databaseUnavailable => "database_unavailable"
  | .migrationRejected => "migration_rejected"
  | .transactionRejected => "transaction_rejected"
  | .resultTooLarge => "result_too_large"
  | .providerConsentRequired => "provider_consent_required"
  | .credentialUnavailable => "credential_unavailable"
  | .credentialMissing => "credential_missing"
  | .credentialWriteFailed => "credential_write_failed"
  | .offline => "offline"
  | .providerUnreachable => "provider_unreachable"
  | .providerRejected => "provider_rejected"
  | .invalidResponse => "invalid_response"
  | .responseTooLarge => "response_too_large"
  | .timeout => "timeout"
  | .capacityRejected => "capacity_rejected"
  | .canceled => "canceled"
  | .internalFailure => "internal_failure"

/-! ## Calls -/

/-- What `providerCommandAuthority` finds. -/
structure LoadedCommand where
  requestPlan : Json ℚ
  attemptEpoch : ℕ
  reservation : CredentialIdentity
  deriving DecidableEq

/-- The command, if its plan may be put to the selected provider now; which failure is
thrown otherwise is left open. -/
def providerCommandAuthority (planDigest : Json ℚ → String) (id : CommandIdentity) (db : Store) :
    Option LoadedCommand := do
  let row ← db.commands.lookup id.commandId
  let a ← db.authority
  let room ← db.rooms.lookup row.roomId
  if id.names id.commandId row ∧ a.selection.Matches row.requestPlan ∧
      (row.state = .prepared ∨ row.state = .failed ∨ row.state = .interrupted) ∧
      row.requestPlan.extract "kind" = .ofText "provider" ∧
      a.credential.lifecycleState = .ready ∧ a.credential.tombstoned = false ∧
      a.profile.tombstoned = false ∧
      maxRevision db.profileRevisions a.selection.profileId = some a.selection.profileRevision ∧
      room.inferenceMode = .provider ∧
      room.openAt db row.roomId row.expectedGeneration row.expectedNextEventSequence ∧
      planDigest row.requestPlan = id.requestDigest ∧
      a.selection.providerId ∈ approvedProviders ∧
      a.consent.providerDefinitionVersion = 1 ∧ a.consent.disclosureVersion = 1 then
    some
      { requestPlan := row.requestPlan
        attemptEpoch := row.attemptEpoch
        reservation :=
          { profileId := a.selection.profileId
            profileRevision := a.selection.profileRevision
            providerId := a.selection.providerId
            credentialRef := a.credential.credentialRef
            mutationId := a.credential.mutationId } }
  else none

/-- What the closures of an entry hold on to. -/
structure Installed where
  id : CommandIdentity
  command : LoadedCommand
  lifecycleEpoch : ℕ
  deriving DecidableEq

namespace Installed

/-- The number of the attempt the entry stands for. -/
def attemptEpoch (i : Installed) : ℕ := i.command.attemptEpoch + 1

def begin (i : Installed) : Write :=
  .statement (.beginGenerationCommand i.id i.command.requestPlan i.command.attemptEpoch
    i.command.reservation.credentialRef i.command.reservation.mutationId)

def failNotStarted (i : Installed) : Write :=
  .failGenerationCommandNotStarted i.id i.command.attemptEpoch

/-- The body of the cancellation closure. -/
def cancellation (i : Installed) (started : Bool) (failure : DatabaseFailure) : Write :=
  if started then .interruptAttempt i.id.requestId i.attemptEpoch failure.code.text
  else i.failNotStarted

/-- The network task failed, and its completion was claimed. -/
def interrupt (i : Installed) (failure : DatabaseFailure) : Write :=
  .statement (.interruptGenerationCommand failure.code.text i.id i.attemptEpoch)

end Installed

/-- The closure `withAuthority` up to the network task: the command is the one that was
loaded, and its attempt begins. -/
def beginAttempt (planDigest : Json ℚ → String) (i : Installed) (db : Store) : Option Store := do
  let current ← providerCommandAuthority planDigest i.id db
  if current.reservation.mutationId = i.command.reservation.mutationId ∧
      current.requestPlan = i.command.requestPlan then
    match i.begin.exec db with
    | some (db, 1) => some db
    | _ => none
  else none

/-- Where a call of `generate` stands. -/
inductive CallStage
  | called
  | loaded (command : LoadedCommand)
  | installed (installation : ℕ)
  /-- The call failed; a command that had been loaded is yet to be failed. -/
  | refused (command : Option LoadedCommand)

/-- The entry a call installed. -/
def CallStage.installation? : CallStage → Option ℕ
  | .installed n => some n
  | _ => none

structure GenerateCall where
  id : CommandIdentity
  lifecycleEpoch : ℕ
  stage : CallStage

/-- The stage after `install`: a duplicate is refused without touching the command. -/
def CallStage.admitted (command : LoadedCommand) (installation : ℕ) :
    ProviderTaskAdmission → CallStage
  | .active | .queued => .installed installation
  | .duplicate => .refused none
  | .capacityRejected | .lifecycleUnavailable => .refused (some command)

/-- A network task: the start closure that made it, and the entry that holds it. -/
structure NetworkTask where
  closure : ℕ
  entry : ℕ
  deriving DecidableEq

/-! ## The page -/

/-- `unresolved_generation_command`. -/
def readUnresolvedGenerationCommand (roomId : String) (db : Store) :
    Option ((_ : String) × CommandRow) :=
  db.commands.entries.find? fun e => e.2.roomId = roomId && e.2.state.unresolved

/-- What `reconcileGenerationFailure` read of its command. -/
structure Reading where
  id : CommandIdentity
  state : CommandState
  attemptEpoch : ℕ

/-- The write that follows. -/
def Reading.write (r : Reading) (code : String) : Option Write :=
  match r.state with
  | .inFlight => some (.statement (.interruptGenerationCommand code r.id r.attemptEpoch))
  | .prepared => some (.statement (.failGenerationCommand code r.id r.attemptEpoch))
  | _ => none

/-- The write neither begins nor ends an attempt that is not completed. -/
def Write.ofTheRoom : Write → Bool
  | .statement (.beginGenerationCommand ..) | .statement (.interruptGenerationCommand ..) |
    .statement (.failGenerationCommand ..) | .interruptInFlightGenerationCommands |
    .interruptAttempt .. | .failGenerationCommandNotStarted .. => false
  | _ => true

/-! ## The system -/

structure GenerationState where
  store : Store
  history : RegistryHistory := {}
  calls : ℕ → Option GenerateCall := fun _ => none
  installed : ℕ → Option Installed := fun _ => none
  /-- The entries whose start closure has run, and those whose cancellation closure has. -/
  startsRun : List ℕ := []
  cancellationsRun : List ℕ := []
  /-- The network tasks that have not completed, and those whose completion was claimed. -/
  tasks : List NetworkTask := []
  claimed : List NetworkTask := []
  readings : ℕ → Option Reading := fun _ => none
  /-- The entry with which the last attempt of a command began; no step reads it. -/
  begun : String → Option ℕ := fun _ => none

inductive GenerationLabel
  | generate (call : ℕ) (id : CommandIdentity)
  | load (call : ℕ)
  | refuse (call : ℕ)
  | install (call : ℕ) (now : ClockReadings)
  | failInitial (call : ℕ)
  | start (installation : ℕ) (now : ClockReadings)
  | registry (call : RegistryCall)
  | cancellation (installation : ℕ) (started : Bool) (failure : DatabaseFailure)
  | taskDone (task : NetworkTask) (now : ClockReadings)
  | taskFailed (task : NetworkTask) (failure : DatabaseFailure)
  | reconcileRead (call : ℕ) (id : CommandIdentity) (roomId : String)
  | reconcileWrite (call : ℕ) (code : String)
  | write (w : Write)
  | recover

/-- The write is made, or its failure is swallowed. -/
def Attempted (w : Write) (db db' : Store) : Prop := db' = db ∨ ∃ n, w.exec db = some (db', n)

/-- The call in the registry that changes nothing but availability, or ends an entry. -/
def RegistryCall.fromOutside : RegistryCall → Bool
  | .cancel .. | .failBeforeStart .. | .expire .. | .updateLifecycleAvailability _
  | .updateRoomModeAvailability _ => true
  | _ => false

/-- The start closure of entry `n` may run: it was called and has not run yet. -/
def GenerationState.Starting (s : GenerationState) (n : ℕ) : Prop :=
  (∃ remaining, .start n remaining ∈ s.history.effects) ∧ n ∉ s.startsRun

section Step

variable (limits : RegistryLimits) (planDigest : Json ℚ → String)

/-- One step of a thread. -/
inductive GenerationStep : GenerationState → GenerationLabel → GenerationState → Prop
  /-- The page calls `generate`, which reads the lifecycle epoch. -/
  | generate {s : GenerationState} (g : ℕ) (id : CommandIdentity) (fresh : s.calls g = none) :
      GenerationStep s (.generate g id)
        { s with
          calls := Function.update s.calls g <| some <|
            match s.history.registry.lifecycleSnapshot with
            | some lifecycleEpoch => { id, lifecycleEpoch, stage := .called }
            | none => { id, lifecycleEpoch := 0, stage := .refused none } }
  | load {s : GenerationState} (g : ℕ) (call : GenerateCall) (loaded : LoadedCommand)
      (found : s.calls g = some call) (stage : call.stage = .called)
      (authority : providerCommandAuthority planDigest call.id s.store = some loaded) :
      GenerationStep s (.load g)
        { s with calls := Function.update s.calls g (some { call with stage := .loaded loaded }) }
  /-- `providerCommandAuthority` throws. -/
  | refuseLoad {s : GenerationState} (g : ℕ) (call : GenerateCall)
      (found : s.calls g = some call) (stage : call.stage = .called) :
      GenerationStep s (.refuse g)
        { s with calls := Function.update s.calls g (some { call with stage := .refused none }) }
  /-- The plan does not decode or is not the one of the request. -/
  | refusePlan {s : GenerationState} (g : ℕ) (call : GenerateCall) (loaded : LoadedCommand)
      (found : s.calls g = some call) (stage : call.stage = .loaded loaded) :
      GenerationStep s (.refuse g)
        { s with
          calls := Function.update s.calls g (some { call with stage := .refused (some loaded) }) }
  | install {s : GenerationState} (g : ℕ) (call : GenerateCall) (loaded : LoadedCommand)
      (now : ClockReadings) (admission : ProviderTaskAdmission) (found : s.calls g = some call)
      (stage : call.stage = .loaded loaded)
      (answer : (s.history.registry.install limits now call.id.requestId
        (loaded.attemptEpoch + 1) call.lifecycleEpoch).1 = admission) :
      GenerationStep s (.install g now)
        { s with
          history := s.history.perform limits
            (.install now call.id.requestId (loaded.attemptEpoch + 1) call.lifecycleEpoch)
          calls := Function.update s.calls g (some { call with
            stage := .admitted loaded s.history.registry.installations admission })
          installed :=
            if admission.admits then
              Function.update s.installed s.history.registry.installations
                (some { id := call.id, command := loaded, lifecycleEpoch := call.lifecycleEpoch })
            else s.installed }
  /-- `native-not-started-…-initial`. -/
  | failInitial {s : GenerationState} (g : ℕ) (call : GenerateCall) (loaded : LoadedCommand)
      (db' : Store) (found : s.calls g = some call) (stage : call.stage = .refused (some loaded))
      (write : Attempted
        (.statement (.failGenerationCommand "not_started" call.id loaded.attemptEpoch)) s.store
        db') :
      GenerationStep s (.failInitial g)
        { s with
          store := db'
          calls := Function.update s.calls g (some { call with stage := .refused none }) }
  /-- `beginNetwork` finds no entry that may begin, or the closure throws before the command
  begins. -/
  | startRefused {s : GenerationState} (n : ℕ) (i : Installed) (now : ClockReadings)
      (starting : s.Starting n) (found : s.installed n = some i) :
      GenerationStep s (.start n now) { s with startsRun := n :: s.startsRun }
  /-- The closure throws between the beginning of the attempt and the network task. -/
  | startBroken {s : GenerationState} (n : ℕ) (i : Installed) (now : ClockReadings) (entry : Entry)
      (db' : Store) (starting : s.Starting n) (found : s.installed n = some i)
      (beginnable : s.history.registry.beginnable now i.id.requestId i.attemptEpoch
        i.lifecycleEpoch = some entry)
      (begins : beginAttempt planDigest i s.store = some db') :
      GenerationStep s (.start n now)
        { s with
          store := db'
          startsRun := n :: s.startsRun
          begun := Function.update s.begun i.id.commandId (some entry.installation) }
  /-- The task is resumed. -/
  | startResumes {s : GenerationState} (n : ℕ) (i : Installed) (now : ClockReadings)
      (entry : Entry) (db' : Store) (starting : s.Starting n) (found : s.installed n = some i)
      (beginnable : s.history.registry.beginnable now i.id.requestId i.attemptEpoch
        i.lifecycleEpoch = some entry)
      (begins : beginAttempt planDigest i s.store = some db') (inTime : now 1 < entry.deadline) :
      GenerationStep s (.start n now)
        { s with
          store := db'
          history := s.history.perform limits (.beginNetwork now i.id.requestId i.attemptEpoch
            i.lifecycleEpoch fun _ => { resumes := true })
          startsRun := n :: s.startsRun
          tasks := { closure := n, entry := entry.installation } :: s.tasks
          begun := Function.update s.begun i.id.commandId (some entry.installation) }
  /-- The deadline passed while the closure ran, and the attempt is taken back. -/
  | startExpires {s : GenerationState} (n : ℕ) (i : Installed) (now : ClockReadings)
      (entry : Entry) (db' db'' : Store) (count : ℕ) (starting : s.Starting n)
      (found : s.installed n = some i)
      (beginnable : s.history.registry.beginnable now i.id.requestId i.attemptEpoch
        i.lifecycleEpoch = some entry)
      (begins : beginAttempt planDigest i s.store = some db') (late : ¬ now 1 < entry.deadline)
      (takenBack : i.failNotStarted.exec db' = some (db'', count)) :
      GenerationStep s (.start n now)
        { s with
          store := db''
          history := s.history.perform limits (.beginNetwork now i.id.requestId i.attemptEpoch
            i.lifecycleEpoch fun _ => { resumes := true })
          startsRun := n :: s.startsRun
          begun := Function.update s.begun i.id.commandId (some entry.installation) }
  /-- A cancellation, a start failure, an expiry or a change of availability. -/
  | registry {s : GenerationState} (call : RegistryCall) (outside : call.fromOutside) :
      GenerationStep s (.registry call) { s with history := s.history.perform limits call }
  /-- A cancellation closure runs. -/
  | cancellation {s : GenerationState} (n : ℕ) (started : Bool) (failure : DatabaseFailure)
      (i : Installed) (db' : Store)
      (called : .cancellation n started failure ∈ s.history.effects)
      (once : n ∉ s.cancellationsRun) (found : s.installed n = some i)
      (write : Attempted (i.cancellation started failure) s.store db') :
      GenerationStep s (.cancellation n started failure)
        { s with
          store := db'
          cancellationsRun := n :: s.cancellationsRun }
  /-- A network task completes. -/
  | taskDone {s : GenerationState} (task : NetworkTask) (i : Installed) (now : ClockReadings)
      (pending : task ∈ s.tasks) (found : s.installed task.closure = some i) :
      GenerationStep s (.taskDone task now)
        { s with
          history := s.history.perform limits
            (.claimCompletion now i.id.requestId i.attemptEpoch i.lifecycleEpoch)
          tasks := s.tasks.erase task
          claimed :=
            if (s.history.registry.claimCompletion limits now i.id.requestId i.attemptEpoch
              i.lifecycleEpoch).1 then task :: s.claimed
            else s.claimed }
  /-- A claimed completion is a failure. -/
  | taskFailed {s : GenerationState} (task : NetworkTask) (failure : DatabaseFailure)
      (i : Installed) (db' : Store) (pending : task ∈ s.claimed)
      (found : s.installed task.closure = some i)
      (write : Attempted (i.interrupt failure) s.store db') :
      GenerationStep s (.taskFailed task failure)
        { s with
          store := db'
          claimed := s.claimed.erase task }
  /-- `reconcileGenerationFailure` reads the room's command, which is the one that failed. -/
  | reconcileRead {s : GenerationState} (g : ℕ) (id : CommandIdentity) (roomId : String)
      (commandId : String) (row : CommandRow)
      (own : ∀ call, s.calls g = some call → call.id = id)
      (read : readUnresolvedGenerationCommand roomId s.store = some ⟨commandId, row⟩)
      (named : id.names commandId row) :
      GenerationStep s (.reconcileRead g id roomId)
        { s with
          readings := Function.update s.readings g
            (some { id, state := row.state, attemptEpoch := row.attemptEpoch }) }
  | reconcileWrite {s : GenerationState} (g : ℕ) (code : String) (reading : Reading) (w : Write)
      (db' : Store) (found : s.readings g = some reading) (next : reading.write code = some w)
      (write : Attempted w s.store db') :
      GenerationStep s (.reconcileWrite g code)
        { s with
          store := db'
          readings := Function.update s.readings g none }
  /-- Anything else the page writes. -/
  | write {s : GenerationState} (w : Write) (db' : Store) (count : ℕ) (permitted : w.Permitted)
      (room : w.ofTheRoom) (exec : w.exec s.store = some (db', count)) :
      GenerationStep s (.write w) { s with store := db' }
  /-- The recovery, each time the database has been opened. -/
  | recover {s : GenerationState} (db' : Store)
      (exec : Attempted .interruptInFlightGenerationCommands s.store db') :
      GenerationStep s .recover { s with store := db' }

/-- Calls of `generate`, their closures and tasks, and the page, in any order, from tables
without a command. -/
def generationSystem : TransitionSystem GenerationState GenerationLabel where
  init s := storeSystem.init s.store ∧ s = { store := s.store }
  step := GenerationStep limits planDigest

end Step

end GreenRoom.Iphone
