import GreenRoom.Lib.KeyedTable
import GreenRoom.Lib.TransitionSystem
import Mathlib.Algebra.Order.Ring.Rat

/-!
# The provider task registry

`ProviderTaskRegistry` admits provider requests on the iPhone: at most
`maximumConcurrent` are active, at most `maximumQueued` wait, and every one has a
deadline.  Each method runs its critical section under one lock and calls the
closures it collected after the lock is released.  A method is here a function
from the registry and the clock readings it takes to its answer, the next
registry and the list of closure calls it makes, in order.

An entry's closures and timer are told apart by the number of the `install` that
made it, which no method reads.  Cancelling a timer is not modelled: a timer that
already runs cannot be recalled, so `expire` may be called at any time.

## Main definitions

* `Entry`, `ProviderTaskRegistry` — the registry's state.
* `Effect` — the closure calls a method makes.
* `install`, `beginNetwork`, `claimCompletion`, `cancel`, `updateAvailability` —
  the methods.
* `RegistryCall`, `perform` — one method call as a step.
-/

namespace GreenRoom.Iphone

/-- The failure codes the native side reports over the bridge. -/
inductive FailureCode
  | invalidCall | incompatibleContract | databaseLocked | databaseUnavailable
  | migrationRejected | transactionRejected | resultTooLarge | providerConsentRequired
  | credentialUnavailable | credentialMissing | credentialWriteFailed | offline
  | providerUnreachable | providerRejected | invalidResponse | responseTooLarge
  | timeout | capacityRejected | canceled | internalFailure
  deriving DecidableEq, Repr

structure DatabaseFailure where
  code : FailureCode
  retryable : Bool
  deriving DecidableEq, Repr

/-- Seconds on the monotone system clock. -/
abbrev TimeInterval := ℚ

abbrev RequestId := String

/-- The clock readings one method call takes, in order. -/
abbrev ClockReadings := ℕ → TimeInterval

/-- The readings left after the first `n`. -/
def ClockReadings.after (now : ClockReadings) (n : ℕ) : ClockReadings := fun i => now (n + i)

structure RegistryLimits where
  maximumConcurrent : ℕ := 4
  maximumQueued : ℕ := 16
  totalDeadline : TimeInterval := 60

inductive EntryState
  | active
  | queued
  deriving DecidableEq, Repr

/-- A registry entry.  The retained task is set together with `started`, so it is
not kept apart. -/
structure Entry where
  /-- The number of the `install` that made the entry: which closures it holds. -/
  installation : ℕ
  attemptEpoch : ℕ
  lifecycleEpoch : ℕ
  deadline : TimeInterval
  state : EntryState
  started : Bool := false
  deriving DecidableEq

abbrev Entry.isActive (e : Entry) : Bool := e.state = .active

abbrev Entry.isQueued (e : Entry) : Bool := e.state = .queued

structure ProviderTaskRegistry where
  tasks : KeyedTable RequestId Entry := ∅
  queue : List RequestId := []
  lifecycleEpoch : ℕ := 0
  lifecycleAvailable : Bool := true
  roomModeAvailable : Bool := true
  /-- How many `install` calls have made an entry. -/
  installations : ℕ := 0

/-- What a method does besides changing the registry, named by the entry whose
closure or task it touches. -/
inductive Effect
  /-- The `start` closure is called with the time that remains. -/
  | start (installation : ℕ) (remaining : TimeInterval)
  /-- The network task is resumed. -/
  | resumeTask (installation : ℕ)
  /-- The network task is cancelled. -/
  | cancelTask (installation : ℕ)
  /-- The `cancellation` closure is called. -/
  | cancellation (installation : ℕ) (started : Bool) (failure : DatabaseFailure)
  /-- `claimCompletion` answers `true` to the completion of the entry. -/
  | claim (installation : ℕ)
  deriving DecidableEq

inductive ProviderTaskAdmission
  | active
  | queued
  | capacityRejected
  | lifecycleUnavailable
  | duplicate
  deriving DecidableEq, Repr

namespace ProviderTaskRegistry

/-- `DatabaseFailure(code: "timeout", retryable: true)`. -/
def timeoutFailure : DatabaseFailure := ⟨.timeout, true⟩

/-- `lifecycleAvailable && roomModeAvailable`. -/
def available (r : ProviderTaskRegistry) : Bool := r.lifecycleAvailable && r.roomModeAvailable

def lifecycleSnapshot (r : ProviderTaskRegistry) : Option ℕ :=
  if r.available then some r.lifecycleEpoch else none

def activeCount (tasks : KeyedTable RequestId Entry) : ℕ := KeyedTable.count Entry.isActive tasks

/-! ## Promotion -/

/-- What `promoteLocked` hands back to be called after the lock is released. -/
structure PromotionResult where
  promoted : List (TimeInterval × Entry) := []
  expired : List Entry := []

/-- The loop of `promoteLocked` over the queue, with the running active count. -/
def promoteLoop (limits : RegistryLimits) : List RequestId → ClockReadings → ℕ →
    KeyedTable RequestId Entry →
    KeyedTable RequestId Entry × List RequestId × PromotionResult
  | [], _, _, tasks => (tasks, [], {})
  | requestId :: queue, now, activeCount, tasks =>
    if activeCount < limits.maximumConcurrent then
      match tasks.lookup requestId with
      | none => promoteLoop limits queue now activeCount tasks
      | some entry =>
        if entry.state = .queued then
          let remaining := entry.deadline - now 0
          if 0 < remaining then
            let entry := { entry with state := .active }
            let (tasks, queue, result) := promoteLoop limits queue (now.after 1)
              (activeCount + 1) (tasks.insert requestId entry)
            (tasks, queue, { result with promoted := (remaining, entry) :: result.promoted })
          else
            let (tasks, queue, result) := promoteLoop limits queue (now.after 1)
              activeCount (tasks.erase requestId)
            (tasks, queue, { result with expired := entry :: result.expired })
        else promoteLoop limits queue now activeCount tasks
    else (tasks, requestId :: queue, {})

/-- Fill the free slots from the queue, dropping what has expired in it. -/
def promoteLocked (limits : RegistryLimits) (now : ClockReadings) (r : ProviderTaskRegistry) :
    ProviderTaskRegistry × PromotionResult :=
  let (tasks, queue, result) := promoteLoop limits r.queue now (activeCount r.tasks) r.tasks
  ({ r with tasks, queue }, result)

/-- Cancel one entry's task, if it has one, and call its cancellation. -/
def cancellationEffects (failure : DatabaseFailure) (entry : Entry) : List Effect :=
  (if entry.started then [.cancelTask entry.installation] else []) ++
    [.cancellation entry.installation entry.started failure]

/-- The calls every method makes after a promotion: the expired entries are
cancelled as timed out, then the promoted ones are started. -/
def PromotionResult.effects (p : PromotionResult) : List Effect :=
  p.expired.flatMap (cancellationEffects timeoutFailure) ++
    p.promoted.map fun (remaining, entry) => .start entry.installation remaining

/-! ## Methods -/

/-- The body of `updateAvailability`, once the two flags have been written. -/
def applyAvailability (wasAvailable : Bool) (r : ProviderTaskRegistry) :
    ProviderTaskRegistry × List Effect :=
  if r.available = wasAvailable then (r, [])
  else
    let r := { r with lifecycleEpoch := r.lifecycleEpoch + 1 }
    if r.available then (r, [])
    else
      ({ r with tasks := ∅, queue := [] },
        r.tasks.entries.flatMap fun e => cancellationEffects ⟨.canceled, true⟩ e.2)

def updateLifecycleAvailability (value : Bool) (r : ProviderTaskRegistry) :
    ProviderTaskRegistry × List Effect :=
  applyAvailability r.available { r with lifecycleAvailable := value }

def updateRoomModeAvailability (value : Bool) (r : ProviderTaskRegistry) :
    ProviderTaskRegistry × List Effect :=
  applyAvailability r.available { r with roomModeAvailable := value }

/-- Put a new entry under `requestId`, numbered by this installation. -/
def addEntry (requestId : RequestId) (entry : Entry) (r : ProviderTaskRegistry) :
    ProviderTaskRegistry :=
  { r with tasks := r.tasks.insert requestId entry, installations := r.installations + 1 }

def install (limits : RegistryLimits) (now : ClockReadings) (requestId : RequestId)
    (attemptEpoch expected : ℕ) (r : ProviderTaskRegistry) :
    ProviderTaskAdmission × ProviderTaskRegistry × List Effect :=
  if ¬ (r.available ∧ r.lifecycleEpoch = expected) then (.lifecycleUnavailable, r, [])
  else if (r.tasks.lookup requestId).isSome then (.duplicate, r, [])
  else
    let deadline := now 0 + limits.totalDeadline
    let remaining := max 0 (deadline - now 1)
    if activeCount r.tasks < limits.maximumConcurrent then
      let entry : Entry :=
        { installation := r.installations, attemptEpoch, lifecycleEpoch := expected, deadline,
          state := .active }
      (.active, r.addEntry requestId entry, [.start r.installations remaining])
    else if r.queue.length < limits.maximumQueued then
      let entry : Entry :=
        { installation := r.installations, attemptEpoch, lifecycleEpoch := expected, deadline,
          state := .queued }
      (.queued, { r.addEntry requestId entry with queue := r.queue ++ [requestId] }, [])
    else (.capacityRejected, r, [])

/-- How the `withAuthority` closure ran: whether it called `resume`, which it does
at most once, and whether it threw. -/
structure Authorization where
  resumes : Bool
  failure : Option DatabaseFailure := none
  deriving DecidableEq

/-- The guard of `beginNetwork`: the entry that may begin now. -/
def beginnable (now : ClockReadings) (requestId : RequestId) (attemptEpoch expected : ℕ)
    (r : ProviderTaskRegistry) : Option Entry :=
  (r.tasks.lookup requestId).filter fun entry =>
    r.available && (r.lifecycleEpoch = expected) && (entry.state = .active) &&
      (entry.attemptEpoch = attemptEpoch) && (entry.lifecycleEpoch = expected) &&
      !entry.started && (now 0 < entry.deadline)

/-- `withAuthority` is told what a call of `resume` would answer. -/
def beginNetwork (limits : RegistryLimits) (now : ClockReadings) (requestId : RequestId)
    (attemptEpoch expected : ℕ) (withAuthority : Bool → Authorization)
    (r : ProviderTaskRegistry) :
    Except DatabaseFailure Bool × ProviderTaskRegistry × List Effect :=
  match r.beginnable now requestId attemptEpoch expected with
  | none => (.ok false, r, [])
  | some entry =>
    let inTime : Bool := now 1 < entry.deadline
    let authorization := withAuthority inTime
    if authorization.resumes && inTime then
      let r := { r with tasks := r.tasks.insert requestId { entry with started := true } }
      match authorization.failure with
      | some failure => (.error failure, r, [.resumeTask entry.installation])
      | none => (.ok true, r, [.resumeTask entry.installation])
    else
      match authorization.failure with
      | some failure => (.error failure, r, [])
      | none =>
        if authorization.resumes then
          -- `expiredWhileAuthorizing`: the deadline passed while the closure ran
          let (r, promotion) :=
            promoteLocked limits (now.after 2) { r with tasks := r.tasks.erase requestId }
          (.ok false, r,
            .cancellation entry.installation false timeoutFailure :: promotion.effects)
        else (.error ⟨.internalFailure, false⟩, r, [])

def claimCompletion (limits : RegistryLimits) (now : ClockReadings) (requestId : RequestId)
    (attemptEpoch expected : ℕ) (r : ProviderTaskRegistry) :
    Bool × ProviderTaskRegistry × List Effect :=
  match r.tasks.lookup requestId with
  | none => (false, r, [])
  | some entry =>
    if r.available && (r.lifecycleEpoch = expected) && entry.started &&
        (entry.attemptEpoch = attemptEpoch) && (entry.lifecycleEpoch = expected) then
      let completionExpired : Bool := entry.deadline ≤ now 0
      let (r, promotion) :=
        promoteLocked limits (now.after 1) { r with tasks := r.tasks.erase requestId }
      if completionExpired then
        (false, r, cancellationEffects timeoutFailure entry ++ promotion.effects)
      else (true, r, .claim entry.installation :: promotion.effects)
    else (false, r, [])

def cancel (limits : RegistryLimits) (now : ClockReadings) (requestId : RequestId)
    (failure : DatabaseFailure) (r : ProviderTaskRegistry) :
    Bool × ProviderTaskRegistry × List Effect :=
  match r.tasks.lookup requestId with
  | none => (false, r, [])
  | some entry =>
    let r := { r with tasks := r.tasks.erase requestId }
    let r := if entry.state = .queued then
      { r with queue := r.queue.filter fun id => id ≠ requestId } else r
    let (r, promotion) : ProviderTaskRegistry × PromotionResult :=
      if entry.state = .active then promoteLocked limits now r else (r, {})
    (true, r, cancellationEffects failure entry ++ promotion.effects)

def failBeforeStart (limits : RegistryLimits) (now : ClockReadings) (requestId : RequestId)
    (failure : DatabaseFailure) (r : ProviderTaskRegistry) :
    Bool × ProviderTaskRegistry × List Effect :=
  r.cancel limits now requestId failure

def expire (limits : RegistryLimits) (now : ClockReadings) (requestId : RequestId)
    (r : ProviderTaskRegistry) : Bool × ProviderTaskRegistry × List Effect :=
  r.cancel limits now requestId timeoutFailure

end ProviderTaskRegistry

/-! ## Method calls as steps -/

/-- One method call, with the clock readings it takes. -/
inductive RegistryCall
  | install (now : ClockReadings) (requestId : RequestId) (attemptEpoch expected : ℕ)
  | beginNetwork (now : ClockReadings) (requestId : RequestId) (attemptEpoch expected : ℕ)
      (withAuthority : Bool → ProviderTaskRegistry.Authorization)
  | claimCompletion (now : ClockReadings) (requestId : RequestId) (attemptEpoch expected : ℕ)
  | cancel (now : ClockReadings) (requestId : RequestId) (failure : DatabaseFailure)
  | failBeforeStart (now : ClockReadings) (requestId : RequestId) (failure : DatabaseFailure)
  | expire (now : ClockReadings) (requestId : RequestId)
  | updateLifecycleAvailability (value : Bool)
  | updateRoomModeAvailability (value : Bool)

namespace ProviderTaskRegistry

/-- The registry a call leaves, and what the call does besides. -/
def perform (limits : RegistryLimits) (r : ProviderTaskRegistry) :
    RegistryCall → ProviderTaskRegistry × List Effect
  | .install now id attempt expected => (r.install limits now id attempt expected).2
  | .beginNetwork now id attempt expected withAuthority =>
      (r.beginNetwork limits now id attempt expected withAuthority).2
  | .claimCompletion now id attempt expected =>
      (r.claimCompletion limits now id attempt expected).2
  | .cancel now id failure => (r.cancel limits now id failure).2
  | .failBeforeStart now id failure => (r.failBeforeStart limits now id failure).2
  | .expire now id => (r.expire limits now id).2
  | .updateLifecycleAvailability value => r.updateLifecycleAvailability value
  | .updateRoomModeAvailability value => r.updateRoomModeAvailability value

end ProviderTaskRegistry

/-- The registry with everything it has done so far. -/
structure RegistryHistory where
  registry : ProviderTaskRegistry := {}
  effects : List Effect := []

/-- A fresh registry on which methods are called in any order. -/
def registrySystem (limits : RegistryLimits) : TransitionSystem RegistryHistory RegistryCall where
  init s := s = {}
  step s call t := t =
    { registry := (s.registry.perform limits call).1
      effects := s.effects ++ (s.registry.perform limits call).2 }

end GreenRoom.Iphone
