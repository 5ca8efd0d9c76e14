import GreenRoom.Db.ProviderStore
import GreenRoom.Runtime.RoomService

/-!
# Room services over one database

Any number of services work on one database at the same time, in one process or in
several.  A call of `sendMessage` starts an execution, or joins one its service has
in flight; an execution goes through `executeMessage` and `generateMessage` one
transaction or one `await` at a time, and between any two of its steps every other
party may take theirs: other executions, the upkeep of claims, operators, providers
that answer, fail or never come back, clocks that read anything, services that
close, processes that crash.  Whatever reads the database without a transaction may
fail by itself.

Beside what the code keeps, a state has history the code does not: which grant of a
claim an execution works under, which work a result comes from, and which command
put each event into the log.

## Main definitions

* `Stage`, `Phase`, `Execution` — where an execution is.
* `System` — the database, the services and the executions, with the history.
* `Move` — the steps of an execution that write nothing.
* `Step`, `roomSystem` — all steps, and the transition system.
-/

namespace GreenRoom.Runtime

open JsString GreenRoom.Core Providers

/-- What `randomUUID` returns, drawn at most once. -/
abbrev Token := JsString

abbrev ServiceId := ℕ

structure ProviderInvitation where
  id : JsString
  personaId : JsString
  prompt : JsString

/-- Where `generateMessage` is. -/
inductive Stage
  /-- Before the first `isStale`. -/
  | checking
  | pinning
  | confirming (providerDecision : DecisionSnapshot)
  | starting (providerDecision : Option DecisionSnapshot)
  /-- Inside `raceProviderGeneration`. -/
  | racing (providerDecision : Option DecisionSnapshot) (work : ℕ)
  /-- A result has come, but the upkeep of the claim has failed. -/
  | discarding (error : JsError)
  /-- In the `catch` clause, before `isStale`. -/
  | caught (error : JsError)
  /-- In the `catch` clause, before `releaseClaim`. -/
  | releasing (error : JsError)
  deriving DecidableEq

/-- Where `executeMessage` is. -/
inductive Phase
  /-- At the top of the loop. -/
  | preparing
  /-- Waiting for the claim of another execution. -/
  | waiting
  | generating (pending : PendingMessage) (stage : Stage)
  /-- `work` is where the provider's result comes from, if there is one. -/
  | completing (pending : PendingMessage) (generated : GeneratedMessage) (work : Option ℕ)
  | returned (result : CommandResult)
  | thrown (error : JsError)
  | crashed
  deriving DecidableEq

structure Execution where
  service : ServiceId
  command : MessageCommand
  requestDigest : JsString
  phase : Phase := .preparing
  /-- The claim is in `ownedClaims`. -/
  owned : Bool := false
  lost : Bool := false
  maintenanceError : Option JsError := none
  /-- The reason the controller has been aborted for. -/
  aborted : Option JsError := none
  /-- History: the last claim granted to this execution. -/
  grant : Option ℕ := none

/-- A call of `provider.generate`. -/
structure Work where
  token : Token
  invitation : ProviderInvitation
  outcome : Option (Except JsError (Json ℤ)) := none
  /-- History: the claim it was started under. -/
  grant : ℕ

structure Service where
  options : ServiceOptions
  closed : Bool := false
  inFlight : KeyedTable CommandKey Token := ∅

/-- A caller of `sendMessage` waits for the result of an execution. -/
structure Caller where
  command : MessageCommand
  token : Token

/-- The claim last granted on a command. -/
structure Grant where
  id : ℕ
  token : Token

/-- An event of the log, and the command that put it there. -/
structure Entry where
  author : Option CommandKey
  roomId : RoomId
  sequence : ℕ
  event : RoomEvent
  deriving DecidableEq

structure System where
  db : Db
  services : KeyedTable ServiceId Service := ∅
  executions : KeyedTable Token Execution := ∅
  works : KeyedTable ℕ Work := ∅
  callers : List Caller := []
  /-- History: how many claims have been granted. -/
  grants : ℕ := 0
  /-- History: the last grant of each command. -/
  granted : CommandKey → Option Grant := fun _ => none
  /-- History: the log, with the authors. -/
  journal : List Entry := []

def lostError : JsError := .ofText "Pending provider claim was lost"

def abortError : JsError := .error (ofString "AbortError") (ofString "This operation was aborted")

/-- The phases `executeMessage` does not come back from. -/
def Phase.isFinal : Phase → Bool
  | .returned _ | .thrown _ | .crashed => true
  | _ => false

def Phase.isGenerating : Phase → Bool
  | .generating _ _ => true
  | _ => false

namespace Execution

def key (e : Execution) : CommandKey := e.command.key

/-- Leave `executeMessage`, and with it `ownedClaims`. -/
def finish (phase : Phase) (e : Execution) : Execution := { e with phase, owned := false }

/-- `return {}`, or what else `generateMessage` returns without a result. -/
def withoutResult (pending : PendingMessage) (providerDecision : Option DecisionSnapshot)
    (e : Execution) : Execution :=
  { e with phase := .completing pending { providerDecision } none }

def enter (pending : PendingMessage) (stage : Stage) (e : Execution) : Execution :=
  { e with phase := .generating pending stage }

/-- `controller.abort(error)`. -/
def abort (error : JsError) (e : Execution) : Execution :=
  { e with aborted := e.aborted.or (some error) }

def afterPrepare (grant : ℕ) (answer : Except JsError PreparedMessage) (e : Execution) :
    Execution :=
  match answer with
  | .error error => e.finish (.thrown error)
  | .ok (.complete result) => e.finish (.returned result)
  | .ok (.observed _ _) => { e with phase := .waiting }
  | .ok (.claimed pending) =>
    { e with
      phase := .generating pending .checking
      owned := true
      lost := false
      maintenanceError := none
      aborted := none
      grant := some grant }

def afterPin (pending : PendingMessage) (answer : Except JsError (Option DecisionSnapshot))
    (e : Execution) : Execution :=
  match answer with
  | .error error => e.enter pending (.caught error)
  | .ok (some providerDecision) => e.enter pending (.confirming providerDecision)
  | .ok none => e.enter pending (.starting none)

/-- The error of a transaction, or else the given one. -/
def errorOr {α : Type} (error : JsError) : Except JsError α → JsError
  | .error error => error
  | .ok _ => error

/-- After the release of a claim whose result is discarded. -/
def afterDiscard (pending : PendingMessage) (error : JsError) (answer : Except JsError Unit)
    (e : Execution) : Execution :=
  e.enter pending (.caught (errorOr error answer))

/-- After the release of a claim in the `catch` clause. -/
def afterRelease (error : JsError) (answer : Except JsError Unit) (e : Execution) : Execution :=
  e.finish (.thrown (errorOr error answer))

def afterRenew (answer : Except JsError ℕ) (e : Execution) : Execution :=
  match answer with
  | .error error => { e with maintenanceError := some error }.abort error
  | .ok renewed => if renewed = 1 then e else { e with lost := true }.abort lostError

def afterComplete (answer : Except JsError (Option CommandResult)) (e : Execution) : Execution :=
  match answer with
  | .error error => e.finish (.thrown error)
  | .ok (some result) => e.finish (.returned result)
  | .ok none => { e with phase := .preparing }

end Execution

/-- The steps of an execution that write nothing.  `closed` is `#closed` of its service. -/
inductive Move (db : Db) (works : KeyedTable ℕ Work) (closed : Bool) (e : Execution) :
    Execution → Prop
  /-- `throwIfClosed`. -/
  | isClosed : closed = true →
      (e.phase = .preparing ∨ ∃ pending generated work,
        e.phase = .completing pending generated work) →
      Move db works closed e (e.finish (.thrown closedError))
  | wake : e.phase = .waiting → Move db works closed e { e with phase := .preparing }
  /-- The wait is aborted, or the clock read before it is invalid. -/
  | waitFails (error : JsError) : e.phase = .waiting →
      Move db works closed e (e.finish (.thrown error))
  | noSpeaker (pending : PendingMessage) : e.phase = .generating pending .checking →
      pending.decision.speaker = none →
      Move db works closed e (e.finish (.thrown
        (.ofText "Cannot generate without a selected speaker")))
  | stale (pending : PendingMessage) (speaker : ParticipantId) :
      e.phase = .generating pending .checking → pending.decision.speaker = some speaker →
      staleIn e.command.roomId pending.generation speaker db = true →
      Move db works closed e (e.withoutResult pending none)
  | fresh (pending : PendingMessage) (speaker : ParticipantId) :
      e.phase = .generating pending .checking → pending.decision.speaker = some speaker →
      staleIn e.command.roomId pending.generation speaker db = false →
      Move db works closed e (e.enter pending .pinning)
  | checkFails (pending : PendingMessage) (error : JsError) :
      e.phase = .generating pending .checking →
      Move db works closed e (e.finish (.thrown error))
  /-- `isProviderDecisionCurrent` reads without a transaction, and may answer anything. -/
  | confirmed (pending : PendingMessage) (providerDecision : DecisionSnapshot) :
      e.phase = .generating pending (.confirming providerDecision) →
      Move db works closed e (e.enter pending (.starting (some providerDecision)))
  | outdated (pending : PendingMessage) (providerDecision : DecisionSnapshot) :
      e.phase = .generating pending (.confirming providerDecision) →
      Move db works closed e (e.withoutResult pending (some providerDecision))
  /-- There is no provider for the decision, or no name for the persona. -/
  | startFails (pending : PendingMessage) (providerDecision : Option DecisionSnapshot)
      (error : JsError) :
      e.phase = .generating pending (.starting providerDecision) →
      Move db works closed e (e.enter pending (.caught error))
  /-- The provider returns, too late. -/
  | lost (pending : PendingMessage) (providerDecision : Option DecisionSnapshot) (work : ℕ)
      (w : Work) (value : Json ℤ) :
      e.phase = .generating pending (.racing providerDecision work) →
      works.lookup work = some w → w.outcome = some (.ok value) → e.lost = true →
      Move db works closed e (e.withoutResult pending providerDecision)
  | discarded (pending : PendingMessage) (providerDecision : Option DecisionSnapshot) (work : ℕ)
      (w : Work) (value : Json ℤ) (error : JsError) :
      e.phase = .generating pending (.racing providerDecision work) →
      works.lookup work = some w → w.outcome = some (.ok value) → e.lost = false →
      e.maintenanceError = some error →
      Move db works closed e (e.enter pending (.discarding error))
  | delivered (pending : PendingMessage) (providerDecision : Option DecisionSnapshot) (work : ℕ)
      (w : Work) (value : Json ℤ) (result : ProviderResult) :
      e.phase = .generating pending (.racing providerDecision work) →
      works.lookup work = some w → w.outcome = some (.ok value) → e.lost = false →
      e.maintenanceError = none → validatedProviderResult value = .ok result →
      Move db works closed e { e with
        phase := .completing pending { providerResult := some result, providerDecision }
          (some work) }
  | invalid (pending : PendingMessage) (providerDecision : Option DecisionSnapshot) (work : ℕ)
      (w : Work) (value : Json ℤ) (error : JsError) :
      e.phase = .generating pending (.racing providerDecision work) →
      works.lookup work = some w → w.outcome = some (.ok value) → e.lost = false →
      e.maintenanceError = none → validatedProviderResult value = .error error →
      Move db works closed e (e.enter pending (.caught error))
  | workFails (pending : PendingMessage) (providerDecision : Option DecisionSnapshot) (work : ℕ)
      (w : Work) (error : JsError) :
      e.phase = .generating pending (.racing providerDecision work) →
      works.lookup work = some w → w.outcome = some (.error error) →
      Move db works closed e (e.enter pending (.caught error))
  | interrupted (pending : PendingMessage) (providerDecision : Option DecisionSnapshot)
      (work : ℕ) (error : JsError) :
      e.phase = .generating pending (.racing providerDecision work) → e.aborted = some error →
      Move db works closed e (e.enter pending (.caught error))
  | timedOut (pending : PendingMessage) (providerDecision : Option DecisionSnapshot) (work : ℕ)
      (error : JsError) :
      e.phase = .generating pending (.racing providerDecision work) →
      Move db works closed e ((e.abort error).enter pending (.caught error))
  | caughtStale (pending : PendingMessage) (speaker : ParticipantId) (error : JsError) :
      e.phase = .generating pending (.caught error) → pending.decision.speaker = some speaker →
      staleIn e.command.roomId pending.generation speaker db = true →
      Move db works closed e (e.withoutResult pending none)
  | caughtLost (pending : PendingMessage) (speaker : ParticipantId) (error : JsError) :
      e.phase = .generating pending (.caught error) → pending.decision.speaker = some speaker →
      staleIn e.command.roomId pending.generation speaker db = false → e.lost = true →
      Move db works closed e (e.withoutResult pending none)
  | caughtFresh (pending : PendingMessage) (speaker : ParticipantId) (error : JsError) :
      e.phase = .generating pending (.caught error) → pending.decision.speaker = some speaker →
      staleIn e.command.roomId pending.generation speaker db = false → e.lost = false →
      Move db works closed e (e.enter pending (.releasing (e.maintenanceError.getD error)))
  | caughtFails (pending : PendingMessage) (error error' : JsError) :
      e.phase = .generating pending (.caught error) →
      Move db works closed e (e.finish (.thrown error'))
  /-- The wait between two renewals fails. -/
  | maintenanceFails (error : JsError) : e.phase.isGenerating = true → e.lost = false →
      e.maintenanceError = none → e.aborted = none →
      Move db works closed e ({ e with maintenanceError := some error }.abort error)

/-! ## Transactions -/

inductive Operation
  | prepare (token : Token) (clock : ℤ)
  | pin (token : Token)
  | renew (token : Token) (clock : ℤ)
  | release (token : Token)
  | complete (token : Token) (clock : ℤ)
  | roomControl (kind : RoomControl) (command : RoomCommand)
  | personaControl (kind : PersonaControl) (command : PersonaControlCommand)
  | replaceCast (command : ReplaceCastCommand)
  | selectRoom (command : SelectRoomCommand)

/-- What a step does: a transaction, with the error it throws if it does, or something else. -/
inductive Label
  | other
  | transaction (operation : Operation) (error : Option JsError)

/-- The clock reading of a step. -/
def Label.clock : Label → Option ℤ
  | .transaction (.prepare _ clock) _ | .transaction (.renew _ clock) _
  | .transaction (.complete _ clock) _ => some clock
  | _ => none

def Label.error : Label → Option JsError
  | .transaction _ error => error
  | .other => none

/-- The error of an answer. -/
def thrownBy {α : Type} : Except JsError α → Option JsError
  | .error error => some error
  | .ok _ => none

def asksToAbort : Except JsError ControlAnswer → Bool
  | .ok answer => answer.abort
  | .error _ => false

namespace System

/-- The events `db'` has and `db` has not, in the order of the table. -/
def newEvents (db db' : Db) : List ((_ : RoomId × ℕ) × RoomEvent) :=
  db'.events.entries.filter fun e => e.1 ∉ db.events

/-- The transaction of `author` has left `db'`. -/
def commit (author : Option CommandKey) (db' : Db) (s : System) : System :=
  { s with
    db := db'
    journal := s.journal ++ (newEvents s.db db').map fun e => ⟨author, e.1.1, e.1.2, e.2⟩ }

def setExecution (token : Token) (e : Execution) (s : System) : System :=
  { s with executions := s.executions.insert token e }

/-- A claim has been granted to `token`. -/
def grant (key : CommandKey) (token : Token) (s : System) : System :=
  { s with
    grants := s.grants + 1
    granted := fun k => if k = key then some ⟨s.grants, token⟩ else s.granted k }

/-- Grant a claim if `prepareMessage` has made one. -/
def grantIfClaimed (key : CommandKey) (token : Token) (answer : Except JsError PreparedMessage)
    (s : System) : System :=
  match answer with
  | .ok (.claimed _) => s.grant key token
  | _ => s

def setService (id : ServiceId) (service : Service) (s : System) : System :=
  { s with services := s.services.insert id service }

/-- Update the executions of one service. -/
def updateExecutions (id : ServiceId) (f : Execution → Execution) (s : System) : System :=
  { s with
    executions := KeyedTable.modify (fun _ e => if e.service = id then f e else e) s.executions }

/-- `abortRoom`, if the answer asks for it. -/
def abortIf (id : ServiceId) (roomId : RoomId) (answer : Except JsError ControlAnswer) :
    System → System :=
  updateExecutions id fun e =>
    if asksToAbort answer ∧ e.command.roomId = roomId ∧ e.phase.isGenerating then
      e.abort abortError
    else e

end System

/-- The invitation `generateMessage` sends. -/
def invitation (roomId : RoomId) (pending : PendingMessage) (speaker : ParticipantId)
    (personaId : JsString) : ProviderInvitation where
  id := join (ofString ":")
    [roomId, ofNat pending.generation, ofNat pending.humanEventSequence, speaker]
  personaId
  prompt := pending.prompt

variable (host : Host)

def MessageCommand.digest (command : MessageCommand) : JsString :=
  GreenRoom.digest host.sha256 command.payload

/-- The steps of the system. -/
inductive Step : System → Label → System → Prop
  | openService (s : System) (id : ServiceId) (options : ServiceOptions) :
      id ∉ s.services → Step s .other (s.setService id { options })
  /-- `sendMessage` starts an execution. -/
  | call (s : System) (id : ServiceId) (service : Service) (raw : SendMessageCommand)
      (command : MessageCommand) (token : Token) :
      s.services.lookup id = some service → service.closed = false →
      normalize raw = .ok command → command.key ∉ service.inFlight → token ∉ s.executions →
      Step s .other { s with
        services := s.services.insert id { service with
          inFlight := service.inFlight.insert command.key token }
        executions := s.executions.insert token {
          service := id
          command
          requestDigest := command.digest host }
        callers := ⟨command, token⟩ :: s.callers }
  /-- `sendMessage` joins an execution that is in flight. -/
  | join (s : System) (id : ServiceId) (service : Service) (raw : SendMessageCommand)
      (command : MessageCommand) (token : Token) (e : Execution) :
      s.services.lookup id = some service → service.closed = false →
      normalize raw = .ok command → service.inFlight.lookup command.key = some token →
      s.executions.lookup token = some e → e.requestDigest = command.digest host →
      Step s .other { s with callers := ⟨command, token⟩ :: s.callers }
  /-- An execution that has settled leaves `inFlight`. -/
  | settleCall (s : System) (id : ServiceId) (service : Service) (key : CommandKey)
      (token : Token) (e : Execution) :
      s.services.lookup id = some service → service.inFlight.lookup key = some token →
      s.executions.lookup token = some e → e.phase.isFinal = true →
      Step s .other (s.setService id { service with inFlight := service.inFlight.erase key })
  | move (s : System) (token : Token) (e e' : Execution) (service : Service) :
      s.executions.lookup token = some e → s.services.lookup e.service = some service →
      Move s.db s.works service.closed e e' → Step s .other (s.setExecution token e')
  /-- The provider is called. -/
  | startWork (s : System) (token : Token) (e : Execution) (pending : PendingMessage)
      (providerDecision : Option DecisionSnapshot) (speaker : ParticipantId) (personaId : JsString)
      (work grant : ℕ) :
      s.executions.lookup token = some e →
      e.phase = .generating pending (.starting providerDecision) →
      pending.decision.speaker = some speaker →
      (providerPersonaId e.command.roomId speaker).Returns s.db personaId s.db →
      work ∉ s.works → e.grant = some grant →
      Step s .other ({ s with works := s.works.insert work {
        token
        invitation := invitation e.command.roomId pending speaker personaId
        grant } }.setExecution token (e.enter pending (.racing providerDecision work)))
  /-- The provider returns or fails, whether anybody still waits for it or not. -/
  | settleWork (s : System) (work : ℕ) (w : Work) (outcome : Except JsError (Json ℤ)) :
      s.works.lookup work = some w → w.outcome = none →
      Step s .other { s with works := s.works.insert work { w with outcome := some outcome } }
  | prepare (s : System) (token : Token) (e : Execution) (service : Service)
      (faults : Faults JsError) (clock : ℤ) (answer : Except JsError PreparedMessage) (db' : Db) :
      s.executions.lookup token = some e → s.services.lookup e.service = some service →
      service.closed = false → e.phase = .preparing →
      transact faults (prepareMessage service.options e.command e.requestDigest token clock) s.db =
        (answer, db') →
      Step s (.transaction (.prepare token clock) (thrownBy answer))
        (((s.commit (some e.key) db').grantIfClaimed e.key token answer).setExecution token
          (e.afterPrepare s.grants answer))
  | pin (s : System) (token : Token) (e : Execution) (service : Service)
      (pending : PendingMessage) (faults : Faults JsError)
      (answer : Except JsError (Option DecisionSnapshot)) (db' : Db) :
      s.executions.lookup token = some e → s.services.lookup e.service = some service →
      e.phase = .generating pending .pinning →
      transact faults (pinProviderDecision host service.options e.command.roomId
        e.command.requestId token) s.db = (answer, db') →
      Step s (.transaction (.pin token) (thrownBy answer))
        ((s.commit (some e.key) db').setExecution token (e.afterPin pending answer))
  | renew (s : System) (token : Token) (e : Execution) (service : Service)
      (faults : Faults JsError) (clock : ℤ) (answer : Except JsError ℕ) (db' : Db) :
      s.executions.lookup token = some e → s.services.lookup e.service = some service →
      e.phase.isGenerating = true → e.lost = false → e.maintenanceError = none →
      e.aborted = none →
      transact faults (renewClaim service.options e.command.roomId e.command.requestId token clock)
        s.db = (answer, db') →
      Step s (.transaction (.renew token clock) (thrownBy answer))
        ((s.commit (some e.key) db').setExecution token (e.afterRenew answer))
  /-- A result is discarded because the upkeep of its claim has failed. -/
  | discard (s : System) (token : Token) (e : Execution) (pending : PendingMessage)
      (error : JsError) (faults : Faults JsError) (answer : Except JsError Unit) (db' : Db) :
      s.executions.lookup token = some e →
      e.phase = .generating pending (.discarding error) →
      transact faults (releaseClaim e.command.roomId e.command.requestId token) s.db =
        (answer, db') →
      Step s (.transaction (.release token) (thrownBy answer))
        ((s.commit (some e.key) db').setExecution token (e.afterDiscard pending error answer))
  /-- The claim is released in the `catch` clause. -/
  | release (s : System) (token : Token) (e : Execution) (pending : PendingMessage)
      (error : JsError) (faults : Faults JsError) (answer : Except JsError Unit) (db' : Db) :
      s.executions.lookup token = some e →
      e.phase = .generating pending (.releasing error) →
      transact faults (releaseClaim e.command.roomId e.command.requestId token) s.db =
        (answer, db') →
      Step s (.transaction (.release token) (thrownBy answer))
        ((s.commit (some e.key) db').setExecution token (e.afterRelease error answer))
  | complete (s : System) (token : Token) (e : Execution) (service : Service)
      (pending : PendingMessage) (generated : GeneratedMessage) (work : Option ℕ)
      (faults : Faults JsError) (clock : ℤ) (answer : Except JsError (Option CommandResult))
      (db' : Db) :
      s.executions.lookup token = some e → s.services.lookup e.service = some service →
      service.closed = false → e.phase = .completing pending generated work →
      transact faults (completeMessage host e.command.roomId e.command.requestId pending generated
        token clock) s.db = (answer, db') →
      Step s (.transaction (.complete token clock) (thrownBy answer))
        ((s.commit (some e.key) db').setExecution token (e.afterComplete answer))
  /-- `pause`, `resume` and `stop`. -/
  | roomControl (s : System) (id : ServiceId) (service : Service) (kind : RoomControl)
      (command : RoomCommand) (faults : Faults JsError) (answer : Except JsError ControlAnswer)
      (db' : Db) :
      s.services.lookup id = some service → service.closed = false →
      transact faults (roomControl host kind command) s.db = (answer, db') →
      Step s (.transaction (.roomControl kind command) (thrownBy answer))
        ((s.commit (some (command.roomId, command.requestId)) db').abortIf id command.roomId answer)
  /-- `mute` and `unmute`. -/
  | personaControl (s : System) (id : ServiceId) (service : Service) (kind : PersonaControl)
      (command : PersonaControlCommand) (faults : Faults JsError)
      (answer : Except JsError ControlAnswer) (db' : Db) :
      s.services.lookup id = some service → service.closed = false →
      transact faults (personaControl host kind command) s.db = (answer, db') →
      Step s (.transaction (.personaControl kind command) (thrownBy answer))
        ((s.commit (some (command.roomId, command.requestId)) db').abortIf id command.roomId answer)
  | replaceCast (s : System) (id : ServiceId) (service : Service) (uuids : ℕ → JsString)
      (command : ReplaceCastCommand) (faults : Faults JsError)
      (answer : Except JsError CastReplacementResult) (db' : Db) :
      s.services.lookup id = some service → service.closed = false →
      transact faults (replaceCast host uuids service.options command) s.db = (answer, db') →
      Step s (.transaction (.replaceCast command) (thrownBy answer)) (s.commit none db')
  | selectRoom (s : System) (command : SelectRoomCommand) (faults : Faults JsError)
      (answer : Except JsError RoomSelectionResult) (db' : Db) :
      transact faults (selectRoom host.sha256 command) s.db = (answer, db') →
      Step s (.transaction (.selectRoom command) (thrownBy answer)) (s.commit none db')
  /-- Profiles, bindings and observations are written by other parts of the program. -/
  | providers (s : System) (db' : Db) : ProviderChange s.db db' → Step s .other { s with db := db' }
  /-- `close` aborts what is in flight. -/
  | close (s : System) (id : ServiceId) (service : Service) :
      s.services.lookup id = some service →
      Step s .other ((s.setService id { service with closed := true }).updateExecutions id fun e =>
        if e.phase.isGenerating then e.abort closedError else e)
  /-- `close` releases the claims the service owns. -/
  | closeRelease (s : System) (token : Token) (e : Execution) (service : Service)
      (faults : Faults JsError) (answer : Except JsError Unit) (db' : Db) :
      s.executions.lookup token = some e → s.services.lookup e.service = some service →
      service.closed = true → e.owned = true →
      transact faults (releaseClaim e.command.roomId e.command.requestId token) s.db =
        (answer, db') →
      Step s (.transaction (.release token) (thrownBy answer)) (s.commit (some e.key) db')
  /-- The process of a service ends. -/
  | crash (s : System) (id : ServiceId) :
      Step s .other ({ s with services := s.services.erase id }.updateExecutions id fun e =>
        if e.phase.isFinal then e else e.finish .crashed)

/-- The services over a database nothing has happened in yet. -/
def roomSystem (fresh : Db → Prop) : TransitionSystem System Label where
  init s := fresh s.db ∧ s = { db := s.db }
  step := Step host

end GreenRoom.Runtime
