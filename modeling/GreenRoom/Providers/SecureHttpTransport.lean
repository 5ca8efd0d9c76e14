import GreenRoom.Lib.TransitionSystem
import Mathlib.Data.List.Basic
import Mathlib.Logic.Function.Basic

/-!
# The permits of the secure HTTP transport

`providers/secure-http-transport.ts`: a request acquires a permit of a semaphore, performs, and
gives the permit back when both its caller has finished and its socket has been closed.  Every
piece of code between two awaits is one step; a request is told apart by its number.

## Main definitions

* `TransportRequest` — the variables of one call of `#withTotalDeadline`.
* `Transport` — the semaphore and the requests, and what has happened to them.
* `grant`, `releasePermit`, `acquire`, `abort` — the semaphore.
* `releaseLease`, `settle` — the end of a request.
* `transport` — the transition system.
-/

namespace GreenRoom.Providers

abbrev RequestNumber := ℕ

def maxQueuedRequests : ℕ := 64

/-- The promise that `acquire` returns. -/
inductive Acquisition
  | pending
  | resolved
  | rejected
  deriving DecidableEq, Repr

/-- Where the caller of `#withTotalDeadline` is. -/
inductive TransportStage
  | absent
  | acquiring
  | performing
  | finished
  deriving DecidableEq, Repr

structure TransportRequest where
  stage : TransportStage := .absent
  /-- `controller.signal.aborted`. -/
  aborted : Bool := false
  acquisition : Acquisition := .pending
  /-- `released`, in the function that the permit is given back with. -/
  released : Bool := false
  /-- `release` has been assigned. -/
  release : Bool := false
  retainedSocket : Bool := false
  retainedSocketClosed : Bool := false
  callerActive : Bool := false
  callerFinished : Bool := false
  leaseReleased : Bool := false
  deriving DecidableEq, Repr

/-- The transport, and the requests that have come, been granted, released and withdrawn, in
that order. -/
structure Transport where
  limit : ℕ
  active : ℕ := 0
  queue : List RequestNumber := []
  activeCallers : ℕ := 0
  requests : RequestNumber → TransportRequest := fun _ => {}
  admitted : List RequestNumber := []
  granted : List RequestNumber := []
  released : List RequestNumber := []
  withdrawn : List RequestNumber := []

namespace Transport

def modify (s : Transport) (id : RequestNumber) (f : TransportRequest → TransportRequest) :
    Transport :=
  { s with requests := Function.update s.requests id (f (s.requests id)) }

/-- `#grant`. -/
def grant (s : Transport) (id : RequestNumber) : Transport :=
  { s.modify id fun r => { r with acquisition := .resolved } with
    active := s.active + 1
    granted := s.granted ++ [id] }

/-- `const next = this.#queue.shift(); if (next !== undefined) this.#grant(next)`. -/
def grantNext (s : Transport) : Transport :=
  match s.queue with
  | [] => s
  | next :: queue => { s with queue }.grant next

/-- The function that a permit is given back with. -/
def releasePermit (s : Transport) (id : RequestNumber) : Transport :=
  if (s.requests id).released then s
  else grantNext { s.modify id fun r => { r with released := true } with
    active := s.active - 1
    released := s.released ++ [id] }

/-- `acquire`. -/
def acquire (s : Transport) (id : RequestNumber) : Transport :=
  if (s.requests id).aborted then s.modify id fun r => { r with acquisition := .rejected }
  else if s.limit ≤ s.active ∧ maxQueuedRequests ≤ s.queue.length then
    s.modify id fun r => { r with acquisition := .rejected }
  else
    let s := { s with admitted := s.admitted ++ [id] }
    if s.active < s.limit ∧ s.queue = [] then s.grant id
    else { s with queue := s.queue ++ [id] }

/-- `controller.abort()`: a request that waits is no longer in the queue. -/
def abort (s : Transport) (id : RequestNumber) : Transport :=
  let s := s.modify id fun r => { r with aborted := true }
  if id ∈ s.queue then
    { s.modify id fun r => { r with acquisition := .rejected } with
      queue := s.queue.erase id
      withdrawn := s.withdrawn ++ [id] }
  else s

def releaseLease (s : Transport) (id : RequestNumber) : Transport :=
  if (s.requests id).leaseReleased then s
  else
    let s := s.modify id fun r => { r with leaseReleased := true }
    if (s.requests id).release then s.releasePermit id else s

/-- The `finally` of `#withTotalDeadline`. -/
def settle (s : Transport) (id : RequestNumber) : Transport :=
  let s := { s.modify id fun r => { r with stage := .finished, callerFinished := true } with
    activeCallers := if (s.requests id).callerActive then s.activeCallers - 1 else s.activeCallers }
  if !(s.requests id).retainedSocket || (s.requests id).retainedSocketClosed then s.releaseLease id
  else s

/-- What follows `await acquire`, once there is a permit. -/
def resume (s : Transport) (id : RequestNumber) : Transport :=
  { s.modify id fun r => { r with stage := .performing, release := true, callerActive := true } with
    activeCallers := s.activeCallers + 1 }

/-- The socket's `close` event. -/
def closeSocket (s : Transport) (id : RequestNumber) : Transport :=
  let s := s.modify id fun r => { r with retainedSocketClosed := true }
  if (s.requests id).callerFinished then s.releaseLease id else s

end Transport

inductive TransportLabel
  | request (id : RequestNumber)
  | abort (id : RequestNumber)
  | timeout (id : RequestNumber)
  | resume (id : RequestNumber)
  | refuse (id : RequestNumber)
  | openSocket (id : RequestNumber)
  | closeSocket (id : RequestNumber)
  | finish (id : RequestNumber)
  deriving DecidableEq, Repr

open Transport in
inductive TransportStep : Transport → TransportLabel → Transport → Prop
  /-- A request comes, with a signal that may have been aborted before. -/
  | request (s : Transport) (id : RequestNumber) (aborted : Bool) :
      (s.requests id).stage = .absent →
      TransportStep s (.request id)
        ((s.modify id fun r => { r with stage := .acquiring, aborted }).acquire id)
  /-- The caller's signal is aborted. -/
  | abort (s : Transport) (id : RequestNumber) :
      (s.requests id).stage ∈ [.acquiring, .performing] → TransportStep s (.abort id) (s.abort id)
  /-- The timer of the total deadline fires. -/
  | timeout (s : Transport) (id : RequestNumber) :
      (s.requests id).stage ∈ [.acquiring, .performing] → TransportStep s (.timeout id) (s.abort id)
  | resume (s : Transport) (id : RequestNumber) :
      (s.requests id).stage = .acquiring → (s.requests id).acquisition = .resolved →
      TransportStep s (.resume id) (s.resume id)
  | refuse (s : Transport) (id : RequestNumber) :
      (s.requests id).stage = .acquiring → (s.requests id).acquisition = .rejected →
      TransportStep s (.refuse id) (s.settle id)
  /-- The agent asks for the connection of the request, which it does once. -/
  | openSocket (s : Transport) (id : RequestNumber) :
      (s.requests id).stage = .performing → (s.requests id).retainedSocket = false →
      TransportStep s (.openSocket id) (s.modify id fun r => { r with retainedSocket := true })
  | closeSocket (s : Transport) (id : RequestNumber) :
      (s.requests id).retainedSocket = true → (s.requests id).retainedSocketClosed = false →
      TransportStep s (.closeSocket id) (s.closeSocket id)
  /-- `#perform` returns or throws. -/
  | finish (s : Transport) (id : RequestNumber) :
      (s.requests id).stage = .performing → TransportStep s (.finish id) (s.settle id)

def transport : TransitionSystem Transport TransportLabel where
  init s := s = { limit := s.limit }
  step := TransportStep

end GreenRoom.Providers
