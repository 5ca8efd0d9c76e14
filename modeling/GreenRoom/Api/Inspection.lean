import GreenRoom.Lib.JsString
import GreenRoom.Lib.PyStr
import GreenRoom.Lib.Slots
import GreenRoom.Lib.TransitionSystem

/-!
# Inspecting persona packs

A request to inspect a persona pack goes through three allocators, each inside the one before:
the admission of `api/persona-pack-inspection-route.ts`, the service of
`personas/persona-pack-inspection.ts`, which stores the upload, and the sidecar of
`personas/validator-sidecar.ts`, which runs the validator on it.  Every piece of code between
two awaits is one step; a request is told apart by its number.

## Main definitions

* `Stage`, `Inspection` — how far a request has come, and its upload.
* `Allocator`, `Inspections` — the allocators and the requests.
* `Inspection.receive`, `Inspection.written` — the loop over the chunks of an upload.
* `inspections` — the transition system.
-/

namespace GreenRoom.Api.PersonaPacks

abbrev RequestNumber := ℕ

def MAX_ARCHIVE_BYTES : ℕ := 4 * 1024 * 1024

def ACTIVE_LIMIT : ℕ := 2

def QUEUE_LIMIT : ℕ := 4

inductive PersonaPackInspectionErrorCode
  | invalidInput
  | tooLarge
  | streamError
  | writeError
  | aborted
  | timeout
  | validationFailed
  | cleanupFailed
  deriving DecidableEq, Repr

inductive InspectionHttpErrorCode
  | personaPackTooLarge
  | busy
  | unavailable
  | timeout
  | cancelled
  deriving DecidableEq, Repr

/-- What `PersonaPackInspectionService.inspect` comes to; the report itself is left out. -/
inductive Outcome
  | accepted (archiveSha256 : JsString) (uploadedBytes : ℕ)
  | failed (code : PersonaPackInspectionErrorCode)
  deriving DecidableEq, Repr

/-- What the route answers. -/
inductive Reply
  | result (archiveSha256 : JsString) (uploadedBytes : ℕ)
  | error (code : InspectionHttpErrorCode)
  deriving DecidableEq, Repr

/-- How `ValidatorSidecar.validate` ends. -/
inductive Validation
  | report
  | timeout
  | error
  deriving DecidableEq, Repr

inductive Stage
  | absent
  /-- `await admission.acquire(signal)`. -/
  | admitting
  /-- `inspect` is about to be called. -/
  | entering
  /-- `await this.#acquire(signal)` of the service. -/
  | acquiringService
  /-- The directory and the file are made. -/
  | preparing
  /-- `await nextWithAbort(iterator, signal)`. -/
  | uploading
  /-- `await handle.write(…)`, of the bytes from `offset` on; `tooLarge` if the chunk is longer. -/
  | writing (bytes : Bytes) (offset : ℕ) (tooLarge : Bool)
  /-- `await handle.close()`. -/
  | closing
  /-- `await this.#acquire(options.signal)` of the sidecar. -/
  | acquiringValidator
  /-- The validator runs. -/
  | running
  /-- `validate` has ended. -/
  | reported (validation : Validation)
  /-- The `finally` of `inspect`. -/
  | cleaning (outcome : Outcome)
  /-- `inspect` has ended. -/
  | settled (outcome : Outcome)
  /-- The `finally` of the route has ended. -/
  | left
  deriving DecidableEq, Repr

structure Inspection where
  stage : Stage := .absent
  /-- `state.controller.signal.aborted`. -/
  aborted : Bool := false
  timedOut : Bool := false
  /-- All that the chunks held. -/
  upload : Bytes := []
  /-- What has been written to the archive. -/
  file : Bytes := []
  /-- What `hash` has been updated with. -/
  hashed : Bytes := []
  uploadedBytes : ℕ := 0
  reply : Option Reply := none
  deriving DecidableEq, Repr

/-! ## The upload -/

/-- `handle.write` at a position. -/
def writeAt (file : Bytes) (position : ℕ) (bytes : Bytes) : Bytes :=
  file.take position ++ List.replicate (position - file.length) 0 ++ bytes ++
    file.drop (position + bytes.length)

namespace Inspection

/-- After the bytes of a chunk. -/
def received (r : Inspection) (tooLarge : Bool) : Inspection :=
  { r with stage := if tooLarge then .cleaning (.failed .tooLarge) else .uploading }

/-- A chunk has come. -/
def receive (r : Inspection) (chunk : Bytes) : Inspection :=
  let r := { r with upload := r.upload ++ chunk }
  let probeBytes := min chunk.length (MAX_ARCHIVE_BYTES + 1 - r.uploadedBytes)
  let writableBytes := min probeBytes (MAX_ARCHIVE_BYTES - r.uploadedBytes)
  let tooLarge := decide (writableBytes < probeBytes ∨ probeBytes < chunk.length)
  if 0 < writableBytes then
    if r.aborted then { r with stage := .cleaning (.failed .aborted) }
    else { r with stage := .writing (chunk.take writableBytes) 0 tooLarge }
  else r.received tooLarge

/-- So many bytes have been written. -/
def written (r : Inspection) (bytes : Bytes) (offset : ℕ) (tooLarge : Bool) (bytesWritten : ℕ) :
    Inspection :=
  let r := { r with
    file := writeAt r.file (r.uploadedBytes + offset) ((bytes.drop offset).take bytesWritten) }
  if r.aborted then { r with stage := .cleaning (.failed .aborted) }
  else if offset + bytesWritten < bytes.length then
    { r with stage := .writing bytes (offset + bytesWritten) tooLarge }
  else
    { r with
      hashed := r.hashed ++ bytes
      uploadedBytes := r.uploadedBytes + bytes.length }.received tooLarge

/-- What an await of `inspect` may throw, up to the validation. -/
def failures (r : Inspection) : List PersonaPackInspectionErrorCode :=
  match r.stage with
  | .preparing =>
    [if r.aborted then .aborted else .writeError, .streamError, .invalidInput]
  | .uploading => (if r.aborted then [.aborted] else []) ++ [.streamError, .invalidInput]
  | .writing _ _ _ | .closing => [.writeError]
  | _ => []

/-- What `inspect` makes of the end of `validate`. -/
def judge (sha256 : Bytes → JsString) (r : Inspection) (validation : Validation)
    (sanitized : Bool) : Outcome :=
  if r.aborted then .failed .aborted
  else match validation with
    | .timeout => .failed .timeout
    | .error => .failed .validationFailed
    | .report =>
      if sanitized then .accepted (sha256 r.hashed) r.uploadedBytes
      else .failed .validationFailed

/-! ## The reply -/

def mapServiceError (r : Inspection) (code : PersonaPackInspectionErrorCode) :
    InspectionHttpErrorCode :=
  if r.timedOut then .timeout
  else match code with
    | .tooLarge => .personaPackTooLarge
    | .timeout => .timeout
    | .aborted => .cancelled
    | _ => .unavailable

/-- An error of the route itself. -/
def mapHttpError (r : Inspection) (code : InspectionHttpErrorCode) : InspectionHttpErrorCode :=
  if r.timedOut then .timeout else code

def replyOf (r : Inspection) (outcome : Outcome) : Reply :=
  match outcome with
  | .accepted archiveSha256 uploadedBytes =>
    if r.aborted then .error (r.mapHttpError .cancelled) else .result archiveSha256 uploadedBytes
  | .failed code => .error (r.mapServiceError code)

end Inspection

/-! ## The allocators -/

/-- From the outer to the inner one. -/
inductive Allocator
  | admission
  | service
  | sidecar
  deriving DecidableEq, Repr

structure Inspections where
  slots : Allocator → Slots RequestNumber
  requests : RequestNumber → Inspection := fun _ => {}

namespace Inspections

def modify (s : Inspections) (id : RequestNumber) (f : Inspection → Inspection) : Inspections :=
  { s with requests := Function.update s.requests id (f (s.requests id)) }

def move (s : Inspections) (id : RequestNumber) (stage : Stage) : Inspections :=
  s.modify id fun r => { r with stage }

def setSlots (s : Inspections) (allocator : Allocator) (slots : Slots RequestNumber) :
    Inspections :=
  { s with slots := Function.update s.slots allocator slots }

def acquire (s : Inspections) (allocator : Allocator) (id : RequestNumber) : Inspections :=
  s.setSlots allocator ((s.slots allocator).acquire id (s.requests id).aborted)

/-- The admission passes over those whose signal is aborted, and takes a slot back once; the
others do neither. -/
def release (s : Inspections) (allocator : Allocator) (id : RequestNumber) : Inspections :=
  s.setSlots allocator (match allocator with
    | .admission => (s.slots .admission).releaseOnce (fun id => (s.requests id).aborted) id
    | .service => (s.slots .service).release (fun _ => false) id
    | .sidecar => (s.slots .sidecar).release (fun _ => false) id)

/-- `controller.abort()`: the listeners of those that wait. -/
def abort (s : Inspections) (id : RequestNumber) : Inspections :=
  { s.modify id fun r => { r with aborted := true } with
    slots := fun allocator => (s.slots allocator).withdraw id }

end Inspections

inductive Label
  | arrive (id : RequestNumber)
  | abort (id : RequestNumber)
  | deadline (id : RequestNumber)
  | go (id : RequestNumber)
  deriving DecidableEq, Repr

section

variable (sha256 : Bytes → JsString)

open Inspections Inspection in
inductive Step : Inspections → Label → Inspections → Prop
  | arrive (s : Inspections) (id : RequestNumber) :
      (s.requests id).stage = .absent →
      Step s (.arrive id) ((s.move id .admitting).acquire .admission id)
  /-- The client goes away, or the server closes. -/
  | abort (s : Inspections) (id : RequestNumber) : Step s (.abort id) (s.abort id)
  | deadline (s : Inspections) (id : RequestNumber) :
      Step s (.deadline id) ((s.modify id fun r => { r with timedOut := true }).abort id)
  /-- The request is not admitted. -/
  | refused (s : Inspections) (id : RequestNumber) (code : InspectionHttpErrorCode) :
      (s.requests id).stage = .admitting → (s.slots .admission).ticket id = .rejected →
      code = .busy ∨ code = .cancelled →
      Step s (.go id) (s.modify id fun r => { r with
        stage := .left, reply := some (.error (r.mapHttpError code)) })
  | admitted (s : Inspections) (id : RequestNumber) :
      (s.requests id).stage = .admitting → (s.slots .admission).ticket id = .granted →
      Step s (.go id) (s.move id .entering)
  /-- `inspect` is called. -/
  | inspect (s : Inspections) (id : RequestNumber) :
      (s.requests id).stage = .entering →
      Step s (.go id) ((s.move id .acquiringService).acquire .service id)
  | serviceRefused (s : Inspections) (id : RequestNumber) :
      (s.requests id).stage = .acquiringService → (s.slots .service).ticket id = .rejected →
      Step s (.go id) (s.move id (.settled (.failed .aborted)))
  | serviceAcquired (s : Inspections) (id : RequestNumber) :
      (s.requests id).stage = .acquiringService → (s.slots .service).ticket id = .granted →
      Step s (.go id) (s.move id
        (if (s.requests id).aborted then .cleaning (.failed .aborted) else .preparing))
  | prepared (s : Inspections) (id : RequestNumber) :
      (s.requests id).stage = .preparing → Step s (.go id) (s.move id .uploading)
  /-- An await of the upload throws. -/
  | fails (s : Inspections) (id : RequestNumber) (code : PersonaPackInspectionErrorCode) :
      code ∈ (s.requests id).failures → Step s (.go id) (s.move id (.cleaning (.failed code)))
  | chunk (s : Inspections) (id : RequestNumber) (chunk : Bytes) :
      (s.requests id).stage = .uploading → Step s (.go id) (s.modify id (receive · chunk))
  | write (s : Inspections) (id : RequestNumber) (bytes : Bytes) (offset : ℕ) (tooLarge : Bool)
      (bytesWritten : ℕ) :
      (s.requests id).stage = .writing bytes offset tooLarge → 0 < bytesWritten →
      offset + bytesWritten ≤ bytes.length →
      Step s (.go id) (s.modify id (written · bytes offset tooLarge bytesWritten))
  | ended (s : Inspections) (id : RequestNumber) :
      (s.requests id).stage = .uploading → Step s (.go id) (s.move id .closing)
  | closedAborted (s : Inspections) (id : RequestNumber) :
      (s.requests id).stage = .closing → (s.requests id).aborted = true →
      Step s (.go id) (s.move id (.cleaning (.failed .aborted)))
  /-- `validate` is called. -/
  | closed (s : Inspections) (id : RequestNumber) :
      (s.requests id).stage = .closing → (s.requests id).aborted = false →
      Step s (.go id) ((s.move id .acquiringValidator).acquire .sidecar id)
  | validatorRefused (s : Inspections) (id : RequestNumber) :
      (s.requests id).stage = .acquiringValidator → (s.slots .sidecar).ticket id = .rejected →
      Step s (.go id) (s.move id (.cleaning (.failed
        (if (s.requests id).aborted then .aborted else .validationFailed))))
  | validatorAborted (s : Inspections) (id : RequestNumber) :
      (s.requests id).stage = .acquiringValidator → (s.slots .sidecar).ticket id = .granted →
      (s.requests id).aborted = true →
      Step s (.go id) ((s.move id (.reported .error)).release .sidecar id)
  | validatorAcquired (s : Inspections) (id : RequestNumber) :
      (s.requests id).stage = .acquiringValidator → (s.slots .sidecar).ticket id = .granted →
      (s.requests id).aborted = false → Step s (.go id) (s.move id .running)
  | ran (s : Inspections) (id : RequestNumber) (validation : Validation) :
      (s.requests id).stage = .running →
      Step s (.go id) ((s.move id (.reported validation)).release .sidecar id)
  | judged (s : Inspections) (id : RequestNumber) (validation : Validation) (sanitized : Bool) :
      (s.requests id).stage = .reported validation →
      Step s (.go id) (s.move id (.cleaning ((s.requests id).judge sha256 validation sanitized)))
  /-- The upload is removed, and the slot of the service given back. -/
  | cleaned (s : Inspections) (id : RequestNumber) (outcome : Outcome) (cleanupFailed : Bool) :
      (s.requests id).stage = .cleaning outcome →
      Step s (.go id) ((s.move id (.settled
        (if cleanupFailed then .failed .cleanupFailed else outcome))).release .service id)
  /-- The abort wins the race against `inspect`. -/
  | cancelled (s : Inspections) (id : RequestNumber) :
      (s.requests id).stage ∉ [.absent, .admitting, .left] → (s.requests id).aborted = true →
      (s.requests id).reply = none →
      Step s (.go id) (s.modify id fun r => { r with
        reply := some (.error (r.mapHttpError .cancelled)) })
  | answered (s : Inspections) (id : RequestNumber) (outcome : Outcome) :
      (s.requests id).stage = .settled outcome → (s.requests id).reply = none →
      Step s (.go id) (s.modify id fun r => { r with reply := some (r.replyOf outcome) })
  | leaves (s : Inspections) (id : RequestNumber) (outcome : Outcome) :
      (s.requests id).stage = .settled outcome → (s.requests id).reply ≠ none →
      Step s (.go id) ((s.move id .left).release .admission id)

/-- With the `concurrency` of the service and of the sidecar. -/
def Inspections.start (service sidecar : ℕ) : Inspections where
  slots
    | .admission => { limit := ACTIVE_LIMIT, maxWaiting := some QUEUE_LIMIT }
    | .service => { limit := service }
    | .sidecar => { limit := sidecar }

def inspections (service sidecar : ℕ) : TransitionSystem Inspections Label where
  init s := s = Inspections.start service sidecar
  step := Step sha256

end

end GreenRoom.Api.PersonaPacks
