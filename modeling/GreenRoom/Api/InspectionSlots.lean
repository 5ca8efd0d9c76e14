import GreenRoom.Api.Inspection

/-!
# Slots and uploads of the inspections

Where a request is says what it may hold: from its stage one reads what its ticket at each of
the three allocators may be, and how far the bytes written are also in the digest.  Others only
turn a waiting ticket into a granted or a rejected one, and that no stage minds.

## Main definitions

* `Stage.tickets` — the tickets of a request.
* `Inspection.Stored` — what has come of an upload, and what is written of it.
* `Inspections.Sound` — the invariant.

## Main results

* `sound_inductive` — every step keeps the invariant.
* `keeps_run` — a request that has withdrawn stays withdrawn.
* `inspections_safe` — what follows for every run.
-/

namespace GreenRoom.Api.PersonaPacks

/-! ## What a request holds -/

/-- Has asked for a slot. -/
def asked : List Ticket := [.waiting, .granted, .rejected]

/-- Has no slot, or no longer. -/
def gone : List Ticket := [.none, .rejected, .released]

/-- What the ticket of a request may be. -/
def Stage.tickets : Stage → Allocator → List Ticket
  | .absent, _ => [.none]
  | .admitting, .admission => asked
  | .admitting, _ => [.none]
  | .entering, .admission => [.granted]
  | .entering, _ => [.none]
  | .acquiringService, .admission => [.granted]
  | .acquiringService, .service => asked
  | .acquiringService, .sidecar => [.none]
  | .preparing, .sidecar | .uploading, .sidecar | .writing _ _ _, .sidecar
  | .closing, .sidecar => [.none]
  | .acquiringValidator, .sidecar => asked
  | .reported _, .sidecar => [.released]
  | .cleaning _, .sidecar => gone
  | .settled _, .service | .settled _, .sidecar => gone
  | .left, _ => gone
  | _, _ => [.granted]

/-- What others do to a ticket no stage minds. -/
theorem Stage.tickets_moves {stage : Stage} {allocator : Allocator} {t t' : Ticket}
    (hmoves : t.Moves t') (hmem : t ∈ stage.tickets allocator) :
    t' ∈ stage.tickets allocator := by
  by_cases hne : t' = t
  · rwa [hne]
  · obtain ⟨rfl, hasked⟩ := hmoves.of_ne hne
    have hstage : stage.tickets allocator = asked := by
      cases stage <;> cases allocator <;> simp_all [Stage.tickets, gone]
    rw [hstage]
    rcases hasked with rfl | rfl <;> simp [asked]

/-- An upload may be given up. -/
theorem Stage.tickets_cleaning (outcome : Outcome) {allocator : Allocator} {t : Ticket}
    (hmem : t ∈ Stage.uploading.tickets allocator) :
    t ∈ (Stage.cleaning outcome).tickets allocator := by
  cases allocator <;> simp_all [Stage.tickets, gone]

theorem Inspection.tickets_received (r : Inspection) (tooLarge : Bool) {allocator : Allocator}
    {t : Ticket} (hmem : t ∈ Stage.uploading.tickets allocator) :
    t ∈ (r.received tooLarge).stage.tickets allocator := by
  cases tooLarge with
  | true => exact Stage.tickets_cleaning _ hmem
  | false => exact hmem

theorem Inspection.tickets_receive (r : Inspection) (chunk : Bytes) {allocator : Allocator}
    {t : Ticket} (hmem : t ∈ Stage.uploading.tickets allocator) :
    t ∈ (r.receive chunk).stage.tickets allocator := by
  unfold Inspection.receive
  dsimp only
  split
  · split
    · exact Stage.tickets_cleaning _ hmem
    · cases allocator <;> exact hmem
  · exact r.tickets_received _ hmem

theorem Inspection.tickets_written (r : Inspection) (bytes : Bytes) (offset : ℕ) (tooLarge : Bool)
    (bytesWritten : ℕ) {allocator : Allocator} {t : Ticket}
    (hmem : t ∈ Stage.uploading.tickets allocator) :
    t ∈ (r.written bytes offset tooLarge bytesWritten).stage.tickets allocator := by
  unfold Inspection.written
  dsimp only
  split
  · exact Stage.tickets_cleaning _ hmem
  · split
    · cases allocator <;> exact hmem
    · exact Inspection.tickets_received _ tooLarge hmem

theorem Inspection.tickets_of_failures {r : Inspection} {code : PersonaPackInspectionErrorCode}
    (hcode : code ∈ r.failures) (allocator : Allocator) :
    r.stage.tickets allocator = Stage.uploading.tickets allocator := by
  unfold Inspection.failures at hcode
  split at hcode
  · next hstage => rw [hstage]; cases allocator <;> rfl
  · next hstage => rw [hstage]
  · next hstage => rw [hstage]; cases allocator <;> rfl
  · next hstage => rw [hstage]; cases allocator <;> rfl
  · cases hcode

/-! ## What is written of an upload -/

/-- What `inspect` is about to come to, or has come to. -/
def Stage.outcome : Stage → Option Outcome
  | .cleaning outcome | .settled outcome => some outcome
  | _ => none

/-- `inspect` is past its upload, or has given it up. -/
def Stage.isOver : Stage → Bool
  | .cleaning _ | .settled _ | .left => true
  | _ => false

/-- No chunk is being written, and the upload is not given up. -/
def Stage.isBetween : Stage → Bool
  | .writing _ _ _ | .cleaning _ | .settled _ | .left => false
  | _ => true

theorem Stage.isOver_of_isBetween {stage : Stage} (h : stage.isBetween = true) :
    stage.isOver = false := by
  cases stage <;> first | rfl | cases h

theorem Stage.outcome_of_isBetween {stage : Stage} (h : stage.isBetween = true) :
    stage.outcome = none := by
  cases stage <;> first | rfl | cases h

section

variable (sha256 : Bytes → JsString)

/-- What an answer says is so of the file, and the file is what has come. -/
def Inspection.Reports (r : Inspection) (archiveSha256 : JsString) (uploadedBytes : ℕ) : Prop :=
  r.upload.length ≤ MAX_ARCHIVE_BYTES ∧ uploadedBytes = r.upload.length ∧ r.file = r.upload ∧
    archiveSha256 = sha256 r.file

structure Inspection.Stored (r : Inspection) : Prop where
  counted : r.uploadedBytes = r.hashed.length
  bounded : r.uploadedBytes ≤ MAX_ARCHIVE_BYTES
  between : r.stage.isBetween = true → r.file = r.hashed ∧ r.upload = r.hashed
  writing : ∀ bytes offset tooLarge, r.stage = .writing bytes offset tooLarge →
    offset < bytes.length ∧ r.uploadedBytes + bytes.length ≤ MAX_ARCHIVE_BYTES ∧
    r.file = r.hashed ++ bytes.take offset ∧ (tooLarge = false → r.upload = r.hashed ++ bytes)
  outcome : ∀ archiveSha256 uploadedBytes,
    r.stage.outcome = some (.accepted archiveSha256 uploadedBytes) →
    r.Reports sha256 archiveSha256 uploadedBytes
  reply : ∀ archiveSha256 uploadedBytes, r.reply = some (.result archiveSha256 uploadedBytes) →
    r.Reports sha256 archiveSha256 uploadedBytes ∧ r.stage.isOver = true

end

@[simp] theorem writeAt_end (file bytes : Bytes) :
    writeAt file file.length bytes = file ++ bytes := by
  simp [writeAt]

section

variable {sha256 : Bytes → JsString} {r : Inspection} {stage : Stage}

/-- There is no answer with a result before the upload is over. -/
theorem Inspection.Stored.reply_ne (h : r.Stored sha256) (hfrom : r.stage.isOver = false)
    (archiveSha256 : JsString) (uploadedBytes : ℕ) :
    r.reply ≠ some (.result archiveSha256 uploadedBytes) := by
  intro hreply
  have hover := (h.reply archiveSha256 uploadedBytes hreply).2
  simp [hfrom] at hover

/-- From one stage of the upload to another, between two chunks. -/
theorem Inspection.Stored.on (h : r.Stored sha256) (hfrom : r.stage.isBetween = true)
    (hto : stage.isBetween = true) : Stored sha256 { r with stage } where
  counted := h.counted
  bounded := h.bounded
  between _ := h.between hfrom
  writing bytes offset tooLarge hwriting := by
    rw [show stage = .writing bytes offset tooLarge from hwriting] at hto
    cases hto
  outcome archiveSha256 uploadedBytes houtcome := by
    rw [show stage.outcome = none from Stage.outcome_of_isBetween hto] at houtcome
    cases houtcome
  reply archiveSha256 uploadedBytes hreply :=
    absurd hreply (h.reply_ne (Stage.isOver_of_isBetween hfrom) _ _)

/-- The upload is over. -/
theorem Inspection.Stored.closed (h : r.Stored sha256) (hover : stage.isOver = true)
    (houtcome : ∀ archiveSha256 uploadedBytes,
      stage.outcome = some (.accepted archiveSha256 uploadedBytes) →
      r.Reports sha256 archiveSha256 uploadedBytes) : Stored sha256 { r with stage } where
  counted := h.counted
  bounded := h.bounded
  between hbetween := by
    rw [Stage.isOver_of_isBetween hbetween] at hover
    cases hover
  writing bytes offset tooLarge hwriting := by
    rw [show stage = .writing bytes offset tooLarge from hwriting] at hover
    cases hover
  outcome := houtcome
  reply archiveSha256 uploadedBytes hreply :=
    ⟨(h.reply archiveSha256 uploadedBytes hreply).1, hover⟩

/-- Flags, and an answer that reports nothing. -/
theorem Inspection.Stored.answer (h : r.Stored sha256) (aborted timedOut : Bool)
    {reply : Option Reply} (hreply : ∀ archiveSha256 uploadedBytes,
      reply = some (.result archiveSha256 uploadedBytes) →
      r.Reports sha256 archiveSha256 uploadedBytes ∧ r.stage.isOver = true) :
    Stored sha256 { r with aborted, timedOut, reply } where
  counted := h.counted
  bounded := h.bounded
  between := h.between
  writing := h.writing
  outcome := h.outcome
  reply := hreply

/-- The upload is given up. -/
theorem Inspection.stored_failed (hcounted : r.uploadedBytes = r.hashed.length)
    (hbounded : r.uploadedBytes ≤ MAX_ARCHIVE_BYTES)
    (hreply : ∀ archiveSha256 uploadedBytes,
      r.reply ≠ some (.result archiveSha256 uploadedBytes))
    (code : PersonaPackInspectionErrorCode) :
    Stored sha256 { r with stage := .cleaning (.failed code) } where
  counted := hcounted
  bounded := hbounded
  between := nofun
  writing := nofun
  outcome := nofun
  reply _ _ hresult := absurd hresult (hreply _ _)

/-- After the bytes of a chunk. -/
theorem Inspection.stored_received (hcounted : r.uploadedBytes = r.hashed.length)
    (hbounded : r.uploadedBytes ≤ MAX_ARCHIVE_BYTES) (hfile : r.file = r.hashed)
    (hreply : ∀ archiveSha256 uploadedBytes,
      r.reply ≠ some (.result archiveSha256 uploadedBytes)) {tooLarge : Bool}
    (hupload : tooLarge = false → r.upload = r.hashed) : (r.received tooLarge).Stored sha256 := by
  cases tooLarge with
  | true => exact Inspection.stored_failed hcounted hbounded hreply .tooLarge
  | false =>
    exact {
      counted := hcounted
      bounded := hbounded
      between := fun _ => ⟨hfile, hupload rfl⟩
      writing := nofun
      outcome := nofun
      reply := fun _ _ hresult => absurd hresult (hreply _ _) }

theorem Inspection.Stored.receive (h : r.Stored sha256) (hstage : r.stage = .uploading)
    (chunk : Bytes) : (r.receive chunk).Stored sha256 := by
  obtain ⟨hfile, hupload⟩ := h.between (by simp [hstage, Stage.isBetween])
  have hreply := h.reply_ne (by simp [hstage, Stage.isOver])
  have hbounded := h.bounded
  unfold Inspection.receive
  extract_lets more probeBytes writableBytes tooLarge
  have hwritable : writableBytes ≤ chunk.length ∧
      writableBytes ≤ MAX_ARCHIVE_BYTES - r.uploadedBytes :=
    ⟨(Nat.min_le_left _ _).trans (Nat.min_le_left _ _), Nat.min_le_right _ _⟩
  -- unless the chunk is too large, all of it is going to be written
  have hall : tooLarge = false → chunk.take writableBytes = chunk := by
    intro hfits
    have hnot : ¬(writableBytes < probeBytes ∨ probeBytes < chunk.length) :=
      of_decide_eq_false hfits
    exact List.take_of_length_le (by omega)
  split
  · next hpositive =>
      split
      · exact Inspection.stored_failed (r := more) h.counted hbounded hreply .aborted
      · exact {
          counted := h.counted
          bounded := hbounded
          between := nofun
          writing := by
            rintro bytes offset _ ⟨⟩
            refine ⟨?_, ?_, ?_, fun hfits => ?_⟩
            · rw [List.length_take]
              omega
            · show r.uploadedBytes + (chunk.take writableBytes).length ≤ MAX_ARCHIVE_BYTES
              rw [List.length_take]
              omega
            · rw [List.take_zero, List.append_nil]
              exact hfile
            · show r.upload ++ chunk = r.hashed ++ chunk.take writableBytes
              rw [hall hfits, hupload]
          outcome := nofun
          reply := fun _ _ hresult => absurd hresult (hreply _ _) }
  · next hnone =>
      refine Inspection.stored_received (r := more) h.counted hbounded hfile hreply
        fun hfits => ?_
      -- nothing can be written of a chunk that is not too large: it is empty
      have hempty : chunk = [] := by
        rw [← hall hfits, Nat.eq_zero_of_not_pos hnone, List.take_zero]
      show r.upload ++ chunk = r.hashed
      rw [hempty, List.append_nil, hupload]

theorem Inspection.Stored.written (h : r.Stored sha256) {bytes : Bytes} {offset : ℕ}
    {tooLarge : Bool} (hstage : r.stage = .writing bytes offset tooLarge) (bytesWritten : ℕ) :
    (r.written bytes offset tooLarge bytesWritten).Stored sha256 := by
  obtain ⟨hoffset, hroom, hfile, hupload⟩ := h.writing bytes offset tooLarge hstage
  have hreply := h.reply_ne (by simp [hstage, Stage.isOver])
  -- the write goes to the end of the file
  have hend : r.uploadedBytes + offset = r.file.length := by
    rw [hfile, List.length_append, List.length_take, h.counted]
    omega
  have hwrite : writeAt r.file (r.uploadedBytes + offset) ((bytes.drop offset).take bytesWritten) =
      r.hashed ++ bytes.take (offset + bytesWritten) := by
    rw [hend, writeAt_end, hfile, List.append_assoc, ← List.take_add]
  unfold Inspection.written
  rw [hwrite]
  dsimp only
  split
  · exact Inspection.stored_failed
      (r := { r with file := r.hashed ++ bytes.take (offset + bytesWritten) })
      h.counted h.bounded hreply .aborted
  · split
    · next hmore =>
        exact {
          counted := h.counted
          bounded := h.bounded
          between := nofun
          writing := by
            rintro _ _ _ ⟨⟩
            exact ⟨hmore, hroom, rfl, hupload⟩
          outcome := nofun
          reply := fun _ _ hresult => absurd hresult (hreply _ _) }
    · next hdone =>
        have hall : bytes.take (offset + bytesWritten) = bytes :=
          List.take_of_length_le (Nat.not_lt.mp hdone)
        rw [hall]
        refine Inspection.stored_received ?_ ?_ ?_ ?_ ?_
        · show r.uploadedBytes + bytes.length = (r.hashed ++ bytes).length
          rw [List.length_append, h.counted]
        · exact hroom
        · rfl
        · exact hreply
        · exact hupload

theorem Inspection.Stored.judged (h : r.Stored sha256) {validation : Validation}
    (hstage : r.stage = .reported validation) {sanitized : Bool} {archiveSha256 : JsString}
    {uploadedBytes : ℕ}
    (hjudge : r.judge sha256 validation sanitized = .accepted archiveSha256 uploadedBytes) :
    r.Reports sha256 archiveSha256 uploadedBytes := by
  obtain ⟨hfile, hupload⟩ := h.between (by simp [hstage, Stage.isBetween])
  have hlength : r.uploadedBytes = r.upload.length := by rw [hupload, h.counted]
  unfold Inspection.judge at hjudge
  split at hjudge
  · cases hjudge
  · split at hjudge
    · cases hjudge
    · cases hjudge
    · split at hjudge
      · cases hjudge
        exact ⟨hlength ▸ h.bounded, hlength, hfile.trans hupload.symm, by rw [hfile]⟩
      · cases hjudge

theorem Inspection.eq_accepted_of_replyOf {outcome : Outcome} {archiveSha256 : JsString}
    {uploadedBytes : ℕ} (hreply : r.replyOf outcome = .result archiveSha256 uploadedBytes) :
    outcome = .accepted archiveSha256 uploadedBytes := by
  unfold Inspection.replyOf at hreply
  split at hreply
  · split at hreply
    · cases hreply
    · cases hreply
      rfl
  · cases hreply

end

/-! ## The invariant -/

structure Inspections.Sound (sha256 : Bytes → JsString) (s : Inspections) : Prop where
  slots : ∀ allocator, (s.slots allocator).Sound
  tickets : ∀ id allocator,
    (s.slots allocator).ticket id ∈ (s.requests id).stage.tickets allocator
  stored : ∀ id, (s.requests id).Stored sha256

section

variable {sha256 : Bytes → JsString} {s : Inspections} {id : RequestNumber} {stage : Stage}

namespace Inspections

theorem requests_modify (s : Inspections) (id id' : RequestNumber) (f : Inspection → Inspection) :
    (s.modify id f).requests id' = if id' = id then f (s.requests id) else s.requests id' :=
  Function.update_apply _ _ _ _

@[simp] theorem requests_modify_self (s : Inspections) (id : RequestNumber)
    (f : Inspection → Inspection) : (s.modify id f).requests id = f (s.requests id) :=
  Function.update_self _ _ _

theorem slots_setSlots (s : Inspections) (allocator allocator' : Allocator)
    (slots : Slots RequestNumber) :
    (s.setSlots allocator slots).slots allocator' =
      if allocator' = allocator then slots else s.slots allocator' :=
  Function.update_apply _ _ _ _

/-- The invariant, from what a step does to the request that takes it and to the others. -/
theorem Sound.change (h : s.Sound sha256) {s' : Inspections} (id : RequestNumber)
    (hslots : ∀ allocator, (s'.slots allocator).Sound)
    (hothers : ∀ id' ≠ id, s'.requests id' = s.requests id' ∧
      ∀ allocator, ((s.slots allocator).ticket id').Moves ((s'.slots allocator).ticket id'))
    (htickets : ∀ allocator,
      (s'.slots allocator).ticket id ∈ (s'.requests id).stage.tickets allocator)
    (hstored : (s'.requests id).Stored sha256) : s'.Sound sha256 where
  slots := hslots
  tickets id' allocator := by
    by_cases hid : id' = id
    · exact hid ▸ htickets allocator
    · obtain ⟨hrequest, hmoves⟩ := hothers id' hid
      rw [hrequest]
      exact Stage.tickets_moves (hmoves allocator) (h.tickets id' allocator)
  stored id' := by
    by_cases hid : id' = id
    · exact hid ▸ hstored
    · exact (hothers id' hid).1 ▸ h.stored id'

/-- A step that leaves the allocators alone. -/
theorem Sound.modify (h : s.Sound sha256) {f : Inspection → Inspection}
    (htickets : ∀ allocator,
      (s.slots allocator).ticket id ∈ (f (s.requests id)).stage.tickets allocator)
    (hstored : (f (s.requests id)).Stored sha256) : (s.modify id f).Sound sha256 := by
  refine h.change id h.slots ?_ ?_ ?_
  · intro id' hid
    rw [requests_modify, if_neg hid]
    exact ⟨rfl, fun _ => .same _⟩
  · rwa [requests_modify_self]
  · rwa [requests_modify_self]

/-- A step of one request to another stage, at one allocator. -/
theorem Sound.moveAt (h : s.Sound sha256) {allocator : Allocator} {slots : Slots RequestNumber}
    (hslots : slots.Sound)
    (hothers : ∀ id' ≠ id, ((s.slots allocator).ticket id').Moves (slots.ticket id'))
    (hticket : slots.ticket id ∈ stage.tickets allocator)
    (htickets : ∀ allocator' ≠ allocator,
      (s.slots allocator').ticket id ∈ stage.tickets allocator')
    (hstored : Inspection.Stored sha256 { s.requests id with stage }) :
    ((s.move id stage).setSlots allocator slots).Sound sha256 := by
  have hrequests : ∀ id', ((s.move id stage).setSlots allocator slots).requests id' =
      if id' = id then { s.requests id with stage } else s.requests id' :=
    fun id' => requests_modify s id id' fun r => { r with stage }
  refine h.change id ?_ ?_ ?_ ?_
  · intro allocator'
    rw [slots_setSlots]
    split
    · exact hslots
    · exact h.slots allocator'
  · intro id' hid
    refine ⟨(hrequests id').trans (if_neg hid), fun allocator' => ?_⟩
    rw [slots_setSlots]
    split
    · next hallocator => exact hallocator ▸ hothers id' hid
    · exact .same _
  · intro allocator'
    rw [hrequests, if_pos rfl, slots_setSlots]
    split
    · next hallocator => exact hallocator ▸ hticket
    · next hallocator => exact htickets allocator' hallocator
  · rw [hrequests, if_pos rfl]
    exact hstored

theorem Sound.acquire (h : s.Sound sha256) {allocator : Allocator}
    (hnone : (s.slots allocator).ticket id = .none)
    (hasked : stage.tickets allocator = asked)
    (htickets : ∀ allocator' ≠ allocator,
      (s.slots allocator').ticket id ∈ stage.tickets allocator')
    (hstored : Inspection.Stored sha256 { s.requests id with stage }) :
    ((s.move id stage).acquire allocator id).Sound sha256 := by
  refine h.moveAt ((h.slots allocator).acquire hnone _) ?_ ?_ htickets hstored
  · intro id' hid
    rw [Slots.ticket_acquire_of_ne _ _ hid]
    exact .same _
  · rw [hasked]
    rcases Slots.ticket_acquire_self (s.slots allocator) id
      ((s.move id stage).requests id).aborted with hticket | hticket | hticket
    · exact hticket ▸ by simp [asked]
    · exact hticket ▸ by simp [asked]
    · exact hticket ▸ by simp [asked]

/-- Each allocator takes a slot back that is held. -/
theorem release_eq {allocator : Allocator}
    (hgranted : (s.slots allocator).ticket id = .granted) :
    ∃ passed, s.release allocator id =
      s.setSlots allocator ((s.slots allocator).release passed id) := by
  cases allocator with
  | admission => exact ⟨_, congrArg (s.setSlots .admission) (Slots.releaseOnce_eq hgranted _)⟩
  | service => exact ⟨_, rfl⟩
  | sidecar => exact ⟨_, rfl⟩

theorem Sound.release (h : s.Sound sha256) {allocator : Allocator}
    (hgranted : (s.slots allocator).ticket id = .granted)
    (hreleased : .released ∈ stage.tickets allocator)
    (htickets : ∀ allocator' ≠ allocator,
      (s.slots allocator').ticket id ∈ stage.tickets allocator')
    (hstored : Inspection.Stored sha256 { s.requests id with stage }) :
    ((s.move id stage).release allocator id).Sound sha256 := by
  obtain ⟨passed, heq⟩ := release_eq (s := s.move id stage) hgranted
  rw [heq]
  have hslots := h.slots allocator
  refine h.moveAt (hslots.release hgranted passed) ?_ ?_ htickets hstored
  · exact fun id' hid => hslots.ticket_release_of_ne hgranted passed hid
  · exact (hslots.ticket_release_self hgranted passed) ▸ hreleased

theorem Sound.abort (h : s.Sound sha256) (id : RequestNumber) : (s.abort id).Sound sha256 := by
  have hmoves : ∀ id' allocator,
      ((s.slots allocator).ticket id').Moves (((s.abort id).slots allocator).ticket id') :=
    fun id' allocator => (h.slots allocator).ticket_withdraw id id'
  have hrequest : (s.abort id).requests id = { s.requests id with aborted := true } :=
    requests_modify_self s id fun r => { r with aborted := true }
  refine h.change id (fun allocator => (h.slots allocator).withdraw id) ?_ ?_ ?_
  · intro id' hid
    refine ⟨?_, hmoves id'⟩
    exact (requests_modify s id id' fun r => { r with aborted := true }).trans (if_neg hid)
  · intro allocator
    rw [hrequest]
    exact Stage.tickets_moves (hmoves id allocator) (h.tickets id allocator)
  · rw [hrequest]
    exact (h.stored id).answer true _ (h.stored id).reply

end Inspections

open Inspections

theorem sound_start (service sidecar : ℕ) : (Inspections.start service sidecar).Sound sha256 where
  slots allocator := by
    cases allocator <;> exact Slots.sound_new _ _
  tickets id allocator := by
    cases allocator <;> exact List.mem_singleton.mpr rfl
  stored id := {
    counted := rfl
    bounded := Nat.zero_le _
    between := fun _ => ⟨rfl, rfl⟩
    writing := nofun
    outcome := nofun
    reply := nofun }

/-! ## The steps -/

/-- The upload has been given up, and the slot of the service is still held. -/
theorem Inspections.Sound.fail (h : s.Sound sha256) {code : PersonaPackInspectionErrorCode}
    (hadmission : (s.slots .admission).ticket id = .granted)
    (hservice : (s.slots .service).ticket id = .granted)
    (hsidecar : (s.slots .sidecar).ticket id ∈ gone) :
    (s.move id (.cleaning (.failed code))).Sound sha256 := by
  refine h.modify ?_ ((h.stored id).closed rfl nofun)
  intro allocator
  cases allocator with
  | admission => exact List.mem_singleton.mpr hadmission
  | service => exact List.mem_singleton.mpr hservice
  | sidecar => exact hsidecar

theorem sound_step {l : Label} {s' : Inspections} (h : s.Sound sha256)
    (hstep : Step sha256 s l s') : s'.Sound sha256 := by
  cases hstep with
  | arrive id hstage =>
      have hown := hstage ▸ h.tickets id
      refine h.acquire (List.mem_singleton.mp (hown _)) rfl ?_ ?_
      · intro allocator hne
        have hnone := List.mem_singleton.mp (hown allocator)
        cases allocator <;> simp_all [Stage.tickets]
      · exact (h.stored id).on (by simp [hstage, Stage.isBetween]) rfl
  | abort id => exact h.abort id
  | deadline id =>
      refine Sound.abort ?_ id
      exact h.modify (h.tickets id) ((h.stored id).answer _ true (h.stored id).reply)
  | refused id code hstage hrejected hcode =>
      have hown := hstage ▸ h.tickets id
      refine h.modify (f := fun r => { r with
        stage := .left, reply := some (.error (r.mapHttpError code)) }) ?_ ?_
      · intro allocator
        have hticket := hown allocator
        cases allocator <;> simp_all [Stage.tickets, gone]
      · have hover : Inspection.Stored sha256 { s.requests id with stage := .left } :=
          (h.stored id).closed rfl nofun
        exact hover.answer _ _ nofun
  | admitted id hstage hgranted =>
      have hown := hstage ▸ h.tickets id
      refine h.modify (f := fun r => { r with stage := .entering }) ?_ ?_
      · intro allocator
        have hticket := hown allocator
        cases allocator <;> simp_all [Stage.tickets]
      · exact (h.stored id).on (by simp [hstage, Stage.isBetween]) rfl
  | inspect id hstage =>
      have hown := hstage ▸ h.tickets id
      refine h.acquire (List.mem_singleton.mp (hown .service)) rfl ?_ ?_
      · intro allocator hne
        have hticket := hown allocator
        cases allocator <;> simp_all [Stage.tickets]
      · exact (h.stored id).on (by simp [hstage, Stage.isBetween]) rfl
  | serviceRefused id hstage hrejected =>
      have hown := hstage ▸ h.tickets id
      refine h.modify (f := fun r => { r with stage := .settled (.failed .aborted) }) ?_ ?_
      · intro allocator
        have hticket := hown allocator
        cases allocator <;> simp_all [Stage.tickets, gone]
      · exact (h.stored id).closed rfl nofun
  | serviceAcquired id hstage hgranted =>
      have hown := hstage ▸ h.tickets id
      have hadmission := List.mem_singleton.mp (hown .admission)
      have hsidecar := List.mem_singleton.mp (hown .sidecar)
      split
      · exact h.fail hadmission hgranted (hsidecar ▸ by simp [gone])
      · refine h.modify (f := fun r => { r with stage := .preparing }) ?_ ?_
        · intro allocator
          cases allocator <;> simp_all [Stage.tickets]
        · exact (h.stored id).on (by simp [hstage, Stage.isBetween]) rfl
  | prepared id hstage =>
      have hown := hstage ▸ h.tickets id
      refine h.modify (f := fun r => { r with stage := .uploading }) ?_ ?_
      · intro allocator
        have hticket := hown allocator
        cases allocator <;> exact hticket
      · exact (h.stored id).on (by simp [hstage, Stage.isBetween]) rfl
  | fails id code hcode =>
      have hown : ∀ allocator,
          (s.slots allocator).ticket id ∈ Stage.uploading.tickets allocator := fun allocator =>
        Inspection.tickets_of_failures hcode allocator ▸ h.tickets id allocator
      exact h.fail (List.mem_singleton.mp (hown .admission)) (List.mem_singleton.mp (hown .service))
        (List.mem_singleton.mp (hown .sidecar) ▸ by simp [gone])
  | chunk id chunk hstage =>
      have hown := hstage ▸ h.tickets id
      exact h.modify (fun allocator => (s.requests id).tickets_receive chunk (hown allocator))
        ((h.stored id).receive hstage chunk)
  | write id bytes offset tooLarge bytesWritten hstage hpositive hle =>
      have hown := hstage ▸ h.tickets id
      refine h.modify (fun allocator => ?_) ((h.stored id).written hstage bytesWritten)
      have hticket := hown allocator
      refine (s.requests id).tickets_written bytes offset tooLarge bytesWritten ?_
      cases allocator <;> exact hticket
  | ended id hstage =>
      have hown := hstage ▸ h.tickets id
      refine h.modify (f := fun r => { r with stage := .closing }) ?_ ?_
      · intro allocator
        have hticket := hown allocator
        cases allocator <;> exact hticket
      · exact (h.stored id).on (by simp [hstage, Stage.isBetween]) rfl
  | closedAborted id hstage haborted =>
      have hown := hstage ▸ h.tickets id
      exact h.fail (List.mem_singleton.mp (hown .admission)) (List.mem_singleton.mp (hown .service))
        (List.mem_singleton.mp (hown .sidecar) ▸ by simp [gone])
  | closed id hstage haborted =>
      have hown := hstage ▸ h.tickets id
      refine h.acquire (List.mem_singleton.mp (hown .sidecar)) rfl ?_ ?_
      · intro allocator hne
        have hticket := hown allocator
        cases allocator <;> simp_all [Stage.tickets]
      · exact (h.stored id).on (by simp [hstage, Stage.isBetween]) rfl
  | validatorRefused id hstage hrejected =>
      have hown := hstage ▸ h.tickets id
      exact h.fail (List.mem_singleton.mp (hown .admission)) (List.mem_singleton.mp (hown .service))
        (hrejected ▸ by simp [gone])
  | validatorAborted id hstage hgranted haborted =>
      have hown := hstage ▸ h.tickets id
      refine h.release hgranted (by simp [Stage.tickets]) ?_ ?_
      · intro allocator hne
        have hticket := hown allocator
        cases allocator <;> simp_all [Stage.tickets]
      · exact (h.stored id).on (by simp [hstage, Stage.isBetween]) rfl
  | validatorAcquired id hstage hgranted haborted =>
      have hown := hstage ▸ h.tickets id
      refine h.modify (f := fun r => { r with stage := .running }) ?_ ?_
      · intro allocator
        have hticket := hown allocator
        cases allocator <;> simp_all [Stage.tickets]
      · exact (h.stored id).on (by simp [hstage, Stage.isBetween]) rfl
  | ran id validation hstage =>
      have hown := hstage ▸ h.tickets id
      refine h.release (List.mem_singleton.mp (hown .sidecar)) (by simp [Stage.tickets]) ?_ ?_
      · intro allocator hne
        have hticket := hown allocator
        cases allocator <;> simp_all [Stage.tickets]
      · exact (h.stored id).on (by simp [hstage, Stage.isBetween]) rfl
  | judged id validation sanitized hstage =>
      have hown := hstage ▸ h.tickets id
      refine h.modify (f := fun r => { r with
        stage := .cleaning ((s.requests id).judge sha256 validation sanitized) }) ?_ ?_
      · intro allocator
        have hticket := hown allocator
        cases allocator <;> simp_all [Stage.tickets, gone]
      · exact (h.stored id).closed rfl fun archiveSha256 uploadedBytes houtcome =>
          (h.stored id).judged hstage (Option.some.inj houtcome)
  | cleaned id outcome cleanupFailed hstage =>
      have hown := hstage ▸ h.tickets id
      refine h.release (List.mem_singleton.mp (hown .service)) (by simp [Stage.tickets, gone]) ?_ ?_
      · intro allocator hne
        have hticket := hown allocator
        cases allocator <;> simp_all [Stage.tickets]
      · refine (h.stored id).closed rfl fun archiveSha256 uploadedBytes houtcome => ?_
        refine (h.stored id).outcome archiveSha256 uploadedBytes ?_
        rw [hstage]
        cases cleanupFailed with
        | true => cases houtcome
        | false => exact houtcome
  | cancelled id hstage haborted hreply =>
      exact h.modify (h.tickets id) ((h.stored id).answer _ _ nofun)
  | answered id outcome hstage hreply =>
      refine h.modify (h.tickets id) ((h.stored id).answer _ _ fun archiveSha256 uploadedBytes
        hresult => ⟨?_, by simp [hstage, Stage.isOver]⟩)
      refine (h.stored id).outcome archiveSha256 uploadedBytes ?_
      rw [hstage, Inspection.eq_accepted_of_replyOf (Option.some.inj hresult)]
      rfl
  | leaves id outcome hstage hreply =>
      have hown := hstage ▸ h.tickets id
      refine h.release (List.mem_singleton.mp (hown .admission)) (by simp [Stage.tickets, gone])
        ?_ ?_
      · intro allocator hne
        have hticket := hown allocator
        cases allocator <;> simp_all [Stage.tickets]
      · exact (h.stored id).closed rfl nofun

theorem sound_inductive (sha256 : Bytes → JsString) (service sidecar : ℕ) :
    (inspections sha256 service sidecar).Inductive (Inspections.Sound sha256) where
  init s hs := by
    rw [show s = Inspections.start service sidecar from hs]
    exact sound_start service sidecar
  step _ _ _ := sound_step

/-! ## What stays -/

/-- The limits, and that a request has withdrawn. -/
def Inspections.Keeps (s s' : Inspections) : Prop :=
  ∀ allocator, (s.slots allocator).Keeps (s'.slots allocator)

theorem Inspections.keeps_setSlots {allocator : Allocator} {slots : Slots RequestNumber}
    (hslots : (s.slots allocator).Keeps slots) : s.Keeps (s.setSlots allocator slots) := by
  intro allocator'
  rw [slots_setSlots]
  split
  · next hallocator => exact hallocator ▸ hslots
  · exact .refl _

theorem Inspections.keeps_acquire (s : Inspections) (allocator : Allocator) (id : RequestNumber)
    (stage : Stage) : s.Keeps ((s.move id stage).acquire allocator id) :=
  keeps_setSlots (s := s.move id stage) (Slots.keeps_acquire _ _ _)

theorem Inspections.keeps_release (s : Inspections) (allocator : Allocator) (id : RequestNumber)
    (stage : Stage) : s.Keeps ((s.move id stage).release allocator id) := by
  refine keeps_setSlots (s := s.move id stage) ?_
  cases allocator with
  | admission => exact Slots.keeps_releaseOnce _ _ _
  | service => exact Slots.keeps_release _ _ _
  | sidecar => exact Slots.keeps_release _ _ _

theorem keeps_step {l : Label} {s' : Inspections} (hstep : Step sha256 s l s') : s.Keeps s' := by
  cases hstep with
  | arrive id => exact keeps_acquire s _ id _
  | inspect id => exact keeps_acquire s _ id _
  | closed id => exact keeps_acquire s _ id _
  | validatorAborted id => exact keeps_release s _ id _
  | ran id => exact keeps_release s _ id _
  | cleaned id => exact keeps_release s _ id _
  | leaves id => exact keeps_release s _ id _
  | abort id => exact fun allocator => Slots.keeps_withdraw _ id
  | deadline id => exact fun allocator => Slots.keeps_withdraw _ id
  | _ => exact fun allocator => .refl _

theorem keeps_run {service sidecar : ℕ} {ls : List Label} {s' : Inspections}
    (hrun : (inspections sha256 service sidecar).Run s ls s') : s.Keeps s' := by
  induction hrun with
  | nil => exact fun _ => .refl _
  | cons hstep _ ih => exact fun allocator => (keeps_step hstep allocator).trans (ih allocator)

/-- The client of a request that waits goes away, or its time is up. -/
theorem withdrawn_of_abort {l : Label} {s' : Inspections} (hstep : Step sha256 s l s')
    (hl : l = .abort id ∨ l = .deadline id) {allocator : Allocator}
    (hwaits : id ∈ (s.slots allocator).queue) : id ∈ (s'.slots allocator).withdrawn := by
  have hwithdraw : id ∈ ((s.slots allocator).withdraw id).withdrawn := by
    rw [Slots.withdrawn_withdraw, if_pos hwaits]
    exact List.mem_append_right _ List.mem_cons_self
  rcases hl with rfl | rfl
  · cases hstep
    exact hwithdraw
  · cases hstep
    exact hwithdraw

end

/-- In every state of every run: no allocator has more holders than slots, or more in its queue
than may wait; nobody waits while a slot is free; every slot is given back at most once, and has
been when its request leaves; a request that is aborted while it waits gets no slot at any later
time; and of an upload reported as accepted all that has come is in the file, which is what the
digest is of, and is no more than 4 MiB. -/
theorem inspections_safe (sha256 : Bytes → JsString) {service sidecar : ℕ} {ls : List Label}
    {s : Inspections}
    (hrun : (inspections sha256 service sidecar).Run (.start service sidecar) ls s) :
    (∀ allocator, let slots := s.slots allocator
      let limits := (Inspections.start service sidecar).slots allocator
      (slots.active ≤ limits.limit ∧
        slots.active + slots.released.length = slots.granted.length) ∧
      (∀ maxWaiting ∈ limits.maxWaiting, slots.queue.length ≤ maxWaiting) ∧
      (slots.queue ≠ [] → slots.active = limits.limit) ∧
      (slots.granted.Nodup ∧ slots.released.Nodup ∧ slots.released ⊆ slots.granted) ∧
      (∀ id ∈ slots.granted, (s.requests id).stage = .left → id ∈ slots.released) ∧
      (∀ id ∈ slots.queue, ∀ l, l = .abort id ∨ l = .deadline id → ∀ s' ls' s'',
        (inspections sha256 service sidecar).step s l s' →
        (inspections sha256 service sidecar).Run s' ls' s'' →
        id ∉ (s''.slots allocator).granted)) ∧
    (∀ id archiveSha256 uploadedBytes,
      (s.requests id).reply = some (.result archiveSha256 uploadedBytes) →
      let r := s.requests id
      r.upload.length ≤ MAX_ARCHIVE_BYTES ∧ uploadedBytes = r.upload.length ∧
        r.file = r.upload ∧ archiveSha256 = sha256 r.file) := by
  have hreachable : (inspections sha256 service sidecar).Reachable s := ⟨_, ls, rfl, hrun⟩
  have hinductive := sound_inductive sha256 service sidecar
  have hsound := hinductive.reachable hreachable
  refine ⟨fun allocator => ?_, fun id archiveSha256 uploadedBytes hreply => ?_⟩
  · have hslots := hsound.slots allocator
    obtain ⟨hlimit, hmaxWaiting, -⟩ := keeps_run hrun allocator
    refine ⟨⟨hlimit ▸ hslots.bound, hslots.count⟩, hmaxWaiting ▸ hslots.short,
      hlimit ▸ hslots.full, ⟨hslots.grantedNodup, hslots.releasedNodup, fun id hid => ?_⟩, ?_, ?_⟩
    · exact (hslots.grantedIff id).mpr (.inr ((hslots.releasedIff id).mp hid))
    · intro id hgranted hleft
      have hticket : _ ∈ Stage.left.tickets allocator := hleft ▸ hsound.tickets id allocator
      rcases (hslots.grantedIff id).mp hgranted with hheld | hreleased
      · rw [hheld] at hticket
        simp [Stage.tickets, gone] at hticket
      · exact (hslots.releasedIff id).mpr hreleased
    · intro id hwaits l hl s' ls' s'' hstep hlater
      have hlaterSound := hinductive.reachable ((hreachable.step hstep).run hlater)
      refine (hlaterSound.slots allocator).notGranted ?_
      exact (keeps_run hlater allocator).withdrawn (withdrawn_of_abort hstep hl hwaits)
  · exact ((hsound.stored id).reply _ _ hreply).1

/-- SHA-256, at one input. -/
def Sample.sha256 (bytes : Bytes) : JsString :=
  if bytes = [97, 98, 99] then
    JsString.ofString "ba7816bf8f01cfea414140de5dae2223b00361a396177a9cb410ff61f20015ad"
  else []

/-- Of three requests one uploads `abc` in two chunks, the first of them in two writes, and is
answered; the last waits, and is aborted. -/
theorem inspections_safe_of_three : ∃ s : Inspections,
    (inspections Sample.sha256 1 1).Run (.start 1 1)
      ([.arrive 0, .arrive 1, .arrive 2] ++ List.replicate 12 (.go 0) ++ [.abort 2] ++
        List.replicate 5 (.go 0)) s ∧
    (s.slots .admission).granted = [0, 1] ∧ (s.slots .admission).released = [0] ∧
    (s.slots .admission).active ≤ 2 ∧ (s.slots .admission).released.Nodup ∧
    (s.requests 0).reply = some (.result (Sample.sha256 [97, 98, 99]) 3) ∧
    3 = (s.requests 0).upload.length ∧ (s.requests 0).file = (s.requests 0).upload ∧
    Sample.sha256 [97, 98, 99] = Sample.sha256 (s.requests 0).file := by
  have hrun : (inspections Sample.sha256 1 1).Run (.start 1 1)
      ([.arrive 0, .arrive 1, .arrive 2] ++ List.replicate 12 (.go 0) ++ [.abort 2] ++
        List.replicate 5 (.go 0)) _ :=
    .cons (.arrive _ 0 rfl) <| .cons (.arrive _ 1 rfl) <| .cons (.arrive _ 2 rfl) <|
    .cons (.admitted _ 0 rfl rfl) <| .cons (.inspect _ 0 rfl) <|
    .cons (.serviceAcquired _ 0 rfl rfl) <| .cons (.prepared _ 0 rfl) <|
    .cons (.chunk _ 0 [97, 98] rfl) <|
    .cons (.write _ 0 [97, 98] 0 false 1 rfl (by decide) (by decide)) <|
    .cons (.write _ 0 [97, 98] 1 false 1 rfl (by decide) (by decide)) <|
    .cons (.chunk _ 0 [99] rfl) <|
    .cons (.write _ 0 [99] 0 false 1 rfl (by decide) (by decide)) <|
    .cons (.ended _ 0 rfl) <| .cons (.closed _ 0 rfl rfl) <|
    .cons (.validatorAcquired _ 0 rfl rfl rfl) <| .cons (.abort _ 2) <|
    .cons (.ran _ 0 .report rfl) <| .cons (.judged _ 0 .report true rfl) <|
    .cons (.cleaned _ 0 _ false rfl) <| .cons (.answered _ 0 _ rfl rfl) <|
    .cons (.leaves _ 0 _ rfl nofun) (.nil _)
  have hsafe := inspections_safe Sample.sha256 hrun
  have hslots := hsafe.1 .admission
  have hupload := hsafe.2 0 (Sample.sha256 [97, 98, 99]) 3 rfl
  exact ⟨_, hrun, rfl, rfl, hslots.1.1, hslots.2.2.2.1.2.1, rfl, hupload.2⟩

end GreenRoom.Api.PersonaPacks
