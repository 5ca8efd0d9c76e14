import GreenRoom.Runtime.ClaimFencing

/-!
# The generation of a room fences replies

Pausing, stopping and muting raise the generation of the room, and a reply is
committed only in the generation its message was accepted in.  What was accepted
before such a command is not committed after it, whatever comes in between.

## Main results

* `Change.fences` — a room that stops being active, or a persona that is muted, raises
  the generation.
* `Change.silent` — nothing is put into the log of a stopped room.
* `replyAllowed_of_not_stale` — what a reply asks of its room and its speaker.
* `generation_fence`
-/

namespace GreenRoom

namespace Db

theorem status_of_lookup {roomId : RoomId} {room : RoomRow} {db : Db}
    (h : db.rooms.lookup roomId = some room) : db.status roomId = some room.status := by
  rw [status, h]
  rfl

theorem generation_of_lookup {roomId : RoomId} {room : RoomRow} {db : Db}
    (h : db.rooms.lookup roomId = some room) : db.generation roomId = some room.generation := by
  rw [generation, h]
  rfl

/-- A room that is updated, and the others. -/
theorem RoomUpdated.lookup {roomId id : RoomId} {f : RoomRow → RoomRow} {room room' : RoomRow}
    {db db' : Db} (h : db.RoomUpdated roomId f db') (hroom : db.rooms.lookup id = some room)
    (hroom' : db'.rooms.lookup id = some room') :
    room' = if id = roomId then f room else room := by
  rw [h id, hroom] at hroom'
  exact (Option.some.inj hroom').symm

end Db

namespace Runtime

open GreenRoom.Core

variable {author : Option CommandKey} {db db' : Db}

/-! ## What raises the generation -/

/-- The status of a room changes to one that is not active only as the generation grows. -/
theorem Change.fences_status (h : Change db db' author) {roomId : RoomId} {room room' : RoomRow}
    (hroom : db.rooms.lookup roomId = some room) (hroom' : db'.rooms.lookup roomId = some room')
    (hchanged : room'.status ≠ room.status) (hinactive : room'.status ≠ .active) :
    room.generation < room'.generation := by
  have hsame : ∀ {f : RoomRow → RoomRow} {id}, db.RoomUpdated id f db' →
      (∀ row, (f row).status = row.status) → room.generation < room'.generation := by
    intro f id hupdated hf
    rw [hupdated.lookup hroom hroom'] at hchanged
    split at hchanged
    · exact absurd (hf room) hchanged
    · exact absurd rfl hchanged
  have hrooms : db'.rooms = db.rooms → room.generation < room'.generation := by
    intro heq
    rw [heq] at hroom'
    obtain rfl := Option.some.inj (hroom.symm.trans hroom')
    exact absurd rfl hchanged
  cases h with
  | quiet _ h => exact hrooms h.rooms
  | settled key requestDigest message outcome h => exact hrooms h.rooms
  | opened sessionId h =>
      obtain ⟨row, -, -, -, hlookup⟩ := h.rooms
      rw [hlookup, if_neg, hroom] at hroom'
      · obtain rfl := Option.some.inj hroom'
        exact absurd rfl hchanged
      · rintro rfl
        rw [AList.lookup_eq_none.mpr h.fresh] at hroom
        cases hroom
  | accepted command requestDigest decision room₁ state h =>
      obtain ⟨order, hupdated⟩ := h.rooms
      exact hsame hupdated fun _ => rfl
  | replied key requestDigest message speaker text room₁ h =>
      obtain ⟨order, hupdated⟩ := h.rooms
      exact hsame hupdated fun _ => rfl
  | personaControlled key requestDigest result h => exact hsame h.rooms fun _ => rfl
  | roomControlled key requestDigest result h =>
      obtain rfl := h.rooms.lookup hroom hroom'
      split at hchanged
      · next hid =>
          rw [if_pos hid] at hinactive ⊢
          obtain ⟨room₁, hroom₁, hiff, -⟩ := h.found
          obtain rfl := Option.some.inj (hroom.symm.trans (hid ▸ hroom₁))
          have hkind : result.kind ≠ .resume := by
            intro hkind
            rw [hkind] at hinactive
            exact hinactive rfl
          simp [hiff.mpr (Ne.symm hchanged), hkind]
      · exact absurd rfl hchanged

/-- A persona is muted only as the generation of its room grows. -/
theorem Change.fences_muted (h : Change db db' author) {personaId : ParticipantId}
    {persona persona' : ParticipantRow} {room room' : RoomRow}
    (hpersona : db.participants.lookup personaId = some persona)
    (hpersona' : db'.participants.lookup personaId = some persona')
    (hunmuted : persona.muted = false) (hmuted : persona'.muted = true)
    (hroom : db.rooms.lookup persona.roomId = some room)
    (hroom' : db'.rooms.lookup persona.roomId = some room') :
    room.generation < room'.generation := by
  have hsame : db'.participants = db.participants → room.generation < room'.generation := by
    intro heq
    rw [heq] at hpersona'
    obtain rfl := Option.some.inj (hpersona.symm.trans hpersona')
    rw [hunmuted] at hmuted
    cases hmuted
  cases h with
  | quiet _ h => exact hsame h.participants
  | settled key requestDigest message outcome h => exact hsame h.participants
  | accepted command requestDigest decision room₁ state h => exact hsame h.participants
  | replied key requestDigest message speaker text room₁ h => exact hsame h.participants
  | roomControlled key requestDigest result h => exact hsame h.participants
  | opened sessionId h =>
      obtain ⟨added, hentries, -⟩ := h.participants
      have hmem : (⟨personaId, persona⟩ : (_ : ParticipantId) × ParticipantRow) ∈
          db'.participants.entries := by
        rw [hentries]
        exact List.mem_append_right _ (KeyedTable.mem_entries_iff.mpr hpersona)
      rw [KeyedTable.mem_entries_iff.mp hmem] at hpersona'
      obtain rfl := Option.some.inj hpersona'
      rw [hunmuted] at hmuted
      cases hmuted
  | personaControlled key requestDigest result h =>
      rw [h.participants] at hpersona'
      simp only [Db.setMuted, KeyedTable.lookup_modify, hpersona, Option.map_some,
        Option.some.injEq] at hpersona'
      subst hpersona'
      split at hmuted
      · next hid =>
          obtain ⟨rfl, hin⟩ := hid
          obtain ⟨persona₁, hpersona₁, -, -, hiff⟩ := h.foundPersona
          obtain rfl := Option.some.inj (hpersona.symm.trans hpersona₁)
          simp only at hmuted
          have hchanged : result.changed = true := hiff.mpr (by rw [hunmuted, hmuted]; decide)
          rw [h.rooms.lookup hroom hroom', if_pos hin]
          simp [hchanged, hmuted]
      · rw [hunmuted] at hmuted
        cases hmuted

/-- Nothing is put into the log of a stopped room. -/
theorem Change.silent (h : Change db db' author) {roomId : RoomId}
    (hstopped : db.status roomId = some .stopped) (n : ℕ) :
    db'.event roomId n = db.event roomId n := by
  obtain ⟨room, hroom, hstatus⟩ := Option.map_eq_some_iff.mp hstopped
  have hsame : db'.events = db.events → db'.event roomId n = db.event roomId n := by
    intro heq
    rw [Db.event, heq, ← Db.event]
  cases h with
  | quiet _ h => exact hsame h.events
  | settled key requestDigest message outcome h => exact hsame h.events
  | roomControlled key requestDigest result h => exact hsame h.events
  | personaControlled key requestDigest result h => exact hsame h.events
  | opened sessionId h =>
      obtain ⟨cast, hevents⟩ := h.events
      rw [Db.event_insert hevents, if_neg]
      intro hplace
      obtain ⟨rfl, -⟩ := Prod.mk.inj hplace
      rw [AList.lookup_eq_none.mpr h.fresh] at hroom
      cases hroom
  | accepted command requestDigest decision room₁ state h =>
      have hne : roomId ≠ command.roomId := by
        rintro rfl
        obtain rfl := Option.some.inj (hroom.symm.trans h.found)
        rw [h.active] at hstatus
        cases hstatus
      obtain ⟨human, hevents, -⟩ := h.events
      rw [Db.event, hevents, KeyedTable.lookup_insert, if_neg (by simp [hne]),
        KeyedTable.lookup_insert, if_neg (by simp [hne]), ← Db.event]
  | replied key requestDigest message speaker text room₁ h =>
      rw [Db.event_insert h.events, if_neg]
      intro hplace
      obtain ⟨rfl, -⟩ := Prod.mk.inj hplace
      have hfresh := h.fresh
      rw [staleIn, hroom] at hfresh
      split at hfresh
      · next room₂ participant hroom₂ _ =>
          obtain rfl := Option.some.inj hroom₂
          simp [hstatus] at hfresh
      · cases hfresh

theorem Change.stopped (h : Change db db' author) {roomId : RoomId}
    (hstopped : db.status roomId = some .stopped) : db'.status roomId = some .stopped := by
  obtain ⟨room, hroom, hstatus⟩ := Option.map_eq_some_iff.mp hstopped
  obtain ⟨room', hroom', -, hkept⟩ := h.roomsKept roomId room hroom
  rw [Db.status_of_lookup hroom', hkept hstatus]

/-! ## What a reply asks -/

/-- The room is active and in the generation of the message, and the speaker may speak. -/
structure ReplyAllowed (db : Db) (roomId : RoomId) (speaker : ParticipantId) (generation : ℕ) :
    Prop where
  room : ∃ room, db.rooms.lookup roomId = some room ∧ room.status = .active ∧
    room.generation = generation
  speaker : ∃ participant, db.participants.lookup speaker = some participant ∧
    participant.roomId = roomId ∧ participant.muted = false

theorem replyAllowed_of_not_stale {roomId : RoomId} {generation : ℕ} {speaker : ParticipantId}
    (h : staleIn roomId generation speaker db = false) :
    ReplyAllowed db roomId speaker generation := by
  unfold staleIn at h
  split at h
  · next room participant hroom hparticipant =>
      obtain ⟨⟨⟨hin, hstatus⟩, hgeneration⟩, hmuted⟩ := by simpa using h
      exact ⟨⟨room, hroom, hstatus, hgeneration⟩, participant, hparticipant, hin, hmuted⟩
  · cases h

variable {host : Host} {s t : System} {l : Label}

/-- A message of an earlier generation is not answered. -/
theorem Step.unanswered (h : Inv host s) (hstep : Step host s l t) {key : CommandKey}
    {q : Question} {g : ℕ} (hq : s.db.question key = some q)
    (hg : s.db.generation key.1 = some g) (hlt : q.generation < g) {n : ℕ} {speaker : ParticipantId}
    {text : JsString}
    (hevent : t.db.event key.1 n = some (.personaMessage speaker q.sequence text)) :
    s.db.event key.1 n = some (.personaMessage speaker q.sequence text) := by
  obtain ⟨author, hchange, -⟩ := hstep.commits h.executions
  rcases hs : s.db.event key.1 n with - | event
  · obtain ⟨key', token, clock, work, d, message, room, hroom, -, -, -, hsource, hreplied⟩ :=
      hstep.reply h hs hevent
    -- The message answered is the one of `key`.
    have hq' := question_of_recorded hreplied.pending
    obtain rfl := h.integrity.distinct key key' q _ hq hq' hroom.symm hsource.symm
    obtain rfl := Option.some.inj (hq.symm.trans hq')
    obtain ⟨room', hroom', -, hgeneration⟩ := (replyAllowed_of_not_stale hreplied.fresh).room
    rw [Db.generation_of_lookup hroom', hgeneration, Option.some.injEq] at hg
    rw [← hg] at hlt
    exact absurd hlt (lt_irrefl _)
  · rw [← hevent]
    exact (hchange.eventsKept _ _ _ hs).symm ▸ rfl

theorem unanswered_run (hs : (roomSystem host Fresh).Reachable s) {ls : List Label}
    (hrun : (roomSystem host Fresh).Run s ls t) {key : CommandKey} {q : Question} {g : ℕ}
    (hq : s.db.question key = some q) (hg : s.db.generation key.1 = some g)
    (hlt : q.generation < g) {n : ℕ} {speaker : ParticipantId} {text : JsString}
    (hevent : t.db.event key.1 n = some (.personaMessage speaker q.sequence text)) :
    s.db.event key.1 n = some (.personaMessage speaker q.sequence text) := by
  refine ((inv_inductive fun _ h => h).stable (P := fun t => t.db.question key = some q ∧
    (∃ g', t.db.generation key.1 = some g' ∧ q.generation < g') ∧
      (t.db.event key.1 n = some (.personaMessage speaker q.sequence text) →
        s.db.event key.1 n = some (.personaMessage speaker q.sequence text)))
    ?_ hs hrun ⟨hq, ⟨g, hg, hlt⟩, id⟩).2.2 hevent
  intro t l u h ⟨hq, ⟨g', hg', hlt'⟩, hold⟩ hstep
  obtain ⟨author, hchange, -⟩ := hstep.commits h.executions
  refine ⟨hchange.question_kept hq, ?_, fun he => hold (hstep.unanswered h hq hg' hlt' he)⟩
  obtain ⟨room, hroom, rfl⟩ := Option.map_eq_some_iff.mp hg'
  obtain ⟨room', hroom', hle, -⟩ := hchange.roomsKept key.1 room hroom
  exact ⟨room'.generation, Db.generation_of_lookup hroom', hlt'.trans_le hle⟩

/-- What stopping a room settles. -/
theorem stopped_run (hs : (roomSystem host Fresh).Reachable s) {ls : List Label}
    (hrun : (roomSystem host Fresh).Run s ls t) {roomId : RoomId}
    (hstopped : s.db.status roomId = some .stopped) :
    t.db.status roomId = some .stopped ∧ ∀ n, t.db.event roomId n = s.db.event roomId n := by
  refine (inv_inductive fun _ h => h).stable (P := fun t =>
    t.db.status roomId = some .stopped ∧ ∀ n, t.db.event roomId n = s.db.event roomId n)
    ?_ hs hrun ⟨hstopped, fun _ => rfl⟩
  intro t l u h ⟨hstatus, hevents⟩ hstep
  obtain ⟨author, hchange, -⟩ := hstep.commits h.executions
  exact ⟨hchange.stopped hstatus, fun n => (hchange.silent hstatus n).trans (hevents n)⟩

/-- The step pauses or stops the room, or mutes one of its personas. -/
def Fencing (db db' : Db) (roomId : RoomId) : Prop :=
  (∃ room room', db.rooms.lookup roomId = some room ∧ db'.rooms.lookup roomId = some room' ∧
    room'.status ≠ room.status ∧ room'.status ≠ .active) ∨
  ∃ personaId persona persona', db.participants.lookup personaId = some persona ∧
    db'.participants.lookup personaId = some persona' ∧ persona.roomId = roomId ∧
    persona.muted = false ∧ persona'.muted = true

theorem Change.fences (h : Change db db' author) {roomId : RoomId} {room : RoomRow}
    (hroom : db.rooms.lookup roomId = some room) (hfencing : Fencing db db' roomId) :
    ∃ room', db'.rooms.lookup roomId = some room' ∧ room.generation < room'.generation := by
  obtain ⟨room', hroom', -⟩ := h.roomsKept roomId room hroom
  refine ⟨room', hroom', ?_⟩
  rcases hfencing with ⟨room₁, room₁', hroom₁, hroom₁', hchanged, hinactive⟩ |
    ⟨personaId, persona, persona', hpersona, hpersona', rfl, hunmuted, hmuted⟩
  · obtain rfl := Option.some.inj (hroom.symm.trans hroom₁)
    obtain rfl := Option.some.inj (hroom'.symm.trans hroom₁')
    exact h.fences_status hroom hroom' hchanged hinactive
  · exact h.fences_muted hpersona hpersona' hunmuted hmuted hroom hroom'

/-- **The generation fences replies.**  From any reachable state on: generations never go
down; pausing, stopping and muting raise them; a reply is committed only in the
generation of its message, in an active room and for a speaker who is not muted; a
message accepted before a pause, a stop or a mute is not answered after it; and a
stopped room stays as it is. -/
theorem generation_fence (hs : (roomSystem host Fresh).Reachable s) :
    (∀ ls t, (roomSystem host Fresh).Run s ls t → ∀ roomId room,
      s.db.rooms.lookup roomId = some room → ∃ room', t.db.rooms.lookup roomId = some room' ∧
        room.generation ≤ room'.generation) ∧
    (∀ l t, Step host s l t → ∀ roomId room, s.db.rooms.lookup roomId = some room →
      Fencing s.db t.db roomId → ∃ room', t.db.rooms.lookup roomId = some room' ∧
        room.generation < room'.generation) ∧
    (∀ l t, Step host s l t → ∀ roomId n speaker source text, s.db.event roomId n = none →
      t.db.event roomId n = some (.personaMessage speaker source text) →
        ∃ requestId requestDigest message,
          s.db.recorded (roomId, requestId) = some ⟨requestDigest, .pending message⟩ ∧
          message.humanEventSequence = source ∧ message.decision.speaker = some speaker ∧
          ReplyAllowed s.db roomId speaker message.generation) ∧
    (∀ l t, Step host s l t → ∀ key q, s.db.question key = some q → Fencing s.db t.db key.1 →
      ∀ ls u, (roomSystem host Fresh).Run t ls u → ∀ n speaker text,
        u.db.event key.1 n = some (.personaMessage speaker q.sequence text) →
          s.db.event key.1 n = some (.personaMessage speaker q.sequence text)) ∧
    (∀ roomId, s.db.status roomId = some .stopped → ∀ ls t, (roomSystem host Fresh).Run s ls t →
      t.db.status roomId = some .stopped ∧ ∀ n, t.db.event roomId n = s.db.event roomId n) := by
  have hinv : (roomSystem host Fresh).Inductive (Inv host) := inv_inductive fun _ h => h
  have h := hinv.reachable hs
  refine ⟨?_, ?_, ?_, ?_, fun roomId hstopped ls t hrun => stopped_run hs hrun hstopped⟩
  · intro ls t hrun roomId room hroom
    have hkept : s.db.RoomsKept t.db := hinv.relates (fun s => .refl s.db)
      (fun _ _ _ => .trans) (fun _ _ _ h hstep =>
        let ⟨_, hchange, _⟩ := hstep.commits h.executions
        hchange.roomsKept) hs hrun
    obtain ⟨room', hroom', hle, -⟩ := hkept roomId room hroom
    exact ⟨room', hroom', hle⟩
  · intro l t hstep roomId room hroom hfencing
    obtain ⟨author, hchange, -⟩ := hstep.commits h.executions
    exact hchange.fences hroom hfencing
  · intro l t hstep roomId n speaker source text hnone hevent
    obtain ⟨key, token, clock, work, requestDigest, message, room, rfl, -, -, -, hsource,
      hreplied⟩ := hstep.reply h hnone hevent
    exact ⟨key.2, requestDigest, message, hreplied.pending, hsource, hreplied.speaks,
      replyAllowed_of_not_stale hreplied.fresh⟩
  · intro l t hstep key q hq hfencing ls u hrun n speaker text hevent
    obtain ⟨author, hchange, -⟩ := hstep.commits h.executions
    obtain ⟨g, hg, hle⟩ := (h.integrity.asked key q hq).generation
    obtain ⟨room, hroom, rfl⟩ := Option.map_eq_some_iff.mp hg
    obtain ⟨room', hroom', hlt⟩ := hchange.fences hroom hfencing
    have hbefore := unanswered_run (hs.step hstep) hrun (hchange.question_kept hq)
      (Db.generation_of_lookup hroom') (hle.trans_lt hlt) hevent
    -- The step that fences commits no reply itself.
    rcases hold : s.db.event key.1 n with - | event
    · obtain ⟨key', _, _, _, _, _, room₁, hkey, -, -, -, -, hreplied⟩ := hstep.reply h hold hbefore
      obtain ⟨order, hupdated⟩ := hreplied.rooms
      rw [hupdated.lookup hroom hroom', if_pos hkey.symm] at hlt
      exact absurd hlt (lt_irrefl _)
    · rw [← hchange.eventsKept _ _ _ hold, hbefore]

theorem generation_fence_hello : ∃ requestId requestDigest message,
    Hello.s₈.db.recorded (Hello.roomId, requestId) = some ⟨requestDigest, .pending message⟩ ∧
      message.humanEventSequence = 1 ∧ message.decision.speaker = some Hello.persona ∧
      ReplyAllowed Hello.s₈.db Hello.roomId Hello.persona message.generation :=
  (generation_fence Hello.reachable).2.2.1 _ _ Hello.completes Hello.roomId 3 Hello.persona 1
    (JsString.ofString "Hi") rfl rfl

end Runtime

end GreenRoom
