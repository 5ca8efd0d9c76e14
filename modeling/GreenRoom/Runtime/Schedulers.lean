import GreenRoom.Core.DirectorSnapshot
import GreenRoom.Runtime.ExactlyOnce

/-!
# The two schedulers agree

`decide` works on two columns of `director_state` and a count over the log, the
`Director` on a rotation index and the event number of each persona's last selection.
A director *mirrors* a room when both would decide alike; every turn keeps it so.

## Main definitions

* `LastTurn` — the last selection, on both sides.
* `Aligned` — what a decision depends on, on both sides.
* `Mirrors` — a director that has been told what a room has been through.
* `Turns` — a run, with the messages and mutes of one room.

## Main results

* `Aligned.decide` — aligned schedulers decide alike.
* `Mirrors.message`, `Mirrors.setMuted`, `Mirrors.undisturbed` — a director that is told goes on
  mirroring.
* `schedulers_agree` — over every run of one room, its director and its service name the same
  speakers.
-/

namespace GreenRoom.Runtime

open JsString GreenRoom.Core

/-- The last selection, as the two columns and as the director remember it. -/
inductive LastTurn (roomId : RoomId) (db : Db) (d : Director) :
    Option ParticipantId → Option ℕ → Prop
  | none : d.lastSelectedAt = ∅ → d.fallbackIndex = 0 → LastTurn roomId db d none none
  | some (speaker : ParticipantId) (sequence n : ℕ) :
      speaker ∈ d.personas → d.lastSelectedAt.lookup speaker = some n →
      (∀ p m, p ≠ speaker → d.lastSelectedAt.lookup p = some m → m < n) →
      d.fallbackIndex = (d.personas.idxOf speaker + 1) % d.personas.length →
      n + db.humanMessagesAfter roomId sequence = d.acceptedHumanEventNumber →
      LastTurn roomId db d (some speaker) (some sequence)

/-- As many messages are counted on both sides. -/
theorem LastTurn.count {roomId : RoomId} {db db' : Db} {d d' : Director}
    {last : Option ParticipantId} {sequence : Option ℕ} (h : LastTurn roomId db d last sequence)
    {k : ℕ} (hpersonas : d'.personas = d.personas)
    (hselected : d'.lastSelectedAt = d.lastSelectedAt) (hindex : d'.fallbackIndex = d.fallbackIndex)
    (haccepted : d'.acceptedHumanEventNumber = d.acceptedHumanEventNumber + k)
    (hhumans : ∀ n, sequence = .some n →
      db'.humanMessagesAfter roomId n = db.humanMessagesAfter roomId n + k) :
    LastTurn roomId db' d' last sequence := by
  cases h with
  | none hempty hzero => exact .none (hselected.trans hempty) (hindex.trans hzero)
  | some speaker sequence n hmem hlast hothers hrotation hcount =>
      refine .some speaker sequence n (hpersonas ▸ hmem) (hselected ▸ hlast) (hselected ▸ hothers)
        (by rw [hindex, hpersonas, hrotation]) ?_
      rw [hhumans sequence rfl, haccepted, ← hcount]
      omega

/-- What a decision depends on is the same on both sides. -/
structure Aligned (roomId : RoomId) (state : DirectorStateRow) (db : Db) (d : Director) : Prop where
  personas : d.personas = (db.personasOf roomId).map Db.Participant.id
  muted : ∀ p ∈ db.personasOf roomId, p.id ∈ d.muted ↔ p.row.muted = true
  lastTurn : LastTurn roomId db d state.lastSpeakerId state.lastHumanEventSequence

namespace Aligned

variable {roomId : RoomId} {state : DirectorStateRow} {db : Db} {d : Director}

theorem length (h : Aligned roomId state db d) :
    d.personas.length = (db.personasOf roomId).length := by
  rw [h.personas, List.length_map]

theorem unmuted (h : Aligned roomId state db d) :
    d.personas.filter (· ∉ d.muted) =
      ((db.personasOf roomId).filter fun p => !p.row.muted).map Db.Participant.id := by
  rw [h.personas, List.filter_map]
  congr 1
  refine List.filter_congr fun p hp => ?_
  have := h.muted p hp
  simp only [Function.comp_apply, decide_not]
  cases hm : p.row.muted <;> simp_all

/-- Both start behind the last speaker. -/
theorem startIndex (h : Aligned roomId state db d) :
    (if (db.personasOf roomId).findIdx (fun p => some p.id = state.lastSpeakerId) =
        (db.personasOf roomId).length then 0
      else ((db.personasOf roomId).findIdx (fun p => some p.id = state.lastSpeakerId) + 1) %
        (db.personasOf roomId).length) = d.fallbackIndex := by
  have hlength := h.length
  have hpersonas := h.personas
  have hturn := h.lastTurn
  generalize state.lastSpeakerId = last, state.lastHumanEventSequence = sequence at hturn ⊢
  rcases hturn with ⟨-, hindex⟩ | ⟨speaker, sequence, n, hmem, -, -, hindex, -⟩
  · rw [if_pos (List.findIdx_eq_length_of_false (by simp)), hindex]
  · have hidx : (db.personasOf roomId).findIdx (fun p => some p.id = some speaker) =
        d.personas.idxOf speaker := by
      rw [hpersonas, List.idxOf, List.findIdx_map]
      congr 1
      funext p
      rw [Bool.eq_iff_iff]
      simp
    rw [hidx, hindex, ← hlength, if_neg (List.idxOf_lt_length_iff.mpr hmem).ne]

/-- The next persona in turn, whatever the columns call a cooldown, if it is the director's. -/
theorem nextInTurn (h : Aligned roomId state db d) {cooldown : Bool}
    (hcooldown : ∀ p m, d.lastSelectedAt.lookup p = some m →
      (oneEventCooldown < d.acceptedHumanEventNumber - m ↔
        ¬ (cooldown = true ∧ some p = state.lastSpeakerId)))
    (hnone : ∀ p, d.lastSelectedAt.lookup p = none → some p ≠ state.lastSpeakerId) :
    nextInTurn (db.personasOf roomId) state.lastSpeakerId cooldown =
      match d.deterministicEligibleSpeaker with
      | some speaker => ⟨some speaker.personaId, .selected⟩
      | none => ⟨none, .cooldown⟩ := by
  have heligible : eligibleAt (db.personasOf roomId) state.lastSpeakerId cooldown d.fallbackIndex =
      fun offset => (d.eligibleAt offset).map Director.Speaker.personaId := by
    funext offset
    rw [eligibleAt, Director.eligibleAt, h.length, h.personas, List.getElem?_map]
    rcases hp : (db.personasOf roomId)[(d.fallbackIndex + offset) %
      (db.personasOf roomId).length]? with - | p
    · rfl
    · have hmuted := h.muted p (List.mem_of_getElem? hp)
      simp only [Option.map_some]
      by_cases hm : p.id ∈ d.muted
      · simp [hm, hmuted.mp hm]
      · have hm' : p.row.muted = false := by simpa using fun h => hm (hmuted.mpr h)
        rw [if_neg hm, hm']
        rcases hl : d.lastSelectedAt.lookup p.id with - | m
        · simp [hnone p.id hl]
        · have := hcooldown p.id m hl
          dsimp only
          by_cases hc : cooldown = true ∧ some p.id = state.lastSpeakerId
          · rw [if_neg (by simp [hc.1, hc.2]), if_neg (by rw [this]; exact not_not.mpr hc)]
            rfl
          · rw [if_pos, if_pos (this.mpr hc)]
            · rfl
            · cases cooldown <;> simp_all
  rw [Runtime.nextInTurn]
  simp only [h.startIndex, heligible]
  rw [← h.length, show (fun offset => (d.eligibleAt offset).map Director.Speaker.personaId) =
    Option.map Director.Speaker.personaId ∘ d.eligibleAt from rfl, ← List.map_findSome?,
    Director.deterministicEligibleSpeaker]
  rcases (List.range d.personas.length).findSome? d.eligibleAt with - | speaker <;> rfl

/-- What the columns call a cooldown is what the director does. -/
theorem speakerOnCooldown (h : Aligned roomId state db d)
    (hcounted : ∀ sequence, state.lastHumanEventSequence = some sequence →
      0 < db.humanMessagesAfter roomId sequence) {cooldown : Bool} {db' : Db}
    (hcooldown : (speakerOnCooldown roomId state).Returns db cooldown db') :
    (∀ p m, d.lastSelectedAt.lookup p = some m →
      (oneEventCooldown < d.acceptedHumanEventNumber - m ↔
        ¬ (cooldown = true ∧ some p = state.lastSpeakerId))) ∧
    ∀ p, d.lastSelectedAt.lookup p = none → some p ≠ state.lastSpeakerId := by
  have hturn := h.lastTurn
  unfold Runtime.speakerOnCooldown at hcooldown
  generalize state.lastSpeakerId = last, state.lastHumanEventSequence = sequence
    at hturn hcounted hcooldown ⊢
  rcases hturn with ⟨hempty, -⟩ | ⟨speaker, sequence, n, -, hlast, hothers, -, hcount⟩
  · rw [hempty]
    exact ⟨by simp, by simp⟩
  · have hpositive := hcounted sequence rfl
    simp only [Program.returns_bind, Program.returns_query, Program.returns_pure] at hcooldown
    obtain ⟨_, _, ⟨rfl, rfl⟩, rfl, -⟩ := hcooldown
    refine ⟨fun p m hp => ?_, fun p hp => ?_⟩
    · by_cases hspeaker : p = speaker
      · subst hspeaker
        obtain rfl := Option.some.inj (hlast.symm.trans hp)
        simp only [oneEventCooldown, decide_eq_true_eq, and_true]
        omega
      · -- Who has spoken before the last speaker may speak again.
        have := hothers p m hspeaker hp
        refine iff_of_true ?_ (by simp [hspeaker])
        simp only [oneEventCooldown]
        omega
    · rintro ⟨⟩
      rw [hlast] at hp
      cases hp

/-- **Aligned schedulers decide alike.**  `d` has counted the message already, and so has the
log. -/
theorem decide (h : Aligned roomId state db d) (hcanonical : ∀ p ∈ d.personas, IsCanonical none p)
    (hcounted : ∀ sequence, state.lastHumanEventSequence = some sequence →
      0 < db.humanMessagesAfter roomId sequence)
    {wantsResponse : Bool} {targetPersonaId : Option ParticipantId}
    (hwants : targetPersonaId.isSome → wantsResponse = true) {decision : DirectorDecision}
    {db' : Db}
    (hdecide : (decide roomId state wantsResponse targetPersonaId).Returns db decision db') :
    d.requireDirectable targetPersonaId = .ok () ∧
      (d.scheduleAccepted wantsResponse targetPersonaId).1 = decision := by
  have hlength := h.length
  have hunmuted := h.unmuted
  simp only [Runtime.decide, Program.returns_bind, Program.returns_query] at hdecide
  obtain ⟨_, db, ⟨rfl, rfl⟩, hdecide⟩ := hdecide
  cases targetPersonaId with
  | some target =>
      simp only [Program.returns_bind, Program.returns_orThrow, Program.returns_require,
        Program.returns_pure] at hdecide
      obtain ⟨persona, _, ⟨hfind, rfl⟩, _, _, ⟨hpersona, rfl⟩, rfl, rfl⟩ := hdecide
      have hmem := List.mem_of_find?_eq_some hfind
      have hid : persona.id = target := by simpa using List.find?_some hfind
      subst hid
      have htarget : persona.id ∈ d.personas := by
        rw [h.personas]
        exact List.mem_map_of_mem hmem
      have hfree : persona.id ∉ d.muted := by
        rw [h.muted persona hmem, hpersona]
        simp
      refine ⟨?_, ?_⟩
      · rw [Director.requireDirectable,
          requireCanonicalIdentifier_of (hcanonical _ htarget)]
        simp [htarget, hfree]
      · have hfilter : (d.personas.filter (· ∉ d.muted)).length ≠ 0 := by
          rw [Ne, List.length_eq_zero_iff, List.filter_eq_nil_iff]
          intro hall
          exact hall _ htarget (by simpa using hfree)
        rw [Director.scheduleAccepted, hwants rfl, if_neg (by simp),
          if_neg (List.length_pos_of_mem htarget).ne', if_neg hfilter]
        rfl
  | none =>
      refine ⟨rfl, ?_⟩
      dsimp only at hdecide
      rw [Director.scheduleAccepted, hlength]
      cases wantsResponse with
      | false =>
          obtain ⟨rfl, -⟩ := Program.returns_pure.mp hdecide
          rfl
      | true =>
          rw [if_neg (by simp)] at hdecide ⊢
          split at hdecide
          · next hzero =>
              obtain ⟨rfl, -⟩ := Program.returns_pure.mp hdecide
              rw [if_pos hzero]
          · next hpositive =>
              rw [if_neg hpositive, hunmuted]
              split at hdecide
              · next hfilter =>
                  obtain ⟨rfl, -⟩ := Program.returns_pure.mp hdecide
                  rw [hfilter]
                  rfl
              · next only hfilter =>
                  obtain ⟨rfl, -⟩ := Program.returns_pure.mp hdecide
                  have hchoose :
                    d.chooseSpeaker none = some ⟨only.id, d.personas.idxOf only.id⟩ := by
                    unfold Director.chooseSpeaker
                    rw [hunmuted, hfilter]
                    rfl
                  rw [hfilter, hchoose]
                  rfl
              · next hnil honly =>
                  simp only [Program.returns_bind, Program.returns_pure] at hdecide
                  obtain ⟨cooldown, _, hcooldown, rfl, -⟩ := hdecide
                  obtain ⟨hselected, hnone⟩ := h.speakerOnCooldown hcounted hcooldown
                  have hchoose : d.chooseSpeaker none = d.deterministicEligibleSpeaker := by
                    unfold Director.chooseSpeaker
                    dsimp only
                    rw [hunmuted]
                    split
                    · next only hfilter =>
                        obtain ⟨persona, hpersona, -⟩ := List.map_eq_singleton_iff.mp hfilter
                        exact absurd hpersona (honly persona)
                    · rfl
                  rw [h.nextInTurn hselected hnone, hchoose, if_neg]
                  · rcases d.deterministicEligibleSpeaker with - | speaker <;> rfl
                  · rw [List.length_map, List.length_eq_zero_iff]
                    exact hnil

end Aligned

/-! ## What the tables say after a change -/

/-- Two tables that say the same of a room's schedule. -/
structure Undisturbed (roomId : RoomId) (db db' : Db) : Prop where
  personas : db'.personasOf roomId = db.personasOf roomId
  state : ∀ state, db.directorState.lookup roomId = some state →
    db'.directorState.lookup roomId = some state
  humans : ∀ sequence,
    db'.humanMessagesAfter roomId sequence = db.humanMessagesAfter roomId sequence
  next : Option.Rel (· ≤ ·) (db.next roomId) (db'.next roomId)

theorem later {a b : Option ℕ} (h : Option.Rel (· ≤ ·) a b) {n : ℕ} (hn : a = some n) :
    ∃ n', b = some n' ∧ n ≤ n' := by
  subst hn
  cases h with
  | some hle => exact ⟨_, rfl, hle⟩

theorem earlier {a b : Option ℕ} (h : Option.Rel (· ≤ ·) a b) {n' : ℕ} (hn : b = some n') :
    ∃ n, a = some n ∧ n ≤ n' := by
  subst hn
  cases h with
  | some hle => exact ⟨_, rfl, hle⟩

section

variable {roomId : RoomId} {db db' : Db}

theorem personasOf_congr (h : db'.participants = db.participants) (roomId : RoomId) :
    db'.personasOf roomId = db.personasOf roomId := by
  rw [Db.personasOf, Db.participantsOf, h]
  rfl

theorem humanMessagesAfter_congr (h : db'.events = db.events) (roomId : RoomId) (sequence : ℕ) :
    db'.humanMessagesAfter roomId sequence = db.humanMessagesAfter roomId sequence := by
  rw [Db.humanMessagesAfter, h]
  rfl

/-- One more event. -/
theorem humanMessagesAfter_insert {place : RoomId × ℕ} {event : RoomEvent}
    (hfree : place ∉ db.events) (h : db'.events = db.events.insert place event) (roomId : RoomId)
    (sequence : ℕ) :
    db'.humanMessagesAfter roomId sequence = db.humanMessagesAfter roomId sequence +
      if place.1 = roomId ∧ sequence < place.2 ∧ event.isHumanMessage = true then 1 else 0 := by
  rw [Db.humanMessagesAfter, Db.humanMessagesAfter, h, AList.entries_insert_of_notMem hfree,
    List.countP_cons]
  simp [and_assoc]

theorem mem_personasOf {p : Db.Participant} (h : p ∈ db.personasOf roomId) :
    p.row.roomId = roomId := by
  rw [Db.personasOf, Db.participantsOf, List.mem_insertionSort, List.mem_map] at h
  obtain ⟨e, he, rfl⟩ := h
  obtain ⟨-, hp⟩ := List.mem_filter.mp he
  obtain ⟨hroom, -⟩ := by simpa using hp
  exact hroom

/-- The personas after one of them has been muted or unmuted. -/
theorem personasOf_setMuted {roomId' : RoomId} {personaId : ParticipantId} {muted : Bool}
    (h : db'.participants = (db.setMuted roomId' personaId muted).participants) (roomId : RoomId) :
    db'.personasOf roomId = (db.personasOf roomId).map fun p =>
      if p.id = personaId ∧
        p.row.roomId = roomId' then { p with row := { p.row with muted } } else p := by
  rw [Db.personasOf, Db.personasOf, Db.participantsOf, Db.participantsOf, h,
    List.map_insertionSort (r := fun p q : Db.Participant => p.row.sortOrder ≤ q.row.sortOrder)
      (s := fun p q : Db.Participant => p.row.sortOrder ≤ q.row.sortOrder)]
  · congr 1
    simp only [Db.setMuted, KeyedTable.modify, List.filter_map, List.map_map]
    congr 1
    · funext e
      simp only [Function.comp_apply]
      split <;> rfl
    · refine List.filter_congr fun e _ => ?_
      simp only [Function.comp_apply]
      split <;> rfl
  · intro p _ q _
    split <;> split <;> rfl

theorem next_of_eq (h : db'.next roomId = db.next roomId) :
    Option.Rel (· ≤ ·) (db.next roomId) (db'.next roomId) := by
  rw [h]
  cases db.next roomId with
  | none => exact .none
  | some n => exact .some le_rfl

theorem Undisturbed.of_quiet (h : db.Quiet db') : Undisturbed roomId db db' where
  personas := personasOf_congr h.participants roomId
  state := fun state hs => by rw [h.directorState, hs]
  humans := humanMessagesAfter_congr h.events roomId
  next := next_of_eq (by rw [Db.next, h.rooms, ← Db.next])

theorem Undisturbed.of_settled {key : CommandKey} {requestDigest : JsString}
    {message : PendingMessage} {outcome : MessageOutcome}
    (h : Settled key requestDigest message outcome db db') : Undisturbed roomId db db' where
  personas := personasOf_congr h.participants roomId
  state := fun state hs => by rw [h.directorState, hs]
  humans := humanMessagesAfter_congr h.events roomId
  next := next_of_eq (by rw [Db.next, h.rooms, ← Db.next])

theorem next_le_of_roomUpdated {id : RoomId} {f : RoomRow → RoomRow} (h : db.RoomUpdated id f db')
    (hf : ∀ row, row.nextEventSequence ≤ (f row).nextEventSequence) :
    Option.Rel (· ≤ ·) (db.next roomId) (db'.next roomId) := by
  rw [Db.next, Db.next, h roomId]
  cases db.rooms.lookup roomId with
  | none => exact .none
  | some row =>
      refine .some ?_
      split
      · exact hf row
      · rfl

theorem Undisturbed.of_roomControlled {key : CommandKey} {requestDigest : JsString}
    {result : RoomControlResult} (h : RoomControlled key requestDigest result db db') :
    Undisturbed roomId db db' where
  personas := personasOf_congr h.participants roomId
  state := fun state hs => by rw [h.directorState, hs]
  humans := humanMessagesAfter_congr h.events roomId
  next := next_le_of_roomUpdated h.rooms fun _ => le_rfl

theorem Undisturbed.of_replied {key : CommandKey} {requestDigest : JsString}
    {message : PendingMessage} {speaker : ParticipantId} {text : JsString} {room : RoomRow}
    (h : Replied key requestDigest message speaker text room db db') :
    Undisturbed roomId db db' where
  personas := personasOf_congr h.participants roomId
  state := fun state hs => by rw [h.directorState, hs]
  humans := fun sequence => by
    rw [humanMessagesAfter_insert h.free h.events, if_neg (by simp [RoomEvent.isHumanMessage]),
      add_zero]
  next := by
    obtain ⟨order, hupdated⟩ := h.rooms
    exact next_le_of_roomUpdated hupdated fun _ => Nat.le_succ _

/-- Another room is added. -/
theorem Undisturbed.of_opened {sessionId : RoomId} (h : db.Opened sessionId db')
    (hne : sessionId ≠ roomId) : Undisturbed roomId db db' where
  personas := by
    obtain ⟨added, hentries, hadded⟩ := h.participants
    have hnone :
      added.filter (fun e => e.2.roomId = roomId && (e.2.kind = .persona : Bool)) = [] := by
      rw [List.filter_eq_nil_iff]
      intro e he
      simp [hadded e he, hne]
    rw [Db.personasOf, Db.personasOf, Db.participantsOf, Db.participantsOf, hentries,
      List.filter_append, hnone, List.nil_append]
  state := fun state hs => by
    rw [h.directorState, KeyedTable.lookup_insert, if_neg hne.symm, hs]
  humans := fun sequence => by
    obtain ⟨cast, hevents⟩ := h.events
    rw [humanMessagesAfter_insert h.freshEvent hevents, if_neg (by simp [RoomEvent.isHumanMessage]),
      add_zero]
  next := by
    obtain ⟨row, -, -, -, hrooms⟩ := h.rooms
    exact next_of_eq (by rw [Db.next, hrooms, if_neg hne.symm, ← Db.next])

/-- The log after a message has been accepted. -/
theorem humanMessagesAfter_accepted {command : MessageCommand} {requestDigest : JsString}
    {decision : DirectorDecision} {room : RoomRow} {state : DirectorStateRow}
    (h : Accepted command requestDigest decision room state db db') (roomId : RoomId)
    (sequence : ℕ) : db'.humanMessagesAfter roomId sequence =
      db.humanMessagesAfter roomId sequence +
        if command.roomId = roomId ∧ sequence < room.nextEventSequence then 1 else 0 := by
  obtain ⟨human, hevents, -⟩ := h.events
  have hfree' : (command.roomId, room.nextEventSequence + 1) ∉ (db.appended command.roomId
      room.nextEventSequence (.humanMessage human command.text)).events := by
    rw [Db.appended_events, AList.mem_insert, not_or]
    exact ⟨by simp, h.free'⟩
  rw [humanMessagesAfter_insert hfree' hevents,
    humanMessagesAfter_insert h.free (Db.appended_events _ _ _ _)]
  simp [RoomEvent.isHumanMessage]

/-- A message is accepted in another room. -/
theorem Undisturbed.of_accepted {command : MessageCommand} {requestDigest : JsString}
    {decision : DirectorDecision} {room : RoomRow} {state : DirectorStateRow}
    (h : Accepted command requestDigest decision room state db db')
    (hne : command.roomId ≠ roomId) : Undisturbed roomId db db' where
  personas := personasOf_congr h.participants roomId
  state := fun state hs => by
    rw [h.directorState, hs, Option.map_some, if_neg hne.symm]
  humans := fun sequence => by
    rw [humanMessagesAfter_accepted h, if_neg (by simp [hne]), add_zero]
  next := by
    obtain ⟨order, hupdated⟩ := h.rooms
    exact next_le_of_roomUpdated hupdated fun _ => Nat.le_add_right _ _

/-- A persona of another room is muted or unmuted. -/
theorem Undisturbed.of_personaControlled {key : CommandKey} {requestDigest : JsString}
    {result : PersonaControlResult} (h : PersonaControlled key requestDigest result db db')
    (hne : key.1 ≠ roomId) : Undisturbed roomId db db' where
  personas := by
    rw [personasOf_setMuted h.participants]
    refine (List.map_congr_left fun p hp => ?_).trans (List.map_id _)
    rw [if_neg]
    · rfl
    · rintro ⟨-, hroom⟩
      exact hne (hroom.symm.trans (mem_personasOf hp))
  state := fun state hs => by rw [h.directorState, hs]
  humans := humanMessagesAfter_congr h.events roomId
  next := next_le_of_roomUpdated h.rooms fun _ => le_rfl

end

/-! ## Directors that mirror a room -/

/-- The director has been told what the room has been through. -/
structure Mirrors (roomId : RoomId) (db : Db) (d : Director) : Prop where
  sound : d.Sound
  running : d.cancelled = false
  aligned : ∃ state, db.directorState.lookup roomId = some state ∧ Aligned roomId state db d ∧
    ∀ sequence, state.lastHumanEventSequence = some sequence →
      ∃ next, db.next roomId = some next ∧ sequence < next
  /-- The director has counted no more messages than the room has events. -/
  counted : ∀ next, db.next roomId = some next → d.acceptedHumanEventNumber ≤ next

namespace Mirrors

variable {roomId : RoomId} {db db' : Db} {d : Director}

theorem undisturbed (h : Mirrors roomId db d) (hu : Undisturbed roomId db db') :
    Mirrors roomId db' d := by
  obtain ⟨state, hstate, haligned, hnext⟩ := h.aligned
  refine ⟨h.sound, h.running, ⟨state, hu.state state hstate, ⟨?_, ?_, ?_⟩, ?_⟩, ?_⟩
  · rw [hu.personas, haligned.personas]
  · rw [hu.personas]
    exact haligned.muted
  · exact haligned.lastTurn.count (k := 0) rfl rfl rfl rfl fun n _ => hu.humans n
  · intro sequence hs
    obtain ⟨next, hn, hlt⟩ := hnext sequence hs
    obtain ⟨next', hn', hle⟩ := later hu.next hn
    exact ⟨next', hn', hlt.trans_le hle⟩
  · intro next' hn'
    obtain ⟨next, hn, hle⟩ := earlier hu.next hn'
    exact (h.counted next hn).trans hle

/-- A persona of the room is muted or unmuted. -/
theorem setMuted (h : Mirrors roomId db d) {key : CommandKey} {requestDigest : JsString}
    {result : PersonaControlResult} (hc : PersonaControlled key requestDigest result db db')
    (hroom : key.1 = roomId) :
    ∃ d', d.setMuted result.personaId result.muted = .ok d' ∧ Mirrors roomId db' d' ∧
      ∀ x, d'.hasSeen x = d.hasSeen x := by
  subst hroom
  obtain ⟨state, hstate, haligned, hnext⟩ := h.aligned
  obtain ⟨persona, hpersona, hin, hkind, -⟩ := hc.foundPersona
  have hmem : (⟨result.personaId, persona⟩ : Db.Participant) ∈ db.personasOf key.1 := by
    rw [Db.personasOf, Db.participantsOf, List.mem_insertionSort, List.mem_map]
    refine ⟨⟨result.personaId, persona⟩, List.mem_filter.mpr
      ⟨KeyedTable.mem_entries_iff.mpr hpersona, by simp [hin, hkind]⟩, rfl⟩
  have hknown : result.personaId ∈ d.personas := by
    rw [haligned.personas]
    exact List.mem_map_of_mem hmem
  have hpersonas := personasOf_setMuted hc.participants key.1
  -- The roster stays, in its order.
  have hids : (db'.personasOf key.1).map Db.Participant.id = d.personas := by
    rw [hpersonas, List.map_map, haligned.personas]
    refine List.map_congr_left fun p _ => ?_
    simp only [Function.comp_apply]
    split <;> rfl
  -- Whatever a director does to its set, it agrees with the rows.
  have hmirrors : ∀ muted : Finset PersonaId,
      (∀ p, p ∈ muted ↔ if p = result.personaId then result.muted = true else p ∈ d.muted) →
        d.setMuted result.personaId result.muted = .ok { d with muted } →
        Mirrors key.1 db' { d with muted } := by
    intro muted hmuted hset
    refine ⟨h.sound.setMuted hset, h.running, ⟨state, by rw [hc.directorState, hstate],
      ⟨hids.symm, ?_, ?_⟩, ?_⟩, ?_⟩
    · intro p' hp'
      rw [hpersonas] at hp'
      obtain ⟨p, hp, rfl⟩ := List.mem_map.mp hp'
      have hpid : (if p.id = result.personaId ∧ p.row.roomId = key.1 then
          ({ p with row := { p.row with muted := result.muted } } : Db.Participant) else p).id =
          p.id := by split <;> rfl
      rw [hmuted, hpid]
      by_cases hid : p.id = result.personaId
      · rw [if_pos hid, if_pos ⟨hid, mem_personasOf hp⟩]
      · rw [if_neg hid, if_neg fun h => hid h.1]
        exact haligned.muted p hp
    · exact haligned.lastTurn.count (k := 0) rfl rfl rfl rfl fun n _ =>
        humanMessagesAfter_congr hc.events key.1 n
    · intro sequence hs
      obtain ⟨next, hn, hlt⟩ := hnext sequence hs
      obtain ⟨next', hn', hle⟩ := later (next_le_of_roomUpdated hc.rooms fun _ => le_rfl) hn
      exact ⟨next', hn', hlt.trans_le hle⟩
    · intro next' hn'
      obtain ⟨next, hn, hle⟩ := earlier (next_le_of_roomUpdated hc.rooms fun _ => le_rfl) hn'
      exact (h.counted next hn).trans hle
  have hset : d.setMuted result.personaId result.muted = .ok { d with
      muted := if result.muted then insert result.personaId d.muted
        else d.muted.erase result.personaId } := by
    rw [Director.setMuted, if_neg (not_not.mpr hknown)]
    split <;> rfl
  refine ⟨_, hset, hmirrors _ (fun p => ?_) hset, fun _ => rfl⟩
  cases result.muted <;> by_cases hp : p = result.personaId <;> simp [hp]

/-- A message of the room is accepted. -/
theorem message (h : Mirrors roomId db d) (hintegrity : LogIntegrity db) {command : MessageCommand}
    {requestDigest : JsString} {decision : DirectorDecision} {room : RoomRow}
    {state : DirectorStateRow} (hc : Accepted command requestDigest decision room state db db')
    (hroom : command.roomId = roomId)
    (hwants : command.targetPersonaId.isSome → command.wantsResponse = true)
    {event : VerifiedDirectorEvent} (hhuman : event.isHuman = true)
    (hevent : event.wantsResponse = command.wantsResponse)
    (hunseen : d.hasSeen event.identity = false) :
    ∃ d', d.schedule (some event) command.targetPersonaId = .ok (decision, d') ∧
      Mirrors roomId db' d' ∧ ∀ x, d'.hasSeen x → d.hasSeen x ∨ x = event.identity := by
  subst hroom
  obtain ⟨state', hstate, haligned, hnext⟩ := h.aligned
  obtain rfl := Option.some.inj (hc.foundState.symm.trans hstate)
  obtain ⟨human, -, hdecide⟩ := hc.events
  have hnow : db.next command.roomId = some room.nextEventSequence := by
    rw [Db.next, hc.found]
    rfl
  have hbefore : ∀ sequence, state.lastHumanEventSequence = some sequence →
      sequence < room.nextEventSequence := by
    intro sequence hs
    obtain ⟨next, hn, hlt⟩ := hnext sequence hs
    rwa [Option.some.inj (hnow.symm.trans hn)]
  -- The director counts the message, and so does the log.
  obtain ⟨d₁, hd₁⟩ : ∃ d₁, d₁ = (d.recordSeen event.identity).accept := ⟨_, rfl⟩
  have hframe := d.recordSeen_frame event.identity
  have hpersonas : d₁.personas = d.personas := by rw [hd₁, hframe]; rfl
  have hmuted : d₁.muted = d.muted := by rw [hd₁, hframe]; rfl
  have hselected : d₁.lastSelectedAt = d.lastSelectedAt := by rw [hd₁, hframe]; rfl
  have hindex : d₁.fallbackIndex = d.fallbackIndex := by rw [hd₁, hframe]; rfl
  have hroomLeft : d.acceptedHumanEventNumber < safeIntegerBound :=
    (h.counted _ hnow).trans_lt hc.safe
  have haccepted : d₁.acceptedHumanEventNumber = d.acceptedHumanEventNumber + 1 := by
    rw [hd₁, hframe]
    exact Director.plusOne_of_lt hroomLeft
  have hcounted : ∀ sequence, state.lastHumanEventSequence = some sequence →
      (db.appended command.roomId room.nextEventSequence
        (.humanMessage human command.text)).humanMessagesAfter command.roomId sequence =
        db.humanMessagesAfter command.roomId sequence + 1 := by
    intro sequence hs
    rw [humanMessagesAfter_insert hc.free (Db.appended_events _ _ _ _),
      if_pos ⟨rfl, hbefore sequence hs, rfl⟩]
  have haligned₁ : Aligned command.roomId state (db.appended command.roomId room.nextEventSequence
      (.humanMessage human command.text)) d₁ :=
    ⟨hpersonas.trans haligned.personas, hmuted ▸ haligned.muted,
      haligned.lastTurn.count hpersonas hselected hindex haccepted hcounted⟩
  obtain ⟨hdirectable, hdecision⟩ := haligned₁.decide
    (by rw [hpersonas]; exact h.sound.personas_canonical)
    (fun sequence hs => by rw [hcounted sequence hs]; omega) hwants hdecide
  obtain ⟨d', hd'⟩ : ∃ d', d₁.scheduleAccepted command.wantsResponse command.targetPersonaId =
      (decision, d') := ⟨_, Prod.ext hdecision rfl⟩
  have hschedule : d.schedule (some event) command.targetPersonaId = .ok (decision, d') := by
    have hdirectable' : d.requireDirectable command.targetPersonaId = .ok () := by
      rw [← hdirectable, Director.requireDirectable.eq_def, Director.requireDirectable.eq_def,
        hpersonas, hmuted]
    rw [Director.schedule, hdirectable']
    simp only [h.running, hunseen, hhuman, hevent, Bool.not_true, Bool.false_eq_true, if_false]
    rw [← hd₁, hd']
  have hseen : ∀ x, d₁.hasSeen x → d.hasSeen x ∨ x = event.identity := by
    rw [hd₁]
    exact fun x => Director.hasSeen_recordSeen
  have hcounts : d.Counts (.schedule (some event) command.targetPersonaId) := fun _ => hroomLeft
  have hsound := h.sound.schedule hcounts hschedule
  -- After the message the log counts one more, behind whatever was there.
  have hafter : ∀ sequence, db'.humanMessagesAfter command.roomId sequence =
      db.humanMessagesAfter command.roomId sequence +
        if sequence < room.nextEventSequence then 1 else 0 := by
    intro sequence
    rw [humanMessagesAfter_accepted hc]
    simp
  have hnow' : db'.next command.roomId = some (room.nextEventSequence + 2) := by
    obtain ⟨order, hupdated⟩ := hc.rooms
    rw [Db.next, hupdated command.roomId, hc.found, Option.map_some, Option.map_some, if_pos rfl]
  have hroomNext : ∃ n, db'.next command.roomId = some n ∧ room.nextEventSequence < n :=
    ⟨_, hnow', by omega⟩
  have hcountedNext : ∀ n, db'.next command.roomId = some n → d₁.acceptedHumanEventNumber ≤ n := by
    intro n hn
    obtain rfl := Option.some.inj (hnow'.symm.trans hn)
    have hle := h.counted _ hnow
    omega
  have hstate' : db'.directorState.lookup command.roomId =
      some (scheduled decision room.nextEventSequence room.generation state) := by
    rw [hc.directorState, hstate, Option.map_some, if_pos rfl]
  have hroster : d₁.personas = (db'.personasOf command.roomId).map Db.Participant.id := by
    rw [hpersonas, haligned.personas, personasOf_congr hc.participants]
  have hmuted' : ∀ p ∈ db'.personasOf command.roomId, p.id ∈ d₁.muted ↔ p.row.muted = true := by
    rw [hmuted, personasOf_congr hc.participants]
    exact haligned.muted
  refine ⟨d', hschedule, ?_, ?_⟩
  · rcases Director.scheduleAccepted_cases hd' with ⟨hnone, rfl⟩ | ⟨speaker, hchoose, hsome, rfl⟩
    · refine ⟨hsound, ?_, ⟨_, hstate', ⟨hroster, hmuted', ?_⟩, ?_⟩, hcountedNext⟩
      · rw [hd₁, hframe]
        exact h.running
      · rw [scheduled, if_pos hnone, if_pos hnone]
        exact haligned.lastTurn.count hpersonas hselected hindex haccepted fun n hn => by
          rw [hafter, if_pos (hbefore n hn)]
      · intro sequence hs
        simp only [scheduled, if_pos hnone] at hs
        obtain ⟨n, hn, hlt⟩ := hroomNext
        exact ⟨n, hn, (hbefore sequence hs).trans hlt⟩
    · have hdirected := Director.schedule_directable hschedule
      obtain ⟨hmem, hspeaker⟩ := Director.chooseSpeaker_mem
        (by rw [hpersonas]; exact h.sound.personas_nodup)
        (fun p hp => hpersonas ▸ (hdirected p hp).1) hchoose
      refine ⟨hsound, ?_, ⟨_, hstate', ⟨hroster, hmuted', ?_⟩, ?_⟩, hcountedNext⟩
      · rw [hd₁, hframe]
        exact h.running
      · rw [scheduled, hsome]
        refine .some speaker.personaId room.nextEventSequence d₁.acceptedHumanEventNumber hmem
          ?_ ?_ ?_ ?_
        · exact (KeyedTable.lookup_set _ _ _ _).trans (if_pos rfl)
        · intro p m hp hm
          have hold := (KeyedTable.lookup_set _ _ _ _).symm.trans hm
          rw [if_neg hp, hselected] at hold
          have := (h.sound.selected p m hold).2.2
          omega
        · change (speaker.index + 1) % d₁.personas.length = _
          rw [hspeaker]
          rfl
        · -- No message is behind the one just accepted.
          have hzero : db.humanMessagesAfter command.roomId room.nextEventSequence = 0 := by
            rw [Db.humanMessagesAfter, List.countP_eq_zero]
            rintro ⟨⟨id, s⟩, event⟩ he hcontra
            obtain ⟨⟨rfl, hlt⟩, -⟩ := by simpa using hcontra
            obtain ⟨n, hn, -, hlt'⟩ := (hintegrity.contiguous.exact command.roomId s).mp
              (AList.mem_keys.mpr (List.mem_map_of_mem he))
            obtain rfl := Option.some.inj (hnow.symm.trans hn)
            omega
          rw [hafter, hzero, if_neg (lt_irrefl _)]
          rfl
      · intro sequence hs
        simp only [scheduled, hsome, reduceCtorEq, if_false, Option.some.injEq] at hs
        subst hs
        exact hroomNext
  · intro x hx
    rcases Director.scheduleAccepted_cases hd' with ⟨-, rfl⟩ | ⟨speaker, -, -, rfl⟩
    · exact hseen x hx
    · exact hseen x hx

end Mirrors

/-! ## The turns of a room -/

/-- What a room has been asked, and what it has decided. -/
inductive Turn
  | message (command : MessageCommand) (decision : DirectorDecision)
  | muted (personaId : ParticipantId) (muted : Bool)

/-- The turn of a room a step takes: it accepts a message, or carries out a new mute or
unmute. -/
def turnOf (roomId : RoomId) (s : System) (l : Label) (t : System) : Option Turn :=
  match l with
  | .transaction (.prepare token _) none =>
    (s.executions.lookup token).bind fun e =>
      if e.command.roomId = roomId ∧ s.db.recorded e.key = none then
        (t.db.question e.key).map fun q => .message e.command q.decision
      else none
  | .transaction (.personaControl kind command) none =>
    if command.roomId = roomId ∧ s.db.recorded (command.roomId, command.requestId) = none then
      some (.muted command.personaId (kind = .mute))
    else none
  | _ => none

variable (host : Host)

/-- A run, with the turns of one room in order. -/
inductive Turns (roomId : RoomId) : System → List Turn → System → Prop
  | nil (s : System) : Turns roomId s [] s
  | cons {s t u : System} {l : Label} {turns : List Turn} :
      Step host s l t → Turns roomId t turns u →
      Turns roomId s ((turnOf roomId s l t).toList ++ turns) u

/-- The call of a director that is told of a turn. -/
inductive Turn.Told : Turn → DirectorCall → Prop
  | message (command : MessageCommand) (decision : DirectorDecision)
      (event : VerifiedDirectorEvent) :
      event.isHuman = true → event.text = command.text →
      event.wantsResponse = command.wantsResponse →
      Told (.message command decision) (.schedule (some event) command.targetPersonaId)
  | muted (personaId : ParticipantId) (muted : Bool) :
      Told (.muted personaId muted) (.setMuted personaId muted)

/-- What the room has answered. -/
def Turn.answer : Turn → DirectorAnswer
  | .message _ decision => .decision decision
  | .muted _ _ => .done

/-- The event identity of a call. -/
def identityOf : DirectorCall → Option EventIdentity
  | .schedule event _ => event.map VerifiedDirectorEvent.identity
  | _ => none

/-- A room nobody has spoken in, with its roster. -/
structure FreshRoom (roomId : RoomId) (roster : List ParticipantId) (db : Db) : Prop where
  state : db.directorState.lookup roomId = some {}
  roster : (db.personasOf roomId).map Db.Participant.id = roster
  unmuted : ∀ p ∈ db.personasOf roomId, p.row.muted = false

variable {host}

theorem FreshRoom.mirrors {roomId : RoomId} {roster : List ParticipantId} {db : Db}
    (h : FreshRoom roomId roster db) {options : Option ℤ} {d : Director}
    (hd : Director.construct roster options none = .ok d) : Mirrors roomId db d := by
  have hsound := Director.sound_construct hd
  obtain ⟨-, -, budget, -, rfl⟩ := Director.construct_fresh hd
  refine ⟨hsound, rfl, ⟨{}, h.state, ⟨h.roster.symm, ?_, .none rfl rfl⟩, ?_⟩, fun _ _ =>
    Nat.zero_le _⟩
  · intro p hp
    simp [h.unmuted p hp]
  · rintro sequence ⟨⟩

/-- What a step does to a room, as its scheduler sees it. -/
inductive TurnEffect (roomId : RoomId) (db db' : Db) : Option Turn → Prop
  | undisturbed : (roomId ∈ db.directorState → Undisturbed roomId db db') →
      TurnEffect roomId db db' none
  | message (command : MessageCommand) (requestDigest : JsString) (decision : DirectorDecision)
      (room : RoomRow) (state : DirectorStateRow) :
      Accepted command requestDigest decision room state db db' → command.roomId = roomId →
      (∃ raw, normalize raw = .ok command) →
      TurnEffect roomId db db' (some (.message command decision))
  | muted (key : CommandKey) (requestDigest : JsString) (result : PersonaControlResult) :
      PersonaControlled key requestDigest result db db' → key.1 = roomId →
      TurnEffect roomId db db' (some (.muted result.personaId result.muted))

theorem undisturbed_of_eq {roomId : RoomId} {db db' : Db} (h : db' = db) :
    Undisturbed roomId db db' := by
  subst h
  exact .of_quiet (.refl _)

theorem undisturbed_of_transact {α : Type} {action : DbProgram α} {faults : Faults JsError}
    {db db' : Db} {answer : Except JsError α} {roomId : RoomId}
    (h : transact faults action db = (answer, db'))
    (hreturns : ∀ a, action.Returns db a db' → Undisturbed roomId db db') :
    Undisturbed roomId db db' := by
  cases answer with
  | error error => exact undisturbed_of_eq (transact_error h)
  | ok a => exact hreturns a (returns_of_transact h)

/-- A new message, in this room or in another. -/
theorem TurnEffect.accepted {roomId : RoomId} {s t : System} {token : Token} {clock : ℤ}
    {e : Execution} {decision : DirectorDecision} {room : RoomRow} {state : DirectorStateRow}
    (he : s.executions.lookup token = some e) (hnormal : ∃ raw, normalize raw = .ok e.command)
    (h : Accepted e.command e.requestDigest decision room state s.db t.db) :
    TurnEffect roomId s.db t.db (turnOf roomId s (.transaction (.prepare token clock) none) t) := by
  have hq : t.db.question e.key = some ⟨room.nextEventSequence, decision, room.generation⟩ := by
    rw [Execution.key, question_of_recordSet h.record, if_pos rfl, question_acceptedStored]
  simp only [turnOf, he, Option.bind_some]
  split
  · next hroom =>
      rw [hq]
      exact .message _ _ _ _ _ h hroom.1 hnormal
  · next hroom =>
      exact .undisturbed fun _ => .of_accepted h fun heq => hroom ⟨heq, h.new⟩

theorem Step.turn {s t : System} {l : Label} (h : Inv host s) (hstep : Step host s l t)
    (roomId : RoomId) : TurnEffect roomId s.db t.db (turnOf roomId s l t) := by
  cases hstep with
  | prepare token e service faults clock answer db' he _ _ _ ht =>
      obtain ⟨grants, granted, hgrant⟩ :=
        System.grantIfClaimed_frame e.key token answer (s.commit (some e.key) db')
      cases answer with
      | error error => exact .undisturbed fun _ => undisturbed_of_eq (transact_error ht)
      | ok prepared =>
          have hnormal := (h.executions _ _ he).normal
          have hquiet : ∀ t' : System, s.db.Quiet t'.db → TurnEffect roomId s.db t'.db
              (turnOf roomId s (.transaction (.prepare token clock) none) t') := by
            intro t' hq
            have hnone : turnOf roomId s (.transaction (.prepare token clock) none) t' = none := by
              simp only [turnOf, he, Option.bind_some]
              split
              · next hroom => rw [Db.question, hq.recorded, hroom.2]; rfl
              · rfl
            rw [hnone]
            exact .undisturbed fun _ => .of_quiet hq
          rw [hgrant]
          cases prepareMessage_returns (returns_of_transact ht) with
          | known result _ hdb => exact hquiet _ (hdb ▸ .refl _)
          | watched observedUntil pending hdb => exact hquiet _ (hdb ▸ .refl _)
          | taken pending now _ _ _ hq _ => exact hquiet _ hq
          | unscheduled decision room state haccepted _ _ =>
              exact TurnEffect.accepted he hnormal haccepted
          | scheduled decision room state speaker now haccepted _ _ _ =>
              exact TurnEffect.accepted he hnormal haccepted
  | personaControl id service kind command faults answer db' _ _ ht =>
      cases answer with
      | error error => exact .undisturbed fun _ => undisturbed_of_eq (transact_error ht)
      | ok answer =>
          obtain ⟨requestDigest, ⟨hknown, hdb, -⟩ | ⟨result, hcontrolled, -, hkind, hid, -⟩⟩ :=
            personaControl_returns (returns_of_transact ht)
          · simp only [turnOf, thrownBy]
            rw [if_neg fun hroom => hknown hroom.2]
            exact .undisturbed fun _ => undisturbed_of_eq hdb
          · simp only [turnOf, thrownBy]
            have hmuted : result.muted = (kind = .mute : Bool) := by
              rw [Bool.eq_iff_iff, hcontrolled.kind, hkind]
              simp
            split
            · next hroom =>
                rw [← hid, ← hmuted]
                exact .muted _ _ _ hcontrolled hroom.1
            · next hroom =>
                exact .undisturbed fun _ => .of_personaControlled hcontrolled
                  fun heq => hroom ⟨heq, hcontrolled.new⟩
  | complete token e service pending generated work faults clock answer db' he _ _ hphase ht =>
      refine .undisturbed fun _ => ?_
      cases answer with
      | error error => exact undisturbed_of_eq (transact_error ht)
      | ok result =>
          cases completed_of_transact (h.executions _ _ he) hphase ht rfl with
          | known result _ hdb => exact undisturbed_of_eq hdb
          | lost hdb => exact undisturbed_of_eq hdb
          | replied speaker text room now expiresAt _ _ _ _ hreplied _ => exact .of_replied hreplied
          | settled outcome hsettled _ => exact .of_settled hsettled
  | pin token e service pending faults answer db' _ _ _ ht =>
      exact .undisturbed fun _ => undisturbed_of_transact ht fun _ hr =>
        .of_quiet (pinProviderDecision_returns hr).1
  | renew token e service faults clock answer db' _ _ _ _ _ _ ht =>
      exact .undisturbed fun _ => undisturbed_of_transact ht fun _ hr =>
        .of_quiet (renewClaim_returns hr).1
  | discard token e pending error faults answer db' _ _ ht =>
      exact .undisturbed fun _ => undisturbed_of_transact ht fun _ hr =>
        .of_quiet (releaseClaim_returns hr).1
  | release token e pending error faults answer db' _ _ ht =>
      exact .undisturbed fun _ => undisturbed_of_transact ht fun _ hr =>
        .of_quiet (releaseClaim_returns hr).1
  | closeRelease token e service faults answer db' _ _ _ _ ht =>
      exact .undisturbed fun _ => undisturbed_of_transact ht fun _ hr =>
        .of_quiet (releaseClaim_returns hr).1
  | roomControl id service kind command faults answer db' _ _ ht =>
      refine .undisturbed fun _ => undisturbed_of_transact ht fun _ hr => ?_
      obtain ⟨_, ⟨-, hdb, -⟩ | ⟨_, hcontrolled, -⟩⟩ := roomControl_returns hr
      · exact undisturbed_of_eq hdb
      · exact .of_roomControlled hcontrolled
  | replaceCast id service uuids command faults answer db' _ _ ht =>
      refine .undisturbed fun hroom => undisturbed_of_transact ht fun _ hr => ?_
      rcases replaceCast_returns hr with hdb | ⟨sessionId, hopened⟩
      · exact undisturbed_of_eq hdb
      · refine .of_opened hopened ?_
        rintro rfl
        exact hopened.freshState hroom
  | selectRoom command faults answer db' ht =>
      exact .undisturbed fun _ => undisturbed_of_transact ht fun _ hr =>
        .of_quiet (selectRoom_returns hr).quiet
  | providers db' hchange =>
      obtain ⟨providers, rfl⟩ := hchange.frame
      exact .undisturbed fun _ => .of_quiet ⟨⟨rfl, rfl, rfl, rfl⟩, fun _ => rfl⟩
  | _ => exact .undisturbed fun _ => undisturbed_of_eq rfl

/-- A directed message wants a response. -/
theorem wants_of_normalize {raw : SendMessageCommand} {command : MessageCommand}
    (h : normalize raw = .ok command) :
    command.targetPersonaId.isSome → command.wantsResponse = true := by
  simp only [normalize, bind, Except.bind, pure, Except.pure] at h
  repeat' split at h
  all_goals try cases h
  · cases ‹(throw _ : Except JsError PUnit) = _›
  · intro htarget
    dsimp only at htarget ⊢
    simp_all

/-- Along a run, a director that is told of the turns answers like the room. -/
theorem Turns.answers {roomId : RoomId} {s t : System} {turns : List Turn}
    (hturns : Turns host roomId s turns t) :
    Inv host s → ∀ {d : Director} {calls : List DirectorCall}, Mirrors roomId s.db d →
      List.Forall₂ Turn.Told turns calls → (calls.filterMap identityOf).Nodup →
      (∀ x ∈ calls.filterMap identityOf, d.hasSeen x = false) →
        (d.run calls).1 = turns.map Turn.answer := by
  induction hturns with
  | nil s =>
      intro _ d calls _ hcalls _ _
      obtain rfl := List.forall₂_nil_left_iff.mp hcalls
      rfl
  | @cons s t u l turns hstep _ ih =>
      intro h d calls hmirrors hcalls hdistinct hunseen
      have heffect := hstep.turn h roomId
      generalize turnOf roomId s l t = turn at heffect hcalls ⊢
      cases heffect with
      | undisturbed hu =>
          obtain ⟨state, hstate, -⟩ := hmirrors.aligned
          refine ih (h.step hstep) (hmirrors.undisturbed (hu ?_)) hcalls hdistinct hunseen
          exact AList.lookup_isSome.mp (by rw [hstate]; rfl)
      | message command requestDigest decision room state haccepted hroom hnormal =>
          obtain ⟨raw, hnormal⟩ := hnormal
          obtain ⟨call, calls, htold, hrest, rfl⟩ := List.forall₂_cons_left_iff.mp hcalls
          cases htold with
          | message command decision event hhuman _ hwants =>
              simp only [List.filterMap_cons, identityOf, Option.map_some, List.nodup_cons,
                List.forall_mem_cons] at hdistinct hunseen
              obtain ⟨d', hschedule, hmirrors', hseen⟩ :=
                hmirrors.message h.integrity haccepted hroom
                (wants_of_normalize hnormal) hhuman hwants hunseen.1
              have hperform : d.perform (.schedule (some event) command.targetPersonaId) =
                  (.decision decision, d') := by
                rw [Director.perform, hschedule]
              simp only [Director.run, hperform, Option.toList_some, List.cons_append,
                List.nil_append, List.map_cons, Turn.answer, List.cons.injEq, true_and]
              refine ih (h.step hstep) hmirrors' hrest hdistinct.2 fun x hx => ?_
              by_contra hcontra
              rcases hseen x (by simpa using hcontra) with hold | rfl
              · rw [hunseen.2 x hx] at hold
                cases hold
              · exact hdistinct.1 hx
      | muted key requestDigest result hcontrolled hroom =>
          obtain ⟨call, calls, htold, hrest, rfl⟩ := List.forall₂_cons_left_iff.mp hcalls
          cases htold with
          | muted personaId muted =>
              simp only [List.filterMap_cons, identityOf] at hdistinct hunseen
              obtain ⟨d', hset, hmirrors', hseen⟩ := hmirrors.setMuted hcontrolled hroom
              have hperform : d.perform (.setMuted result.personaId result.muted) =
                  (.done, d') := by
                rw [Director.perform, hset]
              simp only [Director.run, hperform, Option.toList_some, List.cons_append,
                List.nil_append, List.map_cons, Turn.answer, List.cons.injEq, true_and]
              exact ih (h.step hstep) hmirrors' hrest hdistinct fun x hx =>
                (hseen x).trans (hunseen x hx)

/-- **The two schedulers agree.**  Whatever else the services do, a director over the same
roster that is told of a fresh room's messages and mutes, under distinct event
identities, answers with the decisions the room records. -/
theorem schedulers_agree {roomId : RoomId} {roster : List ParticipantId} {s t : System}
    {turns : List Turn} {options : Option ℤ} {d : Director} {calls : List DirectorCall}
    (hs : (roomSystem host Fresh).Reachable s) (hroom : FreshRoom roomId roster s.db)
    (hturns : Turns host roomId s turns t) (hd : Director.construct roster options none = .ok d)
    (hcalls : List.Forall₂ Turn.Told turns calls) (hdistinct : (calls.filterMap identityOf).Nodup) :
    (d.run calls).1 = turns.map Turn.answer := by
  refine hturns.answers ((inv_inductive fun _ h => h).reachable hs) (hroom.mirrors hd) hcalls
    hdistinct fun x _ => ?_
  obtain ⟨-, -, budget, -, rfl⟩ := Director.construct_fresh hd
  rfl

namespace Duet

def ada : ParticipantId := ofString "ada"

def bob : ParticipantId := ofString "bob"

/-- The room of `Hello`, with two personas. -/
def db : Db := { Hello.db with
  participants := (((∅ : KeyedTable _ _).insert (ofString "you") {
      roomId := Hello.roomId
      kind := .human
      displayName := ofString "You"
      sortOrder := 0 }).insert ada {
      roomId := Hello.roomId
      kind := .persona
      displayName := ofString "Ada"
      sortOrder := 1 }).insert bob {
      roomId := Hello.roomId
      kind := .persona
      displayName := ofString "Bob"
      sortOrder := 2 } }

theorem fresh : Fresh db := ⟨rfl, rfl, Hello.fresh.rooms, Hello.fresh.directorState⟩

/-- The text of a message command, and its SHA-256. -/
def messageDigest (requestId wantsResponse sha256 : String) : JsString × JsString :=
  (ofString ("\x7b\"kind\":\"sendMessage\",\"requestId\":\"" ++ requestId ++
    "\",\"roomId\":\"room-1\",\"selectionRevision\":0,\"text\":\"Hello\",\"wantsResponse\":" ++
    wantsResponse ++ "\x7d"), ofString sha256)

def digests : List (JsString × JsString) := [
  messageDigest "request-1" "true"
    "c549ff15959332fec8498425a93cb8113cd756edc8f333043662d067f13db798",
  messageDigest "request-2" "true"
    "3106925b983dc063b584d154089f728b77795bfd6c05943f9b921059eefbfcd7",
  (ofString ("\x7b\"kind\":\"mute\",\"personaId\":\"ada\",\"requestId\":\"request-3\"," ++
      "\"roomId\":\"room-1\",\"selectionRevision\":0\x7d"),
    ofString "6d472bd0988fa0d5a61065cef486a5addccc1baa44ce24a8a123baba913edc5c"),
  messageDigest "request-4" "false"
    "fe9867938631f86dbd6305128f3330cf84ada9a3b9dad18b1b60d6182f450e8c",
  messageDigest "request-5" "true"
    "63619a2ddfaacb256d577e0f0800bc5955e4f7890f12c5e3eb735635b512e36e"]

/-- SHA-256 at the five commands; everything else has the digest of the empty text. -/
def sha256 (text : JsString) : JsString :=
  (digests.lookup text).getD
    (ofString "e3b0c44298fc1c149afbf4c8996fb92427ae41e4649b934ca495991b7852b855")

def host' : Host := { Hello.host with sha256 }

section

variable (requestId : String) (wantsResponse : Bool)

def raw : SendMessageCommand :=
  { Hello.raw with requestId := ofString requestId, wantsResponse := some wantsResponse }

def command : MessageCommand :=
  { Hello.command with requestId := ofString requestId, wantsResponse }

/-- The execution of a request has the name of the request. -/
def called : Execution where
  service := 0
  command := command requestId wantsResponse
  requestDigest := (command requestId wantsResponse).digest host'

/-- A message is sent to the service. -/
def sent (service : Service) (s : System) : System :=
  { s with
    services := s.services.insert 0 { service with
      inFlight :=
        service.inFlight.insert (command requestId wantsResponse).key (ofString requestId) }
    executions := s.executions.insert (ofString requestId) (called requestId wantsResponse)
    callers := ⟨command requestId wantsResponse, ofString requestId⟩ :: s.callers }

def prepared (db : Db) : Except JsError PreparedMessage × Db :=
  transact {} (prepareMessage Hello.service.options (command requestId wantsResponse)
    ((command requestId wantsResponse).digest host') (ofString requestId) 1000) db

/-- The message is in the log, with what has been decided. -/
def said (service : Service) (s : System) : System :=
  (((sent requestId wantsResponse service s).commit (some (command requestId wantsResponse).key)
    (prepared requestId wantsResponse s.db).2).grantIfClaimed (command requestId wantsResponse).key
      (ofString requestId) (prepared requestId wantsResponse s.db).1).setExecution
        (ofString requestId) ((called requestId wantsResponse).afterPrepare s.grants
          (prepared requestId wantsResponse s.db).1)

end

def mute : PersonaControlCommand where
  roomId := Hello.roomId
  requestId := ofString "request-3"
  selectionRevision := 0
  personaId := ada

def muted (db : Db) : Except JsError ControlAnswer × Db :=
  transact {} (personaControl host' .mute mute) db

def s₀ : System := { db }

def s₁ : System := s₀.setService 0 Hello.service

def inFlight (requestIds : List (String × Bool)) : Service :=
  { Hello.service with
    inFlight := requestIds.foldl (fun keys r =>
      keys.insert (command r.1 r.2).key (ofString r.1)) Hello.service.inFlight }

def s₂ : System := said "request-1" true Hello.service s₁

def s₃ : System := said "request-2" true (inFlight [("request-1", true)]) s₂

def s₄ : System :=
  (s₃.commit (some (Hello.roomId, ofString "request-3")) (muted s₃.db).2).abortIf 0 Hello.roomId
    (muted s₃.db).1

def s₅ : System := said "request-4" false (inFlight [("request-1", true), ("request-2", true)]) s₄

def s₆ : System := said "request-5" true
  (inFlight [("request-1", true), ("request-2", true), ("request-4", false)]) s₅

/-- A message is sent and its turn decided. -/
theorem turns_message {requestId : String} {wantsResponse : Bool} {service : Service} {s u : System}
    {turns : List Turn} {decision : DirectorDecision}
    (hservice : s.services.lookup 0 = some service) (hclosed : service.closed = false)
    (hoptions : service.options = Hello.service.options)
    (hnormal : normalize (raw requestId wantsResponse) = .ok (command requestId wantsResponse))
    (hkey : (command requestId wantsResponse).key ∉ service.inFlight)
    (htoken : ofString requestId ∉ s.executions)
    (hthrown : thrownBy (prepared requestId wantsResponse s.db).1 = none)
    (hturn : turnOf Hello.roomId (sent requestId wantsResponse service s)
      (.transaction (.prepare (ofString requestId) 1000) none)
      (said requestId wantsResponse service s) =
        some (.message (command requestId wantsResponse) decision))
    (h : Turns host' Hello.roomId (said requestId wantsResponse service s) turns u) :
    Turns host' Hello.roomId s (.message (command requestId wantsResponse) decision :: turns)
      u := by
  have hcall : Step host' s .other (sent requestId wantsResponse service s) :=
    .call s 0 service (raw requestId wantsResponse) _ _ hservice hclosed hnormal hkey htoken
  have hprepare : Step host' (sent requestId wantsResponse service s)
      (.transaction (.prepare (ofString requestId) 1000) none)
      (said requestId wantsResponse service s) := by
    rw [← hthrown]
    refine .prepare (sent requestId wantsResponse service s) _ (called requestId wantsResponse)
      { service with inFlight := _ } {} 1000 (prepared requestId wantsResponse s.db).1
      (prepared requestId wantsResponse s.db).2 (AList.lookup_insert _) (AList.lookup_insert _)
      hclosed rfl ?_
    rw [Prod.mk.eta, prepared]
    dsimp only [called, sent]
    rw [hoptions]
  have hturns := Turns.cons hcall (.cons hprepare h)
  rw [hturn] at hturns
  exact hturns

theorem mutes : Step host' s₃ (.transaction (.personaControl .mute mute) none) s₄ :=
  .personaControl s₃ 0 _ .mute mute {} (muted s₃.db).1 (muted s₃.db).2 rfl rfl rfl

def turns : List Turn := [
  .message (command "request-1" true) ⟨some ada, .selected⟩,
  .message (command "request-2" true) ⟨some bob, .selected⟩,
  .muted ada true,
  .message (command "request-4" false) ⟨none, .deliberateSilence⟩,
  .message (command "request-5" true) ⟨some bob, .selected⟩]

theorem run : Turns host' Hello.roomId s₁ turns s₆ := by
  have hlast : Turns host' Hello.roomId s₅ [.message (command "request-5" true)
      ⟨some bob, .selected⟩] s₆ :=
    turns_message rfl rfl rfl rfl (by decide) (by decide) rfl rfl (.nil _)
  have hsilent : Turns host' Hello.roomId s₄ [.message (command "request-4" false)
      ⟨none, .deliberateSilence⟩, .message (command "request-5" true) ⟨some bob, .selected⟩] s₆ :=
    turns_message rfl rfl rfl rfl (by decide) (by decide) rfl rfl hlast
  have hmuted := Turns.cons mutes hsilent
  refine turns_message rfl rfl rfl rfl (by decide) (by decide) rfl rfl ?_
  exact turns_message rfl rfl rfl rfl (by decide) (by decide) rfl rfl hmuted

/-- What the director is told of a message. -/
def event (requestId : String) (wantsResponse : Bool)
    (h : IsCanonical (some maxEventIdLength) (ofString requestId)) : VerifiedDirectorEvent where
  eventNamespace := Hello.roomId
  eventId := ofString requestId
  isHuman := true
  text := ofString "Hello"
  wantsResponse
  namespace_canonical := ⟨by decide, by decide, fun m hm => by cases hm; decide⟩
  eventId_canonical := h

theorem first_canonical : IsCanonical (some maxEventIdLength) (ofString "request-1") :=
  ⟨by decide, by decide, fun m hm => by cases hm; decide⟩

theorem second_canonical : IsCanonical (some maxEventIdLength) (ofString "request-2") :=
  ⟨by decide, by decide, fun m hm => by cases hm; decide⟩

theorem silent_canonical : IsCanonical (some maxEventIdLength) (ofString "request-4") :=
  ⟨by decide, by decide, fun m hm => by cases hm; decide⟩

theorem last_canonical : IsCanonical (some maxEventIdLength) (ofString "request-5") :=
  ⟨by decide, by decide, fun m hm => by cases hm; decide⟩

def first : VerifiedDirectorEvent := event "request-1" true first_canonical

def second : VerifiedDirectorEvent := event "request-2" true second_canonical

def silent : VerifiedDirectorEvent := event "request-4" false silent_canonical

def last : VerifiedDirectorEvent := event "request-5" true last_canonical

end Duet

open Duet in
/-- Two personas speak in turn; one is muted, a message wants no response, and the other speaks
again. -/
theorem schedulers_agree_duet :
    (({ personas := [ada, bob], maxAutonomousTurns := 10 } : Director).run
      [.schedule (some first) none, .schedule (some second) none, .setMuted ada true,
        .schedule (some silent) none, .schedule (some last) none]).1 =
      [.decision ⟨some ada, .selected⟩, .decision ⟨some bob, .selected⟩, .done,
        .decision ⟨none, .deliberateSilence⟩, .decision ⟨some bob, .selected⟩] := by
  have hreachable : (roomSystem host' Fresh).Reachable s₁ :=
    ⟨s₀, [.other], ⟨fresh, rfl⟩, .single (.openService s₀ 0 Hello.service.options (by decide))⟩
  have hroom : FreshRoom Hello.roomId [ada, bob] s₁.db := ⟨rfl, rfl, by decide⟩
  have hd : Director.construct [ada, bob] none none =
      .ok { personas := [ada, bob], maxAutonomousTurns := 10 } := rfl
  refine schedulers_agree hreachable hroom run hd (.cons (.message _ _ first rfl rfl rfl) ?_)
    (by decide)
  refine .cons (.message _ _ second rfl rfl rfl) (.cons (.muted ada true) ?_)
  exact .cons (.message _ _ silent rfl rfl rfl) (.cons (.message _ _ last rfl rfl rfl) .nil)

end GreenRoom.Runtime
