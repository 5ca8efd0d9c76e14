import GreenRoom.Runtime.RoomChange

/-!
# The log of a room

What holds of the events and the commands of a database, and is kept by every change
a transaction can make.

## Main definitions

* `Db.next`, `Db.generation` — columns of a room.
* `Db.question`, `Db.reply` — what a command's record says of the log.
* `LogIntegrity` — sequences without gaps, every message with its decision, every
  reply with its message, every record with its events.

## Main results

* `Change.eventsKept` — events are never altered or removed.
* `Change.roomsKept` — rooms stay, their generation grows, a stopped room stays so.
* `LogIntegrity.change` — every change keeps the integrity of the log.
-/

namespace GreenRoom

open GreenRoom.Core

/-! ## What is read of the database -/

/-- The message a command has put into the log. -/
structure Question where
  sequence : ℕ
  decision : DirectorDecision
  generation : ℕ
  deriving DecidableEq

def Stored.question : Stored → Option Question
  | .pending message => some ⟨message.humanEventSequence, message.decision, message.generation⟩
  | .complete (.message result) =>
    some ⟨result.humanEventSequence, result.decision, result.generation⟩
  | .complete _ => none

/-- The sequence of the reply a command has put into the log. -/
def Stored.reply : Stored → Option ℕ
  | .complete (.message result) => result.personaEventSequence
  | _ => none

namespace Db

def next (roomId : RoomId) (db : Db) : Option ℕ :=
  (db.rooms.lookup roomId).map RoomRow.nextEventSequence

def generation (roomId : RoomId) (db : Db) : Option ℕ :=
  (db.rooms.lookup roomId).map RoomRow.generation

def status (roomId : RoomId) (db : Db) : Option RoomStatus :=
  (db.rooms.lookup roomId).map RoomRow.status

def event (roomId : RoomId) (sequence : ℕ) (db : Db) : Option RoomEvent :=
  db.events.lookup (roomId, sequence)

def question (key : CommandKey) (db : Db) : Option Question :=
  (db.recorded key).bind fun record => record.result.question

def reply (key : CommandKey) (db : Db) : Option ℕ :=
  (db.recorded key).bind fun record => record.result.reply

/-- Events are neither altered nor removed. -/
def EventsKept (db db' : Db) : Prop :=
  ∀ roomId sequence event, db.event roomId sequence = some event →
    db'.event roomId sequence = some event

/-- Rooms stay; their generation grows, and a stopped room stays stopped. -/
def RoomsKept (db db' : Db) : Prop :=
  ∀ roomId room, db.rooms.lookup roomId = some room →
  ∃ room', db'.rooms.lookup roomId = some room' ∧
    room.generation ≤ room'.generation ∧ (room.status = .stopped → room'.status = .stopped)

theorem EventsKept.refl (db : Db) : db.EventsKept db := fun _ _ _ h => h

theorem EventsKept.trans {db₁ db₂ db₃ : Db} (h : db₁.EventsKept db₂) (h' : db₂.EventsKept db₃) :
    db₁.EventsKept db₃ := fun _ _ _ he => h' _ _ _ (h _ _ _ he)

theorem RoomsKept.refl (db : Db) : db.RoomsKept db := fun _ room h => ⟨room, h, le_rfl, id⟩

theorem RoomsKept.trans {db₁ db₂ db₃ : Db} (h : db₁.RoomsKept db₂) (h' : db₂.RoomsKept db₃) :
    db₁.RoomsKept db₃ := by
  intro roomId room hroom
  obtain ⟨room₂, hroom₂, hle, hstop⟩ := h roomId room hroom
  obtain ⟨room₃, hroom₃, hle', hstop'⟩ := h' roomId room₂ hroom₂
  exact ⟨room₃, hroom₃, hle.trans hle', fun hs => hstop' (hstop hs)⟩

theorem event_ne_none {roomId : RoomId} {sequence : ℕ} {db : Db} :
    db.event roomId sequence ≠ none ↔ (roomId, sequence) ∈ db.events := by
  rw [event, Ne, AList.lookup_eq_none, not_not]

theorem mem_events_of_event {roomId : RoomId} {sequence : ℕ} {event : RoomEvent} {db : Db}
    (h : db.event roomId sequence = some event) : (roomId, sequence) ∈ db.events :=
  event_ne_none.mp (by simp [h])

theorem event_insert {key : RoomId × ℕ} {event : RoomEvent} {db db' : Db}
    (h : db'.events = db.events.insert key event) (roomId : RoomId) (sequence : ℕ) :
    db'.event roomId sequence =
      if (roomId, sequence) = key then some event else db.event roomId sequence := by
  rw [Db.event, Db.event, h, KeyedTable.lookup_insert]

theorem eventsKept_insert {key : RoomId × ℕ} {event : RoomEvent} {db db' : Db}
    (hfree : key ∉ db.events) (h : db'.events = db.events.insert key event) :
    db.EventsKept db' := by
  intro roomId sequence e he
  rw [event_insert h, if_neg, he]
  rintro rfl
  exact hfree (mem_events_of_event he)

theorem eventsKept_of_eq {db db' : Db} (h : db'.events = db.events) : db.EventsKept db' := by
  intro roomId sequence e he
  rw [Db.event, h]
  exact he

theorem RoomUpdated.roomsKept {roomId : RoomId} {f : RoomRow → RoomRow} {db db' : Db}
    (h : db.RoomUpdated roomId f db')
    (hf : ∀ room, db.rooms.lookup roomId = some room → room.generation ≤ (f room).generation ∧
      (room.status = .stopped → (f room).status = .stopped)) : db.RoomsKept db' := by
  intro id room hroom
  refine ⟨_, by rw [h id, hroom]; rfl, ?_⟩
  by_cases hid : id = roomId
  · subst hid
    simpa using hf room hroom
  · simp [hid]

theorem roomsKept_of_eq {db db' : Db} (h : db'.rooms = db.rooms) : db.RoomsKept db' := by
  intro roomId room hroom
  exact ⟨room, by rw [h]; exact hroom, le_rfl, id⟩

end Db

namespace Runtime

/-! ## What every change keeps -/

theorem Change.eventsKept {author : Option CommandKey} {db db' : Db} (h : Change db db' author) :
    db.EventsKept db' := by
  cases h with
  | quiet _ h => exact Db.eventsKept_of_eq h.events
  | opened sessionId h =>
      obtain ⟨cast, hevents⟩ := h.events
      exact Db.eventsKept_insert h.freshEvent hevents
  | accepted command requestDigest decision room state h =>
      obtain ⟨human, hevents, -⟩ := h.events
      intro roomId sequence e he
      have hmem := Db.mem_events_of_event he
      rw [Db.event, hevents, KeyedTable.lookup_insert, if_neg, KeyedTable.lookup_insert, if_neg]
      · exact he
      · rintro heq
        exact h.free (heq ▸ hmem)
      · rintro heq
        exact h.free' (heq ▸ hmem)
  | replied key requestDigest message speaker text room h =>
      exact Db.eventsKept_insert h.free h.events
  | settled key requestDigest message outcome h => exact Db.eventsKept_of_eq h.events
  | roomControlled key requestDigest result h => exact Db.eventsKept_of_eq h.events
  | personaControlled key requestDigest result h => exact Db.eventsKept_of_eq h.events

theorem Change.roomsKept {author : Option CommandKey} {db db' : Db} (h : Change db db' author) :
    db.RoomsKept db' := by
  cases h with
  | quiet _ h => exact Db.roomsKept_of_eq h.rooms
  | opened sessionId h =>
      obtain ⟨row, -, -, -, hrooms⟩ := h.rooms
      intro roomId room hroom
      refine ⟨room, ?_, le_rfl, id⟩
      rw [hrooms, if_neg, hroom]
      rintro rfl
      rw [AList.lookup_eq_none.mpr h.fresh] at hroom
      cases hroom
  | accepted command requestDigest decision room state h =>
      obtain ⟨order, hrooms⟩ := h.rooms
      exact hrooms.roomsKept fun _ _ => ⟨le_rfl, id⟩
  | replied key requestDigest message speaker text room h =>
      obtain ⟨order, hrooms⟩ := h.rooms
      exact hrooms.roomsKept fun _ _ => ⟨le_rfl, id⟩
  | settled key requestDigest message outcome h => exact Db.roomsKept_of_eq h.rooms
  | roomControlled key requestDigest result h =>
      refine h.rooms.roomsKept fun room hroom => ⟨Nat.le_add_right _ _, fun hstopped => ?_⟩
      obtain ⟨room', hroom', -, hallowed⟩ := h.found
      obtain rfl := Option.some.inj (hroom.symm.trans hroom')
      rcases hallowed with hkind | hne
      · rw [hkind]
        rfl
      · exact absurd hstopped hne
  | personaControlled key requestDigest result h =>
      exact h.rooms.roomsKept fun _ _ => ⟨Nat.le_add_right _ _, id⟩

/-! ## Integrity -/

/-- The events of a question are in the log. -/
structure Asked (roomId : RoomId) (q : Question) (db : Db) : Prop where
  human : ∃ participantId text,
    db.event roomId q.sequence = some (.humanMessage participantId text)
  director : db.event roomId (q.sequence + 1) = some (.directorDecision q.sequence q.decision)
  generation : ∃ n, db.generation roomId = some n ∧ q.generation ≤ n

/-- The sequences of a room's events are those from 1 up to the next one. -/
structure Contiguous (events : KeyedTable (RoomId × ℕ) RoomEvent) (next : RoomId → Option ℕ) :
    Prop where
  positive : ∀ roomId n, next roomId = some n → 1 ≤ n
  exact : ∀ roomId s, (roomId, s) ∈ events ↔ ∃ n, next roomId = some n ∧ 1 ≤ s ∧ s < n

/-- An event appended to a room. -/
theorem Contiguous.append {events : KeyedTable (RoomId × ℕ) RoomEvent} {next : RoomId → Option ℕ}
    {roomId : RoomId} {n : ℕ} (h : Contiguous events next) (hn : next roomId = some n)
    (event : RoomEvent) :
    Contiguous (events.insert (roomId, n) event)
      fun id => (next id).map fun s => if id = roomId then s + 1 else s := by
  constructor
  · intro id m hm
    obtain ⟨s, hs, rfl⟩ := Option.map_eq_some_iff.mp hm
    have := h.positive id s hs
    split <;> omega
  · intro id s
    rw [AList.mem_insert, h.exact, Prod.mk.injEq]
    by_cases hid : id = roomId
    · subst hid
      have := h.positive id n hn
      simp only [hn, true_and, Option.map_some, if_true, Option.some.injEq, exists_eq_left']
      omega
    · simp [hid]

/-- A room added with its first event. -/
theorem Contiguous.open {events : KeyedTable (RoomId × ℕ) RoomEvent} {next : RoomId → Option ℕ}
    {roomId : RoomId} (h : Contiguous events next) (hnew : next roomId = none)
    (event : RoomEvent) :
    Contiguous (events.insert (roomId, 1) event)
      fun id => if id = roomId then some 2 else next id := by
  constructor
  · intro id m hm
    by_cases hid : id = roomId
    · rw [if_pos hid] at hm
      obtain rfl := Option.some.inj hm
      omega
    · rw [if_neg hid] at hm
      exact h.positive id m hm
  · intro id s
    rw [AList.mem_insert, h.exact, Prod.mk.injEq]
    by_cases hid : id = roomId
    · subst hid
      simp only [hnew, if_true, Option.some.injEq, true_and, reduceCtorEq, false_and, exists_false,
        or_false, exists_eq_left']
      omega
    · simp [hid]

/-- The log and the commands agree, and the log has no holes. -/
structure LogIntegrity (db : Db) : Prop where
  contiguous : Contiguous db.events fun roomId => db.next roomId
  followed : ∀ roomId s participantId text,
    db.event roomId s = some (.humanMessage participantId text) →
      ∃ decision, db.event roomId (s + 1) = some (.directorDecision s decision)
  rooted : ∀ roomId s speaker source text,
    db.event roomId s = some (.personaMessage speaker source text) →
      ∃ participantId text decision,
        db.event roomId source = some (.humanMessage participantId text) ∧
        db.event roomId (source + 1) = some (.directorDecision source decision) ∧
        decision.speaker = some speaker
  asked : ∀ key q, db.question key = some q → Asked key.1 q db
  replied : ∀ key q s, db.question key = some q → db.reply key = some s →
    ∃ speaker text, db.event key.1 s = some (.personaMessage speaker q.sequence text)
  distinct : ∀ key key' q q', db.question key = some q → db.question key' = some q' →
    key.1 = key'.1 → q.sequence = q'.sequence → key = key'
  answered : ∀ roomId s speaker source text,
    db.event roomId s = some (.personaMessage speaker source text) →
      ∃ key q, key.1 = roomId ∧ db.question key = some q ∧ q.sequence = source ∧
        db.reply key = some s

variable {db db' : Db}

theorem Asked.mono {roomId : RoomId} {q : Question} (h : Asked roomId q db)
    (hevents : db.EventsKept db') (hrooms : db.RoomsKept db') : Asked roomId q db' := by
  obtain ⟨participantId, text, hhuman⟩ := h.human
  obtain ⟨n, hn, hle⟩ := h.generation
  obtain ⟨room, hroom, rfl⟩ := Option.map_eq_some_iff.mp hn
  obtain ⟨room', hroom', hle', -⟩ := hrooms roomId room hroom
  exact ⟨⟨participantId, text, hevents _ _ _ hhuman⟩, hevents _ _ _ h.director,
    room'.generation, by rw [Db.generation, hroom']; rfl, hle.trans hle'⟩

/-- A change that appends nothing, and leaves what is recorded of the log. -/
theorem LogIntegrity.of_sameEvents (h : LogIntegrity db) (hevents : db'.events = db.events)
    (hrooms : db.RoomsKept db') (hnext : ∀ roomId, db'.next roomId = db.next roomId)
    (hquestion : ∀ key, db'.question key = db.question key)
    (hreply : ∀ key, db'.reply key = db.reply key) : LogIntegrity db' := by
  have hevent : ∀ roomId s, db'.event roomId s = db.event roomId s := by
    intro roomId s
    rw [Db.event, Db.event, hevents]
  constructor
  · rw [hevents]
    simpa only [hnext] using h.contiguous
  · simpa only [hevent] using h.followed
  · simpa only [hevent] using h.rooted
  · intro key q hq
    rw [hquestion] at hq
    exact (h.asked key q hq).mono (Db.eventsKept_of_eq hevents) hrooms
  · simpa only [hevent, hquestion, hreply] using h.replied
  · simpa only [hquestion] using h.distinct
  · simpa only [hevent, hquestion, hreply] using h.answered

theorem question_of_recordSet {key : CommandKey} {record : Record}
    (h : db.RecordSet key record db') (k : CommandKey) :
    db'.question k = if k = key then record.result.question else db.question k := by
  rw [Db.question, h k]
  split <;> rfl

theorem reply_of_recordSet {key : CommandKey} {record : Record}
    (h : db.RecordSet key record db') (k : CommandKey) :
    db'.reply k = if k = key then record.result.reply else db.reply k := by
  rw [Db.reply, h k]
  split <;> rfl

theorem next_of_roomUpdated {roomId : RoomId} {f : RoomRow → RoomRow} {n : ℕ}
    (h : db.RoomUpdated roomId f db')
    (hf : ∀ row, (f row).nextEventSequence = row.nextEventSequence + n) (id : RoomId) :
    db'.next id = (db.next id).map fun s => if id = roomId then s + n else s := by
  rw [Db.next, Db.next, h id, Option.map_map, Option.map_map]
  congr 1
  funext row
  by_cases hid : id = roomId <;> simp [hid, hf]

theorem question_of_recorded {key : CommandKey} {requestDigest : JsString} {result : Stored}
    (h : db.recorded key = some ⟨requestDigest, result⟩) : db.question key = result.question := by
  rw [Db.question, h]
  rfl

theorem reply_of_recorded {key : CommandKey} {requestDigest : JsString} {result : Stored}
    (h : db.recorded key = some ⟨requestDigest, result⟩) : db.reply key = result.reply := by
  rw [Db.reply, h]
  rfl

theorem sameQuestion {key : CommandKey} {record : Record} (h : db.RecordSet key record db')
    (hquestion : record.result.question = db.question key) (k : CommandKey) :
    db'.question k = db.question k := by
  rw [question_of_recordSet h, hquestion]
  split
  · next hk => rw [hk]
  · rfl

/-- A record that says the same of the log as the one before it. -/
theorem sameRecord {key : CommandKey} {record : Record} (h : db.RecordSet key record db')
    (hquestion : record.result.question = db.question key)
    (hreply : record.result.reply = db.reply key) :
    (∀ k, db'.question k = db.question k) ∧ ∀ k, db'.reply k = db.reply k := by
  refine ⟨sameQuestion h hquestion, fun k => ?_⟩
  rw [reply_of_recordSet h, hreply]
  split
  · next hk => rw [hk]
  · rfl

theorem LogIntegrity.of_quiet (h : LogIntegrity db) (hc : db.Quiet db') : LogIntegrity db' := by
  refine h.of_sameEvents hc.events (Db.roomsKept_of_eq hc.rooms) ?_ ?_ ?_
  · intro roomId
    rw [Db.next, Db.next, hc.rooms]
  · intro key
    rw [Db.question, Db.question, hc.recorded]
  · intro key
    rw [Db.reply, Db.reply, hc.recorded]

theorem LogIntegrity.of_settled {key : CommandKey} {requestDigest : JsString}
    {message : PendingMessage} {outcome : MessageOutcome} (h : LogIntegrity db)
    (hc : Settled key requestDigest message outcome db db') : LogIntegrity db' := by
  obtain ⟨hquestion, hreply⟩ := sameRecord hc.record
    (question_of_recorded hc.pending).symm (reply_of_recorded hc.pending).symm
  refine h.of_sameEvents hc.events (Db.roomsKept_of_eq hc.rooms) ?_ hquestion hreply
  intro roomId
  rw [Db.next, Db.next, hc.rooms]

theorem LogIntegrity.of_roomControlled {key : CommandKey} {requestDigest : JsString}
    {result : RoomControlResult} (h : LogIntegrity db)
    (hc : RoomControlled key requestDigest result db db') : LogIntegrity db' := by
  obtain ⟨hquestion, hreply⟩ := sameRecord hc.record
    (by rw [Db.question, hc.new]; rfl) (by rw [Db.reply, hc.new]; rfl)
  refine h.of_sameEvents hc.events (Change.roomControlled _ _ _ hc).roomsKept ?_ hquestion hreply
  intro roomId
  rw [next_of_roomUpdated (n := 0) hc.rooms (fun _ => rfl)]
  simp

theorem LogIntegrity.of_personaControlled {key : CommandKey} {requestDigest : JsString}
    {result : PersonaControlResult} (h : LogIntegrity db)
    (hc : PersonaControlled key requestDigest result db db') : LogIntegrity db' := by
  obtain ⟨hquestion, hreply⟩ := sameRecord hc.record
    (by rw [Db.question, hc.new]; rfl) (by rw [Db.reply, hc.new]; rfl)
  refine h.of_sameEvents hc.events (Change.personaControlled _ _ _ hc).roomsKept ?_ hquestion hreply
  intro roomId
  rw [next_of_roomUpdated (n := 0) hc.rooms (fun _ => rfl)]
  simp

/-- What a table with one more event says of the others. -/
theorem event_of_insert {key : RoomId × ℕ} {event e : RoomEvent}
    (h : db'.events = db.events.insert key event) {roomId : RoomId} {s : ℕ}
    (he : db'.event roomId s = some e) (hne : e ≠ event) : db.event roomId s = some e := by
  rw [Db.event_insert h] at he
  split at he
  · exact absurd (Option.some.inj he).symm hne
  · exact he

theorem LogIntegrity.of_opened {sessionId : RoomId} (h : LogIntegrity db)
    (hc : db.Opened sessionId db') : LogIntegrity db' := by
  have hkept := (Change.opened sessionId hc).eventsKept
  have hrooms := (Change.opened sessionId hc).roomsKept
  obtain ⟨cast, hevents⟩ := hc.events
  have hrecorded : ∀ key, db'.recorded key = db.recorded key := by
    intro key
    rw [Db.recorded, Db.recorded, hc.commands]
  have hquestion : ∀ key, db'.question key = db.question key := by
    intro key
    rw [Db.question, Db.question, hrecorded]
  have hreply : ∀ key, db'.reply key = db.reply key := by
    intro key
    rw [Db.reply, Db.reply, hrecorded]
  constructor
  · obtain ⟨row, -, -, hnext, hrow⟩ := hc.rooms
    have hnew : db.next sessionId = none := by
      rw [Db.next, AList.lookup_eq_none.mpr hc.fresh]
      rfl
    have hnext' : (fun roomId => db'.next roomId) =
        fun id => if id = sessionId then some 2 else db.next id := by
      funext id
      rw [Db.next, hrow, Db.next]
      split
      · rw [Option.map_some, hnext]
      · rfl
    rw [hnext', hevents]
    exact h.contiguous.open hnew _
  · intro roomId s participantId text he
    obtain ⟨decision, hd⟩ := h.followed roomId s participantId text
      (event_of_insert hevents he (by simp))
    exact ⟨decision, hkept _ _ _ hd⟩
  · intro roomId s speaker source text he
    obtain ⟨participantId, text', decision, hh, hd, hspeaker⟩ :=
      h.rooted roomId s speaker source text (event_of_insert hevents he (by simp))
    exact ⟨participantId, text', decision, hkept _ _ _ hh, hkept _ _ _ hd, hspeaker⟩
  · intro key q hq
    rw [hquestion] at hq
    exact (h.asked key q hq).mono hkept hrooms
  · intro key q s hq hs
    rw [hquestion] at hq
    rw [hreply] at hs
    obtain ⟨speaker, text, he⟩ := h.replied key q s hq hs
    exact ⟨speaker, text, hkept _ _ _ he⟩
  · simpa only [hquestion] using h.distinct
  · intro roomId s speaker source text he
    simpa only [hquestion, hreply] using
      h.answered roomId s speaker source text (event_of_insert hevents he (by simp))

theorem LogIntegrity.of_replied {key : CommandKey} {requestDigest : JsString}
    {message : PendingMessage} {speaker : ParticipantId} {text : JsString} {room : RoomRow}
    (h : LogIntegrity db)
    (hc : Replied key requestDigest message speaker text room db db') : LogIntegrity db' := by
  have hkept := (Change.replied _ _ _ _ _ _ hc).eventsKept
  have hrooms := (Change.replied _ _ _ _ _ _ hc).roomsKept
  have hpending := question_of_recorded hc.pending
  have hquestion : ∀ k, db'.question k = db.question k := by
    intro k
    rw [question_of_recordSet hc.record]
    split
    · next hk => rw [hk, hpending]; rfl
    · rfl
  have hreply : ∀ k, db'.reply k =
      if k = key then some room.nextEventSequence else db.reply k :=
    fun k => reply_of_recordSet hc.record k
  have hnext : db.next key.1 = some room.nextEventSequence := by
    rw [Db.next, hc.found]
    rfl
  have hasked := h.asked key _ hpending
  constructor
  · obtain ⟨order, hupdated⟩ := hc.rooms
    have hnext' : (fun roomId => db'.next roomId) =
        fun id => (db.next id).map fun s => if id = key.1 then s + 1 else s := by
      funext id
      exact next_of_roomUpdated hupdated (fun _ => rfl) id
    rw [hnext', hc.events]
    exact h.contiguous.append hnext _
  · intro roomId s participantId text' he
    obtain ⟨decision, hd⟩ := h.followed roomId s participantId text'
      (event_of_insert hc.events he (by simp))
    exact ⟨decision, hkept _ _ _ hd⟩
  · intro roomId s speaker' source text' he
    rw [Db.event_insert hc.events] at he
    split at he
    · next hkey =>
        obtain ⟨rfl, rfl⟩ := Prod.mk.inj hkey
        obtain ⟨rfl, rfl, rfl⟩ := by simpa using he
        obtain ⟨participantId, question, hhuman⟩ := hasked.human
        exact ⟨participantId, question, _, hkept _ _ _ hhuman, hkept _ _ _ hasked.director,
          hc.speaks⟩
    · obtain ⟨participantId, question, decision, hh, hd, hspeaker⟩ :=
        h.rooted roomId s speaker' source text' he
      exact ⟨participantId, question, decision, hkept _ _ _ hh, hkept _ _ _ hd, hspeaker⟩
  · intro k q hq
    rw [hquestion] at hq
    exact (h.asked k q hq).mono hkept hrooms
  · intro k q s hq hs
    rw [hquestion] at hq
    rw [hreply] at hs
    split at hs
    · next hk =>
        subst hk
        obtain rfl := Option.some.inj hs
        obtain rfl := Option.some.inj (hpending.symm.trans hq)
        exact ⟨speaker, text, by rw [Db.event_insert hc.events, if_pos rfl]⟩
    · obtain ⟨speaker', text', he⟩ := h.replied k q s hq hs
      exact ⟨speaker', text', hkept _ _ _ he⟩
  · simpa only [hquestion] using h.distinct
  · intro roomId s speaker' source text' he
    rw [Db.event_insert hc.events] at he
    split at he
    · next hkey =>
        obtain ⟨rfl, rfl⟩ := Prod.mk.inj hkey
        obtain ⟨rfl, rfl, rfl⟩ := by simpa using he
        exact ⟨key, _, rfl, by rw [hquestion, hpending]; rfl, rfl, by rw [hreply, if_pos rfl]⟩
    · obtain ⟨k, q, hroom, hq, hsource, hs⟩ := h.answered roomId s speaker' source text' he
      refine ⟨k, q, hroom, by rw [hquestion, hq], hsource, ?_⟩
      rw [hreply, if_neg, hs]
      rintro rfl
      rw [reply_of_recorded hc.pending] at hs
      cases hs

theorem question_acceptedStored (command : MessageCommand) (room : RoomRow)
    (decision : DirectorDecision) : (acceptedStored command room decision).question =
      some ⟨room.nextEventSequence, decision, room.generation⟩ := by
  unfold acceptedStored
  split <;> rfl

theorem reply_acceptedStored (command : MessageCommand) (room : RoomRow)
    (decision : DirectorDecision) : (acceptedStored command room decision).reply = none := by
  unfold acceptedStored
  split <;> rfl

theorem LogIntegrity.of_accepted {command : MessageCommand} {requestDigest : JsString}
    {decision : DirectorDecision} {room : RoomRow} {state : DirectorStateRow} (h : LogIntegrity db)
    (hc : Accepted command requestDigest decision room state db db') : LogIntegrity db' := by
  have hkept := (Change.accepted _ _ _ _ _ hc).eventsKept
  have hrooms := (Change.accepted _ _ _ _ _ hc).roomsKept
  obtain ⟨human, hevents, -⟩ := hc.events
  have hnext : db.next command.roomId = some room.nextEventSequence := by
    rw [Db.next, hc.found]
    rfl
  have hhuman : db'.event command.roomId room.nextEventSequence =
      some (.humanMessage human command.text) := by
    rw [Db.event, hevents, KeyedTable.lookup_insert, if_neg (by simp), KeyedTable.lookup_insert,
      if_pos rfl]
  have hdirector : db'.event command.roomId (room.nextEventSequence + 1) =
      some (.directorDecision room.nextEventSequence decision) := by
    rw [Db.event, hevents, KeyedTable.lookup_insert, if_pos rfl]
  -- What is not the message or its decision was there before.
  have hold : ∀ roomId s e, db'.event roomId s = some e →
      (roomId = command.roomId ∧ s = room.nextEventSequence ∧
        e = .humanMessage human command.text) ∨
      (roomId = command.roomId ∧ s = room.nextEventSequence + 1 ∧
        e = .directorDecision room.nextEventSequence decision) ∨ db.event roomId s = some e := by
    intro roomId s e he
    rw [Db.event, hevents, KeyedTable.lookup_insert, KeyedTable.lookup_insert] at he
    split at he
    · next hk =>
        obtain ⟨rfl, rfl⟩ := Prod.mk.inj hk
        exact .inr (.inl ⟨rfl, rfl, (Option.some.inj he).symm⟩)
    · split at he
      · next hk =>
          obtain ⟨rfl, rfl⟩ := Prod.mk.inj hk
          exact .inl ⟨rfl, rfl, (Option.some.inj he).symm⟩
      · exact .inr (.inr he)
  have hnew : db.question command.key = none := by
    rw [Db.question, hc.new]
    rfl
  have hquestion : ∀ k, db'.question k = if k = command.key then
      some ⟨room.nextEventSequence, decision, room.generation⟩ else db.question k := by
    intro k
    rw [question_of_recordSet hc.record, question_acceptedStored]
  have hreply : ∀ k, db'.reply k = db.reply k := by
    intro k
    rw [reply_of_recordSet hc.record, reply_acceptedStored]
    split
    · next hk => rw [hk, Db.reply, hc.new]; rfl
    · rfl
  constructor
  · obtain ⟨order, hupdated⟩ := hc.rooms
    have hnext' : (fun roomId => db'.next roomId) =
        fun id => ((db.next id).map fun s => if id = command.roomId then s + 1 else s).map
          fun s => if id = command.roomId then s + 1 else s := by
      funext id
      rw [next_of_roomUpdated (n := 2) hupdated (fun _ => rfl), Option.map_map]
      congr 1
      funext s
      by_cases hid : id = command.roomId <;> simp [hid]
    rw [hnext', hevents]
    refine (h.contiguous.append hnext _).append ?_ _
    rw [hnext, Option.map_some, if_pos rfl]
  · intro roomId s participantId text he
    rcases hold _ _ _ he with ⟨rfl, rfl, -⟩ | ⟨-, -, heq⟩ | he
    · exact ⟨decision, hdirector⟩
    · cases heq
    · obtain ⟨decision', hd⟩ := h.followed roomId s participantId text he
      exact ⟨decision', hkept _ _ _ hd⟩
  · intro roomId s speaker source text he
    rcases hold _ _ _ he with ⟨-, -, heq⟩ | ⟨-, -, heq⟩ | he
    · cases heq
    · cases heq
    · obtain ⟨participantId, text', decision', hh, hd, hspeaker⟩ :=
        h.rooted roomId s speaker source text he
      exact ⟨participantId, text', decision', hkept _ _ _ hh, hkept _ _ _ hd, hspeaker⟩
  · intro k q hq
    rw [hquestion] at hq
    split at hq
    · next hk =>
        subst hk
        obtain rfl := Option.some.inj hq
        refine ⟨⟨human, command.text, hhuman⟩, hdirector, ?_⟩
        obtain ⟨room', hroom', hle, -⟩ := hrooms command.roomId room hc.found
        exact ⟨room'.generation, by rw [Db.generation]; exact congrArg _ hroom', hle⟩
    · exact (h.asked k q hq).mono hkept hrooms
  · intro k q s hq hs
    rw [hquestion] at hq
    rw [hreply] at hs
    split at hq
    · next hk =>
        rw [hk, Db.reply, hc.new] at hs
        cases hs
    · obtain ⟨speaker, text, he⟩ := h.replied k q s hq hs
      exact ⟨speaker, text, hkept _ _ _ he⟩
  · -- The new message has a sequence no other message of the room has.
    have hfresh : ∀ k q, db.question k = some q → k.1 = command.roomId →
        q.sequence ≠ room.nextEventSequence := by
      intro k q hq hroom hs
      obtain ⟨participantId, text, he⟩ := (h.asked k q hq).human
      rw [hroom, hs] at he
      exact hc.free (Db.mem_events_of_event he)
    intro k k' q q' hq hq' hroom hs
    rw [hquestion] at hq hq'
    split at hq <;> split at hq'
    · next hk hk' => rw [hk, hk']
    · next hk hk' =>
        obtain rfl := Option.some.inj hq
        exact absurd hs.symm (hfresh k' q' hq' (by rw [← hroom, hk]; rfl))
    · next hk hk' =>
        obtain rfl := Option.some.inj hq'
        exact absurd hs (hfresh k q hq (by rw [hroom, hk']; rfl))
    · exact h.distinct k k' q q' hq hq' hroom hs
  · intro roomId s speaker source text he
    rcases hold _ _ _ he with ⟨-, -, heq⟩ | ⟨-, -, heq⟩ | he
    · cases heq
    · cases heq
    · obtain ⟨k, q, hroom, hq, hsource, hs⟩ := h.answered roomId s speaker source text he
      refine ⟨k, q, hroom, ?_, hsource, by rw [hreply, hs]⟩
      rw [hquestion, if_neg, hq]
      rintro rfl
      rw [hnew] at hq
      cases hq

/-- **Every change keeps the integrity of the log.** -/
theorem LogIntegrity.change {author : Option CommandKey} (h : LogIntegrity db)
    (hc : Change db db' author) : LogIntegrity db' := by
  cases hc with
  | quiet _ hc => exact h.of_quiet hc
  | opened sessionId hc => exact h.of_opened hc
  | accepted command requestDigest decision room state hc => exact h.of_accepted hc
  | replied key requestDigest message speaker text room hc => exact h.of_replied hc
  | settled key requestDigest message outcome hc => exact h.of_settled hc
  | roomControlled key requestDigest result hc => exact h.of_roomControlled hc
  | personaControlled key requestDigest result hc => exact h.of_personaControlled hc

/-- A database nothing has happened in yet. -/
structure Fresh (db : Db) : Prop where
  events : db.events = ∅
  commands : db.commands = ∅
  rooms : ∀ roomId room, db.rooms.lookup roomId = some room → room.nextEventSequence = 1
  directorState : ∀ roomId state, db.directorState.lookup roomId = some state → state = {}

theorem Fresh.integrity (h : Fresh db) : LogIntegrity db := by
  have hevent : ∀ roomId s, db.event roomId s = none := by
    intro roomId s
    rw [Db.event, h.events]
    rfl
  have hquestion : ∀ key, db.question key = none := by
    intro key
    rw [Db.question, Db.recorded, h.commands]
    rfl
  constructor
  · constructor
    · intro roomId n hn
      obtain ⟨room, hroom, rfl⟩ := Option.map_eq_some_iff.mp hn
      rw [h.rooms roomId room hroom]
    · intro roomId s
      rw [h.events]
      refine iff_of_false (AList.notMem_empty _) ?_
      rintro ⟨n, hn, hpos, hlt⟩
      obtain ⟨room, hroom, rfl⟩ := Option.map_eq_some_iff.mp hn
      rw [h.rooms roomId room hroom] at hlt
      omega
  all_goals simp [hevent, hquestion]

end Runtime

end GreenRoom
