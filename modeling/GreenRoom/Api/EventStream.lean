import GreenRoom.Db.Digest
import GreenRoom.Runtime.EventLog

/-!
# Server-sent events

`readEvents` and `SseClients.connect` of `api/routes.ts`.  One client of the stream polls
the log of its room into a bounded queue and writes the queue to its response for as long
as the response takes it.

## Main definitions

* `RoomEvent.toJson`, `readEvents` — the events, as they are read back.
* `Client` — what the closures of `connect` share.
* `Client.flush`, `Client.poll`, `Client.drain`, `Client.heartbeat`, `Client.cleanup`.
* `InOrder` — frames that are those of one event after the other.

## Main results

* `readEvents_eq` — a read returns the next events of the log, without a gap.
-/

namespace GreenRoom

open JsString GreenRoom.Core

/-! ## Events -/

def Core.DirectorReason.text : DirectorReason → JsString
  | .selected => ofString "selected"
  | .directed => ofString "directed"
  | .cancelled => ofString "cancelled"
  | .unverifiedEvent => ofString "unverified_event"
  | .duplicate => ofString "duplicate"
  | .selfTriggerBlocked => ofString "self_trigger_blocked"
  | .budgetExhausted => ofString "budget_exhausted"
  | .deliberateSilence => ofString "deliberate_silence"
  | .noPersona => ofString "no_persona"
  | .noEligiblePersona => ofString "no_eligible_persona"
  | .cooldown => ofString "cooldown"

/-- The objects given to `appendEventInTransaction`. -/
def RoomEvent.toJson : RoomEvent → Json ℤ
  | .roomStarted cast => .obj [
      (ofString "type", .str (ofString "room_started")),
      (ofString "cast", .arr (cast.map fun persona => .obj [
        (ofString "participantId", .str persona.1),
        (ofString "personaSlug", .str persona.2)]))]
  | .humanMessage participantId text => .obj [
      (ofString "type", .str (ofString "human_message")),
      (ofString "participantId", .str participantId),
      (ofString "text", .str text)]
  | .directorDecision sourceEventSequence decision => .obj [
      (ofString "type", .str (ofString "director_decision")),
      (ofString "sourceEventSequence", .num sourceEventSequence),
      (ofString "speaker", decision.speaker.elim .null .str),
      (ofString "reason", .str decision.reason.text)]
  | .personaMessage participantId sourceEventSequence text => .obj [
      (ofString "type", .str (ofString "persona_message")),
      (ofString "participantId", .str participantId),
      (ofString "sourceEventSequence", .num sourceEventSequence),
      (ofString "text", .str text)]

theorem distinctElements_cast (cast : List (ParticipantId × JsString)) :
    Json.DistinctElements (cast.map fun persona => (.obj [
      (ofString "participantId", .str persona.1),
      (ofString "personaSlug", .str persona.2)] : Json ℤ)) := by
  induction cast with
  | nil => trivial
  | cons persona cast ih =>
      refine ⟨⟨?_, by simp [Json.DistinctMembers, Json.Distinct]⟩, ih⟩
      simp only [List.map_cons, List.map_nil]
      decide

theorem RoomEvent.distinct_toJson (event : RoomEvent) : event.toJson.Distinct := by
  cases event with
  | roomStarted cast =>
      refine ⟨?_, trivial, distinctElements_cast cast, trivial⟩
      simp only [List.map_cons, List.map_nil]
      decide
  | humanMessage participantId text =>
      refine ⟨?_, trivial, trivial, trivial, trivial⟩
      simp only [List.map_cons, List.map_nil]
      decide
  | directorDecision sourceEventSequence decision =>
      refine ⟨?_, trivial, trivial, ?_, trivial, trivial⟩
      · simp only [List.map_cons, List.map_nil]
        decide
      · cases decision.speaker <;> trivial
  | personaMessage participantId sourceEventSequence text =>
      refine ⟨?_, trivial, trivial, trivial, trivial, trivial⟩
      simp only [List.map_cons, List.map_nil]
      decide

/-- What `JSON.parse` makes of an `event_json`. -/
theorem parse_event_json (event : RoomEvent) :
    Json.parse integerFormat (canonicalJson event.toJson) = some event.toJson.sorted := by
  rw [← stringify_sorted]
  exact Json.parse_stringify_sorted integerFormat event.distinct_toJson

namespace Api.EventStream

structure ReplayedEvent where
  sequence : ℕ
  event : Json ℤ
  deriving DecidableEq

/-- The rows of a room after a sequence, `ORDER BY sequence`. -/
def eventRows (db : Db) (roomId : RoomId) (after : ℕ) : List ((_ : RoomId × ℕ) × RoomEvent) :=
  (db.events.entries.filter fun row => row.1.1 = roomId ∧ after < row.1.2).insertionSort
    fun row row' => row.1.2 ≤ row'.1.2

/-- It is `none` when `JSON.parse` throws. -/
def readEvents (db : Db) (roomId : RoomId) (after limit : ℕ) : Option (List ReplayedEvent) :=
  ((eventRows db roomId after).take limit).mapM fun row =>
    (Json.parse integerFormat (canonicalJson row.2.toJson)).map fun event =>
      ⟨row.1.2, event⟩

def ReplayedEvent.frame (e : ReplayedEvent) : JsString :=
  ofString "id: " ++ ofNat e.sequence ++ ofString "\nevent: room-event\ndata: " ++
    Json.stringify integerFormat (.obj [
      (ofString "sequence", .num e.sequence), (ofString "event", e.event)]) ++
    ofString "\n\n"

/-! ## What a read returns -/

/-- The frame of an event of the log. -/
def eventFrame (db : Db) (roomId : RoomId) (sequence : ℕ) : Option JsString :=
  (db.event roomId sequence).map fun event =>
    ReplayedEvent.frame ⟨sequence, event.toJson.sorted⟩

/-- The frames are those of the events after `after`, one by one. -/
def InOrder (db : Db) (roomId : RoomId) (after : ℕ) (frames : List JsString) : Prop :=
  frames.map some = (List.range' (after + 1) frames.length).map (eventFrame db roomId)

/-- The sequence of the latest event of a room. -/
def lastSequence (db : Db) (roomId : RoomId) : ℕ := (db.next roomId).elim 0 (· - 1)

section Reads

variable {db db' : Db} {roomId : RoomId} {after limit : ℕ}

theorem inOrder_nil : InOrder db roomId after [] := rfl

theorem inOrder_cons {frame : JsString} {frames : List JsString} :
    InOrder db roomId after (frame :: frames) ↔
      eventFrame db roomId (after + 1) = some frame ∧ InOrder db roomId (after + 1) frames := by
  simp only [InOrder, List.map_cons, List.length_cons, List.range'_succ, List.cons.injEq]
  exact and_congr_left' eq_comm

theorem inOrder_append {frames frames' : List JsString} :
    InOrder db roomId after (frames ++ frames') ↔
      InOrder db roomId after frames ∧ InOrder db roomId (after + frames.length) frames' := by
  induction frames generalizing after with
  | nil => simp [inOrder_nil]
  | cons frame frames ih =>
      rw [List.cons_append, inOrder_cons, ih, inOrder_cons, and_assoc, List.length_cons,
        show after + 1 + frames.length = after + (frames.length + 1) by omega]

theorem InOrder.mono {frames : List JsString} (h : InOrder db roomId after frames)
    (hkept : db.EventsKept db') : InOrder db' roomId after frames := by
  induction frames generalizing after with
  | nil => exact inOrder_nil
  | cons frame frames ih =>
      obtain ⟨hframe, hframes⟩ := inOrder_cons.mp h
      obtain ⟨event, hevent, rfl⟩ := Option.map_eq_some_iff.mp hframe
      refine inOrder_cons.mpr ⟨?_, ih hframes⟩
      rw [eventFrame, hkept _ _ _ hevent]
      rfl

theorem mem_eventRows {row : (_ : RoomId × ℕ) × RoomEvent} :
    row ∈ eventRows db roomId after ↔
      db.event row.1.1 row.1.2 = some row.2 ∧ row.1.1 = roomId ∧ after < row.1.2 := by
  rw [eventRows, List.mem_insertionSort, List.mem_filter, decide_eq_true_eq, Db.event,
    ← KeyedTable.mem_entries_iff]

/-- The sequences after `after`, in order. -/
theorem eventRows_sequences (h : Runtime.Contiguous db.events fun roomId => db.next roomId)
    (roomId : RoomId) (after : ℕ) :
    (eventRows db roomId after).map (fun row => row.1.2) =
      List.range' (after + 1) (lastSequence db roomId - after) := by
  have hnodup : ((eventRows db roomId after).map fun row => row.1.2).Nodup := by
    have hrows : (eventRows db roomId after).Nodup :=
      (List.perm_insertionSort _ _).nodup_iff.mpr (db.events.nodupKeys.nodup.filter _)
    refine hrows.map_on fun row hrow row' hrow' heq => ?_
    obtain ⟨hevent, hroom, -⟩ := mem_eventRows.mp hrow
    obtain ⟨hevent', hroom', -⟩ := mem_eventRows.mp hrow'
    have hkey : row.1 = row'.1 := Prod.ext (hroom.trans hroom'.symm) heq
    rw [← hkey, hevent] at hevent'
    exact Sigma.ext hkey (heq_of_eq (Option.some.inj hevent'))
  have hmem : ∀ n, n ∈ (eventRows db roomId after).map (fun row => row.1.2) ↔
      n ∈ List.range' (after + 1) (lastSequence db roomId - after) := by
    intro n
    have hexact := h.exact roomId n
    rw [← Db.event_ne_none, Option.ne_none_iff_exists'] at hexact
    rw [List.mem_range'_1, List.mem_map]
    constructor
    · rintro ⟨row, hrow, rfl⟩
      obtain ⟨hevent, rfl, hafter⟩ := mem_eventRows.mp hrow
      obtain ⟨next, hnext, hpos, hlt⟩ := hexact.mp ⟨_, hevent⟩
      simp only [lastSequence, hnext, Option.elim_some]
      omega
    · intro hn
      cases hnext : db.next roomId with
      | none =>
          simp only [lastSequence, hnext, Option.elim_none] at hn
          omega
      | some next =>
          simp only [lastSequence, hnext, Option.elim_some] at hn
          obtain ⟨event, hevent⟩ := hexact.mpr ⟨next, hnext, by omega, by omega⟩
          exact ⟨⟨(roomId, n), event⟩, mem_eventRows.mpr ⟨hevent, rfl, by simp; omega⟩, rfl⟩
  refine ((List.perm_ext_iff_of_nodup hnodup List.nodup_range').mpr hmem).eq_of_sortedLE ?_ ?_
  · exact (List.pairwise_map.mpr (List.pairwise_insertionSort _ _)).sortedLE
  · exact List.sortedLE_range' _ _ _

/-- **A read returns the next events of the log**, as many as the limit lets through. -/
theorem readEvents_eq (h : Runtime.Contiguous db.events fun roomId => db.next roomId)
    (roomId : RoomId) (after limit : ℕ) :
    ∃ events, readEvents db roomId after limit = some events ∧
      events.length = min limit (lastSequence db roomId - after) ∧
      InOrder db roomId after (events.map ReplayedEvent.frame) ∧
      events.map ReplayedEvent.sequence = List.range' (after + 1) events.length := by
  let rows := (eventRows db roomId after).take limit
  let replayed : ((_ : RoomId × ℕ) × RoomEvent) → ReplayedEvent :=
    fun row => ⟨row.1.2, row.2.toJson.sorted⟩
  have hlength : rows.length = min limit (lastSequence db roomId - after) := by
    have := congrArg List.length (eventRows_sequences h roomId after)
    rw [List.length_map, List.length_range'] at this
    rw [List.length_take, this]
  have hsequences : rows.map (fun row => row.1.2) = List.range' (after + 1) rows.length := by
    rw [List.map_take, eventRows_sequences h, hlength]
    rcases le_total limit (lastSequence db roomId - after) with hle | hle
    · rw [List.take_range'_of_length_ge hle, min_eq_left hle]
    · rw [List.take_range'_of_length_le hle, min_eq_right hle]
  have hframe : ∀ row ∈ rows, some (replayed row).frame = eventFrame db roomId row.1.2 := by
    intro row hrow
    obtain ⟨hevent, rfl, -⟩ := mem_eventRows.mp (List.mem_of_mem_take hrow)
    rw [eventFrame, hevent]
    rfl
  refine ⟨rows.map replayed, ?_, by rw [List.length_map, hlength], ?_, ?_⟩
  · simp only [readEvents, parse_event_json, Option.map_some]
    exact List.mapM_pure
  · rw [InOrder, List.length_map, List.length_map, ← hsequences, List.map_map, List.map_map,
      List.map_map]
    exact List.map_congr_left hframe
  · rw [List.map_map, List.length_map]
    exact hsequences

end Reads

/-! ## A client -/

/-- How `response.write` ends. -/
inductive WriteResult
  | more | full | thrown
  deriving DecidableEq, Repr

structure Write where
  result : WriteResult
  /-- The connection is cleaned up before the call returns. -/
  closes : Bool := false
  deriving DecidableEq, Repr

structure Client where
  roomId : RoomId
  after : ℕ
  cleaned : Bool := false
  lastQueued : ℕ
  waitingForDrain : Bool := false
  queue : List JsString := []
  /-- What `response.write` was called with. -/
  written : List JsString := []
  /-- What `onQueueSizeChange` was called with. -/
  sizes : List ℕ := []

def heartbeatFrame : JsString := ofString ": heartbeat\n\n"

namespace Client

/-- The event frames written so far. -/
def sent (c : Client) : List JsString := c.written.filter (· ≠ heartbeatFrame)

def notifyQueueSize (c : Client) : Client := { c with sizes := c.sizes ++ [c.queue.length] }

def cleanup (c : Client) : Client :=
  if c.cleaned then c else { c with cleaned := true, queue := [] }.notifyQueueSize

/-- `response.write(chunk)`. -/
def write (chunk : JsString) (w : Write) (c : Client) : Client :=
  let c := { c with written := c.written ++ [chunk] }
  if w.closes then c.cleanup else c

/-- The loop of `flush`; `writes` are the answers of `response.write`, in order. -/
def flushQueue (writes : ℕ → Write) : List JsString → Client → Client
  | [], c => c
  | frame :: queue, c =>
      let c := ({ c with queue }.notifyQueueSize).write frame (writes 0)
      match (writes 0).result with
      | .thrown => c.cleanup
      | .full => { c with waitingForDrain := true }
      -- a cleanup has emptied the queue
      | .more => if c.cleaned then c else flushQueue (fun i => writes (i + 1)) queue c

def flush (writes : ℕ → Write) (c : Client) : Client :=
  if c.cleaned || c.waitingForDrain then c else flushQueue writes c.queue c

def drain (writes : ℕ → Write) (c : Client) : Client :=
  { c with waitingForDrain := false }.flush writes

def push (c : Client) (e : ReplayedEvent) : Client :=
  { { c with queue := c.queue ++ [e.frame] }.notifyQueueSize with lastQueued := e.sequence }

/-- `fails`: the statement throws. -/
def poll (queueLimit : ℕ) (db : Db) (fails : Bool) (writes : ℕ → Write) (c : Client) : Client :=
  if c.cleaned then c
  else
    let capacity := queueLimit - c.queue.length
    let read := if fails then none else
      readEvents db c.roomId c.lastQueued (if c.waitingForDrain then capacity + 1 else capacity)
    match read with
    | none => c.cleanup
    | some events =>
        if capacity < events.length then c.cleanup
        else (events.foldl push c).flush writes

def heartbeat (w : Write) (c : Client) : Client :=
  if c.cleaned || c.waitingForDrain || 0 < c.queue.length then c
  else
    let c := c.write heartbeatFrame w
    match w.result with
    | .thrown => c.cleanup
    | .full => { c with waitingForDrain := true }
    | .more => c

end Client

def connect (queueLimit : ℕ) (db : Db) (fails : Bool) (writes : ℕ → Write) (roomId : RoomId)
    (after : ℕ) : Client :=
  ({ roomId, after, lastQueued := after } : Client).poll queueLimit db fails writes

end Api.EventStream

end GreenRoom
