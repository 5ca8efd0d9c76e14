import GreenRoom.Api.EventStream

/-!
# The stream has no gap

The timers, the response and the connection of a client fire in any order, while the room
services go on writing to the log.

## Main definitions

* `Client.Sound` — what holds of a client between its callbacks.
* `streamSystem` — a client beside the room services.

## Main results

* `Client.Sound.poll`, `Client.Sound.drain`, … — every callback keeps it.
* `stream_gapless`
-/

namespace GreenRoom.Api.EventStream

open JsString

/-! ## What the callbacks keep -/

theorem ReplayedEvent.frame_ne_heartbeat (e : ReplayedEvent) : e.frame ≠ heartbeatFrame := by
  intro h
  have := congrArg List.head? h
  simp [ReplayedEvent.frame, heartbeatFrame, ofString, ofChar] at this
  exact absurd this (by decide)

theorem InOrder.ne_heartbeat {db : Db} {roomId : RoomId} {after : ℕ} {frames : List JsString}
    (h : InOrder db roomId after frames) : ∀ frame ∈ frames, frame ≠ heartbeatFrame := by
  induction frames generalizing after with
  | nil => simp
  | cons frame frames ih =>
      obtain ⟨hframe, hframes⟩ := inOrder_cons.mp h
      obtain ⟨event, -, rfl⟩ := Option.map_eq_some_iff.mp hframe
      rintro chunk (_ | ⟨_, hchunk⟩)
      · exact ReplayedEvent.frame_ne_heartbeat _
      · exact ih hframes chunk hchunk

namespace Client

/-- What holds of a client while its callbacks run. -/
structure Tracks (queueLimit : ℕ) (db : Db) (c : Client) : Prop where
  inOrder : InOrder db c.roomId c.after (c.sent ++ c.queue)
  queued : c.cleaned = false → c.lastQueued = c.after + (c.sent ++ c.queue).length
  emptied : c.cleaned = true → c.queue = []
  bounded : c.queue.length ≤ queueLimit
  reported : ∀ size ∈ c.sizes, size ≤ queueLimit

/-- What holds of a client between its callbacks. -/
structure Sound (queueLimit : ℕ) (db : Db) (c : Client) : Prop extends Tracks queueLimit db c where
  idle : c.cleaned = false → c.waitingForDrain = false → c.queue = []

variable {queueLimit : ℕ} {db db' : Db} {c : Client}

theorem Sound.mono (h : c.Sound queueLimit db) (hkept : db.EventsKept db') :
    c.Sound queueLimit db' :=
  { h with inOrder := h.inOrder.mono hkept }

theorem cleaned_cleanup (c : Client) : c.cleanup.cleaned = true := by
  rw [cleanup]
  split
  · assumption
  · rfl

theorem Tracks.cleanup (h : c.Tracks queueLimit db) : c.cleanup.Tracks queueLimit db := by
  rw [Client.cleanup]
  split
  · exact h
  · exact {
      inOrder := by
        have := (inOrder_append.mp h.inOrder).1
        simpa [notifyQueueSize, sent] using this
      queued := nofun
      emptied := fun _ => rfl
      bounded := Nat.zero_le _
      reported := by
        intro size hsize
        rcases List.mem_append.mp hsize with hsize | hsize
        · exact h.reported size hsize
        · obtain rfl := List.mem_singleton.mp hsize
          exact Nat.zero_le _ }

theorem Tracks.sound (h : c.Tracks queueLimit db)
    (hidle : c.cleaned = true ∨ c.waitingForDrain = true ∨ c.queue = []) :
    c.Sound queueLimit db := by
  refine { h with idle := fun hopen hready => ?_ }
  rcases hidle with hidle | hidle | hidle
  · rw [hopen] at hidle
    cases hidle
  · rw [hready] at hidle
    cases hidle
  · exact hidle

theorem Tracks.cleanup_sound (h : c.Tracks queueLimit db) : c.cleanup.Sound queueLimit db :=
  h.cleanup.sound (.inl c.cleaned_cleanup)

theorem Tracks.waiting (h : c.Tracks queueLimit db) (waitingForDrain : Bool) :
    Tracks queueLimit db { c with waitingForDrain } :=
  { h with }

/-- A frame leaves the queue for the response. -/
theorem Tracks.shifted (h : c.Tracks queueLimit db) {frame : JsString} {queue : List JsString}
    (hqueue : c.queue = frame :: queue) (w : Write) :
    (({ c with queue }.notifyQueueSize).write frame w).Tracks queueLimit db := by
  have hframe : frame ≠ heartbeatFrame :=
    h.inOrder.ne_heartbeat frame (by simp [hqueue])
  have hsent : (c.written ++ [frame]).filter (· ≠ heartbeatFrame) ++ queue = c.sent ++ c.queue := by
    simp [sent, hqueue, hframe]
  have hlength : queue.length ≤ queueLimit := by
    have := h.bounded
    rw [hqueue, List.length_cons] at this
    omega
  have hwritten : Tracks queueLimit db
      { { c with queue }.notifyQueueSize with written := c.written ++ [frame] } := {
    inOrder := by
      rw [sent, notifyQueueSize, hsent]
      exact h.inOrder
    queued := by
      intro hopen
      rw [sent, notifyQueueSize, hsent]
      exact h.queued hopen
    emptied := by
      intro hcleaned
      have := h.emptied hcleaned
      rw [hqueue] at this
      cases this
    bounded := hlength
    reported := by
      intro size hsize
      rcases List.mem_append.mp hsize with hsize | hsize
      · exact h.reported size hsize
      · obtain rfl := List.mem_singleton.mp hsize
        exact hlength }
  rw [write]
  split
  · exact hwritten.cleanup
  · exact hwritten

theorem queue_write (chunk : JsString) (w : Write) (c : Client)
    (hopen : (c.write chunk w).cleaned = false) : (c.write chunk w).queue = c.queue := by
  unfold write at hopen ⊢
  dsimp only at hopen ⊢
  split at hopen
  · rw [cleaned_cleanup] at hopen
    cases hopen
  · next hcloses => rw [if_neg hcloses]

theorem Tracks.flushQueue {queue : List JsString} (h : c.Tracks queueLimit db)
    (hqueue : c.queue = queue) (writes : ℕ → Write) :
    (flushQueue writes queue c).Sound queueLimit db := by
  induction queue generalizing c writes with
  | nil => exact h.sound (.inr (.inr hqueue))
  | cons frame queue ih =>
      have hshifted := h.shifted hqueue (writes 0)
      rw [Client.flushQueue]
      split
      · exact hshifted.cleanup_sound
      · exact (hshifted.waiting true).sound (.inr (.inl rfl))
      · split
        · next hcleaned => exact hshifted.sound (.inl hcleaned)
        · next hopen =>
            refine ih hshifted ?_ _
            rw [queue_write _ _ _ (by simpa using hopen)]
            rfl

theorem Tracks.flush (h : c.Tracks queueLimit db) (writes : ℕ → Write) :
    (c.flush writes).Sound queueLimit db := by
  rw [Client.flush]
  split
  · next hstop =>
      rw [Bool.or_eq_true] at hstop
      exact h.sound (hstop.imp_right .inl)
  · exact h.flushQueue rfl writes

theorem Sound.drain (h : c.Sound queueLimit db) (writes : ℕ → Write) :
    (c.drain writes).Sound queueLimit db :=
  (h.toTracks.waiting false).flush writes

theorem Tracks.push {e : ReplayedEvent} (h : c.Tracks queueLimit db) (hopen : c.cleaned = false)
    (hframe : eventFrame db c.roomId (c.lastQueued + 1) = some e.frame)
    (hsequence : e.sequence = c.lastQueued + 1) (hroom : c.queue.length < queueLimit) :
    (c.push e).Tracks queueLimit db where
  inOrder := by
    change InOrder db c.roomId c.after (c.sent ++ (c.queue ++ [e.frame]))
    rw [← List.append_assoc, inOrder_append]
    refine ⟨h.inOrder, inOrder_cons.mpr ⟨?_, inOrder_nil⟩⟩
    rw [← h.queued hopen, hframe]
  queued := by
    intro _
    change e.sequence = c.after + (c.sent ++ (c.queue ++ [e.frame])).length
    rw [hsequence, h.queued hopen, ← List.append_assoc, ← List.concat_eq_append, List.length_concat]
    rfl
  emptied := by
    intro hcleaned
    rw [show c.cleaned = true from hcleaned] at hopen
    cases hopen
  bounded := by
    change (c.queue ++ [e.frame]).length ≤ queueLimit
    rw [List.length_append, List.length_singleton]
    omega
  reported := by
    intro size hsize
    rcases List.mem_append.mp hsize with hsize | hsize
    · exact h.reported size hsize
    · obtain rfl := List.mem_singleton.mp hsize
      change (c.queue ++ [e.frame]).length ≤ queueLimit
      rw [List.length_append, List.length_singleton]
      omega

theorem Tracks.pushes {events : List ReplayedEvent} (h : c.Tracks queueLimit db)
    (hopen : c.cleaned = false)
    (hframes : InOrder db c.roomId c.lastQueued (events.map ReplayedEvent.frame))
    (hsequences : events.map ReplayedEvent.sequence =
      List.range' (c.lastQueued + 1) events.length)
    (hroom : c.queue.length + events.length ≤ queueLimit) :
    (events.foldl Client.push c).Tracks queueLimit db := by
  induction events generalizing c with
  | nil => exact h
  | cons e events ih =>
      obtain ⟨hframe, hframes⟩ := inOrder_cons.mp hframes
      rw [List.map_cons, List.length_cons, List.range'_succ, List.cons.injEq] at hsequences
      rw [List.length_cons] at hroom
      have hlast : (c.push e).lastQueued = c.lastQueued + 1 := hsequences.1
      refine ih (h.push hopen hframe hsequences.1 (by omega)) hopen ?_ ?_ ?_
      · rw [hlast]
        exact hframes
      · rw [hlast]
        exact hsequences.2
      · change (c.queue ++ [e.frame]).length + events.length ≤ queueLimit
        rw [List.length_append, List.length_singleton]
        omega

theorem Sound.poll (h : c.Sound queueLimit db)
    (hlog : Runtime.Contiguous db.events fun roomId => db.next roomId) (fails : Bool)
    (writes : ℕ → Write) : (c.poll queueLimit db fails writes).Sound queueLimit db := by
  rw [Client.poll]
  dsimp only
  split
  · exact h
  · next hopen =>
      split
      · exact h.toTracks.cleanup_sound
      · next events hread =>
          split
          · exact h.toTracks.cleanup_sound
          · next hfits =>
              split at hread
              · cases hread
              · obtain ⟨read, hread', -, hframes, hsequences⟩ := readEvents_eq hlog c.roomId
                  c.lastQueued
                  (if c.waitingForDrain then queueLimit - c.queue.length + 1
                    else queueLimit - c.queue.length)
                obtain rfl := Option.some.inj (hread'.symm.trans hread)
                have := h.bounded
                exact (h.toTracks.pushes (by simpa using hopen) hframes hsequences
                  (by omega)).flush writes

/-- **A client that falls behind is disconnected**: while it waits, a poll that finds more
events than its queue has room for cleans it up. -/
theorem cleaned_poll (hlog : Runtime.Contiguous db.events fun roomId => db.next roomId)
    (hwaiting : c.waitingForDrain = true)
    (hbehind : queueLimit - c.queue.length < lastSequence db c.roomId - c.lastQueued)
    (fails : Bool) (writes : ℕ → Write) : (c.poll queueLimit db fails writes).cleaned = true := by
  rw [Client.poll]
  dsimp only
  split
  · assumption
  · obtain ⟨events, hread, hlength, -⟩ := readEvents_eq hlog c.roomId c.lastQueued
      (queueLimit - c.queue.length + 1)
    rw [hread]
    cases fails with
    | true => exact c.cleaned_cleanup
    | false =>
        rw [if_neg Bool.false_ne_true]
        dsimp only
        rw [if_pos (by omega)]
        exact c.cleaned_cleanup

theorem Sound.heartbeat (h : c.Sound queueLimit db) (w : Write) :
    (c.heartbeat w).Sound queueLimit db := by
  rw [Client.heartbeat]
  split
  · exact h
  · next hquiet =>
      have hwritten : Tracks queueLimit db { c with written := c.written ++ [heartbeatFrame] } := {
        h.toTracks with
        inOrder := by simpa [sent] using h.inOrder
        queued := by simpa [sent] using h.queued }
      have hwrite : (c.write heartbeatFrame w).Tracks queueLimit db := by
        rw [write]
        split
        · exact hwritten.cleanup
        · exact hwritten
      split
      · exact hwrite.cleanup_sound
      · exact (hwrite.waiting true).sound (.inr (.inl rfl))
      · refine hwrite.sound ?_
        by_cases hopen : (c.write heartbeatFrame w).cleaned = false
        · rw [queue_write _ _ _ hopen]
          simp at hquiet
          exact .inr (.inr hquiet.2)
        · exact .inl (by simpa using hopen)

end Client

/-! ## What a callback does to a client -/

/-- A later state of a client: what was written stays written, and once it is cleaned up
nothing is written any more. -/
structure Client.Follows (c c' : Client) : Prop where
  roomId : c'.roomId = c.roomId
  after : c'.after = c.after
  written : c.written <+: c'.written
  closed : c.cleaned = true → c'.cleaned = true ∧ c'.written = c.written

namespace Client

variable {queueLimit : ℕ} {db : Db} {c c' c'' : Client}

theorem Follows.refl (c : Client) : c.Follows c := ⟨rfl, rfl, List.prefix_rfl, fun h => ⟨h, rfl⟩⟩

theorem Follows.trans (h : c.Follows c') (h' : c'.Follows c'') : c.Follows c'' where
  roomId := h'.roomId.trans h.roomId
  after := h'.after.trans h.after
  written := h.written.trans h'.written
  closed hc :=
    have hc' := h.closed hc
    have hc'' := h'.closed hc'.1
    ⟨hc''.1, hc''.2.trans hc'.2⟩

/-- A step that only writes while the client is open. -/
theorem Follows.of_open (hopen : c.cleaned = false) (hroom : c'.roomId = c.roomId)
    (hafter : c'.after = c.after) (hwritten : c.written <+: c'.written) : c.Follows c' :=
  ⟨hroom, hafter, hwritten, fun h => by rw [hopen] at h; cases h⟩

/-- A step that only touches the queue and what is known of the response. -/
theorem Follows.of_eq (hroom : c'.roomId = c.roomId) (hafter : c'.after = c.after)
    (hwritten : c'.written = c.written) (hcleaned : c'.cleaned = c.cleaned) : c.Follows c' :=
  ⟨hroom, hafter, hwritten ▸ List.prefix_rfl, fun h => ⟨hcleaned.trans h, hwritten⟩⟩

theorem follows_cleanup (c : Client) : c.Follows c.cleanup := by
  rw [cleanup]
  split
  · exact .refl c
  · next hopen => exact .of_open (by simpa using hopen) rfl rfl List.prefix_rfl

theorem follows_write (hopen : c.cleaned = false) (chunk : JsString) (w : Write) :
    c.Follows (c.write chunk w) := by
  have hwritten : c.Follows { c with written := c.written ++ [chunk] } :=
    .of_open hopen rfl rfl (List.prefix_append _ _)
  rw [write]
  split
  · exact hwritten.trans (follows_cleanup _)
  · exact hwritten

theorem follows_flushQueue (queue : List JsString) (hopen : c.cleaned = false)
    (writes : ℕ → Write) : c.Follows (flushQueue writes queue c) := by
  induction queue generalizing c writes with
  | nil => exact .refl c
  | cons frame queue ih =>
      have hshift : c.Follows { c with queue }.notifyQueueSize := .of_eq rfl rfl rfl rfl
      have hopen' : { c with queue }.notifyQueueSize.cleaned = false := hopen
      have hwrite := hshift.trans (follows_write hopen' frame (writes 0))
      rw [flushQueue]
      split
      · exact hwrite.trans (follows_cleanup _)
      · exact hwrite.trans (.of_eq rfl rfl rfl rfl)
      · split
        · exact hwrite
        · next hstill => exact hwrite.trans (ih (by simpa using hstill) _)

theorem follows_flush (writes : ℕ → Write) (c : Client) : c.Follows (c.flush writes) := by
  rw [flush]
  split
  · exact .refl c
  · next hready =>
      simp only [Bool.or_eq_true, not_or, Bool.not_eq_true] at hready
      exact follows_flushQueue _ hready.1 writes

theorem follows_drain (writes : ℕ → Write) (c : Client) : c.Follows (c.drain writes) := by
  have hready : c.Follows { c with waitingForDrain := false } := .of_eq rfl rfl rfl rfl
  exact hready.trans (follows_flush writes _)

theorem follows_pushes (events : List ReplayedEvent) (c : Client) :
    c.Follows (events.foldl push c) := by
  induction events generalizing c with
  | nil => exact .refl c
  | cons e events ih =>
      have hpush : c.Follows (c.push e) := .of_eq rfl rfl rfl rfl
      exact hpush.trans (ih (c.push e))

theorem follows_poll (queueLimit : ℕ) (db : Db) (fails : Bool) (writes : ℕ → Write) (c : Client) :
    c.Follows (c.poll queueLimit db fails writes) := by
  rw [poll]
  dsimp only
  split
  · exact .refl c
  · split
    · exact follows_cleanup c
    · split
      · exact follows_cleanup c
      · exact (follows_pushes _ c).trans (follows_flush writes _)

theorem follows_heartbeat (w : Write) (c : Client) : c.Follows (c.heartbeat w) := by
  rw [heartbeat]
  split
  · exact .refl c
  · next hquiet =>
      simp only [Bool.or_eq_true, not_or, Bool.not_eq_true] at hquiet
      have hwrite := follows_write hquiet.1.1 heartbeatFrame w
      split
      · exact hwrite.trans (follows_cleanup _)
      · exact hwrite.trans (.of_eq rfl rfl rfl rfl)
      · exact hwrite

end Client

/-! ## Runs -/

/-- The room services and the client, once it is connected. -/
structure State where
  rooms : Runtime.System
  client : Option Client := none

inductive Label
  | room (l : Runtime.Label)
  | connect | poll | drain | heartbeat | close

variable {host : Host} {queueLimit : ℕ}

/-- Steps of the stream. -/
inductive Step (host : Host) (queueLimit : ℕ) : State → Label → State → Prop
  | room (s : State) (l : Runtime.Label) (rooms : Runtime.System) :
      Runtime.Step host s.rooms l rooms → Step host queueLimit s (.room l) { s with rooms }
  | connect (s : State) (roomId : RoomId) (after : ℕ) (fails : Bool) (writes : ℕ → Write) :
      s.client = none → Step host queueLimit s .connect { s with
        client := some (EventStream.connect queueLimit s.rooms.db fails writes roomId after) }
  | poll (s : State) (c : Client) (fails : Bool) (writes : ℕ → Write) :
      s.client = some c → Step host queueLimit s .poll
        { s with client := some (c.poll queueLimit s.rooms.db fails writes) }
  | drain (s : State) (c : Client) (writes : ℕ → Write) :
      s.client = some c → Step host queueLimit s .drain { s with client := some (c.drain writes) }
  | heartbeat (s : State) (c : Client) (w : Write) :
      s.client = some c →
        Step host queueLimit s .heartbeat { s with client := some (c.heartbeat w) }
  | close (s : State) (c : Client) :
      s.client = some c → Step host queueLimit s .close { s with client := some c.cleanup }

def streamSystem (host : Host) (queueLimit : ℕ) :
    TransitionSystem State Label where
  init s := (Runtime.roomSystem host Runtime.Fresh).init s.rooms ∧ s.client = none
  step := Step host queueLimit

/-! ## The stream -/

theorem Client.sound_new (queueLimit : ℕ) (db : Db) (roomId : RoomId) (after : ℕ) :
    Client.Sound queueLimit db { roomId, after, lastQueued := after } where
  inOrder := inOrder_nil
  queued _ := rfl
  emptied := nofun
  bounded := Nat.zero_le _
  reported := nofun
  idle _ _ := rfl

/-- What holds in every reachable state: the rooms keep their invariant, and the client
is up with the log. -/
structure Inv (host : Host) (queueLimit : ℕ) (s : State) : Prop where
  rooms : Runtime.Inv host s.rooms
  client : ∀ c, s.client = some c → c.Sound queueLimit s.rooms.db

variable {s t : State} {l : Label}

theorem Inv.contiguous (h : Inv host queueLimit s) :
    Runtime.Contiguous s.rooms.db.events fun roomId => s.rooms.db.next roomId :=
  h.rooms.integrity.contiguous

theorem rooms_inductive :
    (Runtime.roomSystem host Runtime.Fresh).Inductive (Runtime.Inv host) :=
  Runtime.inv_inductive fun _ h => h

theorem Inv.step (h : Inv host queueLimit s) (hstep : Step host queueLimit s l t) :
    Inv host queueLimit t := by
  have hone : ∀ {c' : Client}, c'.Sound queueLimit s.rooms.db →
      Inv host queueLimit { s with client := some c' } := by
    intro c' hsound
    refine ⟨h.rooms, fun c hc => ?_⟩
    obtain rfl := Option.some.inj hc
    exact hsound
  cases hstep with
  | room l rooms hroom =>
      refine ⟨rooms_inductive.step _ _ _ h.rooms hroom, fun c hc => ?_⟩
      obtain ⟨_, hchange, _⟩ := hroom.commits h.rooms.executions
      exact (h.client c hc).mono hchange.eventsKept
  | connect roomId after fails writes _ =>
      exact hone ((Client.sound_new _ _ _ _).poll h.contiguous fails writes)
  | poll c fails writes hc => exact hone ((h.client c hc).poll h.contiguous fails writes)
  | drain c writes hc => exact hone ((h.client c hc).drain writes)
  | heartbeat c w hc => exact hone ((h.client c hc).heartbeat w)
  | close c hc => exact hone (h.client c hc).toTracks.cleanup_sound

theorem inv_inductive : (streamSystem host queueLimit).Inductive (Inv host queueLimit) where
  init s hs := by
    refine ⟨rooms_inductive.init _ hs.1, fun c hc => ?_⟩
    rw [hs.2] at hc
    cases hc
  step _ _ _ h hstep := h.step hstep

/-- A client stays, and its later states follow its earlier ones. -/
def State.ClientKept (s t : State) : Prop :=
  ∀ c, s.client = some c → ∃ c', t.client = some c' ∧ c.Follows c'

theorem Step.clientKept (hstep : Step host queueLimit s l t) : s.ClientKept t := by
  have hone : ∀ {c c' : Client}, s.client = some c → c.Follows c' →
      s.ClientKept { s with client := some c' } := by
    intro c c' hc hfollows d hd
    obtain rfl := Option.some.inj (hc.symm.trans hd)
    exact ⟨c', rfl, hfollows⟩
  cases hstep with
  | room l rooms hroom => exact fun c hc => ⟨c, hc, .refl c⟩
  | connect roomId after fails writes hnone =>
      intro c hc
      rw [hnone] at hc
      cases hc
  | poll c fails writes hc => exact hone hc (c.follows_poll _ _ fails writes)
  | drain c writes hc => exact hone hc (c.follows_drain writes)
  | heartbeat c w hc => exact hone hc (c.follows_heartbeat w)
  | close c hc => exact hone hc c.follows_cleanup

/-- **The stream has no gap.**  Whatever the order of appended events, polls, writes that
fill the response, drains, heartbeats, errors and disconnects, what a client was sent are
the frames of the events after its cursor, one by one; the queue goes on from there and
stays within its limit; and a client too slow for it is cleaned up, after which nothing is
written to it. -/
theorem stream_gapless (hs : (streamSystem host queueLimit).Reachable s) {c : Client}
    (hc : s.client = some c) :
    InOrder s.rooms.db c.roomId c.after c.sent ∧
    (c.cleaned = false → InOrder s.rooms.db c.roomId c.after (c.sent ++ c.queue) ∧
      c.lastQueued = c.after + (c.sent ++ c.queue).length) ∧
    c.queue.length ≤ queueLimit ∧ (∀ size ∈ c.sizes, size ≤ queueLimit) ∧
    (c.waitingForDrain = true →
      queueLimit - c.queue.length < lastSequence s.rooms.db c.roomId - c.lastQueued →
      ∀ fails writes, (c.poll queueLimit s.rooms.db fails writes).cleaned = true) ∧
    (∀ ls t, (streamSystem host queueLimit).Run s ls t →
      ∃ c', t.client = some c' ∧ c.Follows c') := by
  have hinv := inv_inductive.reachable hs
  have hsound := hinv.client c hc
  refine ⟨(inOrder_append.mp hsound.inOrder).1, fun hopen => ⟨hsound.inOrder, hsound.queued hopen⟩,
    hsound.bounded, hsound.reported, ?_, ?_⟩
  · intro hwaiting hbehind fails writes
    exact Client.cleaned_poll hinv.contiguous hwaiting hbehind fails writes
  · intro ls t hrun
    have hkept : s.ClientKept t := inv_inductive.relates (fun _ c hc => ⟨c, hc, .refl c⟩)
      (fun _ _ _ h h' c hc =>
        let ⟨c', hc', hf⟩ := h c hc
        let ⟨c'', hc'', hf'⟩ := h' c' hc'
        ⟨c'', hc'', hf.trans hf'⟩)
      (fun _ _ _ _ hstep => hstep.clientKept) hs hrun
    exact hkept c hc

theorem reachable_rooms {rooms : Runtime.System}
    (h : (Runtime.roomSystem host Runtime.Fresh).Reachable rooms) :
    (streamSystem host queueLimit).Reachable ⟨rooms, none⟩ := by
  obtain ⟨rooms₀, ls, hinit, hrun⟩ := h
  have hreachable : ∀ {rooms₁ rooms₂ : Runtime.System} {ls : List Runtime.Label},
      (Runtime.roomSystem host Runtime.Fresh).Run rooms₁ ls rooms₂ →
      (streamSystem host queueLimit).Reachable ⟨rooms₁, none⟩ →
      (streamSystem host queueLimit).Reachable ⟨rooms₂, none⟩ := by
    intro _ _ _ hrun
    induction hrun with
    | nil => exact id
    | cons hroom _ ih => exact fun hs => ih (hs.step (.room _ _ _ hroom))
  exact hreachable hrun (.of_init ⟨hinit, rfl⟩)

namespace Hello

open Runtime.Hello

/-- The first frame fills the response. -/
def connected : Client := connect 2 s₈.db false (fun _ => { result := .full }) roomId 0

/-- A poll while the response is full. -/
def blocked : Client := connected.poll 2 s₉.db false fun _ => { result := .more }

def drained : Client := blocked.drain fun _ => { result := .more }

theorem reachable : (streamSystem Runtime.Hello.host 2).Reachable ⟨s₉, some drained⟩ := by
  have hrooms : (streamSystem Runtime.Hello.host 2).Reachable ⟨s₈, none⟩ :=
    reachable_rooms Runtime.Hello.reachable
  have hconnect : (streamSystem Runtime.Hello.host 2).Reachable ⟨s₈, some connected⟩ :=
    hrooms.step (.connect ⟨s₈, none⟩ roomId 0 false _ rfl)
  have happend : (streamSystem Runtime.Hello.host 2).Reachable ⟨s₉, some connected⟩ :=
    hconnect.step (.room ⟨s₈, some connected⟩ _ s₉ completes)
  have hpoll : (streamSystem Runtime.Hello.host 2).Reachable ⟨s₉, some blocked⟩ :=
    happend.step (.poll ⟨s₉, some connected⟩ connected false _ rfl)
  exact hpoll.step (.drain ⟨s₉, some blocked⟩ blocked _ rfl)

end Hello

theorem stream_gapless_hello :
    InOrder Runtime.Hello.s₉.db Hello.drained.roomId Hello.drained.after Hello.drained.sent ∧
      Hello.drained.after = 0 ∧ Hello.drained.sent.length = 3 ∧
      Hello.drained.sizes = [1, 2, 1, 2, 1, 0] :=
  ⟨(stream_gapless Hello.reachable rfl).1, by decide +kernel⟩

end GreenRoom.Api.EventStream
