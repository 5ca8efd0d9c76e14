import GreenRoom.Runtime.ExactlyOnce

/-!
# The log under all operations

The integrity of the log, along every run of the services, and what an operation that
fails leaves behind.

## Main results

* `Step.unchanged` — a transaction that throws, and whatever is no transaction, leaves the
  tables of the rooms alone.
* `event_log_integrity`
-/

namespace GreenRoom.Runtime

open GreenRoom.Core

/-- The `events`, `rooms`, `director_state` and `commands` tables are the same. -/
structure SameTables (db db' : Db) : Prop where
  events : db'.events = db.events
  rooms : db'.rooms = db.rooms
  directorState : db'.directorState = db.directorState
  commands : db'.commands = db.commands

theorem SameTables.of_eq {db db' : Db} (h : db' = db) : SameTables db db' := by
  subst h
  exact ⟨rfl, rfl, rfl, rfl⟩

theorem sameTables_of_thrown {α : Type} {action : DbProgram α} {faults : Faults JsError}
    {db db' : Db} {answer : Except JsError α} (h : transact faults action db = (answer, db'))
    (hthrown : thrownBy answer ≠ none) : SameTables db db' := by
  cases answer with
  | error error => exact .of_eq (transact_error h)
  | ok a => exact absurd rfl hthrown

variable {host : Host} {s t : System} {l : Label}

/-- Only a transaction that returns writes to these tables. -/
theorem Step.unchanged (h : Step host s l t) (hl : l = .other ∨ l.error ≠ none) :
    SameTables s.db t.db := by
  cases h with
  | prepare token e service faults clock answer db' _ _ _ _ ht =>
      obtain ⟨grants, granted, hgrant⟩ :=
        System.grantIfClaimed_frame e.key token answer (s.commit (some e.key) db')
      rw [hgrant]
      exact sameTables_of_thrown ht (by simpa [Label.error] using hl)
  | pin token e service pending faults answer db' _ _ _ ht =>
      exact sameTables_of_thrown ht (by simpa [Label.error] using hl)
  | renew token e service faults clock answer db' _ _ _ _ _ _ ht =>
      exact sameTables_of_thrown ht (by simpa [Label.error] using hl)
  | discard token e pending error faults answer db' _ _ ht =>
      exact sameTables_of_thrown ht (by simpa [Label.error] using hl)
  | release token e pending error faults answer db' _ _ ht =>
      exact sameTables_of_thrown ht (by simpa [Label.error] using hl)
  | complete token e service pending generated work faults clock answer db' _ _ _ _ ht =>
      exact sameTables_of_thrown ht (by simpa [Label.error] using hl)
  | roomControl id service kind command faults answer db' _ _ ht =>
      exact sameTables_of_thrown ht (by simpa [Label.error] using hl)
  | personaControl id service kind command faults answer db' _ _ ht =>
      exact sameTables_of_thrown ht (by simpa [Label.error] using hl)
  | replaceCast id service uuids command faults answer db' _ _ ht =>
      exact sameTables_of_thrown ht (by simpa [Label.error] using hl)
  | selectRoom command faults answer db' ht =>
      exact sameTables_of_thrown ht (by simpa [Label.error] using hl)
  | closeRelease token e service faults answer db' _ _ _ _ ht =>
      exact sameTables_of_thrown ht (by simpa [Label.error] using hl)
  | providers db' hchange =>
      obtain ⟨providers, rfl⟩ := hchange.frame
      exact ⟨rfl, rfl, rfl, rfl⟩
  | _ => exact .of_eq rfl

/-- **The log of every room is whole.**  In every reachable state the sequences of a room's
events are those from 1 up to the next one; a message is followed by the decision on
it, and a reply names a message of the room and is spoken by whom the decision on it
names.  No step alters or removes an event, and what is no transaction, or one that
throws, leaves the tables as they were. -/
theorem event_log_integrity (hs : (roomSystem host Fresh).Reachable s) :
    (∀ roomId n, (∃ event, s.db.event roomId n = some event) ↔
      ∃ room, s.db.rooms.lookup roomId = some room ∧ 1 ≤ n ∧ n < room.nextEventSequence) ∧
    (∀ roomId n participantId text,
      s.db.event roomId n = some (.humanMessage participantId text) →
        ∃ decision, s.db.event roomId (n + 1) = some (.directorDecision n decision)) ∧
    (∀ roomId n speaker source text,
      s.db.event roomId n = some (.personaMessage speaker source text) →
        ∃ participantId text decision,
          s.db.event roomId source = some (.humanMessage participantId text) ∧
          s.db.event roomId (source + 1) = some (.directorDecision source decision) ∧
          decision.speaker = some speaker) ∧
    (∀ ls t, (roomSystem host Fresh).Run s ls t → ∀ roomId n event,
      s.db.event roomId n = some event → t.db.event roomId n = some event) ∧
    (∀ l t, Step host s l t → l = .other ∨ l.error ≠ none → SameTables s.db t.db) := by
  have hinv : (roomSystem host Fresh).Inductive (Inv host) := inv_inductive fun _ h => h
  have h := (hinv.reachable hs).integrity
  refine ⟨fun roomId n => ?_, h.followed, h.rooted, ?_, fun l t hstep => hstep.unchanged⟩
  · have hexact := h.contiguous.exact roomId n
    rw [← Db.event_ne_none, Option.ne_none_iff_exists'] at hexact
    rw [hexact]
    constructor
    · rintro ⟨next, hnext, hpos, hlt⟩
      obtain ⟨room, hroom, rfl⟩ := Option.map_eq_some_iff.mp hnext
      exact ⟨room, hroom, hpos, hlt⟩
    · rintro ⟨room, hroom, hpos, hlt⟩
      exact ⟨room.nextEventSequence, by rw [Db.next, hroom]; rfl, hpos, hlt⟩
  · intro ls t hrun
    refine hinv.relates (R := fun s t => s.db.EventsKept t.db) (fun s => .refl s.db)
      (fun _ _ _ => .trans) (fun _ _ _ h hstep => ?_) hs hrun
    obtain ⟨_, hchange, _⟩ := hstep.commits h.executions
    exact hchange.eventsKept

theorem event_log_integrity_hello :
    ∃ decision, Hello.s₉.db.event Hello.roomId 2 = some (.directorDecision 1 decision) :=
  (event_log_integrity (Hello.reachable.step Hello.completes)).2.1 Hello.roomId 1
    (JsString.ofString "you") (JsString.ofString "Hello") rfl

end GreenRoom.Runtime
