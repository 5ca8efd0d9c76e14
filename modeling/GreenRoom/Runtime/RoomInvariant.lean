import GreenRoom.Runtime.RoomSteps

/-!
# The invariant of the services

## Main definitions

* `JournalOf` — the journal is the log, and every event has its author.
* `Inv` — the invariant.

## Main results

* `Inv.step` — every step keeps it.
* `inv_inductive` — it holds in every reachable state.
-/

namespace GreenRoom.Runtime

open GreenRoom.Core Providers

section

variable {host : Host}

/-- The entry is of the author's command. -/
def Entry.Explained (db : Db) (x : Entry) : Prop :=
  match x.event with
  | .roomStarted _ => x.author = none
  | .humanMessage _ _ => ∃ key q, x.author = some key ∧ key.1 = x.roomId ∧
      db.question key = some q ∧ q.sequence = x.sequence
  | .directorDecision _ _ => ∃ key q, x.author = some key ∧ key.1 = x.roomId ∧
      db.question key = some q ∧ q.sequence + 1 = x.sequence
  | .personaMessage _ _ _ => ∃ key, x.author = some key ∧ key.1 = x.roomId ∧
      db.reply key = some x.sequence

/-- The journal is the log, with the author of each event. -/
structure JournalOf (journal : List Entry) (db : Db) : Prop where
  exact : ∀ roomId n event, db.event roomId n = some event ↔
    ∃ author, ⟨author, roomId, n, event⟩ ∈ journal
  once : (journal.map fun x => (x.roomId, x.sequence)).Nodup
  explained : ∀ x ∈ journal, x.Explained db

variable (host) in
structure Inv (s : System) : Prop where
  integrity : LogIntegrity s.db
  executions : ExecutionsValid host s
  granted : ∀ key g, s.granted key = some g → g.id < s.grants ∧
    ∃ e, s.executions.lookup g.token = some e ∧ e.key = key ∧ e.grant = some g.id
  claims : ∀ key c, s.db.claim key = some c → ∃ g, s.granted key = some g ∧ g.token = c.owner
  inFlight : ∀ id service key token, s.services.lookup id = some service →
    service.inFlight.lookup key = some token →
      ∃ e, s.executions.lookup token = some e ∧ e.key = key
  callers : ∀ caller ∈ s.callers, ∃ e, s.executions.lookup caller.token = some e ∧
    e.key = caller.command.key ∧ e.requestDigest = caller.command.digest host
  works : ∀ work w, s.works.lookup work = some w → w.grant < s.grants
  journal : JournalOf s.journal s.db

theorem Step.integrity {s t : System} {l : Label} (h : Inv host s) (hstep : Step host s l t) :
    LogIntegrity t.db := by
  obtain ⟨author, hchange, -⟩ := hstep.commits h.executions
  exact h.integrity.change hchange

theorem Step.recordsKept {s t : System} {l : Label} (h : Inv host s)
    (hstep : Step host s l t) : s.db.RecordsKept t.db := by
  obtain ⟨author, hchange, -⟩ := hstep.commits h.executions
  exact hchange.recordsKept

theorem ClaimEffect.grants_le {s t : System} {l : Label} (h : ClaimEffect s l t) :
    s.grants ≤ t.grants := by
  cases h with
  | kept _ hgrants _ => exact hgrants.ge
  | renewed key token now _ _ hgrants _ => exact hgrants.ge
  | granted token e e' expiresAt _ _ _ _ _ hgrants _ => omega

theorem Step.executionsValid {s t : System} {l : Label} (h : Inv host s)
    (hstep : Step host s l t) : ExecutionsValid host t := by
  have hexecutions := hstep.executions h.executions
  intro token e' he'
  rcases he : s.executions.lookup token with - | e
  · obtain ⟨hphase, hgrant, hdigest, hnormal⟩ := hexecutions.new token e' he he'
    exact .of_new hphase hgrant hdigest hnormal
  · obtain ⟨e₁, he₁, hcall, hadvance⟩ := hexecutions.kept token e he
    obtain rfl := Option.some.inj (he'.symm.trans he₁)
    exact (h.executions token e he).advance (hstep.recordsKept h) hstep.works
      (hstep.claims h.executions).grants_le hcall hadvance

/-- An execution keeps its last grant, unless it is granted a claim. -/
theorem Execution.Advance.grant {s t : System} {token : Token} {e e' : Execution}
    (h : e.Advance s t token e') : e'.grant = e.grant ∨
      (t.grants = s.grants + 1 ∧ t.granted e.key = some ⟨s.grants, token⟩) := by
  cases h with
  | claimed pending _ _ _ hgrants hgranted => exact .inr ⟨hgrants, hgranted⟩
  | same _ h => exact .inl h
  | idle _ _ h => exact .inl h
  | inside _ _ _ _ _ h => exact .inl h
  | started _ _ _ _ _ _ h => exact .inl h
  | withoutResult _ _ _ _ h => exact .inl h
  | delivered _ _ _ _ _ _ _ h => exact .inl h
  | returned _ _ _ h => exact .inl h

theorem Step.granted {s t : System} {l : Label} (h : Inv host s) (hstep : Step host s l t)
    (key : CommandKey) (g : Grant) (hg : t.granted key = some g) : g.id < t.grants ∧
      ∃ e, t.executions.lookup g.token = some e ∧ e.key = key ∧ e.grant = some g.id := by
  have hexecutions := hstep.executions h.executions
  have hclaims := hstep.claims h.executions
  -- A grant that was there before, on a command that has not been granted again.
  have hold : s.granted key = some g → g.id < t.grants ∧
      ∃ e, t.executions.lookup g.token = some e ∧ e.key = key ∧ e.grant = some g.id := by
    intro hs
    obtain ⟨hlt, e, he, hkey, hgrant⟩ := h.granted key g hs
    obtain ⟨e', he', hcall, hadvance⟩ := hexecutions.kept g.token e he
    refine ⟨hlt.trans_le hclaims.grants_le, e', he', hcall.key.trans hkey, ?_⟩
    rcases hadvance.grant with heq | ⟨-, hnew⟩
    · rw [heq, hgrant]
    · rw [hkey, hg] at hnew
      rw [Option.some.inj hnew] at hlt
      exact absurd hlt (lt_irrefl _)
  cases hclaims with
  | kept _ _ hgranted => exact hold (hgranted ▸ hg)
  | renewed key' token now _ _ _ hgranted => exact hold (hgranted ▸ hg)
  | granted token e e' expiresAt he he' hcall hgrant _ hgrants hgranted =>
      rw [hgranted] at hg
      simp only [System.grant] at hg
      split at hg
      · next hk =>
          obtain rfl := Option.some.inj hg
          exact ⟨hgrants ▸ Nat.lt_succ_self _, e', he', hcall.key.trans hk.symm, hgrant⟩
      · exact hold hg

theorem Step.claimed {s t : System} {l : Label} (h : Inv host s) (hstep : Step host s l t)
    (key : CommandKey) (c : Claim) (hc : t.db.claim key = some c) :
    ∃ g, t.granted key = some g ∧ g.token = c.owner := by
  cases hstep.claims h.executions with
  | kept hclaims _ hgranted =>
      rw [hgranted]
      rcases hclaims key with hk | hk
      · exact h.claims key c (hk ▸ hc)
      · rw [hk] at hc
        cases hc
  | renewed key' token now _ hclaims _ hgranted =>
      rw [hgranted]
      rcases hclaims key with hk | ⟨-, expiresAt, expiresAt', hold, -, hnew⟩
      · exact h.claims key c (hk ▸ hc)
      · obtain rfl := Option.some.inj (hnew.symm.trans hc)
        obtain ⟨g, hg, htoken⟩ := h.claims key _ hold
        exact ⟨g, hg, htoken⟩
  | granted token e e' expiresAt he he' hcall hgrant hclaims hgrants hgranted =>
      rw [hclaims] at hc
      rw [hgranted]
      simp only [System.grant]
      split at hc
      · next hk =>
          obtain rfl := Option.some.inj hc
          exact ⟨_, if_pos hk, rfl⟩
      · next hk =>
          rw [if_neg hk]
          exact h.claims key c hc

/-- An execution is found again, with its command. -/
theorem Step.found {s t : System} {l : Label} (h : Inv host s) (hstep : Step host s l t)
    {token : Token} {e : Execution} (he : s.executions.lookup token = some e) :
    ∃ e', t.executions.lookup token = some e' ∧ e'.key = e.key ∧
      e'.requestDigest = e.requestDigest := by
  obtain ⟨e', he', hcall, -⟩ := (hstep.executions h.executions).kept token e he
  exact ⟨e', he', hcall.key, hcall.requestDigest⟩

theorem Step.inFlight {s t : System} {l : Label} (h : Inv host s) (hstep : Step host s l t)
    (id : ServiceId) (service : Service) (key : CommandKey) (token : Token)
    (hs : t.services.lookup id = some service) (hk : service.inFlight.lookup key = some token) :
    ∃ e, t.executions.lookup token = some e ∧ e.key = key := by
  -- What was in flight before still is an execution of its command.
  have hold : ∀ service', s.services.lookup id = some service' →
      service'.inFlight.lookup key = some token →
        ∃ e, t.executions.lookup token = some e ∧ e.key = key := by
    intro service' hs' hk'
    obtain ⟨e, he, hkey⟩ := h.inFlight id service' key token hs' hk'
    obtain ⟨e', he', hkey', -⟩ := hstep.found h he
    exact ⟨e', he', hkey'.trans hkey⟩
  cases hstep with
  | openService id' options hnew =>
      by_cases hid : id = id'
      · subst hid
        obtain rfl := Option.some.inj ((AList.lookup_insert _).symm.trans hs)
        cases hk
      · exact hold service ((AList.lookup_insert_ne hid).symm.trans hs) hk
  | call id' service' raw command token' hs' _ _ _ hnew =>
      by_cases hid : id = id'
      · subst hid
        obtain rfl := Option.some.inj ((AList.lookup_insert _).symm.trans hs)
        by_cases hkey : key = command.key
        · subst hkey
          obtain rfl := Option.some.inj ((AList.lookup_insert _).symm.trans hk)
          exact ⟨_, AList.lookup_insert _, rfl⟩
        · exact hold service' hs' ((AList.lookup_insert_ne hkey).symm.trans hk)
      · exact hold service ((AList.lookup_insert_ne hid).symm.trans hs) hk
  | settleCall id' service' key' token' e hs' _ _ _ =>
      by_cases hid : id = id'
      · subst hid
        obtain rfl := Option.some.inj ((AList.lookup_insert _).symm.trans hs)
        refine hold service' hs' ?_
        rw [KeyedTable.lookup_erase] at hk
        split at hk
        · cases hk
        · exact hk
      · exact hold service ((AList.lookup_insert_ne hid).symm.trans hs) hk
  | close id' service' hs' =>
      by_cases hid : id = id'
      · subst hid
        obtain rfl := Option.some.inj ((AList.lookup_insert _).symm.trans hs)
        exact hold service' hs' hk
      · exact hold service ((AList.lookup_insert_ne hid).symm.trans hs) hk
  | crash id' =>
      refine hold service ?_ hk
      have hs₀ : (s.services.erase id').lookup id = some service := hs
      rw [KeyedTable.lookup_erase] at hs₀
      split at hs₀
      · cases hs₀
      · exact hs₀
  | prepare token' e service' faults clock answer db' _ _ _ _ _ =>
      obtain ⟨grants, granted, hgrant⟩ :=
        System.grantIfClaimed_frame e.key token' answer (s.commit (some e.key) db')
      rw [hgrant] at hs
      exact hold service hs hk
  | _ => exact hold service hs hk

theorem Step.callers {s t : System} {l : Label} (h : Inv host s) (hstep : Step host s l t)
    (caller : Caller) (hcaller : caller ∈ t.callers) :
    ∃ e, t.executions.lookup caller.token = some e ∧ e.key = caller.command.key ∧
      e.requestDigest = caller.command.digest host := by
  have hold : caller ∈ s.callers → ∃ e, t.executions.lookup caller.token = some e ∧
      e.key = caller.command.key ∧ e.requestDigest = caller.command.digest host := by
    intro hs
    obtain ⟨e, he, hkey, hdigest⟩ := h.callers caller hs
    obtain ⟨e', he', hkey', hdigest'⟩ := hstep.found h he
    exact ⟨e', he', hkey'.trans hkey, hdigest'.trans hdigest⟩
  cases hstep with
  | call id service raw command token _ _ _ _ hnew =>
      rcases List.mem_cons.mp hcaller with rfl | hcaller
      · exact ⟨_, AList.lookup_insert _, rfl, rfl⟩
      · exact hold hcaller
  | join id service raw command token e hs _ _ hk he hdigest =>
      rcases List.mem_cons.mp hcaller with rfl | hcaller
      · obtain ⟨e', he', hkey⟩ := h.inFlight id service command.key token hs hk
        obtain rfl := Option.some.inj (he.symm.trans he')
        exact ⟨e, he, hkey, hdigest⟩
      · exact hold hcaller
  | prepare token' e service' faults clock answer db' _ _ _ _ _ =>
      obtain ⟨grants, granted, hgrant⟩ :=
        System.grantIfClaimed_frame e.key token' answer (s.commit (some e.key) db')
      rw [hgrant] at hcaller
      exact hold hcaller
  | _ => exact hold hcaller

theorem Step.workGrants {s t : System} {l : Label} (h : Inv host s) (hstep : Step host s l t)
    (work : ℕ) (w : Work) (hw : t.works.lookup work = some w) : w.grant < t.grants := by
  have hle := (hstep.claims h.executions).grants_le
  cases hstep with
  | startWork token e pending d speaker personaId work' grant he _ _ _ _ hgrant =>
      by_cases hwork : work = work'
      · subst hwork
        obtain rfl := Option.some.inj ((AList.lookup_insert _).symm.trans hw)
        exact ((h.executions _ _ he).granted grant hgrant).trans_le hle
      · exact (h.works work w ((AList.lookup_insert_ne hwork).symm.trans hw)).trans_le hle
  | settleWork work' w' outcome hw' _ =>
      by_cases hwork : work = work'
      · subst hwork
        obtain rfl := Option.some.inj ((AList.lookup_insert _).symm.trans hw)
        exact h.works work w' hw'
      · exact h.works work w ((AList.lookup_insert_ne hwork).symm.trans hw)
  | prepare token' e service' faults clock answer db' _ _ _ _ _ =>
      obtain ⟨grants, granted, hgrant⟩ :=
        System.grantIfClaimed_frame e.key token' answer (s.commit (some e.key) db')
      rw [hgrant] at hw
      exact (h.works work w hw).trans_le hle
  | _ => exact (h.works work w hw).trans_le hle

theorem mem_newEvents {db db' : Db} {roomId : RoomId} {n : ℕ} {event : RoomEvent} :
    (⟨(roomId, n), event⟩ : (_ : RoomId × ℕ) × RoomEvent) ∈ System.newEvents db db' ↔
      db'.event roomId n = some event ∧ db.event roomId n = none := by
  rw [System.newEvents, List.mem_filter, KeyedTable.mem_entries_iff, decide_eq_true_iff,
    ← AList.lookup_eq_none]
  rfl

theorem mem_commit {s : System} {author : Option CommandKey} {db' : Db} {x : Entry} :
    x ∈ (s.commit author db').journal ↔ x ∈ s.journal ∨ (x.author = author ∧
      db'.event x.roomId x.sequence = some x.event ∧ s.db.event x.roomId x.sequence = none) := by
  rw [System.commit, List.mem_append, List.mem_map]
  refine or_congr_right ⟨?_, ?_⟩
  · rintro ⟨⟨⟨roomId, n⟩, event⟩, hmem, rfl⟩
    exact ⟨rfl, mem_newEvents.mp hmem⟩
  · rintro ⟨rfl, hnew⟩
    exact ⟨⟨(x.roomId, x.sequence), x.event⟩, mem_newEvents.mpr hnew, rfl⟩

/-- A new event is of the command whose transaction has put it into the log. -/
theorem Change.explains {author : Option CommandKey} {db db' : Db} (h : Change db db' author)
    {x : Entry} (hauthor : x.author = author)
    (hevent : db'.event x.roomId x.sequence = some x.event)
    (hnone : db.event x.roomId x.sequence = none) : x.Explained db' := by
  have hsame : db'.events ≠ db.events := by
    intro heq
    rw [Db.event, heq, ← Db.event, hnone] at hevent
    cases hevent
  -- The only event of a change that appends one.
  have hinsert : ∀ {place event}, db'.events = db.events.insert place event →
      (x.roomId, x.sequence) = place ∧ x.event = event := by
    intro place event heq
    rw [Db.event_insert heq] at hevent
    split at hevent
    · next hplace => exact ⟨hplace, (Option.some.inj hevent).symm⟩
    · rw [hnone] at hevent
      cases hevent
  obtain ⟨author', roomId, n, event⟩ := x
  simp only at hauthor hevent hnone hinsert
  subst hauthor
  cases h with
  | quiet _ h => exact absurd h.events hsame
  | opened sessionId h =>
      obtain ⟨cast, hevents⟩ := h.events
      obtain ⟨-, rfl⟩ := hinsert hevents
      rfl
  | accepted command requestDigest decision room state h =>
      obtain ⟨human, hevents, -⟩ := h.events
      have hq : db'.question command.key =
          some ⟨room.nextEventSequence, decision, room.generation⟩ := by
        rw [question_of_recordSet h.record, if_pos rfl, question_acceptedStored]
      rw [Db.event, hevents, KeyedTable.lookup_insert, KeyedTable.lookup_insert, ← Db.event,
        hnone] at hevent
      split at hevent
      · next hplace =>
          obtain ⟨rfl, rfl⟩ := Prod.mk.inj hplace
          obtain rfl := Option.some.inj hevent
          exact ⟨_, _, rfl, rfl, hq, rfl⟩
      · split at hevent
        · next hplace =>
            obtain ⟨rfl, rfl⟩ := Prod.mk.inj hplace
            obtain rfl := Option.some.inj hevent
            exact ⟨_, _, rfl, rfl, hq, rfl⟩
        · cases hevent
  | replied key requestDigest message speaker text room h =>
      obtain ⟨hplace, rfl⟩ := hinsert h.events
      obtain ⟨rfl, rfl⟩ := Prod.mk.inj hplace
      refine ⟨key, rfl, rfl, ?_⟩
      rw [reply_of_recordSet h.record, if_pos rfl]
      rfl
  | settled key requestDigest message outcome h => exact absurd h.events hsame
  | roomControlled key requestDigest result h => exact absurd h.events hsame
  | personaControlled key requestDigest result h => exact absurd h.events hsame

theorem Entry.Explained.mono {author : Option CommandKey} {db db' : Db} {x : Entry}
    (h : x.Explained db) (hchange : Change db db' author) : x.Explained db' := by
  obtain ⟨author', roomId, n, event⟩ := x
  cases event with
  | roomStarted cast => exact h
  | humanMessage participantId text =>
      obtain ⟨key, q, hauthor, hroom, hq, hs⟩ := h
      exact ⟨key, q, hauthor, hroom, hchange.question_kept hq, hs⟩
  | directorDecision source decision =>
      obtain ⟨key, q, hauthor, hroom, hq, hs⟩ := h
      exact ⟨key, q, hauthor, hroom, hchange.question_kept hq, hs⟩
  | personaMessage speaker source text =>
      obtain ⟨key, hauthor, hroom, hs⟩ := h
      exact ⟨key, hauthor, hroom, hchange.reply_kept hs⟩

theorem JournalOf.commit {s : System} {author : Option CommandKey} {db' : Db}
    (h : JournalOf s.journal s.db) (hchange : Change s.db db' author) :
    JournalOf (s.commit author db').journal db' := by
  constructor
  · intro roomId n event
    simp only [mem_commit]
    constructor
    · intro hevent
      rcases hs : s.db.event roomId n with - | event'
      · exact ⟨author, .inr ⟨rfl, hevent, rfl⟩⟩
      · obtain rfl := Option.some.inj ((hchange.eventsKept _ _ _ hs).symm.trans hevent)
        obtain ⟨author', hmem⟩ := (h.exact roomId n event').mp hs
        exact ⟨author', .inl hmem⟩
    · rintro ⟨author', hmem | ⟨-, hevent, -⟩⟩
      · exact hchange.eventsKept _ _ _ ((h.exact roomId n event).mpr ⟨author', hmem⟩)
      · exact hevent
  · rw [System.commit, List.map_append, List.map_map, List.nodup_append]
    refine ⟨h.once, ?_, ?_⟩
    · -- The places of the new events are keys of the table.
      have hkeys : ((System.newEvents s.db db').map Sigma.fst).Nodup := by
        rw [System.newEvents]
        exact (List.filter_sublist.map Sigma.fst).nodup db'.events.nodupKeys
      exact hkeys
    · rintro _ hold _ hnew rfl
      obtain ⟨⟨author', roomId, n, event⟩, hx, hplace⟩ := List.mem_map.mp hold
      obtain ⟨⟨⟨roomId', n'⟩, event'⟩, hy, hplace'⟩ := List.mem_map.mp hnew
      obtain ⟨rfl, rfl⟩ := Prod.mk.inj (hplace'.trans hplace.symm)
      have hevent := (h.exact _ _ event).mpr ⟨author', hx⟩
      rw [(mem_newEvents.mp hy).2] at hevent
      cases hevent
  · intro x hx
    rcases mem_commit.mp hx with hx | ⟨hauthor, hevent, hnone⟩
    · exact (h.explained x hx).mono hchange
    · exact hchange.explains hauthor hevent hnone

/-- The invariant is kept by every step. -/
theorem Inv.step {s t : System} {l : Label} (h : Inv host s) (hstep : Step host s l t) :
    Inv host t where
  integrity := hstep.integrity h
  executions := hstep.executionsValid h
  granted := hstep.granted h
  claims := hstep.claimed h
  inFlight := hstep.inFlight h
  callers := hstep.callers h
  works := hstep.workGrants h
  journal := by
    obtain ⟨author, hchange, hjournal⟩ := hstep.commits h.executions
    rw [hjournal]
    exact h.journal.commit hchange

theorem Inv.of_fresh {s : System} (hfresh : Fresh s.db) (hs : s = { db := s.db }) :
    Inv host s := by
  rw [hs]
  have hclaim : ∀ key, s.db.claim key = none := by
    intro key
    rw [Db.claim, hfresh.commands]
    rfl
  refine ⟨hfresh.integrity, ?_, ?_, ?_, ?_, ?_, ?_, ?_⟩
  · rintro token e ⟨⟩
  · rintro key g ⟨⟩
  · intro key c hc
    rw [hclaim] at hc
    cases hc
  · rintro id service key token ⟨⟩
  · rintro caller ⟨⟩
  · rintro work w ⟨⟩
  · refine ⟨fun roomId n event => ?_, List.nodup_nil, by simp⟩
    rw [Db.event, hfresh.events]
    simp

/-- **The invariant holds in every reachable state.** -/
theorem inv_inductive {fresh : Db → Prop} (hfresh : ∀ db, fresh db → Fresh db) :
    (roomSystem host fresh).Inductive (Inv host) where
  init s hs := .of_fresh (hfresh s.db hs.1) hs.2
  step _ _ _ hs hstep := hs.step hstep

end

end GreenRoom.Runtime
