import GreenRoom.Runtime.RoomInvariant

/-!
# Every request is answered once

However the services interleave, a command puts at most one message, one decision and
one reply into the log, a complete result never changes, and whoever is given a
result for a command is given the stored one.

## Main definitions

* `System.Received` — a caller has been given a result.
* `AnsweredOnce` — what holds in every reachable state.

## Main results

* `answered_exactly_once`
-/

namespace GreenRoom

open GreenRoom.Core

theorem Db.stored_complete {key : CommandKey} {result : CommandResult} {db : Db} :
    db.stored key = some (.complete result) ↔
      ∃ requestDigest, db.recorded key = some ⟨requestDigest, .complete result⟩ := by
  rw [Db.stored, Db.recorded]
  rcases db.commands.lookup key with - | ⟨requestDigest, pending | complete, owner, expiresAt⟩
  · simp
  · simp [CommandRow.record, Stored.unpinned]
  · simp [CommandRow.record, Stored.unpinned]

/-- A reply to the message `source`. -/
def RoomEvent.answers (source : ℕ) : RoomEvent → Bool
  | .personaMessage _ source' _ => source' = source
  | _ => false

def RoomEvent.isDirectorDecision : RoomEvent → Bool
  | .directorDecision _ _ => true
  | _ => false

namespace Runtime

/-- The caller's execution has returned the result. -/
def System.Received (s : System) (caller : Caller) (result : CommandResult) : Prop :=
  ∃ e, s.executions.lookup caller.token = some e ∧ e.phase = .returned result

/-- What a state says of the answers to commands. -/
structure AnsweredOnce (s : System) : Prop where
  /-- The journal is the log. -/
  log : ∀ roomId n event, s.db.event roomId n = some event ↔
    ∃ author, ⟨author, roomId, n, event⟩ ∈ s.journal
  places : (s.journal.map fun x => (x.roomId, x.sequence)).Nodup
  /-- Messages, decisions and replies are all put there for some command. -/
  authored : ∀ x ∈ s.journal, x.author = none → ∃ cast, x.event = .roomStarted cast
  human : ∀ key, (s.journal.countP fun x => x.author = some key && x.event.isHumanMessage) ≤ 1
  director : ∀ key,
    (s.journal.countP fun x => x.author = some key && x.event.isDirectorDecision) ≤ 1
  reply : ∀ x ∈ s.journal, x.event.isHumanMessage = true →
    (s.journal.countP fun y => y.roomId = x.roomId && y.event.answers x.sequence) ≤ 1
  /-- Whoever is given a result for a command is given the stored one. -/
  received : ∀ caller ∈ s.callers, ∀ result, s.Received caller result →
    s.db.stored caller.command.key = some (.complete result)

/-- A condition that only one of the entries meets. -/
theorem JournalOf.countP_le_one {journal : List Entry} {db : Db} (h : JournalOf journal db)
    {p : Entry → Bool}
    (hp : ∀ x ∈ journal, ∀ y ∈ journal, p x → p y → x.roomId = y.roomId ∧ x.sequence = y.sequence) :
    journal.countP p ≤ 1 := by
  have hnodup : ((journal.filter p).map fun x => (x.roomId, x.sequence)).Nodup :=
    (List.filter_sublist.map _).nodup h.once
  rw [List.countP_eq_length_filter]
  rcases hf : journal.filter p with - | ⟨x, - | ⟨y, l⟩⟩
  · simp
  · simp
  · obtain ⟨hx, hpx⟩ := List.mem_filter.mp (by rw [hf]; simp : x ∈ journal.filter p)
    obtain ⟨hy, hpy⟩ := List.mem_filter.mp (by rw [hf]; simp : y ∈ journal.filter p)
    obtain ⟨hroom, hsequence⟩ := hp x hx y hy hpx hpy
    rw [hf] at hnodup
    simp [hroom, hsequence] at hnodup

/-- A command's message has the sequence that is recorded. -/
theorem Entry.Explained.human {db : Db} {x : Entry} {key : CommandKey} (h : x.Explained db)
    (hauthor : x.author = some key) (hevent : x.event.isHumanMessage = true) :
    x.roomId = key.1 ∧ (db.question key).map Question.sequence = some x.sequence := by
  obtain ⟨author, roomId, n, event⟩ := x
  cases event with
  | humanMessage participantId text =>
      obtain ⟨key', q, hauthor', hroom, hq, hs⟩ := h
      obtain rfl := Option.some.inj (hauthor.symm.trans hauthor')
      exact ⟨hroom.symm, by rw [hq]; exact congrArg some hs⟩
  | _ => cases hevent

theorem Entry.Explained.director {db : Db} {x : Entry} {key : CommandKey} (h : x.Explained db)
    (hauthor : x.author = some key) (hevent : x.event.isDirectorDecision = true) :
    x.roomId = key.1 ∧ (db.question key).map (fun q => q.sequence + 1) = some x.sequence := by
  obtain ⟨author, roomId, n, event⟩ := x
  cases event with
  | directorDecision source decision =>
      obtain ⟨key', q, hauthor', hroom, hq, hs⟩ := h
      obtain rfl := Option.some.inj (hauthor.symm.trans hauthor')
      exact ⟨hroom.symm, by rw [hq]; exact congrArg some hs⟩
  | _ => cases hevent

/-- Two replies to one message are the same reply. -/
theorem LogIntegrity.reply_unique {db : Db} (h : LogIntegrity db) {roomId : RoomId}
    {source n n' : ℕ} {speaker speaker' : ParticipantId} {text text' : JsString}
    (he : db.event roomId n = some (.personaMessage speaker source text))
    (he' : db.event roomId n' = some (.personaMessage speaker' source text')) : n = n' := by
  obtain ⟨key, q, hroom, hq, hs, hreply⟩ := h.answered _ _ _ _ _ he
  obtain ⟨key', q', hroom', hq', hs', hreply'⟩ := h.answered _ _ _ _ _ he'
  obtain rfl := h.distinct key key' q q' hq hq' (hroom.trans hroom'.symm) (hs.trans hs'.symm)
  exact Option.some.inj (hreply.symm.trans hreply')

theorem RoomEvent.answers_iff {source : ℕ} {event : RoomEvent} :
    event.answers source = true ↔ ∃ speaker text, event = .personaMessage speaker source text := by
  cases event <;> simp [RoomEvent.answers, eq_comm]

section

variable {host : Host} {s t : System}

theorem Inv.received (h : Inv host s) {caller : Caller} (hcaller : caller ∈ s.callers)
    {result : CommandResult} (hr : s.Received caller result) :
    s.db.recorded caller.command.key =
      some ⟨caller.command.digest host, .complete result⟩ := by
  obtain ⟨e, he, hphase⟩ := hr
  obtain ⟨e', he', hkey, hdigest⟩ := h.callers caller hcaller
  obtain rfl := Option.some.inj (he.symm.trans he')
  rw [← hkey, ← hdigest]
  exact (h.executions _ _ he).returned result hphase

theorem Inv.answeredOnce (h : Inv host s) : AnsweredOnce s where
  log := h.journal.exact
  places := h.journal.once
  authored := by
    intro x hx hauthor
    have hexplained := h.journal.explained x hx
    obtain ⟨author, roomId, n, event⟩ := x
    obtain rfl : author = none := hauthor
    cases event with
    | roomStarted cast => exact ⟨cast, rfl⟩
    | humanMessage participantId text => obtain ⟨key, q, ⟨⟩, -⟩ := hexplained
    | directorDecision source decision => obtain ⟨key, q, ⟨⟩, -⟩ := hexplained
    | personaMessage speaker source text => obtain ⟨key, ⟨⟩, -⟩ := hexplained
  human := by
    intro key
    refine h.journal.countP_le_one fun x hx y hy hpx hpy => ?_
    rw [Bool.and_eq_true, decide_eq_true_iff] at hpx hpy
    obtain ⟨hroom, hs⟩ := (h.journal.explained x hx).human hpx.1 hpx.2
    obtain ⟨hroom', hs'⟩ := (h.journal.explained y hy).human hpy.1 hpy.2
    exact ⟨hroom.trans hroom'.symm, Option.some.inj (hs.symm.trans hs')⟩
  director := by
    intro key
    refine h.journal.countP_le_one fun x hx y hy hpx hpy => ?_
    rw [Bool.and_eq_true, decide_eq_true_iff] at hpx hpy
    obtain ⟨hroom, hs⟩ := (h.journal.explained x hx).director hpx.1 hpx.2
    obtain ⟨hroom', hs'⟩ := (h.journal.explained y hy).director hpy.1 hpy.2
    exact ⟨hroom.trans hroom'.symm, Option.some.inj (hs.symm.trans hs')⟩
  reply := by
    intro m hm _
    refine h.journal.countP_le_one fun x hx y hy hpx hpy => ?_
    rw [Bool.and_eq_true, decide_eq_true_iff, RoomEvent.answers_iff] at hpx hpy
    obtain ⟨hroom, speaker, text, he⟩ := hpx
    obtain ⟨hroom', speaker', text', he'⟩ := hpy
    have hx' := (h.journal.exact x.roomId x.sequence x.event).mpr ⟨x.author, hx⟩
    have hy' := (h.journal.exact y.roomId y.sequence y.event).mpr ⟨y.author, hy⟩
    rw [he, hroom] at hx'
    rw [he', hroom'] at hy'
    exact ⟨hroom.trans hroom'.symm, h.integrity.reply_unique hx' hy'⟩
  received := fun caller hcaller result hr =>
    Db.stored_complete.mpr ⟨_, h.received hcaller hr⟩

/-- A complete result is never changed. -/
theorem stored_kept (hs : (roomSystem host Fresh).Reachable s) {ls : List Label}
    (hrun : (roomSystem host Fresh).Run s ls t) {key : CommandKey} {result : CommandResult}
    (hresult : s.db.stored key = some (.complete result)) :
    t.db.stored key = some (.complete result) := by
  obtain ⟨requestDigest, hrecord⟩ := Db.stored_complete.mp hresult
  have hkept : s.db.RecordsKept t.db :=
    (inv_inductive fun _ h => h).relates (fun s => .refl s.db) (fun _ _ _ => .trans)
      (fun _ _ _ h hstep => hstep.recordsKept h) hs hrun
  exact Db.stored_complete.mpr ⟨requestDigest, hkept.complete _ _ _ hrecord⟩

/-- **Every request is answered exactly once.**  In every reachable state each command
has put at most one message, one decision and one reply into the log, and every
result given out is the stored one; and what is stored as complete stays. -/
theorem answered_exactly_once (hs : (roomSystem host Fresh).Reachable s) :
    AnsweredOnce s ∧ ∀ ls t, (roomSystem host Fresh).Run s ls t → ∀ key result,
      s.db.stored key = some (.complete result) → t.db.stored key = some (.complete result) :=
  ⟨((inv_inductive fun _ h => h).reachable hs).answeredOnce,
    fun _ _ hrun _ _ hresult => stored_kept hs hrun hresult⟩

end

/-! ## A message and its reply -/

namespace Hello

open JsString

def roomId : RoomId := ofString "room-1"

def persona : ParticipantId := ofString "mina"

def db : Db where
  rooms := (∅ : KeyedTable _ _).insert roomId { title := ofString "Lobby", status := .active }
  participants := ((∅ : KeyedTable _ _).insert (ofString "you")
      { roomId, kind := .human, displayName := ofString "You", sortOrder := 0 }).insert persona
      { roomId, kind := .persona, displayName := ofString "Mina", sortOrder := 1 }
  directorState := (∅ : KeyedTable _ _).insert roomId {}
  currentRoom := some ⟨roomId, 0⟩

/-- With the digest of the one command. -/
def host : Host where
  sha256 _ := ofString "c549ff15959332fec8498425a93cb8113cd756edc8f333043662d067f13db798"
  normalize := id
  numbers := fractionFormat

def raw : SendMessageCommand where
  roomId := roomId
  requestId := ofString "request-1"
  selectionRevision := 0
  text := ofString "Hello"

def command : MessageCommand where
  roomId := roomId
  requestId := ofString "request-1"
  selectionRevision := 0
  text := ofString "Hello"
  wantsResponse := true
  targetPersonaId := none

def service : Service where
  options := { pendingWorkLeaseMs := 30000 }

def token : Token := ofString "token-1"

def pending : PendingMessage where
  requestId := ofString "request-1"
  humanEventSequence := 1
  directorEventSequence := 2
  decision := ⟨some persona, .selected⟩
  generation := 0
  prompt := ofString "Hello"

def called : Execution where
  service := 0
  command
  requestDigest := command.digest host

def prepared : Except JsError PreparedMessage × Db :=
  transact {} (prepareMessage service.options command (command.digest host) token 1000) db

def pinned : Except JsError (Option Providers.DecisionSnapshot) × Db :=
  transact {} (pinProviderDecision host service.options roomId command.requestId token) prepared.2

def reply : Json ℤ :=
  .obj [(ofString "kind", .str (ofString "text")), (ofString "text", .str (ofString "Hi"))]

def generated : GeneratedMessage where
  providerResult := some (.text (ofString "Hi"))

def completed : Except JsError (Option CommandResult) × Db :=
  transact {} (completeMessage host roomId command.requestId pending generated token 2000) pinned.2

def claimedExecution : Execution := called.afterPrepare 0 prepared.1

def s₀ : System := { db }

def s₁ : System := s₀.setService 0 service

def s₂ : System := { s₁ with
  services := s₁.services.insert 0 { service with
    inFlight := service.inFlight.insert command.key token }
  executions := s₁.executions.insert token called
  callers := ⟨command, token⟩ :: s₁.callers }

def s₃ : System :=
  ((s₂.commit (some called.key) prepared.2).grantIfClaimed called.key token prepared.1).setExecution
    token claimedExecution

def s₄ : System := s₃.setExecution token (claimedExecution.enter pending .pinning)

def s₅ : System :=
  (s₄.commit (some called.key) pinned.2).setExecution token
    ((claimedExecution.enter pending .pinning).afterPin pending pinned.1)

def s₆ : System :=
  ({ s₅ with works := s₅.works.insert 0 {
      token
      invitation := invitation roomId pending persona persona
      grant := 0 } } : System).setExecution token
    (claimedExecution.enter pending (.racing none 0))

def s₇ : System :=
  { s₆ with works := s₆.works.insert 0 {
      token
      invitation := invitation roomId pending persona persona
      outcome := some (.ok reply)
      grant := 0 } }

def s₈ : System :=
  s₇.setExecution token { claimedExecution with phase := .completing pending generated (some 0) }

def s₉ : System :=
  (s₈.commit (some called.key) completed.2).setExecution token
    (({ claimedExecution with phase := .completing pending generated (some 0) } :
      Execution).afterComplete completed.1)

theorem fresh : Fresh db := by
  refine ⟨rfl, rfl, ?_, ?_⟩
  · intro roomId' room hroom
    simp only [db, KeyedTable.lookup_insert] at hroom
    split at hroom
    · obtain rfl := Option.some.inj hroom
      rfl
    · cases hroom
  · intro roomId' state hstate
    simp only [db, KeyedTable.lookup_insert] at hstate
    split at hstate
    · exact (Option.some.inj hstate).symm
    · cases hstate

theorem reachable : (roomSystem host Fresh).Reachable s₈ := by
  have hname : (providerPersonaId roomId persona).Returns s₅.db persona s₅.db :=
    returns_of_transact (rfl : transact {} (providerPersonaId roomId persona) s₅.db = _)
  refine ⟨s₀, [.other, .other, .transaction (.prepare token 1000) none, .other,
    .transaction (.pin token) none, .other, .other, .other], ⟨fresh, rfl⟩, ?_⟩
  refine .cons (.openService s₀ 0 service.options (by decide)) ?_
  refine .cons (.call s₁ 0 service raw command token rfl rfl rfl (by decide) (by decide)) ?_
  refine .cons (.prepare s₂ token called _ {} 1000 prepared.1 prepared.2 rfl rfl rfl rfl rfl) ?_
  refine .cons (.move s₃ token claimedExecution _ _ (AList.lookup_insert _) rfl
    (.fresh pending persona rfl rfl rfl)) ?_
  refine .cons (.pin s₄ token _ _ pending {} pinned.1 pinned.2 (AList.lookup_insert _) rfl rfl
    rfl) ?_
  refine .cons (.startWork s₅ token _ pending none persona persona 0 0 (AList.lookup_insert _)
    rfl rfl hname (by decide) rfl) ?_
  refine .cons (.settleWork s₆ 0 _ (.ok reply) (AList.lookup_insert _) rfl) ?_
  exact .single (.move s₇ token _ _ _ (AList.lookup_insert _) rfl
    (.delivered pending none 0 _ reply _ rfl (AList.lookup_insert _) rfl rfl rfl rfl))

theorem completes : Step host s₈ (.transaction (.complete token 2000) none) s₉ :=
  .complete s₈ token _ _ pending generated (some 0) {} 2000 completed.1 completed.2
    (AList.lookup_insert _) rfl rfl rfl rfl

end Hello

theorem answered_exactly_once_hello :
    (Hello.s₉.journal.countP fun x =>
      x.author = some Hello.command.key && x.event.isHumanMessage) ≤ 1 ∧
    Hello.s₉.db.stored Hello.command.key = some (.complete (.message
      (resultOf Hello.command.requestId Hello.pending (some 3) .text))) := by
  have h := (answered_exactly_once (Hello.reachable.step Hello.completes)).1
  exact ⟨h.human _, h.received ⟨Hello.command, Hello.token⟩ (List.mem_singleton.mpr rfl) _
    ⟨_, AList.lookup_insert _, rfl⟩⟩

end Runtime

end GreenRoom
