import Mathlib.Data.List.Perm.Subperm
import Mathlib.Logic.Function.Basic

/-!
# Slot allocators

So many callers at a time hold a slot.  Others wait in the order they came, if there is room
for them, and the first of them takes over the slot of one who leaves.  A caller that waits
may withdraw.

## Main definitions

* `Ticket` — how far a caller has come.
* `Slots` — an allocator, and what has happened to its callers.
* `Slots.acquire`, `Slots.withdraw`, `Slots.release`, `Slots.releaseOnce`
* `Slots.Sound` — the invariant.

## Main results

* `Slots.Sound.acquire`, `Slots.Sound.withdraw`, `Slots.Sound.release` — the operations keep it.
* `Ticket.Moves` — what they do to the tickets of the other callers.
-/

universe u

/-- How far a caller has come. -/
inductive Ticket
  | none
  | waiting
  | granted
  | rejected
  | released
  deriving DecidableEq, Repr

/-- What an operation of another caller may do to a ticket. -/
inductive Ticket.Moves : Ticket → Ticket → Prop
  | same (t : Ticket) : Moves t t
  | granted : Moves .waiting .granted
  | rejected : Moves .waiting .rejected

theorem Ticket.Moves.eq {t t' : Ticket} (h : t.Moves t') (hwaiting : t ≠ .waiting) : t' = t := by
  cases h with
  | same => rfl
  | granted => exact absurd rfl hwaiting
  | rejected => exact absurd rfl hwaiting

theorem Ticket.Moves.of_ne {t t' : Ticket} (h : t.Moves t') (hne : t' ≠ t) :
    t = .waiting ∧ (t' = .granted ∨ t' = .rejected) := by
  cases h with
  | same => exact absurd rfl hne
  | granted => exact ⟨rfl, .inl rfl⟩
  | rejected => exact ⟨rfl, .inr rfl⟩

/-- An allocator, and the callers that were granted a slot, gave it back and withdrew, in that
order. -/
structure Slots (ι : Type u) where
  limit : ℕ
  /-- How many may wait, if that is bounded. -/
  maxWaiting : Option ℕ := none
  active : ℕ := 0
  queue : List ι := []
  ticket : ι → Ticket := fun _ => .none
  granted : List ι := []
  released : List ι := []
  withdrawn : List ι := []

namespace Slots

section Operations

variable {ι : Type u} [DecidableEq ι]

def setTicket (s : Slots ι) (id : ι) (ticket : Ticket) : Slots ι :=
  { s with ticket := Function.update s.ticket id ticket }

def grant (s : Slots ι) (id : ι) : Slots ι :=
  { s.setTicket id .granted with granted := s.granted ++ [id] }

/-- A caller asks for a slot; one that has been aborted before is turned away. -/
def acquire (s : Slots ι) (id : ι) (aborted : Bool) : Slots ι :=
  if aborted then s.setTicket id .rejected
  else if s.active < s.limit then { s with active := s.active + 1 }.grant id
  else if s.maxWaiting.any (· ≤ s.queue.length) then s.setTicket id .rejected
  else { s.setTicket id .waiting with queue := s.queue ++ [id] }

/-- A caller that waits is aborted. -/
def withdraw (s : Slots ι) (id : ι) : Slots ι :=
  if id ∈ s.queue then
    { s.setTicket id .rejected with
      queue := s.queue.erase id
      withdrawn := s.withdrawn ++ [id] }
  else s

/-- A slot goes to the first that waits and is not passed over, or becomes free. -/
def handOver (passed : ι → Bool) (s : Slots ι) : List ι → Slots ι
  | [] => { s with active := s.active - 1, queue := [] }
  | next :: queue =>
    if passed next then handOver passed (s.setTicket next .rejected) queue
    else { s with queue }.grant next

def giveBack (s : Slots ι) (id : ι) : Slots ι :=
  { s.setTicket id .released with released := s.released ++ [id] }

/-- A caller gives its slot back. -/
def release (passed : ι → Bool) (s : Slots ι) (id : ι) : Slots ι :=
  (s.giveBack id).handOver passed s.queue

/-- A second time does nothing. -/
def releaseOnce (passed : ι → Bool) (s : Slots ι) (id : ι) : Slots ι :=
  if s.ticket id = .released then s else s.release passed id

end Operations

/-! ## The invariant -/

section Invariant

variable {ι : Type u}

/-- The lists have the callers where their tickets say; `queue` waits, and `free` slots are on
their way to it. -/
structure Handing (free : ℕ) (queue : List ι) (s : Slots ι) : Prop where
  queued : ∀ id, id ∈ queue ↔ s.ticket id = .waiting
  grantedIff : ∀ id, id ∈ s.granted ↔ s.ticket id = .granted ∨ s.ticket id = .released
  releasedIff : ∀ id, id ∈ s.released ↔ s.ticket id = .released
  withdrawnTicket : ∀ id ∈ s.withdrawn, s.ticket id = .rejected
  queueNodup : queue.Nodup
  grantedNodup : s.granted.Nodup
  releasedNodup : s.released.Nodup
  count : s.active + s.released.length = s.granted.length + free
  bound : s.active ≤ s.limit
  full : queue ≠ [] → s.active = s.limit
  short : ∀ n ∈ s.maxWaiting, queue.length ≤ n

/-- The invariant. -/
def Sound (s : Slots ι) : Prop := Handing 0 s.queue s

theorem sound_new (limit : ℕ) (maxWaiting : Option ℕ) :
    Sound ({ limit, maxWaiting } : Slots ι) where
  queued id := by simp
  grantedIff id := by simp
  releasedIff id := by simp
  withdrawnTicket id h := by cases h
  queueNodup := List.nodup_nil
  grantedNodup := List.nodup_nil
  releasedNodup := List.nodup_nil
  count := rfl
  bound := Nat.zero_le _
  full h := absurd rfl h
  short n _ := Nat.zero_le n

variable {s : Slots ι} {free : ℕ} {queue : List ι} {id : ι}

/-- A caller that has withdrawn has no slot. -/
theorem Sound.notGranted (h : s.Sound) (hmem : id ∈ s.withdrawn) : id ∉ s.granted := by
  rw [h.grantedIff, h.withdrawnTicket id hmem]
  simp

/-- No more slots were given back than granted. -/
theorem Handing.released_le (h : Handing free queue s) : s.released.length ≤ s.granted.length := by
  have hsub : s.released ⊆ s.granted := fun id hmem =>
    (h.grantedIff id).mpr (.inr ((h.releasedIff id).mp hmem))
  exact (List.subperm_of_subset h.releasedNodup hsub).length_le

/-- The first that waits is not in the rest of the queue. -/
theorem Handing.mem_rest {next : ι} (h : Handing free (next :: queue) s) (id : ι) :
    id ∈ queue ↔ id ∈ next :: queue ∧ id ≠ next := by
  have hfirst := (List.nodup_cons.mp h.queueNodup).1
  rw [List.mem_cons]
  constructor
  · exact fun hmem => ⟨.inr hmem, fun hid => hfirst (hid ▸ hmem)⟩
  · exact fun hmem => hmem.1.resolve_left hmem.2

/-- The limits, and that a caller has withdrawn. -/
structure Keeps (s s' : Slots ι) : Prop where
  limit : s'.limit = s.limit
  maxWaiting : s'.maxWaiting = s.maxWaiting
  withdrawn : s.withdrawn ⊆ s'.withdrawn

theorem Keeps.refl (s : Slots ι) : s.Keeps s := ⟨rfl, rfl, List.Subset.refl _⟩

theorem Keeps.trans {s s' s'' : Slots ι} (h : s.Keeps s') (h' : s'.Keeps s'') : s.Keeps s'' :=
  ⟨h'.limit.trans h.limit, h'.maxWaiting.trans h.maxWaiting,
    List.Subset.trans h.withdrawn h'.withdrawn⟩

end Invariant

variable {ι : Type u} [DecidableEq ι] {s : Slots ι} {id id' : ι} {free : ℕ} {queue : List ι}

@[simp] theorem granted_setTicket (s : Slots ι) (id : ι) (ticket : Ticket) :
    (s.setTicket id ticket).granted = s.granted := rfl

@[simp] theorem released_setTicket (s : Slots ι) (id : ι) (ticket : Ticket) :
    (s.setTicket id ticket).released = s.released := rfl

@[simp] theorem ticket_setTicket (s : Slots ι) (id id' : ι) (ticket : Ticket) :
    (s.setTicket id ticket).ticket id' = if id' = id then ticket else s.ticket id' :=
  Function.update_apply _ _ _ _

@[simp] theorem ticket_grant (s : Slots ι) (id id' : ι) :
    (s.grant id).ticket id' = if id' = id then .granted else s.ticket id' :=
  Function.update_apply _ _ _ _

/-- A caller is turned away: one that has not asked before, or the first that waits. -/
theorem Handing.reject (h : Handing free queue s) (hgranted : s.ticket id ≠ .granted)
    (hreleased : s.ticket id ≠ .released) {queue' : List ι} (hsub : queue'.Sublist queue)
    (hqueue : ∀ id', id' ∈ queue' ↔ id' ∈ queue ∧ id' ≠ id) :
    Handing free queue' (s.setTicket id .rejected) where
  queued id' := by
    rw [hqueue, h.queued, ticket_setTicket]
    by_cases hid : id' = id
    · simp [hid]
    · simp [hid]
  grantedIff id' := by
    rw [ticket_setTicket]
    by_cases hid : id' = id
    · subst hid
      simpa using show id' ∉ s.granted by
        rw [h.grantedIff, not_or]
        exact ⟨hgranted, hreleased⟩
    · simpa [hid] using h.grantedIff id'
  releasedIff id' := by
    rw [ticket_setTicket]
    by_cases hid : id' = id
    · subst hid
      simpa using show id' ∉ s.released by
        rw [h.releasedIff]
        exact hreleased
    · simpa [hid] using h.releasedIff id'
  withdrawnTicket id' hmem := by
    rw [ticket_setTicket]
    split
    · rfl
    · exact h.withdrawnTicket id' hmem
  queueNodup := hsub.nodup h.queueNodup
  grantedNodup := h.grantedNodup
  releasedNodup := h.releasedNodup
  count := h.count
  bound := h.bound
  full hne := h.full fun hnil => hne (List.sublist_nil.mp (hnil ▸ hsub))
  short n hn := Nat.le_trans hsub.length_le (h.short n hn)

/-- A caller that holds nothing is granted the slot that is on its way. -/
theorem Handing.grant (h : Handing 1 queue s) (hgranted : s.ticket id ≠ .granted)
    (hreleased : s.ticket id ≠ .released) (hwithdrawn : id ∉ s.withdrawn) {queue' : List ι}
    (hsub : queue'.Sublist queue) (hqueue : ∀ id', id' ∈ queue' ↔ id' ∈ queue ∧ id' ≠ id) :
    Handing 0 queue' (s.grant id) where
  queued id' := by
    rw [hqueue, h.queued, ticket_grant]
    by_cases hid : id' = id
    · simp [hid]
    · simp [hid]
  grantedIff id' := by
    show id' ∈ s.granted ++ [id] ↔ _
    rw [List.mem_append, List.mem_singleton, ticket_grant]
    by_cases hid : id' = id
    · simp [hid]
    · simpa [hid] using h.grantedIff id'
  releasedIff id' := by
    show id' ∈ s.released ↔ _
    rw [ticket_grant]
    by_cases hid : id' = id
    · subst hid
      simpa using show id' ∉ s.released by
        rw [h.releasedIff]
        exact hreleased
    · simpa [hid] using h.releasedIff id'
  withdrawnTicket id' hmem := by
    have hid : id' ≠ id := fun hid => hwithdrawn (hid ▸ hmem)
    rw [ticket_grant, if_neg hid]
    exact h.withdrawnTicket id' hmem
  queueNodup := hsub.nodup h.queueNodup
  grantedNodup := by
    have hnew : id ∉ s.granted := by
      rw [h.grantedIff, not_or]
      exact ⟨hgranted, hreleased⟩
    exact (List.perm_append_singleton id s.granted).nodup_iff.mpr
      (List.nodup_cons.mpr ⟨hnew, h.grantedNodup⟩)
  releasedNodup := h.releasedNodup
  count := by
    show s.active + s.released.length = (s.granted ++ [id]).length + 0
    rw [List.length_append, List.length_singleton]
    exact h.count
  bound := h.bound
  full hne := h.full fun hnil => hne (List.sublist_nil.mp (hnil ▸ hsub))
  short n hn := Nat.le_trans hsub.length_le (h.short n hn)

/-! ## The operations -/

theorem Sound.acquire (h : s.Sound) (hnone : s.ticket id = .none) (aborted : Bool) :
    (s.acquire id aborted).Sound := by
  have hgranted : s.ticket id ≠ .granted := by simp [hnone]
  have hreleased : s.ticket id ≠ .released := by simp [hnone]
  have hqueue : id ∉ s.queue := by simp [h.queued, hnone]
  have hsame : ∀ id', id' ∈ s.queue ↔ id' ∈ s.queue ∧ id' ≠ id := fun id' =>
    ⟨fun hmem => ⟨hmem, fun hid => hqueue (hid ▸ hmem)⟩, And.left⟩
  have hreject : (s.setTicket id .rejected).Sound :=
    Handing.reject h hgranted hreleased (List.Sublist.refl _) hsame
  unfold Slots.acquire
  split
  · exact hreject
  · split
    · next hfree =>
        have hnil : s.queue = [] := by
          by_contra hne
          exact absurd (h.full hne) (Nat.ne_of_lt hfree)
        have hhanding : Handing 1 s.queue { s with active := s.active + 1 } :=
          { h with
            count := by
              have hcount := h.count
              show s.active + 1 + s.released.length = s.granted.length + 1
              omega
            bound := hfree
            full := fun hne => absurd hnil hne }
        exact hhanding.grant hgranted hreleased
          (fun hmem => by simp [h.withdrawnTicket id hmem] at hnone) (List.Sublist.refl _) hsame
    · next hbusy =>
        split
        · exact hreject
        · next hroom =>
            have hactive : s.active = s.limit := Nat.le_antisymm h.bound (Nat.not_lt.mp hbusy)
            exact {
              queued := fun id' => by
                show id' ∈ s.queue ++ [id] ↔ (s.setTicket id .waiting).ticket id' = .waiting
                rw [List.mem_append, List.mem_singleton, ticket_setTicket, h.queued]
                by_cases hid : id' = id
                · simp [hid]
                · simp [hid]
              grantedIff := fun id' => by
                show id' ∈ s.granted ↔ (s.setTicket id .waiting).ticket id' = .granted ∨
                  (s.setTicket id .waiting).ticket id' = .released
                rw [ticket_setTicket, h.grantedIff]
                by_cases hid : id' = id
                · simp [hid, hnone]
                · simp [hid]
              releasedIff := fun id' => by
                show id' ∈ s.released ↔ (s.setTicket id .waiting).ticket id' = .released
                rw [ticket_setTicket, h.releasedIff]
                by_cases hid : id' = id
                · simp [hid, hnone]
                · simp [hid]
              withdrawnTicket := fun id' hmem => by
                have hticket := h.withdrawnTicket id' hmem
                have hid : id' ≠ id := fun hid => by simp [← hid, hticket] at hnone
                show (s.setTicket id .waiting).ticket id' = .rejected
                rw [ticket_setTicket, if_neg hid, hticket]
              queueNodup := (List.perm_append_singleton id s.queue).nodup_iff.mpr
                (List.nodup_cons.mpr ⟨hqueue, h.queueNodup⟩)
              grantedNodup := h.grantedNodup
              releasedNodup := h.releasedNodup
              count := h.count
              bound := h.bound
              full := fun _ => hactive
              short := fun n hn => by
                have hlength : ¬ n ≤ s.queue.length := fun hle =>
                  hroom (Option.any_eq_true _ _ |>.mpr ⟨n, hn, decide_eq_true hle⟩)
                show (s.queue ++ [id]).length ≤ n
                rw [List.length_append, List.length_singleton]
                omega }

theorem Sound.withdraw (h : s.Sound) (id : ι) : (s.withdraw id).Sound := by
  unfold Slots.withdraw
  split
  · next hmem =>
      have hticket := (h.queued id).mp hmem
      have hreject : Handing 0 (s.queue.erase id) (s.setTicket id .rejected) :=
        Handing.reject h (by simp [hticket]) (by simp [hticket])
          (List.erase_sublist (a := id)) fun id' => by
            rw [h.queueNodup.mem_erase_iff, and_comm]
      exact { hreject with
        withdrawnTicket := fun id' hmem' => by
          rcases List.mem_append.mp hmem' with hmem' | hmem'
          · exact hreject.withdrawnTicket id' hmem'
          · rw [List.mem_singleton.mp hmem']
            exact Function.update_self _ _ _ }
  · exact h

/-- The first that waits is passed over. -/
theorem Handing.passFirst {next : ι} (h : Handing free (next :: queue) s) :
    Handing free queue (s.setTicket next .rejected) := by
  have hticket := (h.queued next).mp List.mem_cons_self
  exact h.reject (by simp [hticket]) (by simp [hticket]) (List.sublist_cons_self _ _) h.mem_rest

theorem Handing.handOver (passed : ι → Bool) (h : Handing 1 queue s) :
    (s.handOver passed queue).Sound := by
  induction queue generalizing s with
  | nil =>
      have hcount := h.count
      have hbound := h.bound
      have hless := h.released_le
      exact { h with
        count := by
          show s.active - 1 + s.released.length = s.granted.length + 0
          omega
        bound := by
          show s.active - 1 ≤ s.limit
          omega
        full := fun hne => absurd rfl hne }
  | cons next queue ih =>
      have hticket := (h.queued next).mp List.mem_cons_self
      rw [Slots.handOver]
      split
      · exact ih h.passFirst
      · have hgrant := h.grant (by simp [hticket]) (by simp [hticket])
          (fun hmem => by simp [h.withdrawnTicket next hmem] at hticket)
          (List.sublist_cons_self _ _) h.mem_rest
        exact { hgrant with }

/-- A slot that has been given back is on its way. -/
theorem Sound.giveBack (h : s.Sound) (hgranted : s.ticket id = .granted) :
    Handing 1 s.queue (s.giveBack id) :=
  {
    queued := fun id' => by
      show id' ∈ s.queue ↔ (s.setTicket id .released).ticket id' = .waiting
      rw [ticket_setTicket, h.queued]
      by_cases hid : id' = id
      · simp [hid, hgranted]
      · simp [hid]
    grantedIff := fun id' => by
      show id' ∈ s.granted ↔ (s.setTicket id .released).ticket id' = .granted ∨
        (s.setTicket id .released).ticket id' = .released
      rw [ticket_setTicket, h.grantedIff]
      by_cases hid : id' = id
      · simp [hid, hgranted]
      · simp [hid]
    releasedIff := fun id' => by
      show id' ∈ s.released ++ [id] ↔ (s.setTicket id .released).ticket id' = .released
      rw [List.mem_append, List.mem_singleton, ticket_setTicket, h.releasedIff]
      by_cases hid : id' = id
      · simp [hid]
      · simp [hid]
    withdrawnTicket := fun id' hmem => by
      have hticket := h.withdrawnTicket id' hmem
      have hid : id' ≠ id := fun hid => by simp [← hid, hticket] at hgranted
      show (s.setTicket id .released).ticket id' = .rejected
      rw [ticket_setTicket, if_neg hid, hticket]
    queueNodup := h.queueNodup
    grantedNodup := h.grantedNodup
    releasedNodup := by
      have hnew : id ∉ s.released := by
        rw [h.releasedIff, hgranted]
        exact Ticket.noConfusion
      exact (List.perm_append_singleton id s.released).nodup_iff.mpr
        (List.nodup_cons.mpr ⟨hnew, h.releasedNodup⟩)
    count := by
      have hcount := h.count
      show s.active + (s.released ++ [id]).length = s.granted.length + 1
      rw [List.length_append, List.length_singleton]
      omega
    bound := h.bound
    full := h.full
    short := h.short }

theorem Sound.release (h : s.Sound) (hgranted : s.ticket id = .granted) (passed : ι → Bool) :
    (s.release passed id).Sound :=
  (h.giveBack hgranted).handOver passed

theorem releaseOnce_eq (hgranted : s.ticket id = .granted) (passed : ι → Bool) :
    s.releaseOnce passed id = s.release passed id :=
  if_neg (by simp [hgranted])

/-! ## Tickets -/

/-- A caller that has asked is turned away, waits, or has a slot. -/
theorem ticket_acquire_self (s : Slots ι) (id : ι) (aborted : Bool) :
    (s.acquire id aborted).ticket id = .rejected ∨ (s.acquire id aborted).ticket id = .waiting ∨
      (s.acquire id aborted).ticket id = .granted := by
  unfold Slots.acquire
  split
  · exact .inl (by simp)
  · split
    · exact .inr (.inr (by simp))
    · split
      · exact .inl (by simp)
      · exact .inr (.inl (Function.update_self _ _ _))

theorem ticket_acquire_of_ne (s : Slots ι) (aborted : Bool) (hid : id' ≠ id) :
    (s.acquire id aborted).ticket id' = s.ticket id' := by
  unfold Slots.acquire
  split
  · simp [hid]
  · split
    · simp [hid]
    · split
      · simp [hid]
      · exact Function.update_of_ne hid _ _

theorem Sound.ticket_withdraw (h : s.Sound) (id id' : ι) :
    (s.ticket id').Moves ((s.withdraw id).ticket id') := by
  unfold Slots.withdraw
  split
  · next hmem =>
      show (s.ticket id').Moves ((s.setTicket id .rejected).ticket id')
      rw [ticket_setTicket]
      split
      · next hid =>
          rw [hid, (h.queued id).mp hmem]
          exact .rejected
      · exact .same _
  · exact .same _

theorem Handing.ticket_handOver (passed : ι → Bool) (h : Handing 1 queue s) (id : ι) :
    (s.ticket id).Moves ((s.handOver passed queue).ticket id) := by
  induction queue generalizing s with
  | nil => exact .same _
  | cons next queue ih =>
      have hticket := (h.queued next).mp List.mem_cons_self
      rw [Slots.handOver]
      split
      · have hnext : ∀ id', (s.setTicket next .rejected).ticket id' = s.ticket id' ∨
            s.ticket id' = .waiting ∧ (s.setTicket next .rejected).ticket id' = .rejected := by
          intro id'
          rw [ticket_setTicket]
          by_cases hid : id' = next
          · exact .inr ⟨hid ▸ hticket, if_pos hid⟩
          · exact .inl (if_neg hid)
        have hmoves := ih h.passFirst
        rcases hnext id with heq | ⟨hwaiting, hrejected⟩
        · exact heq ▸ hmoves
        · rw [hrejected] at hmoves
          rw [hmoves.eq (by simp), hwaiting]
          exact .rejected
      · rw [ticket_grant]
        split
        · next hid =>
            rw [hid, hticket]
            exact .granted
        · exact .same _

theorem Sound.ticket_release_of_ne (h : s.Sound) (hgranted : s.ticket id = .granted)
    (passed : ι → Bool) (hid : id' ≠ id) :
    (s.ticket id').Moves ((s.release passed id).ticket id') := by
  have hmoves := (h.giveBack hgranted).ticket_handOver passed id'
  rwa [show (s.giveBack id).ticket id' = s.ticket id' from Function.update_of_ne hid _ _] at hmoves

theorem Sound.ticket_release_self (h : s.Sound) (hgranted : s.ticket id = .granted)
    (passed : ι → Bool) : (s.release passed id).ticket id = .released := by
  have hmoves := (h.giveBack hgranted).ticket_handOver passed id
  rw [show (s.giveBack id).ticket id = .released from Function.update_self _ _ _] at hmoves
  exact hmoves.eq Ticket.noConfusion

/-! ## What stays -/

theorem keeps_setTicket (s : Slots ι) (id : ι) (ticket : Ticket) :
    s.Keeps (s.setTicket id ticket) :=
  ⟨rfl, rfl, List.Subset.refl _⟩

theorem keeps_giveBack (s : Slots ι) (id : ι) : s.Keeps (s.giveBack id) :=
  ⟨rfl, rfl, List.Subset.refl _⟩

theorem keeps_acquire (s : Slots ι) (id : ι) (aborted : Bool) :
    s.Keeps (s.acquire id aborted) := by
  unfold Slots.acquire
  split
  · exact ⟨rfl, rfl, List.Subset.refl _⟩
  · split
    · exact ⟨rfl, rfl, List.Subset.refl _⟩
    · split <;> exact ⟨rfl, rfl, List.Subset.refl _⟩

theorem withdrawn_withdraw (s : Slots ι) (id : ι) :
    (s.withdraw id).withdrawn = if id ∈ s.queue then s.withdrawn ++ [id] else s.withdrawn := by
  unfold Slots.withdraw
  split <;> rfl

theorem keeps_withdraw (s : Slots ι) (id : ι) : s.Keeps (s.withdraw id) := by
  unfold Slots.withdraw
  split
  · exact ⟨rfl, rfl, List.subset_append_left _ _⟩
  · exact .refl s

theorem keeps_handOver (passed : ι → Bool) (s : Slots ι) (queue : List ι) :
    s.Keeps (s.handOver passed queue) := by
  induction queue generalizing s with
  | nil => exact ⟨rfl, rfl, List.Subset.refl _⟩
  | cons next queue ih =>
      rw [handOver]
      split
      · exact (keeps_setTicket s next .rejected).trans (ih _)
      · exact ⟨rfl, rfl, List.Subset.refl _⟩

theorem keeps_release (passed : ι → Bool) (s : Slots ι) (id : ι) :
    s.Keeps (s.release passed id) :=
  (keeps_giveBack s id).trans (keeps_handOver passed _ _)

theorem keeps_releaseOnce (passed : ι → Bool) (s : Slots ι) (id : ι) :
    s.Keeps (s.releaseOnce passed id) := by
  unfold Slots.releaseOnce
  split
  · exact .refl s
  · exact keeps_release passed s id

end Slots
