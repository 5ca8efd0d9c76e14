import GreenRoom.Providers.SecureHttpTransport
import Mathlib.Data.List.Perm.Subperm

/-!
# Permits are neither lost nor doubled

What a request's own variables say of one another is kept by every piece of its code; what the
semaphore says of the requests is kept by its three operations.

## Main definitions

* `TransportRequest.Ok` — the variables of a request fit where its caller is.
* `Transport.Fits` — the lists have a request where its variables say it is.
* `Transport.Sound` — the invariant.

## Main results

* `permits_conserved` — in every reachable state each permit has been released at most once, and
  exactly if its caller has finished and its socket, if there is one, has closed; the limits
  hold; permits are granted in the order of arrival.
-/

namespace GreenRoom.Providers

/-- The variables of a request fit where its caller is. -/
structure TransportRequest.Ok (r : TransportRequest) : Prop where
  absent : r.stage = .absent → r = {}
  acquiring : r.stage = .acquiring → r.release = false ∧ r.callerFinished = false ∧
    r.leaseReleased = false ∧ r.retainedSocket = false ∧ r.released = false
  performing : r.stage = .performing → r.acquisition = .resolved ∧ r.release = true ∧
    r.callerFinished = false ∧ r.leaseReleased = false ∧ r.released = false
  finished : r.stage = .finished → r.acquisition ≠ .pending ∧ r.callerFinished = true ∧
    r.release = decide (r.acquisition = .resolved) ∧
    r.leaseReleased = (!r.retainedSocket || r.retainedSocketClosed) ∧
    r.released = (r.leaseReleased && r.release)
  closed : r.retainedSocketClosed = true → r.retainedSocket = true

/-- A request that waits is answered. -/
theorem TransportRequest.Ok.answer {r : TransportRequest} (h : r.Ok) (hstage : r.stage = .acquiring)
    (aborted : Bool) (acquisition : Acquisition) :
    TransportRequest.Ok { r with aborted, acquisition } where
  absent habsent := by
    rw [show r.stage = .absent from habsent] at hstage
    cases hstage
  acquiring := h.acquiring
  performing hperforming := by
    rw [show r.stage = .performing from hperforming] at hstage
    cases hstage
  finished hfinished := by
    rw [show r.stage = .finished from hfinished] at hstage
    cases hstage
  closed := h.closed

namespace Transport

/-- The lists have a request where its variables say it is. -/
structure Fits (s : Transport) (id : RequestNumber) : Prop where
  ok : (s.requests id).Ok
  queued : id ∈ s.queue ↔
    (s.requests id).stage = .acquiring ∧ (s.requests id).acquisition = .pending
  notAborted : id ∈ s.queue → (s.requests id).aborted = false
  granted : id ∈ s.granted ↔ (s.requests id).acquisition = .resolved
  released : id ∈ s.released ↔ (s.requests id).released = true
  withdrawn : id ∈ s.withdrawn → (s.requests id).acquisition = .rejected
  admitted : id ∈ s.admitted → (s.requests id).stage ≠ .absent

/-- `free` permits more could be granted, and all of them are if a request waits. -/
structure Balanced (free : ℕ) (s : Transport) : Prop where
  fits : ∀ id, s.Fits id
  queueNodup : s.queue.Nodup
  grantedNodup : s.granted.Nodup
  releasedNodup : s.released.Nodup
  order : s.admitted.filter (· ∉ s.withdrawn) = s.granted ++ s.queue
  active : s.active + s.released.length = s.granted.length
  limit : s.active + free ≤ s.limit
  full : s.queue ≠ [] → s.active + free = s.limit
  short : s.queue.length ≤ maxQueuedRequests

/-- The invariant. -/
abbrev Sound (s : Transport) : Prop := Balanced 0 s

variable {s t : Transport} {id : RequestNumber}

@[simp] theorem requests_modify (s : Transport) (id id' : RequestNumber)
    (f : TransportRequest → TransportRequest) :
    (s.modify id f).requests id' = if id' = id then f (s.requests id) else s.requests id' :=
  Function.update_apply _ _ _ _

theorem modify_modify (s : Transport) (id : RequestNumber)
    (f g : TransportRequest → TransportRequest) :
    (s.modify id f).modify id g = s.modify id fun r => g (f r) := by
  simp only [modify, Function.update_self, Function.update_idem]

/-- A step that leaves a request alone. -/
theorem Fits.frame (h : s.Fits id) (hrequest : t.requests id = s.requests id)
    (hqueue : id ∈ t.queue ↔ id ∈ s.queue) (hgranted : id ∈ t.granted ↔ id ∈ s.granted)
    (hreleased : id ∈ t.released ↔ id ∈ s.released)
    (hwithdrawn : id ∈ t.withdrawn → id ∈ s.withdrawn)
    (hadmitted : id ∈ t.admitted → id ∈ s.admitted) : t.Fits id where
  ok := hrequest ▸ h.ok
  queued := by rw [hqueue, hrequest, h.queued]
  notAborted hmem := by
    rw [hrequest]
    exact h.notAborted (hqueue.mp hmem)
  granted := by rw [hgranted, hrequest, h.granted]
  released := by rw [hreleased, hrequest, h.released]
  withdrawn hmem := by
    rw [hrequest]
    exact h.withdrawn (hwithdrawn hmem)
  admitted hmem := by
    rw [hrequest]
    exact h.admitted (hadmitted hmem)

theorem Fits.resolved (h : s.Fits id) (hreleased : id ∈ s.released) : id ∈ s.granted := by
  have hok := h.ok
  have hflag := h.released.mp hreleased
  rw [h.granted]
  cases hstage : (s.requests id).stage with
  | absent =>
      rw [hok.absent hstage] at hflag
      cases hflag
  | acquiring =>
      rw [(hok.acquiring hstage).2.2.2.2] at hflag
      cases hflag
  | performing =>
      rw [(hok.performing hstage).2.2.2.2] at hflag
      cases hflag
  | finished =>
      obtain ⟨-, -, hrelease, -, hreleased'⟩ := hok.finished hstage
      rw [hreleased', hrelease, Bool.and_eq_true, decide_eq_true_eq] at hflag
      exact hflag.2

/-- A permit that has not been released is one of the active ones. -/
theorem Balanced.active_pos {free : ℕ} (h : s.Balanced free) (hgranted : id ∈ s.granted)
    (hreleased : id ∉ s.released) : 0 < s.active := by
  have hsubset : id :: s.released ⊆ s.granted := by
    intro id' hmem
    rcases List.mem_cons.mp hmem with rfl | hmem
    · exact hgranted
    · exact (h.fits id').resolved hmem
  have hlength :=
    (List.subperm_of_subset (List.nodup_cons.mpr ⟨hreleased, h.releasedNodup⟩) hsubset).length_le
  have hactive := h.active
  rw [List.length_cons] at hlength
  omega

theorem grantNext_nil (h : s.queue = []) : s.grantNext = s := by
  rw [grantNext, h]

theorem grantNext_cons {next : RequestNumber} {queue : List RequestNumber}
    (h : s.queue = next :: queue) : s.grantNext = { s with queue }.grant next := by
  rw [grantNext, h]

/-! ## What the operations keep -/

/-- The variables of a request change, and it is where they say. -/
theorem Balanced.modify {free : ℕ} (h : s.Balanced free) {f : TransportRequest → TransportRequest}
    (hfits : (s.modify id f).Fits id) : (s.modify id f).Balanced free :=
  { h with
    fits := fun id' => by
      by_cases hid : id' = id
      · exact hid ▸ hfits
      · exact (h.fits id').frame (Function.update_of_ne hid _ _) Iff.rfl Iff.rfl Iff.rfl
          (fun hmem => hmem) fun hmem => hmem }

/-- The variables of a request change that the semaphore does not look at. -/
theorem Balanced.modify_own {free : ℕ} (h : s.Balanced free)
    {f : TransportRequest → TransportRequest} (hok : (f (s.requests id)).Ok)
    (hacquisition : (f (s.requests id)).acquisition = (s.requests id).acquisition)
    (hreleased : (f (s.requests id)).released = (s.requests id).released)
    (hstage : (s.requests id).acquisition = .pending →
      ((f (s.requests id)).stage = .acquiring ↔ (s.requests id).stage = .acquiring))
    (haborted : id ∈ s.queue → (f (s.requests id)).aborted = false)
    (hadmitted : (f (s.requests id)).stage = .absent → (s.requests id).stage = .absent) :
    (s.modify id f).Balanced free := by
  have hfits := h.fits id
  have hrequest : (s.modify id f).requests id = f (s.requests id) := Function.update_self _ _ _
  exact h.modify {
    ok := hrequest ▸ hok
    queued := by
      rw [hrequest, hacquisition]
      refine hfits.queued.trans ⟨fun ⟨h₁, h₂⟩ => ⟨(hstage h₂).mpr h₁, h₂⟩, fun ⟨h₁, h₂⟩ => ?_⟩
      exact ⟨(hstage h₂).mp h₁, h₂⟩
    notAborted := fun hmem => hrequest ▸ haborted hmem
    granted := by
      rw [hrequest, hacquisition]
      exact hfits.granted
    released := by
      rw [hrequest, hreleased]
      exact hfits.released
    withdrawn := fun hmem => by
      rw [hrequest, hacquisition]
      exact hfits.withdrawn hmem
    admitted := fun hmem => by
      rw [hrequest]
      exact fun habsent => hfits.admitted hmem (hadmitted habsent) }

theorem Balanced.activeCallers {free : ℕ} (h : s.Balanced free) (n : ℕ) :
    Balanced free { s with activeCallers := n } :=
  { h with
    fits := fun id' => (h.fits id').frame rfl Iff.rfl Iff.rfl Iff.rfl (fun hmem => hmem)
      fun hmem => hmem }

/-- A request whose permit is pending is granted it. -/
theorem grant_fits (hothers : ∀ id', id' ≠ id → s.Fits id') (hok : (s.requests id).Ok)
    (hstage : (s.requests id).stage = .acquiring) (hqueue : id ∉ s.queue)
    (hwithdrawn : id ∉ s.withdrawn) (hreleased : id ∉ s.released) :
    ∀ id', (s.grant id).Fits id' := by
  intro id'
  by_cases hid : id' = id
  · subst hid
    have hrequest : (s.grant id').requests id' =
        { s.requests id' with acquisition := .resolved } := Function.update_self _ _ _
    exact {
      ok := hrequest ▸ hok.answer hstage _ .resolved
      queued := by
        refine iff_of_false hqueue ?_
        rw [hrequest]
        rintro ⟨-, ⟨⟩⟩
      notAborted := fun hmem => absurd hmem hqueue
      granted := by
        rw [hrequest]
        exact iff_of_true (List.mem_append_right _ (List.mem_singleton_self _)) rfl
      released := by
        rw [hrequest]
        refine iff_of_false hreleased ?_
        show ¬ (s.requests id').released = true
        rw [(hok.acquiring hstage).2.2.2.2]
        exact Bool.false_ne_true
      withdrawn := fun hmem => absurd hmem hwithdrawn
      admitted := fun _ => by
        rw [hrequest]
        show (s.requests id').stage ≠ .absent
        rw [hstage]
        exact TransportStage.noConfusion }
  · refine (hothers id' hid).frame (Function.update_of_ne hid _ _) Iff.rfl ?_ Iff.rfl
      (fun hmem => hmem) fun hmem => hmem
    show id' ∈ s.granted ++ [id] ↔ _
    rw [List.mem_append, List.mem_singleton, or_iff_left hid]

/-- The next one in the queue is granted the permit that is free. -/
theorem Balanced.grantNext (h : s.Balanced 1) : s.grantNext.Sound := by
  cases hq : s.queue with
  | nil =>
      rw [grantNext_nil hq]
      exact { h with
        limit := Nat.le_of_succ_le h.limit
        full := fun hne => absurd hq hne }
  | cons next queue =>
      rw [grantNext_cons hq]
      have hnext := h.fits next
      have hmem : next ∈ s.queue := hq ▸ List.mem_cons_self
      obtain ⟨hstage, hpending⟩ := hnext.queued.mp hmem
      have hnew : next ∉ s.granted := fun hmem => by
        rw [hnext.granted.mp hmem] at hpending
        cases hpending
      have hnodup := h.queueNodup
      rw [hq, List.nodup_cons] at hnodup
      have hfull := h.full (List.ne_nil_of_mem hmem)
      have hactive := h.active
      have hshort := h.short
      rw [hq, List.length_cons] at hshort
      exact {
        fits := by
          refine grant_fits (fun id' hid => ?_) hnext.ok hstage hnodup.1 (fun hmem => ?_)
            fun hmem => hnew (hnext.resolved hmem)
          · refine (h.fits id').frame rfl ?_ Iff.rfl Iff.rfl (fun hmem => hmem) fun hmem => hmem
            rw [hq, List.mem_cons, or_iff_right hid]
          · rw [hnext.withdrawn hmem] at hpending
            cases hpending
        queueNodup := hnodup.2
        grantedNodup := (List.perm_append_singleton next s.granted).nodup_iff.mpr
          (List.nodup_cons.mpr ⟨hnew, h.grantedNodup⟩)
        releasedNodup := h.releasedNodup
        order := by
          show s.admitted.filter (· ∉ s.withdrawn) = s.granted ++ [next] ++ queue
          rw [h.order, hq, List.append_assoc, List.singleton_append]
        active := by
          show s.active + 1 + s.released.length = (s.granted ++ [next]).length
          rw [List.length_append, List.length_singleton]
          omega
        limit := by
          show s.active + 1 ≤ s.limit
          omega
        full := fun _ => hfull
        short := Nat.le_of_succ_le hshort }

/-- A request gives its permit back. -/
theorem Balanced.release (h : s.Sound) {f : TransportRequest → TransportRequest}
    (hold : (s.requests id).acquisition = .resolved) (hnew : (s.requests id).released = false)
    (hok : (f (s.requests id)).Ok) (hacquisition : (f (s.requests id)).acquisition = .resolved)
    (hreleased : (f (s.requests id)).released = true)
    (hadmitted : (f (s.requests id)).stage ≠ .absent) :
    Balanced 1 { s.modify id f with
      active := s.active - 1, released := s.released ++ [id] } := by
  have hfits := h.fits id
  have hgranted : id ∈ s.granted := hfits.granted.mpr hold
  have hnotReleased : id ∉ s.released := fun hmem => by
    rw [hfits.released.mp hmem] at hnew
    cases hnew
  have hpos := h.active_pos hgranted hnotReleased
  have hactive := h.active
  have hlimit := h.limit
  have hqueue : id ∉ s.queue := fun hmem => by
    rw [(hfits.queued.mp hmem).2] at hold
    cases hold
  exact {
    fits := by
      intro id'
      by_cases hid : id' = id
      · subst hid
        have hrequest : (s.modify id' f).requests id' = f (s.requests id') := by simp
        exact {
          ok := hrequest ▸ hok
          queued := by
            refine iff_of_false hqueue ?_
            rw [hrequest, hacquisition]
            rintro ⟨-, ⟨⟩⟩
          notAborted := fun hmem => absurd hmem hqueue
          granted := by
            rw [hrequest, hacquisition]
            exact iff_of_true hgranted rfl
          released := by
            rw [hrequest, hreleased]
            exact iff_of_true (List.mem_append_right _ (List.mem_singleton_self _)) rfl
          withdrawn := fun hmem => by
            rw [hfits.withdrawn hmem] at hold
            cases hold
          admitted := fun _ => by
            rw [hrequest]
            exact hadmitted }
      · refine (h.fits id').frame (by simp [hid]) Iff.rfl Iff.rfl ?_ (fun hmem => hmem)
          fun hmem => hmem
        rw [List.mem_append, List.mem_singleton, or_iff_left hid]
    queueNodup := h.queueNodup
    grantedNodup := h.grantedNodup
    releasedNodup := (List.perm_append_singleton id s.released).nodup_iff.mpr
      (List.nodup_cons.mpr ⟨hnotReleased, h.releasedNodup⟩)
    order := h.order
    active := by
      show s.active - 1 + (s.released ++ [id]).length = s.granted.length
      rw [List.length_append, List.length_singleton]
      omega
    limit := by
      show s.active - 1 + 1 ≤ s.limit
      omega
    full := fun hne => by
      have hfull := h.full hne
      show s.active - 1 + 1 = s.limit
      omega
    short := h.short }

/-! ## Requests that come -/

/-- A request that there has not been yet. -/
structure New (s : Transport) (id : RequestNumber) : Prop where
  request : s.requests id = {}
  queue : id ∉ s.queue
  granted : id ∉ s.granted
  released : id ∉ s.released
  withdrawn : id ∉ s.withdrawn
  admitted : id ∉ s.admitted

theorem Fits.new (h : s.Fits id) (habsent : (s.requests id).stage = .absent) : s.New id := by
  have hrequest := h.ok.absent habsent
  refine ⟨hrequest, fun hmem => ?_, fun hmem => ?_, fun hmem => ?_, fun hmem => ?_, fun hmem => ?_⟩
  · have hstage := (h.queued.mp hmem).1
    rw [habsent] at hstage
    cases hstage
  · have hresolved := h.granted.mp hmem
    rw [hrequest] at hresolved
    cases hresolved
  · have hreleased := h.released.mp hmem
    rw [hrequest] at hreleased
    cases hreleased
  · have hrejected := h.withdrawn hmem
    rw [hrequest] at hrejected
    cases hrejected
  · exact h.admitted hmem habsent

theorem ok_acquiring (acquisition : Acquisition) (aborted : Bool) :
    TransportRequest.Ok { stage := .acquiring, acquisition, aborted } where
  absent := nofun
  acquiring _ := ⟨rfl, rfl, rfl, rfl, rfl⟩
  performing := nofun
  finished := nofun
  closed := nofun

/-- A request that is not let into the queue. -/
theorem Balanced.reject (h : s.Sound) (hnew : s.New id) (aborted : Bool) :
    (s.modify id fun r =>
      { r with stage := .acquiring, aborted, acquisition := .rejected }).Sound := by
  refine h.modify ?_
  have hrequest : ∀ f, (s.modify id f).requests id = f {} := fun f => by
    rw [requests_modify, if_pos rfl, hnew.request]
  exact {
    ok := by
      rw [hrequest]
      exact ok_acquiring .rejected aborted
    queued := by
      rw [hrequest]
      exact iff_of_false hnew.queue (by rintro ⟨-, ⟨⟩⟩)
    notAborted := fun hmem => absurd hmem hnew.queue
    granted := by
      rw [hrequest]
      exact iff_of_false hnew.granted nofun
    released := by
      rw [hrequest]
      exact iff_of_false hnew.released nofun
    withdrawn := fun hmem => absurd hmem hnew.withdrawn
    admitted := fun hmem => absurd hmem hnew.admitted }

/-- A request has come, and is neither granted a permit yet nor in the queue. -/
def arrive (s : Transport) (id : RequestNumber) : Transport :=
  { s.modify id fun r => { r with stage := .acquiring, aborted := false } with
    admitted := s.admitted ++ [id] }

theorem New.arrive_request (h : s.New id) :
    (s.arrive id).requests id = { stage := .acquiring, aborted := false } := by
  unfold arrive
  dsimp only
  rw [requests_modify, if_pos rfl, h.request]

theorem Balanced.arrive_fits {free : ℕ} (h : s.Balanced free) {id' : RequestNumber}
    (hid : id' ≠ id) : (s.arrive id).Fits id' := by
  refine (h.fits id').frame (Function.update_of_ne hid _ _) Iff.rfl Iff.rfl Iff.rfl
    (fun hmem => hmem) fun hmem => ?_
  rcases List.mem_append.mp hmem with hmem | hmem
  · exact hmem
  · exact absurd (List.mem_singleton.mp hmem) hid

theorem Balanced.arrive_order {free : ℕ} (h : s.Balanced free) (hnew : s.New id) :
    (s.admitted ++ [id]).filter (· ∉ s.withdrawn) = s.granted ++ s.queue ++ [id] := by
  rw [List.filter_append, h.order, List.filter_singleton, decide_eq_true hnew.withdrawn]
  rfl

theorem Balanced.arrive_grant (h : s.Sound) (hnew : s.New id) (hfree : s.active < s.limit)
    (hempty : s.queue = []) : ((s.arrive id).grant id).Sound where
  fits := by
    have hrequest := hnew.arrive_request
    refine grant_fits (fun id' hid => h.arrive_fits hid) ?_ ?_ hnew.queue hnew.withdrawn
      hnew.released
    · rw [hrequest]
      exact ok_acquiring .pending false
    · rw [hrequest]
  queueNodup := h.queueNodup
  grantedNodup := (List.perm_append_singleton id s.granted).nodup_iff.mpr
    (List.nodup_cons.mpr ⟨hnew.granted, h.grantedNodup⟩)
  releasedNodup := h.releasedNodup
  order := by
    show (s.admitted ++ [id]).filter (· ∉ s.withdrawn) = s.granted ++ [id] ++ s.queue
    rw [h.arrive_order hnew, hempty, List.append_nil, List.append_nil]
  active := by
    have hactive := h.active
    show s.active + 1 + s.released.length = (s.granted ++ [id]).length
    rw [List.length_append, List.length_singleton]
    omega
  limit := hfree
  full hne := absurd hempty hne
  short := h.short

theorem Balanced.arrive_wait (h : s.Sound) (hnew : s.New id) (hfull : s.limit ≤ s.active)
    (hroom : s.queue.length < maxQueuedRequests) :
    Sound { s.arrive id with queue := s.queue ++ [id] } where
  fits id' := by
    by_cases hid : id' = id
    · subst hid
      have hrequest := hnew.arrive_request
      exact {
        ok := by
          rw [hrequest]
          exact ok_acquiring .pending false
        queued := by
          rw [hrequest]
          exact iff_of_true (List.mem_append_right _ (List.mem_singleton_self _)) ⟨rfl, rfl⟩
        notAborted := fun _ => by rw [hrequest]
        granted := by
          rw [hrequest]
          exact iff_of_false hnew.granted nofun
        released := by
          rw [hrequest]
          exact iff_of_false hnew.released nofun
        withdrawn := fun hmem => absurd hmem hnew.withdrawn
        admitted := fun _ => by
          rw [hrequest]
          exact TransportStage.noConfusion }
    · refine (h.arrive_fits hid).frame rfl ?_ Iff.rfl Iff.rfl (fun hmem => hmem) fun hmem => hmem
      rw [List.mem_append, List.mem_singleton, or_iff_left hid]
      exact Iff.rfl
  queueNodup := (List.perm_append_singleton id s.queue).nodup_iff.mpr
    (List.nodup_cons.mpr ⟨hnew.queue, h.queueNodup⟩)
  grantedNodup := h.grantedNodup
  releasedNodup := h.releasedNodup
  order := by
    show (s.admitted ++ [id]).filter (· ∉ s.withdrawn) = s.granted ++ (s.queue ++ [id])
    rw [h.arrive_order hnew, List.append_assoc]
  active := h.active
  limit := h.limit
  full _ := Nat.le_antisymm h.limit hfull
  short := by
    show (s.queue ++ [id]).length ≤ maxQueuedRequests
    rw [List.length_append, List.length_singleton]
    exact hroom

/-- A request that comes. -/
theorem Balanced.acquire (h : s.Sound) (hnew : s.New id) (aborted : Bool) :
    ((s.modify id fun r => { r with stage := .acquiring, aborted }).acquire id).Sound := by
  have hrequest : (s.modify id fun r => { r with stage := .acquiring, aborted }).requests id =
      { stage := .acquiring, aborted } := by
    rw [requests_modify, if_pos rfl, hnew.request]
  unfold Transport.acquire
  rw [hrequest, modify_modify]
  split
  · exact h.reject hnew aborted
  · next hlive =>
      obtain rfl : aborted = false := Bool.eq_false_iff.mpr hlive
      split
      · exact h.reject hnew false
      · next hroom =>
          change ¬ (s.limit ≤ s.active ∧ maxQueuedRequests ≤ s.queue.length) at hroom
          dsimp only
          split
          · next hfree => exact h.arrive_grant hnew hfree.1 hfree.2
          · next hwait =>
              change ¬ (s.active < s.limit ∧ s.queue = []) at hwait
              have hfull : s.limit ≤ s.active := by
                by_contra hlt
                have hqueue : s.queue ≠ [] := fun hempty => hwait ⟨Nat.lt_of_not_le hlt, hempty⟩
                exact hlt (Nat.le_of_eq (h.full hqueue).symm)
              exact h.arrive_wait hnew hfull (Nat.lt_of_not_le fun hle => hroom ⟨hfull, hle⟩)

/-! ## Requests that are aborted -/

/-- A request that waits leaves the queue. -/
theorem Balanced.withdraw (h : s.Sound) (hmem : id ∈ s.queue) :
    Sound { s.modify id fun r => { r with aborted := true, acquisition := .rejected } with
      queue := s.queue.erase id
      withdrawn := s.withdrawn ++ [id] } := by
  have hfits := h.fits id
  obtain ⟨hstage, hpending⟩ := hfits.queued.mp hmem
  have hnew : id ∉ s.granted := fun hgranted => by
    rw [hfits.granted.mp hgranted] at hpending
    cases hpending
  have hrequest : ∀ f, (s.modify id f).requests id = f (s.requests id) := fun f => by
    rw [requests_modify, if_pos rfl]
  exact {
    fits := by
      intro id'
      by_cases hid : id' = id
      · subst hid
        exact {
          ok := by
            rw [hrequest]
            exact hfits.ok.answer hstage true .rejected
          queued := by
            rw [hrequest]
            exact iff_of_false (h.queueNodup.not_mem_erase) (by rintro ⟨-, ⟨⟩⟩)
          notAborted := fun hmem => absurd hmem h.queueNodup.not_mem_erase
          granted := by
            rw [hrequest]
            exact iff_of_false hnew nofun
          released := by
            rw [hrequest]
            exact hfits.released
          withdrawn := fun _ => by rw [hrequest]
          admitted := fun hmem => by
            rw [hrequest]
            exact hfits.admitted hmem }
      · refine (h.fits id').frame (Function.update_of_ne hid _ _) (List.mem_erase_of_ne hid) Iff.rfl
          Iff.rfl (fun hmem => ?_) fun hmem => hmem
        rcases List.mem_append.mp hmem with hmem | hmem
        · exact hmem
        · exact absurd (List.mem_singleton.mp hmem) hid
    queueNodup := h.queueNodup.erase id
    grantedNodup := h.grantedNodup
    releasedNodup := h.releasedNodup
    order := by
      show s.admitted.filter (· ∉ s.withdrawn ++ [id]) = s.granted ++ s.queue.erase id
      have hsplit : s.admitted.filter (· ∉ s.withdrawn ++ [id]) =
          (s.admitted.filter (· ∉ s.withdrawn)).filter (· ≠ id) := by
        rw [List.filter_filter]
        refine List.filter_congr fun id' _ => ?_
        simp only [List.mem_append, List.mem_singleton, not_or, Bool.decide_and, Bool.and_comm]
      have hkeep : s.granted.filter (· ≠ id) = s.granted :=
        List.filter_eq_self.mpr fun id' hmem => decide_eq_true (ne_of_mem_of_not_mem hmem hnew)
      have herase : s.queue.filter (· ≠ id) = s.queue.erase id := by
        rw [h.queueNodup.erase_eq_filter]
        exact List.filter_congr fun id' _ => decide_not
      rw [hsplit, h.order, List.filter_append, hkeep, herase]
    active := h.active
    limit := h.limit
    full := fun hne => h.full fun hnil => hne (by
      show s.queue.erase id = []
      rw [hnil]
      rfl)
    short := Nat.le_trans (List.length_erase_le) h.short }

/-- The signal of a request is aborted. -/
theorem Balanced.abort (h : s.Sound) (hstage : (s.requests id).stage ≠ .absent) :
    (s.abort id).Sound := by
  unfold Transport.abort
  dsimp only
  split
  · next hmem =>
      rw [modify_modify]
      exact h.withdraw hmem
  · next hmem =>
      have hok := (h.fits id).ok
      refine h.modify_own ?_ rfl rfl (fun _ => Iff.rfl) (fun hqueue => absurd hqueue hmem)
        fun habsent => habsent
      exact { hok with absent := fun habsent => absurd habsent hstage }

/-! ## Requests that end -/

/-- `release` is called at the end of a request whose caller's part is `f`. -/
theorem Balanced.releaseLease (h : s.Sound) {f : TransportRequest → TransportRequest}
    (hlease : (f (s.requests id)).leaseReleased = false)
    (hreleased : (f (s.requests id)).released = false) (hsame : (s.requests id).released = false)
    (hacquisition : (f (s.requests id)).acquisition = (s.requests id).acquisition)
    (hpending : (s.requests id).acquisition ≠ .pending)
    (hstage : (f (s.requests id)).stage ≠ .absent)
    (hrelease : (f (s.requests id)).release = decide ((s.requests id).acquisition = .resolved))
    (hok : TransportRequest.Ok { f (s.requests id) with
      leaseReleased := true, released := (f (s.requests id)).release }) :
    ((s.modify id f).releaseLease id).Sound := by
  have hrequest : ∀ f, (s.modify id f).requests id = f (s.requests id) := fun f => by
    rw [requests_modify, if_pos rfl]
  have hqueue : id ∉ s.queue := fun hmem => hpending ((h.fits id).queued.mp hmem).2
  unfold Transport.releaseLease
  rw [hrequest, hlease, if_neg Bool.false_ne_true, modify_modify]
  dsimp only
  rw [hrequest]
  split
  · next hhas =>
      rw [hhas] at hok hrelease
      have hresolved : (s.requests id).acquisition = .resolved := of_decide_eq_true hrelease.symm
      unfold Transport.releasePermit
      rw [hrequest, hreleased, if_neg Bool.false_ne_true, modify_modify]
      exact (h.release (f := fun r => { f r with leaseReleased := true, released := true })
        hresolved hsame hok (hacquisition.trans hresolved) rfl hstage).grantNext
  · next hnot =>
      rw [Bool.not_eq_true] at hnot
      rw [hnot] at hok
      refine h.modify_own ?_ hacquisition (hreleased.trans hsame.symm)
        (fun hacq => absurd hacq hpending) (fun hmem => absurd hmem hqueue)
        fun habsent => absurd habsent hstage
      rw [← hreleased] at hok
      exact hok

/-- The caller of a request has its answer. -/
theorem Balanced.settle (h : s.Sound) (hstage : (s.requests id).stage = .performing ∨
      ((s.requests id).stage = .acquiring ∧ (s.requests id).acquisition = .rejected)) :
    (s.settle id).Sound := by
  have hok := (h.fits id).ok
  have hfacts : (s.requests id).acquisition ≠ .pending ∧ (s.requests id).leaseReleased = false ∧
      (s.requests id).released = false ∧
      (s.requests id).release = decide ((s.requests id).acquisition = .resolved) := by
    rcases hstage with hperforming | ⟨hacquiring, hrejected⟩
    · obtain ⟨hacq, hrelease, -, hlease, hreleased⟩ := hok.performing hperforming
      rw [hacq, hrelease]
      exact ⟨nofun, hlease, hreleased, rfl⟩
    · obtain ⟨hrelease, -, hlease, -, hreleased⟩ := hok.acquiring hacquiring
      rw [hrejected, hrelease]
      exact ⟨nofun, hlease, hreleased, rfl⟩
  obtain ⟨hpending, hlease, hreleased, hrelease⟩ := hfacts
  have hqueue : id ∉ s.queue := fun hmem => hpending ((h.fits id).queued.mp hmem).2
  unfold Transport.settle
  generalize (if (s.requests id).callerActive then s.activeCallers - 1 else s.activeCallers) =
    callers
  have hcallers := h.activeCallers callers
  have hrequest :
    (s.modify id fun r => { r with stage := .finished, callerFinished := true }).requests
      id = { s.requests id with stage := .finished, callerFinished := true } := by
    rw [requests_modify, if_pos rfl]
  dsimp only
  rw [hrequest]
  split
  · next hclosed =>
      refine hcallers.releaseLease (f := fun r =>
        { r with stage := .finished, callerFinished := true })
        hlease hreleased hreleased rfl hpending nofun hrelease ?_
      exact {
        absent := nofun
        acquiring := nofun
        performing := nofun
        finished := fun _ => ⟨hpending, rfl, hrelease, hclosed.symm, rfl⟩
        closed := hok.closed }
  · next hopen =>
      refine hcallers.modify_own (f := fun r =>
        { r with stage := .finished, callerFinished := true })
        ?_ rfl rfl (fun hacq => absurd hacq hpending) (fun hmem => absurd hmem hqueue) nofun
      rw [Bool.not_eq_true] at hopen
      exact {
        absent := nofun
        acquiring := nofun
        performing := nofun
        finished := fun _ => ⟨hpending, rfl, hrelease, hlease.trans hopen.symm, by
          show (s.requests id).released = ((s.requests id).leaseReleased && _)
          rw [hreleased, hlease]
          rfl⟩
        closed := hok.closed }

/-- The socket of a request closes. -/
theorem Balanced.closeSocket (h : s.Sound) (hsocket : (s.requests id).retainedSocket = true)
    (hopen : (s.requests id).retainedSocketClosed = false) : (s.closeSocket id).Sound := by
  have hok := (h.fits id).ok
  have hrequest : (s.modify id fun r => { r with retainedSocketClosed := true }).requests id =
      { s.requests id with retainedSocketClosed := true } := by
    rw [requests_modify, if_pos rfl]
  unfold Transport.closeSocket
  dsimp only
  rw [hrequest]
  cases hstage : (s.requests id).stage with
  | absent =>
      rw [hok.absent hstage] at hsocket
      cases hsocket
  | acquiring =>
      rw [(hok.acquiring hstage).2.2.2.1] at hsocket
      cases hsocket
  | performing =>
      obtain ⟨hacq, hrelease, hfinished, hlease, hreleased⟩ := hok.performing hstage
      rw [hfinished, if_neg Bool.false_ne_true]
      refine h.modify_own ?_ rfl rfl (fun _ => Iff.rfl) (fun hmem => ?_) fun habsent => habsent
      · exact { hok with
          absent := fun habsent => by
            rw [show (s.requests id).stage = .absent from habsent] at hstage
            cases hstage
          finished := fun hfin => by
            rw [show (s.requests id).stage = .finished from hfin] at hstage
            cases hstage
          closed := fun _ => hsocket }
      · exact (h.fits id).notAborted hmem
  | finished =>
      obtain ⟨hpending, hfinished, hrelease, hlease, hreleased⟩ := hok.finished hstage
      rw [hsocket, hopen] at hlease
      rw [hlease] at hreleased
      rw [hfinished, if_pos rfl]
      refine h.releaseLease hlease hreleased hreleased rfl hpending ?_ hrelease ?_
      · show (s.requests id).stage ≠ .absent
        rw [hstage]
        exact TransportStage.noConfusion
      · exact {
          absent := fun habsent => by
            rw [show (s.requests id).stage = .absent from habsent] at hstage
            cases hstage
          acquiring := fun hacq => by
            rw [show (s.requests id).stage = .acquiring from hacq] at hstage
            cases hstage
          performing := fun hperf => by
            rw [show (s.requests id).stage = .performing from hperf] at hstage
            cases hstage
          finished := fun _ => ⟨hpending, hfinished, hrelease, by simp, rfl⟩
          closed := fun _ => hsocket }

/-- The caller of a request goes on with its permit. -/
theorem Balanced.resume (h : s.Sound) (hstage : (s.requests id).stage = .acquiring)
    (hresolved : (s.requests id).acquisition = .resolved) : (s.resume id).Sound := by
  have hok := (h.fits id).ok
  obtain ⟨-, hfinished, hlease, -, hreleased⟩ := hok.acquiring hstage
  have hqueue : id ∉ s.queue := fun hmem => by
    rw [((h.fits id).queued.mp hmem).2] at hresolved
    cases hresolved
  refine (h.modify_own ?_ rfl rfl (fun hpending => ?_) (fun hmem => absurd hmem hqueue)
    ?_).activeCallers _
  · exact {
      absent := nofun
      acquiring := nofun
      performing := fun _ => ⟨hresolved, rfl, hfinished, hlease, hreleased⟩
      finished := nofun
      closed := hok.closed }
  · rw [hresolved] at hpending
    cases hpending
  · nofun

/-- The connection of a request is opened. -/
theorem Balanced.openSocket (h : s.Sound) (hstage : (s.requests id).stage = .performing) :
    (s.modify id fun r => { r with retainedSocket := true }).Sound := by
  have hok := (h.fits id).ok
  obtain ⟨hacq, hperforming⟩ := hok.performing hstage
  refine h.modify_own ?_ rfl rfl (fun _ => Iff.rfl) (h.fits id).notAborted fun habsent => habsent
  exact {
    absent := fun habsent => by
      rw [show (s.requests id).stage = .absent from habsent] at hstage
      cases hstage
    acquiring := fun hacq => by
      rw [show (s.requests id).stage = .acquiring from hacq] at hstage
      cases hstage
    performing := hok.performing
    finished := fun hfin => by
      rw [show (s.requests id).stage = .finished from hfin] at hstage
      cases hstage
    closed := fun _ => rfl }

end Transport

open Transport in
theorem transport_inductive : transport.Inductive Sound where
  init s hs := by
    rw [hs]
    exact {
      fits := fun _ => {
        ok := ⟨fun _ => rfl, nofun, nofun, nofun, nofun⟩
        queued := iff_of_false List.not_mem_nil (by rintro ⟨⟨⟩, -⟩)
        notAborted := nofun
        granted := iff_of_false List.not_mem_nil nofun
        released := iff_of_false List.not_mem_nil nofun
        withdrawn := nofun
        admitted := nofun }
      queueNodup := List.nodup_nil
      grantedNodup := List.nodup_nil
      releasedNodup := List.nodup_nil
      order := rfl
      active := rfl
      limit := Nat.zero_le _
      full := fun hne => absurd rfl hne
      short := Nat.zero_le _ }
  step s l t h hstep := by
    cases hstep with
    | request id aborted habsent => exact h.acquire ((h.fits id).new habsent) aborted
    | abort id hstage =>
        exact h.abort (ne_of_mem_of_not_mem hstage (by decide))
    | timeout id hstage =>
        exact h.abort (ne_of_mem_of_not_mem hstage (by decide))
    | resume id hstage hresolved => exact h.resume hstage hresolved
    | refuse id hstage hrejected => exact h.settle (.inr ⟨hstage, hrejected⟩)
    | openSocket id hstage hnone => exact h.openSocket hstage
    | closeSocket id hsocket hopen => exact h.closeSocket hsocket hopen
    | finish id hstage => exact h.settle (.inl hstage)

/-! ## Requests that have left the queue -/

namespace Transport

theorem withdrawn_grantNext (s : Transport) : s.grantNext.withdrawn = s.withdrawn := by
  unfold grantNext
  split
  · rfl
  · rfl

theorem withdrawn_releasePermit (s : Transport) (id : RequestNumber) :
    (s.releasePermit id).withdrawn = s.withdrawn := by
  unfold releasePermit
  split
  · rfl
  · exact withdrawn_grantNext _

theorem withdrawn_releaseLease (s : Transport) (id : RequestNumber) :
    (s.releaseLease id).withdrawn = s.withdrawn := by
  unfold releaseLease
  dsimp only
  split
  · rfl
  · split
    · exact withdrawn_releasePermit _ id
    · rfl

theorem withdrawn_settle (s : Transport) (id : RequestNumber) :
    (s.settle id).withdrawn = s.withdrawn := by
  unfold settle
  dsimp only
  split
  · exact withdrawn_releaseLease _ id
  · rfl

theorem withdrawn_closeSocket (s : Transport) (id : RequestNumber) :
    (s.closeSocket id).withdrawn = s.withdrawn := by
  unfold closeSocket
  dsimp only
  split
  · exact withdrawn_releaseLease _ id
  · rfl

theorem withdrawn_acquire (s : Transport) (id : RequestNumber) :
    (s.acquire id).withdrawn = s.withdrawn := by
  unfold acquire
  dsimp only
  split
  · rfl
  · split
    · rfl
    · split
      · rfl
      · rfl

theorem withdrawn_abort (s : Transport) (id : RequestNumber) :
    (s.abort id).withdrawn = if id ∈ s.queue then s.withdrawn ++ [id] else s.withdrawn := by
  unfold abort
  dsimp only
  split
  · next hmem => exact (if_pos (show id ∈ s.queue from hmem)).symm
  · next hmem => exact (if_neg (show id ∉ s.queue from hmem)).symm

end Transport

/-- What has left the queue does not come back. -/
theorem TransportStep.withdrawn {s t : Transport} {l : TransportLabel} (h : TransportStep s l t) :
    s.withdrawn ⊆ t.withdrawn := by
  have habort : ∀ id, s.withdrawn ⊆ (s.abort id).withdrawn := by
    intro id
    rw [Transport.withdrawn_abort]
    split
    · exact List.subset_append_left _ _
    · exact List.Subset.refl _
  cases h with
  | request id => exact (Transport.withdrawn_acquire _ id).symm ▸ List.Subset.refl _
  | abort id => exact habort id
  | timeout id => exact habort id
  | resume id => exact List.Subset.refl _
  | refuse id => exact (Transport.withdrawn_settle s id).symm ▸ List.Subset.refl _
  | openSocket id => exact List.Subset.refl _
  | closeSocket id => exact (Transport.withdrawn_closeSocket s id).symm ▸ List.Subset.refl _
  | finish id => exact (Transport.withdrawn_settle s id).symm ▸ List.Subset.refl _

/-! ## Permits -/

/-- Permits are conserved. -/
structure Transport.Conserved (s : Transport) : Prop where
  /-- No permit is released twice, or without having been granted. -/
  once : s.released.Nodup ∧ s.released ⊆ s.granted ∧ s.granted.Nodup
  /-- A permit has been released if its caller has finished and its socket has closed, and not
  before. -/
  exactly : ∀ id ∈ s.granted, id ∈ s.released ↔ (s.requests id).callerFinished = true ∧
    ((s.requests id).retainedSocket = true → (s.requests id).retainedSocketClosed = true)
  /-- The active permits are those that have been granted and not released. -/
  active : s.active + s.released.length = s.granted.length
  limit : s.active ≤ s.limit
  short : s.queue.length ≤ maxQueuedRequests
  /-- Of those that have come and have not withdrawn, the first are granted and the others wait. -/
  order : s.admitted.filter (· ∉ s.withdrawn) = s.granted ++ s.queue
  full : s.queue ≠ [] → s.active = s.limit

theorem Transport.Balanced.conserved {s : Transport} (h : s.Sound) : s.Conserved where
  once := ⟨h.releasedNodup, fun id hmem => (h.fits id).resolved hmem, h.grantedNodup⟩
  exactly id hgranted := by
    have hfits := h.fits id
    have hok := hfits.ok
    have hresolved := hfits.granted.mp hgranted
    rw [hfits.released]
    cases hstage : (s.requests id).stage with
    | absent =>
        rw [hok.absent hstage] at hresolved
        cases hresolved
    | acquiring =>
        obtain ⟨-, hfinished, -, -, hreleased⟩ := hok.acquiring hstage
        rw [hfinished, hreleased]
        simp
    | performing =>
        obtain ⟨-, -, hfinished, -, hreleased⟩ := hok.performing hstage
        rw [hfinished, hreleased]
        simp
    | finished =>
        obtain ⟨-, hfinished, hrelease, hlease, hreleased⟩ := hok.finished hstage
        rw [hresolved, decide_eq_true rfl] at hrelease
        rw [hreleased, hlease, hrelease, hfinished]
        cases (s.requests id).retainedSocket <;> simp
  active := h.active
  limit := h.limit
  short := h.short
  order := h.order
  full := h.full

/-- **Permits are neither lost nor doubled**, and a request that is aborted while it waits is
never granted one. -/
theorem permits_conserved {s : Transport} (hs : transport.Reachable s) :
    s.Conserved ∧ ∀ id ∈ s.queue, ∀ l ∈ [TransportLabel.abort id, .timeout id], ∀ t ls u,
      transport.step s l t → transport.Run t ls u → id ∉ u.granted := by
  refine ⟨(transport_inductive.reachable hs).conserved, fun id hqueue l hl t ls u hstep hrun => ?_⟩
  have hwithdrawn : id ∈ t.withdrawn := by
    have habort : id ∈ (s.abort id).withdrawn := by
      rw [Transport.withdrawn_abort, if_pos hqueue]
      exact List.mem_append_right _ (List.mem_singleton_self _)
    rcases List.mem_cons.mp hl with rfl | hl
    · cases hstep
      exact habort
    · obtain rfl := List.mem_singleton.mp hl
      cases hstep
      exact habort
  have hlater : id ∈ u.withdrawn :=
    hrun.preserves (I := fun s => id ∈ s.withdrawn)
      (fun _ _ _ hmem hstep => TransportStep.withdrawn hstep hmem) hwithdrawn
  have hfits := (transport_inductive.reachable ((hs.step hstep).run hrun)).fits id
  intro hgranted
  have hresolved := hfits.granted.mp hgranted
  rw [hfits.withdrawn hlater] at hresolved
  cases hresolved

/-- Of three requests for one permit the first opens a socket, the second is aborted while it
waits, and the third gets the permit once that socket has closed. -/
theorem permits_conserved_three : ∃ s, transport.Reachable s ∧ s.granted = [0, 2] ∧
    s.released = [0] ∧ s.withdrawn = [1] ∧ s.Conserved := by
  have h₀ : transport.Reachable { limit := 1 } := .of_init rfl
  have h₁ := h₀.step (.request _ 0 false rfl)
  have h₂ := h₁.step (.request _ 1 false rfl)
  have h₃ := h₂.step (.request _ 2 false rfl)
  have h₄ := h₃.step (.resume _ 0 rfl rfl)
  have h₅ := h₄.step (.openSocket _ 0 rfl rfl)
  have h₆ := h₅.step (.timeout _ 1 (by decide))
  have h₇ := h₆.step (.finish _ 0 rfl)
  have h₈ := h₇.step (.closeSocket _ 0 rfl rfl)
  exact ⟨_, h₈, rfl, rfl, rfl, (permits_conserved h₈).1⟩

end GreenRoom.Providers
