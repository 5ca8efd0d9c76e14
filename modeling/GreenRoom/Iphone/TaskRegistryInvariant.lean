import GreenRoom.Iphone.TaskRegistry

/-!
# Admission invariant of the provider task registry

The registry keeps three things in step: the entries, the queue, and the number
of active entries.  `Linked` says how they belong together and is all a critical
section may assume; `Admitted` adds that no free slot is left while an entry
waits, which `promoteLocked` restores on every path that frees one.  `Advances`
says what a method may do to the entries and their closures: it ends an entry at
most once, keeps it ended, and drops every entry when the epoch moves on.

## Main definitions

* `Linked`, `Admitted` — the invariant, inside and outside a critical section.
* `endings` — the entries a list of effects completes or cancels.
* `Advances` — what a method does to the entries, closed under composition.

## Main results

* `promoteLoop_linked` — promotion restores the full invariant.
* `perform_spec` — one method call.
* `registry_admission` — every run of method calls.
-/

namespace GreenRoom.Iphone
namespace ProviderTaskRegistry

variable {limits : RegistryLimits} {r : ProviderTaskRegistry} {id : RequestId} {e : Entry}

/-! ## The invariant -/

/-- How entries, queue and counters belong together. -/
structure Linked (limits : RegistryLimits) (r : ProviderTaskRegistry) : Prop where
  active_le : activeCount r.tasks ≤ limits.maximumConcurrent
  queue_le : r.queue.length ≤ limits.maximumQueued
  queue_nodup : r.queue.Nodup
  mem_queue : ∀ id, id ∈ r.queue ↔ ∃ e, r.tasks.lookup id = some e ∧ e.state = .queued
  queue_order : r.queue.Pairwise fun a b => ∀ e f, r.tasks.lookup a = some e →
    r.tasks.lookup b = some f → e.installation < f.installation
  current : ∀ id e, r.tasks.lookup id = some e →
    e.lifecycleEpoch = r.lifecycleEpoch ∧ r.available
  numbered : ∀ id e, r.tasks.lookup id = some e → e.installation < r.installations
  distinct : ∀ a b e f, r.tasks.lookup a = some e → r.tasks.lookup b = some f →
    e.installation = f.installation → a = b
  started_active : ∀ id e, r.tasks.lookup id = some e → e.started → e.state = .active

/-- Outside a critical section every slot is used while an entry waits. -/
structure Admitted (limits : RegistryLimits) (r : ProviderTaskRegistry) : Prop
    extends Linked limits r where
  saturated : r.queue ≠ [] → activeCount r.tasks = limits.maximumConcurrent

theorem Linked.admitted (h : Linked limits r)
    (hs : r.queue ≠ [] → activeCount r.tasks = limits.maximumConcurrent) : Admitted limits r :=
  ⟨h, hs⟩

theorem admitted_empty (limits : RegistryLimits) : Admitted limits {} := by
  constructor
  · constructor <;> simp [activeCount]
  · simp

/-- Entry `n` is still in the registry. -/
def Live (r : ProviderTaskRegistry) (n : ℕ) : Prop :=
  ∃ id e, r.tasks.lookup id = some e ∧ e.installation = n

/-! ### Entries leave or become active -/

/-- `f` is the entry `g`, possibly with its state or its task changed. -/
structure Entry.Same (f g : Entry) : Prop where
  installation : f.installation = g.installation
  lifecycleEpoch : f.lifecycleEpoch = g.lifecycleEpoch
  active : f.state = .active ∨ f = g

/-- No new entry appears and the queue loses what is no longer queued: all of the
invariant but the bound on active entries and the queue's contents follows. -/
theorem Linked.keep (h : Linked limits r) {tasks : KeyedTable RequestId Entry}
    {queue : List RequestId}
    (hfrom : ∀ x f, tasks.lookup x = some f → ∃ g, r.tasks.lookup x = some g ∧ Entry.Same f g)
    (hle : activeCount tasks ≤ limits.maximumConcurrent) (hsub : queue.Sublist r.queue)
    (hmem : ∀ x, x ∈ queue ↔ ∃ e, tasks.lookup x = some e ∧ e.state = .queued) :
    Linked limits { r with tasks, queue } where
  active_le := hle
  queue_le := hsub.length_le.trans h.queue_le
  queue_nodup := h.queue_nodup.sublist hsub
  mem_queue := hmem
  queue_order := by
    refine (h.queue_order.sublist hsub).imp ?_
    intro a b hab e f he hf
    obtain ⟨e', he', hee⟩ := hfrom a e he
    obtain ⟨f', hf', hff⟩ := hfrom b f hf
    rw [hee.installation, hff.installation]
    exact hab e' f' he' hf'
  current x f hx := by
    obtain ⟨g, hg, hfg⟩ := hfrom x f hx
    rw [hfg.lifecycleEpoch]
    exact h.current x g hg
  numbered x f hx := by
    obtain ⟨g, hg, hfg⟩ := hfrom x f hx
    rw [hfg.installation]
    exact h.numbered x g hg
  distinct a b e f he hf hef := by
    obtain ⟨e', he', hee⟩ := hfrom a e he
    obtain ⟨f', hf', hff⟩ := hfrom b f hf
    exact h.distinct a b e' f' he' hf' (by rw [← hee.installation, hef, hff.installation])
  started_active x f hx hs := by
    obtain ⟨g, hg, hfg⟩ := hfrom x f hx
    rcases hfg.active with ha | rfl
    · exact ha
    · exact h.started_active x f hg hs

theorem activeCount_erase_le (tasks : KeyedTable RequestId Entry) (id : RequestId) :
    activeCount (tasks.erase id) ≤ activeCount tasks := by
  have h := KeyedTable.count_erase Entry.isActive tasks id
  unfold activeCount
  omega

/-- An entry leaves, and with it its place in the queue. -/
theorem Linked.erase (h : Linked limits r) {queue : List RequestId}
    (hsub : queue.Sublist r.queue) (hmem : ∀ x, x ∈ queue ↔ x ∈ r.queue ∧ x ≠ id) :
    Linked limits { r with tasks := r.tasks.erase id, queue } := by
  refine h.keep ?_ ((activeCount_erase_le r.tasks id).trans h.active_le) hsub ?_
  · intro x f hx
    rw [KeyedTable.lookup_erase] at hx
    split at hx
    · cases hx
    · exact ⟨f, hx, rfl, rfl, .inr rfl⟩
  · intro x
    rw [hmem, h.mem_queue, KeyedTable.lookup_erase]
    by_cases hx : x = id <;> simp [hx]

/-- An active entry is not in the queue. -/
theorem Linked.not_mem_queue (h : Linked limits r) (hid : r.tasks.lookup id = some e)
    (ha : e.state = .active) : id ∉ r.queue := by
  rw [h.mem_queue]
  rintro ⟨e', he', hq⟩
  rw [hid, Option.some_inj] at he'
  rw [← he', ha] at hq
  cases hq

theorem Linked.eraseActive (h : Linked limits r) (hid : r.tasks.lookup id = some e)
    (ha : e.state = .active) : Linked limits { r with tasks := r.tasks.erase id } := by
  refine h.erase (List.Sublist.refl _) ?_
  intro x
  constructor
  · intro hx
    exact ⟨hx, fun hxid => h.not_mem_queue hid ha (hxid ▸ hx)⟩
  · exact fun hx => hx.1

theorem Linked.eraseQueued (h : Linked limits r) (id : RequestId) :
    Linked limits { r with tasks := r.tasks.erase id, queue := r.queue.filter fun x => x ≠ id } :=
  h.erase List.filter_sublist (by simp)

/-- Without its head, the queue holds what it held but the head. -/
theorem Linked.mem_tail (h : Linked limits r) {queue : List RequestId}
    (hq : r.queue = id :: queue) (x : RequestId) : x ∈ queue ↔ x ∈ r.queue ∧ x ≠ id := by
  have hnodup := h.queue_nodup
  rw [hq, List.nodup_cons] at hnodup
  rw [hq, List.mem_cons]
  constructor
  · intro hx
    exact ⟨.inr hx, fun hxid => hnodup.1 (hxid ▸ hx)⟩
  · rintro ⟨rfl | hx, hne⟩
    · exact absurd rfl hne
    · exact hx

theorem Linked.eraseHead (h : Linked limits r) {queue : List RequestId}
    (hq : r.queue = id :: queue) :
    Linked limits { r with tasks := r.tasks.erase id, queue } :=
  h.erase (hq ▸ List.sublist_cons_self id queue) (h.mem_tail hq)

/-- An entry becomes or stays active, and leaves the queue if it was in it. -/
theorem Linked.activate (h : Linked limits r) (hid : r.tasks.lookup id = some e) {f : Entry}
    (hsame : Entry.Same f e) (ha : f.state = .active) {queue : List RequestId}
    (hsub : queue.Sublist r.queue) (hmem : ∀ x, x ∈ queue ↔ x ∈ r.queue ∧ x ≠ id)
    (hle : activeCount (r.tasks.insert id f) ≤ limits.maximumConcurrent) :
    Linked limits { r with tasks := r.tasks.insert id f, queue } := by
  refine h.keep ?_ hle hsub ?_
  · intro x g hx
    rw [KeyedTable.lookup_insert] at hx
    split at hx
    · next hxid =>
        cases hx
        exact ⟨e, hxid ▸ hid, hsame⟩
    · exact ⟨g, hx, rfl, rfl, .inr rfl⟩
  · intro x
    rw [hmem, h.mem_queue, KeyedTable.lookup_insert]
    by_cases hx : x = id <;> simp [hx, ha]

/-- Making a queued entry active takes one more slot. -/
theorem activeCount_promote (tasks : KeyedTable RequestId Entry) {f : Entry}
    (hid : tasks.lookup id = some e) (hq : e.state = .queued) (ha : f.state = .active) :
    activeCount (tasks.insert id f) = activeCount tasks + 1 := by
  have h := KeyedTable.count_erase Entry.isActive tasks id
  have h' := KeyedTable.count_insert Entry.isActive tasks id f
  have he : e.isActive = false := by simp [hq]
  have he' : f.isActive = true := by simp [ha]
  rw [hid, Option.any_some, he, if_neg Bool.false_ne_true] at h
  rw [he', if_pos rfl] at h'
  unfold activeCount
  omega

/-- Rewriting an active entry takes no slot. -/
theorem activeCount_rewrite (tasks : KeyedTable RequestId Entry) {f : Entry}
    (hid : tasks.lookup id = some e) (hq : e.state = .active) (ha : f.state = .active) :
    activeCount (tasks.insert id f) = activeCount tasks := by
  have h := KeyedTable.count_erase Entry.isActive tasks id
  have h' := KeyedTable.count_insert Entry.isActive tasks id f
  have he : e.isActive = true := by simp [hq]
  have he' : f.isActive = true := by simp [ha]
  rw [hid, Option.any_some, he, if_pos rfl] at h
  rw [he', if_pos rfl] at h'
  unfold activeCount
  omega

/-- A queued entry that leaves frees no slot. -/
theorem activeCount_erase_queued (tasks : KeyedTable RequestId Entry)
    (hid : tasks.lookup id = some e) (hq : e.state = .queued) :
    activeCount (tasks.erase id) = activeCount tasks := by
  have h := KeyedTable.count_erase Entry.isActive tasks id
  have he : e.isActive = false := by simp [hq]
  rw [hid, Option.any_some, he, if_neg Bool.false_ne_true] at h
  unfold activeCount
  omega

theorem Linked.promoteHead (h : Linked limits r) {queue : List RequestId}
    (hq : r.queue = id :: queue) (hid : r.tasks.lookup id = some e) (hs : e.state = .queued)
    (hlt : activeCount r.tasks < limits.maximumConcurrent) :
    Linked limits
      { r with tasks := r.tasks.insert id { e with state := .active }, queue } := by
  refine h.activate (f := { e with state := .active }) hid ⟨rfl, rfl, .inl rfl⟩ rfl
    (hq ▸ List.sublist_cons_self id queue) (h.mem_tail hq) ?_
  rw [activeCount_promote r.tasks hid hs rfl]
  exact hlt

theorem Linked.markStarted (h : Linked limits r) (hid : r.tasks.lookup id = some e)
    (ha : e.state = .active) :
    Linked limits { r with tasks := r.tasks.insert id { e with started := true } } := by
  refine h.activate (f := { e with started := true }) hid ⟨rfl, rfl, .inl ha⟩ ha
    (List.Sublist.refl _) ?_ ?_
  · intro x
    constructor
    · intro hx
      exact ⟨hx, fun hxid => h.not_mem_queue hid ha (hxid ▸ hx)⟩
    · exact fun hx => hx.1
  · rw [activeCount_rewrite (f := { e with started := true }) r.tasks hid ha ha]
    exact h.active_le

/-! ### Entries arrive -/

theorem activeCount_add_active {tasks : KeyedTable RequestId Entry}
    (hid : tasks.lookup id = none) (ha : e.state = .active) :
    activeCount (tasks.insert id e) = activeCount tasks + 1 := by
  have h := KeyedTable.count_erase Entry.isActive tasks id
  have h' := KeyedTable.count_insert Entry.isActive tasks id e
  have he : e.isActive = true := by simp [ha]
  rw [hid, Option.any_none, if_neg Bool.false_ne_true] at h
  rw [he, if_pos rfl] at h'
  unfold activeCount
  omega

theorem activeCount_add_queued {tasks : KeyedTable RequestId Entry}
    (hid : tasks.lookup id = none) (hq : e.state = .queued) :
    activeCount (tasks.insert id e) = activeCount tasks := by
  have h := KeyedTable.count_erase Entry.isActive tasks id
  have h' := KeyedTable.count_insert Entry.isActive tasks id e
  have he : e.isActive = false := by simp [hq]
  rw [hid, Option.any_none, if_neg Bool.false_ne_true] at h
  rw [he, if_neg Bool.false_ne_true] at h'
  unfold activeCount
  omega

/-- A new entry under a free request. -/
theorem Linked.add (h : Linked limits r) (hid : r.tasks.lookup id = none)
    (hav : r.available) (he : e.installation = r.installations)
    (hep : e.lifecycleEpoch = r.lifecycleEpoch) (hns : e.started = false) {queue : List RequestId}
    (hqueue : queue = r.queue ∧ e.state = .active ∨
      queue = r.queue ++ [id] ∧ e.state = .queued)
    (hle : activeCount (r.tasks.insert id e) ≤ limits.maximumConcurrent)
    (hlen : queue.length ≤ limits.maximumQueued) :
    Linked limits { r.addEntry id e with queue } := by
  have hnot : id ∉ r.queue := by
    rw [h.mem_queue, hid]
    simp
  have hne : ∀ a ∈ r.queue, ¬ a = id := by
    rintro a ha rfl
    exact hnot ha
  constructor
  · exact hle
  · exact hlen
  · rcases hqueue with ⟨rfl, -⟩ | ⟨rfl, -⟩
    · exact h.queue_nodup
    · rw [List.nodup_append]
      refine ⟨h.queue_nodup, by simp, ?_⟩
      intro a ha b hb hab
      rw [List.mem_singleton] at hb
      exact hnot (hb ▸ hab ▸ ha)
  · intro x
    have hx := h.mem_queue x
    simp only [addEntry, KeyedTable.lookup_insert]
    rcases hqueue with ⟨rfl, ha⟩ | ⟨rfl, ha⟩
    · by_cases hxid : x = id
      · subst hxid
        simp [hnot, ha]
      · rw [if_neg hxid, hx]
    · by_cases hxid : x = id
      · subst hxid
        simp [ha]
      · simp [hxid, hx]
  · -- an older entry precedes a newer one, and the new one is the newest
    have hold : r.queue.Pairwise fun a b => ∀ f g, (r.tasks.insert id e).lookup a = some f →
        (r.tasks.insert id e).lookup b = some g → f.installation < g.installation := by
      refine List.Pairwise.imp_of_mem ?_ h.queue_order
      intro a b hma hmb hab f g hf hg
      rw [KeyedTable.lookup_insert, if_neg (hne a hma)] at hf
      rw [KeyedTable.lookup_insert, if_neg (hne b hmb)] at hg
      exact hab f g hf hg
    rcases hqueue with ⟨rfl, -⟩ | ⟨rfl, -⟩
    · exact hold
    · refine List.pairwise_append.mpr ⟨hold, List.pairwise_singleton _ _, ?_⟩
      intro a ha b hb f g hf hg
      rw [List.mem_singleton] at hb
      simp only [addEntry, KeyedTable.lookup_insert, hb, if_true, Option.some_inj] at hf hg
      rw [if_neg (hne a ha)] at hf
      rw [← hg, he]
      exact h.numbered a f hf
  · intro x f hx
    simp only [addEntry, KeyedTable.lookup_insert] at hx
    split at hx
    · cases hx
      exact ⟨hep, hav⟩
    · exact h.current x f hx
  · intro x f hx
    simp only [addEntry, KeyedTable.lookup_insert] at hx
    split at hx
    · cases hx
      exact he ▸ Nat.lt_succ_self _
    · exact (h.numbered x f hx).trans (Nat.lt_succ_self _)
  · intro a b f g hf hg hfg
    simp only [addEntry, KeyedTable.lookup_insert] at hf hg
    split at hf <;> split at hg
    · simp_all
    · cases hf
      have := h.numbered b g hg
      omega
    · cases hg
      have := h.numbered a f hf
      omega
    · exact h.distinct a b f g hf hg hfg
  · intro x f hx hs
    simp only [addEntry, KeyedTable.lookup_insert] at hx
    split at hx
    · cases hx
      rw [hns] at hs
      cases hs
    · exact h.started_active x f hx hs

/-! ## Endings -/

/-- The entry an effect completes or cancels. -/
def ending : Effect → Option ℕ
  | .cancellation n _ _ => some n
  | .claim n => some n
  | _ => none

/-- The entries a list of effects completes or cancels, with repetitions. -/
def endings (effects : List Effect) : List ℕ := effects.filterMap ending

@[simp] theorem endings_nil : endings [] = [] := rfl

@[simp] theorem endings_append (xs ys : List Effect) :
    endings (xs ++ ys) = endings xs ++ endings ys := List.filterMap_append

@[simp] theorem endings_claim (n : ℕ) (xs : List Effect) :
    endings (.claim n :: xs) = n :: endings xs := rfl

@[simp] theorem endings_cancellation (n : ℕ) (started : Bool) (failure : DatabaseFailure)
    (xs : List Effect) : endings (.cancellation n started failure :: xs) = n :: endings xs := rfl

@[simp] theorem endings_start (n : ℕ) (remaining : TimeInterval) (xs : List Effect) :
    endings (.start n remaining :: xs) = endings xs := rfl

@[simp] theorem endings_resumeTask (n : ℕ) (xs : List Effect) :
    endings (.resumeTask n :: xs) = endings xs := rfl

@[simp] theorem endings_cancellationEffects (failure : DatabaseFailure) (e : Entry) :
    endings (cancellationEffects failure e) = [e.installation] := by
  unfold cancellationEffects
  split <;> rfl

theorem endings_flatMap_cancellation (failure : DatabaseFailure) (es : List Entry) :
    endings (es.flatMap (cancellationEffects failure)) = es.map Entry.installation := by
  induction es with
  | nil => rfl
  | cons e es ih => rw [List.flatMap_cons, endings_append, ih, endings_cancellationEffects]; rfl

theorem endings_promoted (ps : List (TimeInterval × Entry)) :
    endings (ps.map fun (remaining, entry) => .start entry.installation remaining) = [] := by
  induction ps with
  | nil => rfl
  | cons p ps ih => exact ih

theorem endings_effects (p : PromotionResult) :
    endings p.effects = p.expired.map Entry.installation := by
  rw [PromotionResult.effects, endings_append, endings_flatMap_cancellation, endings_promoted,
    List.append_nil]

/-! ## What a method does to the entries -/

/-- From `r` to `r'`, ending `ended`: an entry is ended once and does not survive it;
what is ended or survives was live or is new; a new epoch keeps no old entry. -/
structure Advances (r : ProviderTaskRegistry) (ended : List ℕ) (r' : ProviderTaskRegistry) :
    Prop where
  installations_le : r.installations ≤ r'.installations
  nodup : ended.Nodup
  ended_live : ∀ n ∈ ended, (r.Live n ∨ r.installations ≤ n) ∧ n < r'.installations
  survivor : ∀ n, r'.Live n → (r.Live n ∨ r.installations ≤ n) ∧ n ∉ ended
  epoch_le : r.lifecycleEpoch ≤ r'.lifecycleEpoch
  epoch : r.lifecycleEpoch = r'.lifecycleEpoch ∨ ∀ n, r'.Live n → r.installations ≤ n

namespace Advances

variable {r r₁ r₂ : ProviderTaskRegistry} {ended ended' : List ℕ}

theorem refl (r : ProviderTaskRegistry) : Advances r [] r where
  installations_le := le_rfl
  nodup := List.nodup_nil
  ended_live := by simp
  survivor := fun n hn => ⟨.inl hn, by simp⟩
  epoch_le := le_rfl
  epoch := .inl rfl

theorem trans (h : Advances r ended r₁) (h' : Advances r₁ ended' r₂) :
    Advances r (ended ++ ended') r₂ where
  installations_le := h.installations_le.trans h'.installations_le
  nodup := by
    refine List.nodup_append.mpr ⟨h.nodup, h'.nodup, ?_⟩
    rintro n hn m hm rfl
    rcases (h'.ended_live n hm).1 with hlive | hge
    · exact (h.survivor n hlive).2 hn
    · exact absurd (h.ended_live n hn).2 (not_lt.mpr hge)
  ended_live := by
    intro n hn
    rcases List.mem_append.mp hn with hn | hn
    · obtain ⟨hor, hlt⟩ := h.ended_live n hn
      exact ⟨hor, hlt.trans_le h'.installations_le⟩
    · obtain ⟨hlive | hge, hlt⟩ := h'.ended_live n hn
      · exact ⟨(h.survivor n hlive).1, hlt⟩
      · exact ⟨.inr (h.installations_le.trans hge), hlt⟩
  survivor := by
    intro n hn
    obtain ⟨hlive | hge, hnot'⟩ := h'.survivor n hn
    · obtain ⟨hor, hnot⟩ := h.survivor n hlive
      exact ⟨hor, by simp [hnot, hnot']⟩
    · refine ⟨.inr (h.installations_le.trans hge), ?_⟩
      rw [List.mem_append, not_or]
      exact ⟨fun hmem => absurd (h.ended_live n hmem).2 (not_lt.mpr hge), hnot'⟩
  epoch_le := h.epoch_le.trans h'.epoch_le
  epoch := by
    rcases h'.epoch with he' | hnew'
    · rcases h.epoch with he | hnew
      · exact .inl (he.trans he')
      · refine .inr fun n hn => ?_
        rcases (h'.survivor n hn).1 with hlive | hge
        · exact hnew n hlive
        · exact h.installations_le.trans hge
    · exact .inr fun n hn => h.installations_le.trans (hnew' n hn)

/-- Nothing ends and no entry is added. -/
theorem of_live_imp {tasks : KeyedTable RequestId Entry} {queue : List RequestId}
    (h : ∀ n, Live { r with tasks, queue } n → r.Live n) :
    Advances r [] { r with tasks, queue } where
  installations_le := le_rfl
  nodup := List.nodup_nil
  ended_live := by simp
  survivor := fun n hn => ⟨.inl (h n hn), by simp⟩
  epoch_le := le_rfl
  epoch := .inl rfl

/-- One entry leaves and is ended. -/
theorem erase (h : Linked limits r) (hid : r.tasks.lookup id = some e)
    (queue : List RequestId) :
    Advances r [e.installation] { r with tasks := r.tasks.erase id, queue } where
  installations_le := le_rfl
  nodup := List.nodup_singleton _
  ended_live := by
    intro n hn
    rw [List.mem_singleton] at hn
    subst hn
    exact ⟨.inl ⟨id, e, hid, rfl⟩, h.numbered id e hid⟩
  survivor := by
    rintro n ⟨x, f, hx, rfl⟩
    simp only [KeyedTable.lookup_erase] at hx
    split at hx
    · cases hx
    · next hne =>
        refine ⟨.inl ⟨x, f, hx, rfl⟩, ?_⟩
        rw [List.mem_singleton]
        exact fun heq => hne (h.distinct x id f e hx hid heq)
  epoch_le := le_rfl
  epoch := .inl rfl

/-- One entry is rewritten in place. -/
theorem rewrite (hid : r.tasks.lookup id = some e) {f : Entry}
    (hn : f.installation = e.installation) (queue : List RequestId) :
    Advances r [] { r with tasks := r.tasks.insert id f, queue } := by
  refine of_live_imp ?_
  rintro n ⟨x, g, hx, rfl⟩
  simp only [KeyedTable.lookup_insert] at hx
  split at hx
  · cases hx
    exact ⟨id, e, hid, hn.symm⟩
  · exact ⟨x, g, hx, rfl⟩

/-- One entry is added. -/
theorem add (hn : e.installation = r.installations) (queue : List RequestId) :
    Advances r [] { r.addEntry id e with queue } where
  installations_le := Nat.le_succ _
  nodup := List.nodup_nil
  ended_live := by simp
  survivor := by
    rintro n ⟨x, f, hx, rfl⟩
    simp only [addEntry, KeyedTable.lookup_insert] at hx
    split at hx
    · cases hx
      exact ⟨.inr hn.ge, by simp⟩
    · exact ⟨.inl ⟨x, f, hx, rfl⟩, by simp⟩
  epoch_le := le_rfl
  epoch := .inl rfl

end Advances

/-! ## Promotion -/

/-- What `promoteLoop` makes of a linked registry: it is linked, every slot is used
while an entry waits, and exactly the expired entries are ended. -/
theorem promoteLoop_linked (limits : RegistryLimits) (queue : List RequestId)
    (now : ClockReadings) (r : ProviderTaskRegistry) (hq : r.queue = queue)
    (h : Linked limits r) :
    let out := promoteLoop limits queue now (activeCount r.tasks) r.tasks
    Admitted limits { r with tasks := out.1, queue := out.2.1 } ∧
      Advances r (out.2.2.expired.map Entry.installation)
        { r with tasks := out.1, queue := out.2.1 } := by
  induction queue generalizing now r with
  | nil =>
      have hr : { r with queue := [] } = r := by rw [← hq]
      simp only [promoteLoop]
      rw [hr]
      exact ⟨⟨h, fun hne => absurd hq hne⟩, Advances.refl r⟩
  | cons id queue ih =>
      have hr : { r with queue := id :: queue } = r := by rw [← hq]
      obtain ⟨e, hid, hs⟩ := (h.mem_queue id).mp (hq ▸ List.mem_cons_self)
      by_cases hlt : activeCount r.tasks < limits.maximumConcurrent
      · by_cases hrem : 0 < e.deadline - now 0
        · -- the head is promoted
          have hcount := activeCount_promote (f := { e with state := .active }) r.tasks hid hs rfl
          obtain ⟨hadm, hadv⟩ := ih (now.after 1) _ rfl (h.promoteHead hq hid hs hlt)
          rw [hcount] at hadm hadv
          simp only [promoteLoop, if_pos hlt, hid, if_pos hs, if_pos hrem]
          exact ⟨hadm,
            (Advances.rewrite (f := { e with state := .active }) hid rfl queue).trans hadv⟩
        · -- the head has expired in the queue
          have hcount := activeCount_erase_queued r.tasks hid hs
          obtain ⟨hadm, hadv⟩ := ih (now.after 1) _ rfl (h.eraseHead hq)
          rw [hcount] at hadm hadv
          simp only [promoteLoop, if_pos hlt, hid, if_pos hs, if_neg hrem]
          exact ⟨hadm, (Advances.erase h hid queue).trans hadv⟩
      · simp only [promoteLoop, if_neg hlt]
        rw [hr]
        exact ⟨⟨h, fun _ => le_antisymm h.active_le (not_lt.mp hlt)⟩, Advances.refl r⟩

theorem promoteLocked_linked (now : ClockReadings) (h : Linked limits r) :
    Admitted limits (r.promoteLocked limits now).1 ∧
      Advances r (endings (r.promoteLocked limits now).2.effects)
        (r.promoteLocked limits now).1 := by
  rw [endings_effects]
  exact promoteLoop_linked limits r.queue now r rfl h

/-! ## Methods -/

/-- Without entries and queue the invariant holds under any flags and epoch. -/
theorem admitted_of_empty (ht : r.tasks = ∅) (hq : r.queue = []) : Admitted limits r := by
  constructor
  · constructor <;> simp [ht, hq, activeCount]
  · simp [hq]

/-- An unavailable registry is empty. -/
theorem Linked.empty_of_unavailable (h : Linked limits r) (hav : r.available = false) :
    r.tasks = ∅ ∧ r.queue = [] := by
  have hnone : ∀ id, r.tasks.lookup id = none := by
    intro id
    cases hid : r.tasks.lookup id with
    | none => rfl
    | some e => exact absurd (h.current id e hid).2 (by simp [hav])
  constructor
  · exact KeyedTable.eq_empty_of_lookup hnone
  · refine List.eq_nil_iff_forall_not_mem.mpr ?_
    intro id hid
    obtain ⟨e, he, -⟩ := (h.mem_queue id).mp hid
    rw [hnone id] at he
    cases he

theorem not_live_of_empty (ht : r.tasks = ∅) (n : ℕ) : ¬ r.Live n := by
  rintro ⟨id, e, hid, -⟩
  simp [ht] at hid

/-- No closure is held by two entries. -/
theorem Linked.installations_nodup (h : Linked limits r) :
    (r.tasks.entries.map fun e => e.2.installation).Nodup := by
  refine List.Nodup.map_on ?_ r.tasks.nodupKeys.nodup
  rintro ⟨a, e⟩ he ⟨b, f⟩ hf heq
  have he' := KeyedTable.mem_entries_iff.mp he
  have hf' := KeyedTable.mem_entries_iff.mp hf
  have hab := h.distinct a b e f he' hf' heq
  subst hab
  rw [he', Option.some_inj] at hf'
  rw [hf']

theorem endings_cancelAll (failure : DatabaseFailure) (es : List ((_ : RequestId) × Entry)) :
    endings (es.flatMap fun e => cancellationEffects failure e.2) =
      es.map fun e => e.2.installation := by
  induction es with
  | nil => rfl
  | cons e es ih => rw [List.flatMap_cons, endings_append, ih, endings_cancellationEffects]; rfl

/-- The two flags do not matter to the invariant as long as availability is the same. -/
theorem Admitted.setFlags (h : Admitted limits r) {lifecycle roomMode : Bool}
    (hav : (lifecycle && roomMode) = r.available) :
    Admitted limits { r with lifecycleAvailable := lifecycle, roomModeAvailable := roomMode } where
  active_le := h.active_le
  queue_le := h.queue_le
  queue_nodup := h.queue_nodup
  mem_queue := h.mem_queue
  queue_order := h.queue_order
  current x f hx := by
    have hc := h.current x f hx
    exact ⟨hc.1, hav.trans hc.2⟩
  numbered := h.numbered
  distinct := h.distinct
  started_active := h.started_active
  saturated := h.saturated

/-- Availability changes: the epoch moves on, and with it every entry goes. -/
theorem applyAvailability_spec (lifecycle roomMode : Bool) (h : Admitted limits r) :
    let out := applyAvailability r.available
      { r with lifecycleAvailable := lifecycle, roomModeAvailable := roomMode }
    Admitted limits out.1 ∧ Advances r (endings out.2) out.1 := by
  simp only [applyAvailability]
  split
  · next hsame =>
      exact ⟨h.setFlags hsame, ⟨le_rfl, List.nodup_nil, by simp,
        fun n hn => ⟨.inl hn, by simp⟩, le_rfl, .inl rfl⟩⟩
  · next hne =>
      split
      · next hav =>
          -- the registry was unavailable, so nothing is lost
          have hun : r.available = false := by
            by_contra hr
            rw [Bool.not_eq_false] at hr
            exact hne (hr ▸ hav)
          obtain ⟨ht, hq⟩ := h.empty_of_unavailable hun
          exact ⟨admitted_of_empty ht hq, ⟨le_rfl, List.nodup_nil, by simp,
            fun n hn => absurd hn (not_live_of_empty ht n), Nat.le_succ _,
            .inr fun n hn => absurd hn (not_live_of_empty ht n)⟩⟩
      · rw [endings_cancelAll]
        refine ⟨admitted_of_empty rfl rfl, ⟨le_rfl, h.installations_nodup, ?_,
          fun n hn => absurd hn (not_live_of_empty rfl n), Nat.le_succ _,
          .inr fun n hn => absurd hn (not_live_of_empty rfl n)⟩⟩
        intro n hn
        obtain ⟨⟨id, e⟩, hmem, rfl⟩ := List.mem_map.mp hn
        have hid := KeyedTable.mem_entries_iff.mp hmem
        exact ⟨.inl ⟨id, e, hid, rfl⟩, h.numbered id e hid⟩

theorem install_spec (now : ClockReadings) (id : RequestId) (attemptEpoch expected : ℕ)
    (h : Admitted limits r) :
    let out := r.install limits now id attemptEpoch expected
    Admitted limits out.2.1 ∧ Advances r (endings out.2.2) out.2.1 := by
  simp only [install]
  split
  · exact ⟨h, Advances.refl r⟩
  · next hguard =>
      rw [not_not] at hguard
      obtain ⟨hav, rfl⟩ := hguard
      split
      · exact ⟨h, Advances.refl r⟩
      · next hfree =>
          have hid : r.tasks.lookup id = none := by
            simpa using hfree
          split
          · next hlt =>
              refine ⟨(h.toLinked.add hid hav rfl rfl rfl (.inl ⟨rfl, rfl⟩) ?_ h.queue_le).admitted
                ?_, Advances.add rfl r.queue⟩
              · exact (activeCount_add_active hid rfl).trans_le hlt
              · intro hne
                exact absurd (h.saturated hne) hlt.ne
          · next hfull =>
              have hmax := le_antisymm h.active_le (not_lt.mp hfull)
              split
              · next hroom =>
                  refine ⟨(h.toLinked.add hid hav rfl rfl rfl (.inr ⟨rfl, rfl⟩) ?_ ?_).admitted ?_,
                    Advances.add rfl (r.queue ++ [id])⟩
                  · exact (activeCount_add_queued hid rfl).trans_le h.active_le
                  · rw [List.length_append]
                    exact hroom
                  · exact fun _ => (activeCount_add_queued hid rfl).trans hmax
              · exact ⟨h, Advances.refl r⟩

/-- What `beginNetwork` requires of the entry it begins. -/
theorem beginnable_eq_some {now : ClockReadings} {attemptEpoch expected : ℕ}
    (h : r.beginnable now id attemptEpoch expected = some e) :
    r.tasks.lookup id = some e ∧ e.state = .active := by
  simp only [beginnable, Option.filter_eq_some_iff, Bool.and_eq_true, decide_eq_true_eq] at h
  exact ⟨h.1, h.2.1.1.1.1.2⟩

/-- A started entry keeps its slot, its closures and its place. -/
theorem Admitted.markStarted (h : Admitted limits r) (hid : r.tasks.lookup id = some e)
    (ha : e.state = .active) :
    Admitted limits { r with tasks := r.tasks.insert id { e with started := true } } := by
  refine (h.toLinked.markStarted hid ha).admitted ?_
  intro hne
  rw [activeCount_rewrite (f := { e with started := true }) r.tasks hid ha ha]
  exact h.saturated hne

/-- An active entry leaves and is ended, and its slot is filled from the queue. -/
theorem eraseAndPromote_spec (now : ClockReadings) (h : Linked limits r)
    (hid : r.tasks.lookup id = some e) (ha : e.state = .active) :
    let out := promoteLocked limits now { r with tasks := r.tasks.erase id }
    Admitted limits out.1 ∧ Advances r (e.installation :: endings out.2.effects) out.1 := by
  obtain ⟨hadm, hadv⟩ := promoteLocked_linked now (h.eraseActive hid ha)
  exact ⟨hadm, (Advances.erase h hid r.queue).trans hadv⟩

theorem beginNetwork_spec (now : ClockReadings) (id : RequestId) (attemptEpoch expected : ℕ)
    (withAuthority : Bool → Authorization) (h : Admitted limits r) :
    let out := r.beginNetwork limits now id attemptEpoch expected withAuthority
    Admitted limits out.2.1 ∧ Advances r (endings out.2.2) out.2.1 := by
  simp only [beginNetwork]
  split
  · exact ⟨h, Advances.refl r⟩
  · next e he =>
      obtain ⟨hid, ha⟩ := beginnable_eq_some he
      split
      · have hstart := h.markStarted hid ha
        have hadv := Advances.rewrite (f := { e with started := true }) hid rfl r.queue
        split
        · exact ⟨hstart, hadv⟩
        · exact ⟨hstart, hadv⟩
      · split
        · exact ⟨h, Advances.refl r⟩
        · split
          · exact eraseAndPromote_spec (now.after 2) h.toLinked hid ha
          · exact ⟨h, Advances.refl r⟩

theorem claimCompletion_spec (now : ClockReadings) (id : RequestId) (attemptEpoch expected : ℕ)
    (h : Admitted limits r) :
    let out := r.claimCompletion limits now id attemptEpoch expected
    Admitted limits out.2.1 ∧ Advances r (endings out.2.2) out.2.1 := by
  simp only [claimCompletion]
  split
  · exact ⟨h, Advances.refl r⟩
  · next e hid =>
      split
      · next hguard =>
          simp only [Bool.and_eq_true, decide_eq_true_eq] at hguard
          have ha := h.started_active id e hid hguard.1.1.2
          obtain ⟨hadm, hadv⟩ := eraseAndPromote_spec (now.after 1) h.toLinked hid ha
          split
          · refine ⟨hadm, ?_⟩
            rw [endings_append, endings_cancellationEffects]
            exact hadv
          · exact ⟨hadm, hadv⟩
      · exact ⟨h, Advances.refl r⟩

theorem cancel_spec (now : ClockReadings) (id : RequestId) (failure : DatabaseFailure)
    (h : Admitted limits r) :
    let out := r.cancel limits now id failure
    Admitted limits out.2.1 ∧ Advances r (endings out.2.2) out.2.1 := by
  simp only [cancel]
  split
  · exact ⟨h, Advances.refl r⟩
  · next e hid =>
      rw [endings_append, endings_cancellationEffects]
      cases ha : e.state with
      | active => exact eraseAndPromote_spec now h.toLinked hid ha
      | queued =>
          refine ⟨(h.eraseQueued id).admitted ?_, Advances.erase h.toLinked hid _⟩
          intro hne
          refine (activeCount_erase_queued r.tasks hid ha).trans (h.saturated ?_)
          rintro hnil
          simp [hnil] at hne

/-! ## Runs -/

theorem perform_spec (call : RegistryCall) (h : Admitted limits r) :
    Admitted limits (r.perform limits call).1 ∧
      Advances r (endings (r.perform limits call).2) (r.perform limits call).1 := by
  cases call with
  | install now id attempt expected => exact install_spec now id attempt expected h
  | beginNetwork now id attempt expected withAuthority =>
      exact beginNetwork_spec now id attempt expected withAuthority h
  | claimCompletion now id attempt expected =>
      exact claimCompletion_spec now id attempt expected h
  | cancel now id failure => exact cancel_spec now id failure h
  | failBeforeStart now id failure => exact cancel_spec now id failure h
  | expire now id => exact cancel_spec now id timeoutFailure h
  | updateLifecycleAvailability value => exact applyAvailability_spec value _ h
  | updateRoomModeAvailability value => exact applyAvailability_spec _ value h

/-- The queued entries are no more than the places of the queue. -/
theorem Linked.queuedCount_le (h : Linked limits r) :
    KeyedTable.count Entry.isQueued r.tasks ≤ r.queue.length := by
  let waiting := r.tasks.entries.filter fun e => e.2.isQueued
  have hnodup : (waiting.map Sigma.fst).Nodup :=
    r.tasks.keys_nodup.sublist (List.filter_sublist.map Sigma.fst)
  have hsub : waiting.map Sigma.fst ⊆ r.queue := by
    intro id hid
    obtain ⟨⟨id, e⟩, hmem, rfl⟩ := List.mem_map.mp hid
    obtain ⟨hmem, hq⟩ := List.mem_filter.mp hmem
    exact (h.mem_queue id).mpr ⟨e, KeyedTable.mem_entries_iff.mp hmem, by simpa using hq⟩
  calc KeyedTable.count Entry.isQueued r.tasks
      = (waiting.map Sigma.fst).length := by
        rw [KeyedTable.count, List.countP_eq_length_filter, List.length_map]
    _ ≤ r.queue.length := hnodup.length_le_of_subset hsub

end ProviderTaskRegistry

open ProviderTaskRegistry

variable {limits : RegistryLimits} {s t u : RegistryHistory}

theorem registry_inductive (limits : RegistryLimits) :
    (registrySystem limits).Inductive fun s => Admitted limits s.registry where
  init s hs := by
    rw [show s = {} from hs]
    exact admitted_empty limits
  step s call t hs ht := by
    rw [show t = _ from ht]
    exact (perform_spec call hs).1

/-- What happened between two states of a run. -/
def Since (s t : RegistryHistory) : Prop :=
  ∃ effects, t.effects = s.effects ++ effects ∧ Advances s.registry (endings effects) t.registry

theorem since_of_run (hs : (registrySystem limits).Reachable s) {calls : List RegistryCall}
    (hrun : (registrySystem limits).Run s calls t) : Since s t := by
  refine (registry_inductive limits).relates ?_ ?_ ?_ hs hrun
  · intro s
    exact ⟨[], by simp, Advances.refl s.registry⟩
  · rintro s t u ⟨xs, hxs, hst⟩ ⟨ys, hys, htu⟩
    refine ⟨xs ++ ys, by rw [hys, hxs, List.append_assoc], ?_⟩
    rw [endings_append]
    exact hst.trans htu
  · intro s call t hadm ht
    rw [show t = _ from ht]
    exact ⟨_, rfl, (perform_spec call hadm).2⟩

/-- Every entry is completed or cancelled at most once. -/
theorem endings_nodup (hs : (registrySystem limits).Reachable s) :
    (endings s.effects).Nodup := by
  obtain ⟨s₀, calls, hinit, hrun⟩ := hs
  obtain ⟨effects, heff, hadv⟩ := since_of_run (.of_init hinit) hrun
  rw [heff, show s₀ = {} from hinit, List.nil_append]
  exact hadv.nodup

theorem mem_endings_of_claim {n : ℕ} {effects : List Effect} (h : Effect.claim n ∈ effects) :
    n ∈ endings effects :=
  List.mem_filterMap.mpr ⟨_, h, rfl⟩

/-- Once the lifecycle epoch has moved on, no entry installed before is claimed any more. -/
theorem no_claim_of_earlier_epoch (hs : (registrySystem limits).Reachable s)
    {calls calls' : List RegistryCall} (hst : (registrySystem limits).Run s calls t)
    (htu : (registrySystem limits).Run t calls' u)
    (hepoch : s.registry.lifecycleEpoch ≠ t.registry.lifecycleEpoch) {n : ℕ}
    (hn : n < s.registry.installations) (hclaim : Effect.claim n ∈ u.effects) :
    Effect.claim n ∈ t.effects := by
  obtain ⟨xs, -, hadv⟩ := since_of_run hs hst
  obtain ⟨ys, hys, hadv'⟩ := since_of_run (hs.run hst) htu
  rw [hys, List.mem_append] at hclaim
  rcases hclaim with hold | hnew
  · exact hold
  · exfalso
    have hge : s.registry.installations ≤ n := by
      rcases (hadv'.ended_live n (mem_endings_of_claim hnew)).1 with hlive | hge
      · rcases hadv.epoch with heq | hfresh
        · exact absurd heq hepoch
        · exact hfresh n hlive
      · exact hadv.installations_le.trans hge
    omega

/-- **Admission.**  In every run of method calls: the bounds on active and queued
entries; the queue is the queued entries, once each, in installation order; no slot
is free while one waits; every entry is completed or cancelled at most once; and an
unavailable registry is empty, after which no entry installed before is claimed. -/
theorem registry_admission (limits : RegistryLimits) (s : RegistryHistory)
    (hs : (registrySystem limits).Reachable s) :
    activeCount s.registry.tasks ≤ limits.maximumConcurrent ∧
    KeyedTable.count Entry.isQueued s.registry.tasks ≤ limits.maximumQueued ∧
    (∀ id, id ∈ s.registry.queue ↔
      ∃ e, s.registry.tasks.lookup id = some e ∧ e.state = .queued) ∧
    s.registry.queue.Nodup ∧
    (s.registry.queue.Pairwise fun a b => ∀ e f, s.registry.tasks.lookup a = some e →
      s.registry.tasks.lookup b = some f → e.installation < f.installation) ∧
    (s.registry.queue ≠ [] → activeCount s.registry.tasks = limits.maximumConcurrent) ∧
    (endings s.effects).Nodup ∧
    (s.registry.available = false → s.registry.tasks = ∅ ∧ s.registry.queue = []) ∧
    (∀ calls t calls' u n, (registrySystem limits).Run s calls t →
      (registrySystem limits).Run t calls' u →
      s.registry.lifecycleEpoch ≠ t.registry.lifecycleEpoch →
      n < s.registry.installations → Effect.claim n ∈ u.effects → Effect.claim n ∈ t.effects) := by
  have h := (registry_inductive limits).reachable hs
  refine ⟨h.active_le, h.queuedCount_le.trans h.queue_le, h.mem_queue, h.queue_nodup,
    h.queue_order, h.saturated, endings_nodup hs, h.empty_of_unavailable, ?_⟩
  intro calls t calls' u n hst htu hepoch hn hclaim
  exact no_claim_of_earlier_epoch hs hst htu hepoch hn hclaim

/-- With one slot and one waiting place: the second request is queued. -/
def busyRegistry : RegistryHistory :=
  let limits : RegistryLimits := { maximumConcurrent := 1, maximumQueued := 1 }
  let s := (ProviderTaskRegistry.perform limits {} (.install (fun _ => 0) "a" 1 0))
  let t := s.1.perform limits (.install (fun _ => 1) "b" 1 0)
  { registry := t.1, effects := s.2 ++ t.2 }

theorem busyRegistry_reachable :
    (registrySystem { maximumConcurrent := 1, maximumQueued := 1 }).Reachable busyRegistry :=
  ⟨{}, [.install (fun _ => 0) "a" 1 0, .install (fun _ => 1) "b" 1 0], rfl,
    .cons rfl (.single rfl)⟩

theorem registry_admission_busy : busyRegistry.registry.queue = ["b"] ∧
    activeCount busyRegistry.registry.tasks = 1 := by
  have h := registry_admission { maximumConcurrent := 1, maximumQueued := 1 } busyRegistry
    busyRegistry_reachable
  have hq : busyRegistry.registry.queue = ["b"] := by decide
  exact ⟨hq, h.2.2.2.2.2.1 (by rw [hq]; simp)⟩

end GreenRoom.Iphone
