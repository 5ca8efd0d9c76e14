import GreenRoom.Iphone.TaskRegistryInvariant

/-!
# Callbacks of the provider task registry

An expiry, a start failure and a cancellation are raised for an entry, but name it by its
request only.  What a method does to the entries, and what it tells the closures about
them, comes first; from it follows when a callback meets the entry it was raised for.

## Main definitions

* `Handled` — what a method does to entries and closures.
* `Tracks` — the entries and closures of a history tell the same.
* `callbackSystem` — the registry, with the entry each callback is raised for.

## Main results

* `perform_handled`, `callback_inductive`
* `callback_identity`
-/

namespace GreenRoom.Iphone

namespace ProviderTaskRegistry

variable {limits : RegistryLimits} {r r' : ProviderTaskRegistry} {id : RequestId} {e f : Entry}
  {effects : List Effect} {n : ℕ}

/-! ## What a method does to the entries -/

/-- `f` is the entry `e` at a later time. -/
structure Entry.Later (e f : Entry) : Prop where
  installation : f.installation = e.installation
  attemptEpoch : f.attemptEpoch = e.attemptEpoch
  lifecycleEpoch : f.lifecycleEpoch = e.lifecycleEpoch

theorem Entry.Later.refl (e : Entry) : Entry.Later e e := ⟨rfl, rfl, rfl⟩

theorem Entry.Later.trans {g : Entry} (h : Entry.Later e f) (h' : Entry.Later f g) :
    Entry.Later e g :=
  ⟨h'.installation.trans h.installation, h'.attemptEpoch.trans h.attemptEpoch,
    h'.lifecycleEpoch.trans h.lifecycleEpoch⟩

/-- What a method does: an entry stays what it is, and is started exactly when its task is
resumed; a closure is told whether its entry was started. -/
structure Handled (r : ProviderTaskRegistry) (effects : List Effect)
    (r' : ProviderTaskRegistry) : Prop where
  entry : ∀ id f, r'.tasks.lookup id = some f →
    (∃ e, r.tasks.lookup id = some e ∧ Entry.Later e f ∧
      (f.started ↔ e.started ∨ .resumeTask f.installation ∈ effects)) ∨
    r.tasks.lookup id = none ∧ f.installation = r.installations ∧ f.started = false
  cancellation : ∀ n started failure, .cancellation n started failure ∈ effects →
    ∃ id e, r.tasks.lookup id = some e ∧ e.installation = n ∧ e.started = started
  resumeTask : ∀ n, .resumeTask n ∈ effects → ∃ id e, r.tasks.lookup id = some e ∧
    e.installation = n ∧ r'.Live n

/-- A method that only drops or promotes entries. -/
theorem Handled.of_kept
    (hentry : ∀ id f, r'.tasks.lookup id = some f →
      ∃ e, r.tasks.lookup id = some e ∧ Entry.Later e f ∧ f.started = e.started)
    (hcancellation : ∀ n started failure, .cancellation n started failure ∈ effects →
      ∃ id e, r.tasks.lookup id = some e ∧ e.installation = n ∧ e.started = started)
    (hresume : ∀ n, .resumeTask n ∉ effects) : Handled r effects r' where
  entry id f hf := by
    obtain ⟨e, he, hlater, hstarted⟩ := hentry id f hf
    refine .inl ⟨e, he, hlater, ?_⟩
    rw [hstarted]
    exact ⟨.inl, fun h => h.resolve_right (hresume _)⟩
  cancellation := hcancellation
  resumeTask n hn := absurd hn (hresume n)

theorem Handled.refl (r : ProviderTaskRegistry) : Handled r [] r :=
  .of_kept (fun _ f hf => ⟨f, hf, .refl f, rfl⟩) (by simp) (by simp)

theorem mem_cancellationEffects {failure x : DatabaseFailure} {started : Bool}
    (h : .cancellation n started x ∈ cancellationEffects failure e) :
    e.installation = n ∧ e.started = started := by
  simp only [cancellationEffects, List.mem_append, List.mem_singleton] at h
  obtain h | h := h
  · split at h <;> simp at h
  · cases h
    exact ⟨rfl, rfl⟩

theorem resumeTask_not_mem_cancellationEffects (failure : DatabaseFailure) (e : Entry) (n : ℕ) :
    .resumeTask n ∉ cancellationEffects failure e := by
  simp only [cancellationEffects, List.mem_append, List.mem_singleton, reduceCtorEq, or_false]
  split <;> simp

theorem cancellation_mem_effects {p : PromotionResult} {started : Bool}
    {failure : DatabaseFailure} (h : .cancellation n started failure ∈ p.effects) :
    ∃ e ∈ p.expired, e.installation = n ∧ e.started = started := by
  simp only [PromotionResult.effects, List.mem_append, List.mem_flatMap, List.mem_map] at h
  obtain ⟨e, he, h⟩ | ⟨_, _, h⟩ := h
  · exact ⟨e, he, mem_cancellationEffects h⟩
  · cases h

theorem resumeTask_not_mem_effects (p : PromotionResult) (n : ℕ) :
    .resumeTask n ∉ p.effects := by
  simp only [PromotionResult.effects, List.mem_append, List.mem_flatMap, List.mem_map]
  rintro (⟨e, -, h⟩ | ⟨_, _, h⟩)
  · exact resumeTask_not_mem_cancellationEffects timeoutFailure e n h
  · cases h

/-- Promotion keeps or drops entries, and expires only entries that were there. -/
theorem promoteLoop_handled (limits : RegistryLimits) (queue : List RequestId)
    (now : ClockReadings) (count : ℕ) (tasks : KeyedTable RequestId Entry) :
    let out := promoteLoop limits queue now count tasks
    (∀ id f, out.1.lookup id = some f →
      ∃ e, tasks.lookup id = some e ∧ Entry.Later e f ∧ f.started = e.started) ∧
    ∀ e ∈ out.2.2.expired, ∃ id g, tasks.lookup id = some g ∧
      g.installation = e.installation ∧ g.started = e.started := by
  induction queue generalizing now count tasks with
  | nil => exact ⟨fun _ f hf => ⟨f, hf, .refl f, rfl⟩, by simp [promoteLoop]⟩
  | cons id queue ih =>
      have hsame : ∀ id f, tasks.lookup id = some f →
          ∃ e, tasks.lookup id = some e ∧ Entry.Later e f ∧ f.started = e.started :=
        fun _ f hf => ⟨f, hf, .refl f, rfl⟩
      unfold promoteLoop
      split
      · split
        · exact ih now count tasks
        · next entry hentry =>
            split
            · dsimp only
              split
              · -- promoted: the entry is there with another state
                obtain ⟨hkept, hexpired⟩ := ih (now.after 1) (count + 1)
                  (tasks.insert id { entry with state := .active })
                have hback : ∀ x g, (tasks.insert id { entry with state := .active }).lookup x =
                    some g → ∃ e, tasks.lookup x = some e ∧ Entry.Later e g ∧
                      g.started = e.started := by
                  intro x g hx
                  rw [KeyedTable.lookup_insert] at hx
                  split at hx
                  · next hxid =>
                      cases hx
                      exact ⟨entry, hxid ▸ hentry, ⟨rfl, rfl, rfl⟩, rfl⟩
                  · exact hsame x g hx
                refine ⟨fun x f hf => ?_, fun e he => ?_⟩
                · obtain ⟨g, hg, hlater, hstarted⟩ := hkept x f hf
                  obtain ⟨e, he, hlater', hstarted'⟩ := hback x g hg
                  exact ⟨e, he, hlater'.trans hlater, hstarted.trans hstarted'⟩
                · obtain ⟨x, g, hg, hn, hstarted⟩ := hexpired e he
                  obtain ⟨e₀, he₀, hlater, hstarted'⟩ := hback x g hg
                  exact ⟨x, e₀, he₀, hlater.installation.symm.trans hn,
                    hstarted'.symm.trans hstarted⟩
              · -- expired: the entry is dropped
                obtain ⟨hkept, hexpired⟩ := ih (now.after 1) count (tasks.erase id)
                have hback : ∀ x g, (tasks.erase id).lookup x = some g →
                    tasks.lookup x = some g := by
                  intro x g hx
                  rw [KeyedTable.lookup_erase] at hx
                  split at hx
                  · cases hx
                  · exact hx
                refine ⟨fun x f hf => ?_, fun e he => ?_⟩
                · obtain ⟨g, hg, h⟩ := hkept x f hf
                  exact ⟨g, hback x g hg, h⟩
                · obtain rfl | he := List.mem_cons.mp he
                  · exact ⟨id, e, hentry, rfl, rfl⟩
                  · obtain ⟨x, g, hg, h⟩ := hexpired e he
                    exact ⟨x, g, hback x g hg, h⟩
            · exact ih now count tasks
      · exact ⟨hsame, by simp⟩

/-- One entry leaves, its slot is filled, and its closure is told whether it was started. -/
theorem eraseAndPromote_handled (now : ClockReadings) (first : List Effect)
    (hid : r.tasks.lookup id = some e)
    (hfirst : ∀ n started failure, .cancellation n started failure ∈ first →
      e.installation = n ∧ e.started = started)
    (hresume : ∀ n, .resumeTask n ∉ first) :
    let out := promoteLocked limits now { r with tasks := r.tasks.erase id }
    Handled r (first ++ out.2.effects) out.1 := by
  obtain ⟨hkept, hexpired⟩ := promoteLoop_handled limits r.queue now
    (activeCount (r.tasks.erase id)) (r.tasks.erase id)
  have hback : ∀ x g, (r.tasks.erase id).lookup x = some g → r.tasks.lookup x = some g := by
    intro x g hx
    rw [KeyedTable.lookup_erase] at hx
    split at hx
    · cases hx
    · exact hx
  refine .of_kept (fun x f hf => ?_) (fun n started failure hmem => ?_) fun n hmem => ?_
  · obtain ⟨g, hg, h⟩ := hkept x f hf
    exact ⟨g, hback x g hg, h⟩
  · obtain hmem | hmem := List.mem_append.mp hmem
    · exact ⟨id, e, hid, hfirst n started failure hmem⟩
    · obtain ⟨d, hd, rfl, rfl⟩ := cancellation_mem_effects hmem
      obtain ⟨x, g, hg, h⟩ := hexpired d hd
      exact ⟨x, g, hback x g hg, h⟩
  · exact (List.mem_append.mp hmem).elim (hresume n) (resumeTask_not_mem_effects _ n)

theorem install_handled (now : ClockReadings) (id : RequestId) (attempt expected : ℕ)
    (r : ProviderTaskRegistry) :
    Handled r (r.install limits now id attempt expected).2.2
      (r.install limits now id attempt expected).2.1 := by
  have hadd : ∀ {entry : Entry} (queue : List RequestId) {effects : List Effect},
      r.tasks.lookup id = none → entry.installation = r.installations →
      entry.started = false → (∀ n b x, .cancellation n b x ∉ effects) →
      (∀ n, .resumeTask n ∉ effects) →
      Handled r effects { r.addEntry id entry with queue } := by
    intro entry queue effects hfree hnumber hstarted hcancellation hresume
    refine ⟨fun x f hf => ?_, fun n b x hmem => absurd hmem (hcancellation n b x),
      fun n hmem => absurd hmem (hresume n)⟩
    simp only [addEntry, KeyedTable.lookup_insert] at hf
    split at hf
    · next hxid =>
        cases hf
        exact .inr ⟨hxid ▸ hfree, hnumber, hstarted⟩
    · exact .inl ⟨f, hf, .refl f, ⟨.inl, fun h => h.resolve_right (hresume _)⟩⟩
  unfold install
  split
  · exact .refl r
  · split
    · exact .refl r
    · next hfree =>
        have hfree : r.tasks.lookup id = none := by simpa using hfree
        dsimp only
        split
        · exact hadd r.queue hfree rfl rfl (by simp) (by simp)
        · split
          · exact hadd _ hfree rfl rfl (by simp) (by simp)
          · exact .refl r

/-- What `beginNetwork` requires of the entry it begins, in full. -/
theorem beginnable_spec {now : ClockReadings} {attempt expected : ℕ}
    (h : r.beginnable now id attempt expected = some e) :
    r.tasks.lookup id = some e ∧ e.attemptEpoch = attempt ∧ e.lifecycleEpoch = expected ∧
      e.started = false := by
  simp only [beginnable, Option.filter_eq_some_iff, Bool.and_eq_true, decide_eq_true_eq,
    Bool.not_eq_true'] at h
  obtain ⟨hid, ⟨⟨⟨-, hattempt⟩, hexpected⟩, hstarted⟩, -⟩ := h
  exact ⟨hid, hattempt, hexpected, hstarted⟩

theorem beginNetwork_handled (now : ClockReadings) (id : RequestId) (attempt expected : ℕ)
    (withAuthority : Bool → Authorization) (r : ProviderTaskRegistry)
    (hdistinct : ∀ a b e f, r.tasks.lookup a = some e → r.tasks.lookup b = some f →
      e.installation = f.installation → a = b) :
    Handled r (r.beginNetwork limits now id attempt expected withAuthority).2.2
      (r.beginNetwork limits now id attempt expected withAuthority).2.1 := by
  unfold beginNetwork
  split
  · exact .refl r
  · next entry hentry =>
      obtain ⟨hid, -, -, hfresh⟩ := beginnable_spec hentry
      have hstart : Handled r [.resumeTask entry.installation]
          { r with tasks := r.tasks.insert id { entry with started := true } } := by
        refine ⟨fun x f hf => ?_, by simp, fun n hn => ?_⟩
        · simp only [KeyedTable.lookup_insert] at hf
          split at hf
          · next hxid =>
              cases hf
              exact .inl ⟨entry, hxid ▸ hid, ⟨rfl, rfl, rfl⟩, by simp⟩
          · next hne =>
              refine .inl ⟨f, hf, .refl f, ⟨.inl, fun h => h.resolve_right fun hmem => ?_⟩⟩
              have hsame : f.installation = entry.installation := by simpa using hmem
              exact hne (hdistinct x id f entry hf hid hsame)
        · obtain rfl : n = entry.installation := by simpa using hn
          refine ⟨id, entry, hid, rfl, id, { entry with started := true }, ?_, rfl⟩
          simp
      dsimp only
      split
      · split
        · exact hstart
        · exact hstart
      · split
        · exact .refl r
        · split
          · refine eraseAndPromote_handled (now.after 2) [.cancellation entry.installation false
              timeoutFailure] hid ?_ (by simp)
            intro n b x hmem
            obtain ⟨rfl, rfl, -⟩ := Effect.cancellation.inj (List.mem_singleton.mp hmem)
            exact ⟨rfl, hfresh⟩
          · exact .refl r

theorem claimCompletion_handled (now : ClockReadings) (id : RequestId) (attempt expected : ℕ)
    (r : ProviderTaskRegistry) :
    Handled r (r.claimCompletion limits now id attempt expected).2.2
      (r.claimCompletion limits now id attempt expected).2.1 := by
  unfold claimCompletion
  split
  · exact .refl r
  · next entry hid =>
      split
      · dsimp only
        split
        · exact eraseAndPromote_handled (now.after 1) _ hid
            (fun n b x hmem => mem_cancellationEffects hmem)
            (resumeTask_not_mem_cancellationEffects timeoutFailure entry)
        · exact eraseAndPromote_handled (now.after 1) [.claim entry.installation] hid
            (by simp) (by simp)
      · exact .refl r

theorem cancel_handled (now : ClockReadings) (id : RequestId) (failure : DatabaseFailure)
    (r : ProviderTaskRegistry) :
    Handled r (r.cancel limits now id failure).2.2 (r.cancel limits now id failure).2.1 := by
  unfold cancel
  split
  · exact .refl r
  · next entry hid =>
      dsimp only
      cases hstate : entry.state with
      | active =>
          exact eraseAndPromote_handled now _ hid (fun n b x hmem => mem_cancellationEffects hmem)
            (resumeTask_not_mem_cancellationEffects failure entry)
      | queued =>
          refine .of_kept (fun x f hf => ?_) (fun n b x hmem => ?_) fun n hmem => ?_
          · simp only [reduceCtorEq, if_false, if_true, KeyedTable.lookup_erase] at hf
            split at hf
            · cases hf
            · exact ⟨f, hf, .refl f, rfl⟩
          · simp only [reduceCtorEq, if_false, PromotionResult.effects, List.flatMap_nil,
              List.map_nil, List.append_nil] at hmem
            exact ⟨id, entry, hid, mem_cancellationEffects hmem⟩
          · simp only [reduceCtorEq, if_false, PromotionResult.effects, List.flatMap_nil,
              List.map_nil, List.append_nil] at hmem
            exact resumeTask_not_mem_cancellationEffects failure entry n hmem

theorem applyAvailability_handled (was : Bool) {r₀ : ProviderTaskRegistry}
    (htasks : r₀.tasks = r.tasks) :
    Handled r (applyAvailability was r₀).2 (applyAvailability was r₀).1 := by
  have hsame : ∀ id f, r₀.tasks.lookup id = some f →
      ∃ e, r.tasks.lookup id = some e ∧ Entry.Later e f ∧ f.started = e.started :=
    fun _ f hf => ⟨f, htasks ▸ hf, .refl f, rfl⟩
  unfold applyAvailability
  split
  · exact .of_kept hsame (by simp) (by simp)
  · dsimp only
    split
    · exact .of_kept hsame (by simp) (by simp)
    · refine .of_kept (by simp) (fun n b x hmem => ?_) fun n hmem => ?_
      · obtain ⟨⟨id, e⟩, he, hmem⟩ := List.mem_flatMap.mp hmem
        exact ⟨id, e, htasks ▸ KeyedTable.mem_entries_iff.mp he, mem_cancellationEffects hmem⟩
      · obtain ⟨e, -, hmem⟩ := List.mem_flatMap.mp hmem
        exact resumeTask_not_mem_cancellationEffects _ e.2 n hmem

/-- **What a method does to entries and closures.** -/
theorem perform_handled (h : Admitted limits r) (call : RegistryCall) :
    Handled r (r.perform limits call).2 (r.perform limits call).1 := by
  cases call with
  | install now id attempt expected => exact install_handled now id attempt expected r
  | beginNetwork now id attempt expected withAuthority =>
      exact beginNetwork_handled now id attempt expected withAuthority r h.distinct
  | claimCompletion now id attempt expected =>
    exact claimCompletion_handled now id attempt expected r
  | cancel now id failure => exact cancel_handled now id failure r
  | failBeforeStart now id failure => exact cancel_handled now id failure r
  | expire now id => exact cancel_handled now id timeoutFailure r
  | updateLifecycleAvailability value => exact applyAvailability_handled _ rfl
  | updateRoomModeAvailability value => exact applyAvailability_handled _ rfl

end ProviderTaskRegistry

open ProviderTaskRegistry

variable {limits : RegistryLimits}

/-! ## Histories -/

/-- The entries and the closures of a history tell the same. -/
structure Tracks (s : RegistryHistory) : Prop where
  entry : ∀ id e, s.registry.tasks.lookup id = some e →
    (e.started ↔ .resumeTask e.installation ∈ s.effects)
  cancellation : ∀ n (started : Bool) failure, .cancellation n started failure ∈ s.effects →
    (started ↔ .resumeTask n ∈ s.effects) ∧ ¬ s.registry.Live n ∧ n < s.registry.installations
  resumeTask : ∀ n, .resumeTask n ∈ s.effects → n < s.registry.installations

/-- The history after one more call. -/
def RegistryHistory.perform (limits : RegistryLimits) (s : RegistryHistory)
    (call : RegistryCall) : RegistryHistory where
  registry := (s.registry.perform limits call).1
  effects := s.effects ++ (s.registry.perform limits call).2

theorem mem_endings_of_cancellation {n : ℕ} {started : Bool} {failure : DatabaseFailure}
    {effects : List Effect} (h : Effect.cancellation n started failure ∈ effects) :
    n ∈ endings effects :=
  List.mem_filterMap.mpr ⟨_, h, rfl⟩

theorem Tracks.perform {s : RegistryHistory} (h : Tracks s) (hadm : Admitted limits s.registry)
    (call : RegistryCall) : Tracks (s.perform limits call) := by
  have hhandled := perform_handled hadm call
  have hadv := (perform_spec call hadm).2
  refine ⟨fun id f hf => ?_, fun n started failure hmem => ?_, fun n hmem => ?_⟩
  · simp only [RegistryHistory.perform, List.mem_append]
    obtain ⟨e, he, hlater, hstarted⟩ | ⟨-, hnumber, hstarted⟩ := hhandled.entry id f hf
    · rw [hstarted, h.entry id e he, hlater.installation]
    · -- a new entry has not been started, and its number is new
      refine ⟨fun htrue => absurd htrue (by simp [hstarted]), ?_⟩
      rintro (hold | hnew)
      · have hlt := h.resumeTask _ hold
        omega
      · obtain ⟨x, e, he, hn, -⟩ := hhandled.resumeTask _ hnew
        have hlt := hadm.numbered x e he
        omega
  · simp only [RegistryHistory.perform, List.mem_append] at hmem ⊢
    obtain hold | hnew := hmem
    · obtain ⟨hstarted, hdead, hlt⟩ := h.cancellation n started failure hold
      have hdead' : ¬ (s.registry.perform limits call).1.Live n := by
        intro hlive
        obtain hlive | hge := (hadv.survivor n hlive).1
        · exact hdead hlive
        · omega
      refine ⟨?_, hdead', hlt.trans_le hadv.installations_le⟩
      rw [hstarted]
      refine ⟨.inl, fun hor => hor.resolve_right fun hresumed => ?_⟩
      obtain ⟨id, e, he, hn, -⟩ := hhandled.resumeTask n hresumed
      exact hdead ⟨id, e, he, hn⟩
    · obtain ⟨id, e, he, rfl, rfl⟩ := hhandled.cancellation n started failure hnew
      have hended := mem_endings_of_cancellation hnew
      have hdead : ¬ (s.registry.perform limits call).1.Live e.installation :=
        fun hlive => (hadv.survivor _ hlive).2 hended
      refine ⟨?_, hdead, (hadv.ended_live _ hended).2⟩
      rw [h.entry id e he]
      refine ⟨.inl, fun hor => hor.resolve_right fun hresumed => ?_⟩
      obtain ⟨-, -, -, -, hlive⟩ := hhandled.resumeTask _ hresumed
      exact hdead hlive
  · simp only [RegistryHistory.perform, List.mem_append] at hmem ⊢
    obtain hold | hnew := hmem
    · exact (h.resumeTask n hold).trans_le hadv.installations_le
    · obtain ⟨id, e, he, rfl, -⟩ := hhandled.resumeTask n hnew
      exact (hadm.numbered id e he).trans_le hadv.installations_le

/-! ## Callbacks -/

/-- The request a callback finds its entry by. -/
def RegistryCall.callback : RegistryCall → Option RequestId
  | .cancel _ id _ | .failBeforeStart _ id _ | .expire _ id => some id
  | _ => none

/-- A call, and the entry on whose behalf it is made, if it is a callback. -/
inductive RaisedCall
  | plain (call : RegistryCall)
  | callback (call : RegistryCall) (installation : ℕ)

def RaisedCall.call : RaisedCall → RegistryCall
  | .plain call | .callback call _ => call

structure CallbackState where
  history : RegistryHistory := {}
  /-- The request an entry was installed under. -/
  installedUnder : ℕ → Option RequestId := fun _ => none

/-- The registry takes the request in. -/
def ProviderTaskAdmission.admits : ProviderTaskAdmission → Bool
  | .active | .queued => true
  | .capacityRejected | .lifecycleUnavailable | .duplicate => false

/-- A call to `install` that makes an entry records its request. -/
def CallbackState.perform (limits : RegistryLimits) (s : CallbackState) (call : RegistryCall) :
    CallbackState where
  history := s.history.perform limits call
  installedUnder :=
    match call with
    | .install now id attempt expected =>
      if (s.history.registry.install limits now id attempt expected).1.admits then
        Function.update s.installedUnder s.history.registry.installations (some id)
      else s.installedUnder
    | _ => s.installedUnder

/-- The registry under calls in any order; a callback is raised for an entry installed
under its request, at any time after that. -/
def callbackSystem (limits : RegistryLimits) : TransitionSystem CallbackState RaisedCall where
  init s := s = {}
  step s l t := t = s.perform limits l.call ∧
    match l with
    | .plain call => call.callback = none
    | .callback call n => call.callback ≠ none ∧ call.callback = s.installedUnder n

/-- What is recorded of the entries is true of them. -/
structure CallbackInv (limits : RegistryLimits) (s : CallbackState) : Prop where
  admitted : Admitted limits s.history.registry
  recorded : ∀ id e, s.history.registry.tasks.lookup id = some e →
    s.installedUnder e.installation = some id
  numbered : ∀ n id, s.installedUnder n = some id → n < s.history.registry.installations
  newest : ∀ n id e, s.installedUnder n = some id →
    s.history.registry.tasks.lookup id = some e → n ≤ e.installation

/-- How `install` makes an entry. -/
theorem install_entries {r : ProviderTaskRegistry} (now : ClockReadings) (id : RequestId)
    (attempt expected : ℕ) :
    let out := r.install limits now id attempt expected
    out.1.admits = false ∧ out.2.1 = r ∧ out.2.2 = [] ∨
    out.1.admits = true ∧ r.tasks.lookup id = none ∧ ∃ e : Entry,
      e.installation = r.installations ∧ e.attemptEpoch = attempt ∧
      e.lifecycleEpoch = expected ∧ e.started = false ∧
      out.2.1.tasks = r.tasks.insert id e ∧ out.2.1.installations = r.installations + 1 := by
  unfold install
  split
  · exact .inl ⟨rfl, rfl, rfl⟩
  · split
    · exact .inl ⟨rfl, rfl, rfl⟩
    · next hfree =>
        have hfree : r.tasks.lookup id = none := by simpa using hfree
        dsimp only
        split
        · exact .inr ⟨rfl, hfree, _, rfl, rfl, rfl, rfl, rfl, rfl⟩
        · split
          · exact .inr ⟨rfl, hfree, _, rfl, rfl, rfl, rfl, rfl, rfl⟩
          · exact .inl ⟨rfl, rfl, rfl⟩

/-- Only `install` makes an entry. -/
theorem perform_no_entry {r : ProviderTaskRegistry} {call : RegistryCall}
    (hcall : ∀ now id attempt expected, call ≠ .install now id attempt expected) :
    (r.perform limits call).1.installations = r.installations := by
  cases call with
  | install now id attempt expected => exact absurd rfl (hcall now id attempt expected)
  | beginNetwork now id attempt expected withAuthority =>
      simp only [ProviderTaskRegistry.perform, beginNetwork]
      split
      · rfl
      · split
        · split <;> rfl
        · split
          · rfl
          · split <;> rfl
  | claimCompletion now id attempt expected =>
      simp only [ProviderTaskRegistry.perform, claimCompletion]
      split
      · rfl
      · split
        · split <;> rfl
        · rfl
  | cancel now id failure | failBeforeStart now id failure =>
      simp only [ProviderTaskRegistry.perform, failBeforeStart, cancel]
      split
      · rfl
      · dsimp only
        split <;> split <;> rfl
  | expire now id =>
      simp only [ProviderTaskRegistry.perform, expire, cancel]
      split
      · rfl
      · dsimp only
        split <;> split <;> rfl
  | updateLifecycleAvailability value | updateRoomModeAvailability value =>
      simp only [ProviderTaskRegistry.perform, updateLifecycleAvailability,
        updateRoomModeAvailability, applyAvailability]
      split
      · rfl
      · split <;> rfl

/-- Any other call only keeps entries. -/
theorem perform_old_entry {r : ProviderTaskRegistry} (h : Admitted limits r) {call : RegistryCall}
    (hcall : ∀ now id attempt expected, call ≠ .install now id attempt expected)
    {id : RequestId} {f : Entry} (hf : (r.perform limits call).1.tasks.lookup id = some f) :
    ∃ e, r.tasks.lookup id = some e ∧ Entry.Later e f ∧
      (f.started ↔ e.started ∨ .resumeTask f.installation ∈ (r.perform limits call).2) := by
  obtain hold | ⟨-, hnumber, -⟩ := (perform_handled h call).entry id f hf
  · exact hold
  · have hlt := (perform_spec call h).1.numbered id f hf
    rw [perform_no_entry hcall] at hlt
    omega

theorem CallbackInv.perform {s : CallbackState} (h : CallbackInv limits s) (call : RegistryCall) :
    CallbackInv limits (s.perform limits call) := by
  have hadm := (perform_spec call h.admitted).1
  by_cases hinstall : ∃ now id attempt expected, call = .install now id attempt expected
  · obtain ⟨now, id, attempt, expected, rfl⟩ := hinstall
    obtain ⟨hno, hsame, -⟩ | ⟨hyes, hfree, e, hnumber, -, -, -, htasks, hcount⟩ :=
      @install_entries limits s.history.registry now id attempt expected
    · have hreg : (s.perform limits (.install now id attempt expected)).history.registry =
          s.history.registry := hsame
      have hunder : (s.perform limits (.install now id attempt expected)).installedUnder =
          s.installedUnder := by
        simp only [CallbackState.perform]
        rw [hno]
        rfl
      refine ⟨hadm, ?_, ?_, ?_⟩
      · rw [hreg, hunder]
        exact h.recorded
      · rw [hreg, hunder]
        exact h.numbered
      · rw [hreg, hunder]
        exact h.newest
    · have htasks' : (s.perform limits (.install now id attempt expected)).history.registry.tasks =
          s.history.registry.tasks.insert id e := htasks
      have hcount' : (s.perform limits
          (.install now id attempt expected)).history.registry.installations =
          s.history.registry.installations + 1 := hcount
      have hunder : (s.perform limits (.install now id attempt expected)).installedUnder =
          Function.update s.installedUnder s.history.registry.installations (some id) := by
        simp only [CallbackState.perform]
        rw [if_pos hyes]
      -- the numbers recorded before are older than the new entry
      have hold : ∀ n x, n ≠ s.history.registry.installations →
          Function.update s.installedUnder s.history.registry.installations (some id) n = some x →
          s.installedUnder n = some x := by
        intro n x hne hx
        rwa [Function.update_of_ne hne] at hx
      refine ⟨hadm, fun x f hf => ?_, fun n x hx => ?_, fun n x f hx hf => ?_⟩
      · rw [htasks', KeyedTable.lookup_insert] at hf
        rw [hunder]
        split at hf
        · next hxid =>
            cases hf
            rw [hnumber, Function.update_self, hxid]
        · have hlt := h.admitted.numbered x f hf
          rw [Function.update_of_ne hlt.ne]
          exact h.recorded x f hf
      · rw [hunder] at hx
        rw [hcount']
        by_cases hn : n = s.history.registry.installations
        · omega
        · exact (h.numbered n x (hold n x hn hx)).trans (Nat.lt_succ_self _)
      · rw [hunder] at hx
        rw [htasks', KeyedTable.lookup_insert] at hf
        split at hf
        · cases hf
          rw [hnumber]
          by_cases hn : n = s.history.registry.installations
          · omega
          · exact (h.numbered n x (hold n x hn hx)).le
        · next hne =>
            by_cases hn : n = s.history.registry.installations
            · rw [hn, Function.update_self] at hx
              exact absurd (Option.some.inj hx).symm hne
            · exact h.newest n x f (hold n x hn hx) hf
  · have hcall : ∀ now id attempt expected, call ≠ .install now id attempt expected :=
      fun now id attempt expected heq => hinstall ⟨now, id, attempt, expected, heq⟩
    have hunder : (s.perform limits call).installedUnder = s.installedUnder := by
      cases call with
      | install now id attempt expected => exact absurd rfl (hcall now id attempt expected)
      | _ => rfl
    have hcount : (s.perform limits call).history.registry.installations =
        s.history.registry.installations := perform_no_entry hcall
    refine ⟨hadm, fun x f hf => ?_, fun n x hx => ?_, fun n x f hx hf => ?_⟩
    · obtain ⟨e, he, hlater, -⟩ := perform_old_entry h.admitted hcall hf
      rw [hunder, hlater.installation]
      exact h.recorded x e he
    · rw [hunder] at hx
      rw [hcount]
      exact h.numbered n x hx
    · rw [hunder] at hx
      obtain ⟨e, he, hlater, -⟩ := perform_old_entry h.admitted hcall hf
      rw [hlater.installation]
      exact h.newest n x e hx he

theorem callback_inductive (limits : RegistryLimits) :
    (callbackSystem limits).Inductive (CallbackInv limits) where
  init s hs := by
    rw [show s = {} from hs]
    exact ⟨admitted_empty limits, by simp, by simp, by simp⟩
  step s l t hs hst := by
    obtain ⟨rfl, -⟩ := hst
    exact hs.perform l.call

/-- The call leaves alone every entry that was installed under its request after entry `n`:
it stays in the registry, and neither its task nor its closure is told anything. -/
def LeavesLater (limits : RegistryLimits) (s : CallbackState) (call : RegistryCall) (n : ℕ) :
    Prop :=
  ∀ id m, call.callback = some id → n < m → s.installedUnder m = some id →
    s.history.registry.Live m →
      (s.perform limits call).history.registry.Live m ∧
      .cancelTask m ∉ (s.history.registry.perform limits call).2 ∧
      ∀ started failure,
        .cancellation m started failure ∉ (s.history.registry.perform limits call).2

/-- A callback cancels the entry it finds. -/
theorem callback_cancels {r : ProviderTaskRegistry} {call : RegistryCall} {id : RequestId}
    {e : Entry} (hcall : call.callback = some id) (hid : r.tasks.lookup id = some e) :
    ∃ failure, .cancellation e.installation e.started failure ∈ (r.perform limits call).2 := by
  have hcancel : ∀ (now : ClockReadings) (failure : DatabaseFailure),
      .cancellation e.installation e.started failure ∈ (r.cancel limits now id failure).2.2 := by
    intro now failure
    simp [cancel, hid, cancellationEffects]
  cases call with
  | cancel now id' failure =>
      obtain rfl := Option.some.inj hcall
      exact ⟨failure, hcancel now failure⟩
  | failBeforeStart now id' failure =>
      obtain rfl := Option.some.inj hcall
      exact ⟨failure, hcancel now failure⟩
  | expire now id' =>
      obtain rfl := Option.some.inj hcall
      exact ⟨timeoutFailure, hcancel now timeoutFailure⟩
  | _ => cases hcall

/-- **A callback leaves the later entries of its request alone exactly when the entry it
finds there is the one it was raised for**, or there is none. -/
theorem callback_identity {s t : CallbackState} {call : RegistryCall} {n : ℕ}
    (hs : (callbackSystem limits).Reachable s)
    (hst : (callbackSystem limits).step s (.callback call n) t) :
    LeavesLater limits s call n ↔
      ∀ id e, call.callback = some id → s.history.registry.tasks.lookup id = some e →
        e.installation = n := by
  have hinv := (callback_inductive limits).reachable hs
  obtain ⟨-, -, hraised⟩ := hst
  constructor
  · intro hleaves id e hid he
    rw [hid] at hraised
    by_contra hne
    have hle := hinv.newest n id e hraised.symm he
    obtain ⟨-, -, hnot⟩ := hleaves id e.installation hid (by omega) (hinv.recorded id e he)
      ⟨id, e, he, rfl⟩
    obtain ⟨failure, hmem⟩ := callback_cancels hid he
    exact hnot e.started failure hmem
  · intro hown id m hid hlt hunder hlive
    obtain ⟨x, e, he, rfl⟩ := hlive
    rw [hinv.recorded x e he] at hunder
    obtain rfl := Option.some.inj hunder
    have hsame := hown x e hid he
    omega

/-! A request id is used again before the timer of its first entry has run. -/
namespace LateExpiry

def install : RegistryCall := .install (fun _ => 0) "request-1" 1 0

def cancel : RegistryCall := .cancel (fun _ => 1) "request-1" ⟨.canceled, true⟩

/-- The timer of the first entry. -/
def expiry : RegistryCall := .expire (fun _ => 60) "request-1"

def installed : CallbackState := CallbackState.perform {} {} install

/-- The first entry is cancelled, and a second one is installed under the same request. -/
def reused : CallbackState := (installed.perform {} cancel).perform {} install

theorem installed_reachable : (callbackSystem {}).Reachable installed := by
  have hinit : (callbackSystem {}).init {} := rfl
  have hinstall : (callbackSystem {}).step {} (.plain install) installed := ⟨rfl, rfl⟩
  exact (TransitionSystem.Reachable.of_init hinit).step hinstall

theorem reused_reachable : (callbackSystem {}).Reachable reused := by
  have hcancel : (callbackSystem {}).step installed (.callback cancel 0)
      (installed.perform {} cancel) := ⟨rfl, by decide, rfl⟩
  have hinstall : (callbackSystem {}).step (installed.perform {} cancel) (.plain install)
      reused := ⟨rfl, rfl⟩
  exact (installed_reachable.step hcancel).step hinstall

end LateExpiry

theorem callback_identity_first_expiry :
    LeavesLater {} LateExpiry.installed LateExpiry.expiry 0 := by
  have hexpires : (callbackSystem {}).step LateExpiry.installed (.callback LateExpiry.expiry 0)
      (LateExpiry.installed.perform {} LateExpiry.expiry) := ⟨rfl, by decide, rfl⟩
  refine (callback_identity LateExpiry.installed_reachable hexpires).mpr fun id e hid he => ?_
  obtain rfl := Option.some.inj hid
  obtain rfl := Option.some.inj he
  rfl

/-- The timer of the first entry cancels the second one. -/
theorem late_expiry_cancels :
    ∃ s t call n, (callbackSystem {}).Reachable s ∧
      (callbackSystem {}).step s (.callback call n) t ∧ ¬ LeavesLater {} s call n := by
  refine ⟨LateExpiry.reused, _, LateExpiry.expiry, 0, LateExpiry.reused_reachable,
    ⟨rfl, by decide, rfl⟩, fun hleaves => ?_⟩
  have hlive : LateExpiry.reused.history.registry.Live 1 := ⟨"request-1", _, rfl, rfl⟩
  obtain ⟨-, -, hnot⟩ := hleaves "request-1" 1 rfl (by decide) rfl hlive
  exact hnot false timeoutFailure (by decide)

end GreenRoom.Iphone
