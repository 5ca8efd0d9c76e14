import GreenRoom.Iphone.ConsentGate
import GreenRoom.Iphone.GenerationInvariant

/-!
# The live attempt

Attempt numbers recur: an attempt that is declared not started gives its number back.  What
ends an attempt finds it by its number, so it may find one that another entry began.  As
long as the cancellation of an entry that was not started meets no such attempt, a number is
never given back once a task was resumed, and only the entry of an attempt ends it.

## Main definitions

* `OwnAttempt` — the attempt an entry's closures find is its own.
* `LiveInv` — what holds as long as cancellations meet their own attempts.

## Main results

* `not_started_truthful`
-/

namespace GreenRoom.Iphone

open ProviderTaskRegistry

variable {limits : RegistryLimits} {planDigest : Json ℚ → String} {s t : GenerationState}
  {l : GenerationLabel}

/-! ## Which tasks a step resumes -/

theorem resumeTask_not_mem_cancel {r : ProviderTaskRegistry} (now : ClockReadings)
    (id : RequestId) (failure : DatabaseFailure) (n : ℕ) :
    .resumeTask n ∉ (r.cancel limits now id failure).2.2 := by
  unfold cancel
  split
  · simp
  · next entry _ =>
      dsimp only
      rw [List.mem_append, not_or]
      exact ⟨resumeTask_not_mem_cancellationEffects failure entry n,
        resumeTask_not_mem_effects _ n⟩

/-- Only `beginNetwork` resumes a task. -/
theorem resumeTask_not_mem_perform {r : ProviderTaskRegistry} {call : RegistryCall}
    (hcall : ∀ now id attempt expected w, call ≠ .beginNetwork now id attempt expected w) (n : ℕ) :
    .resumeTask n ∉ (r.perform limits call).2 := by
  cases call with
  | beginNetwork now id attempt expected w => exact absurd rfl (hcall now id attempt expected w)
  | install now id attempt expected =>
      simp only [ProviderTaskRegistry.perform, install]
      split
      · simp
      · split
        · simp
        · split
          · simp
          · split <;> simp
  | claimCompletion now id attempt expected =>
      simp only [ProviderTaskRegistry.perform, claimCompletion]
      split
      · simp
      · next entry _ =>
          split
          · split
            · rw [List.mem_append, not_or]
              exact ⟨resumeTask_not_mem_cancellationEffects _ entry n,
                resumeTask_not_mem_effects _ n⟩
            · simpa using resumeTask_not_mem_effects _ n
          · simp
  | cancel now id failure | failBeforeStart now id failure =>
      exact resumeTask_not_mem_cancel now id failure n
  | expire now id => exact resumeTask_not_mem_cancel now id timeoutFailure n
  | updateLifecycleAvailability value | updateRoomModeAvailability value =>
      simp only [ProviderTaskRegistry.perform, updateLifecycleAvailability,
        updateRoomModeAvailability, applyAvailability]
      split
      · simp
      · split
        · simp
        · rw [List.mem_flatMap]
          rintro ⟨e, -, hmem⟩
          exact resumeTask_not_mem_cancellationEffects _ e.2 n hmem

/-- A task that is resumed belongs to the entry with which the attempt begins. -/
theorem GenerationStep.resumes (h : GenerationStep limits planDigest s l t) {m : ℕ}
    (hm : .resumeTask m ∈ t.history.effects) :
    .resumeTask m ∈ s.history.effects ∨
    ∃ n i entry row, s.installed n = some i ∧
      s.history.registry.tasks.lookup i.id.requestId = some entry ∧
      entry.attemptEpoch = i.attemptEpoch ∧ entry.installation = m ∧
      Begins i s.store t.store row ∧
      t.begun = Function.update s.begun i.id.commandId (some m) := by
  have hperform : ∀ {call : RegistryCall},
      (∀ now id attempt expected w, call ≠ .beginNetwork now id attempt expected w) →
      .resumeTask m ∈ (s.history.perform limits call).effects →
      .resumeTask m ∈ s.history.effects := fun hcall hmem =>
    (List.mem_append.mp hmem).resolve_right (resumeTask_not_mem_perform hcall m)
  cases h with
  | install => exact .inl (hperform (by simp) hm)
  | taskDone => exact .inl (hperform (by simp) hm)
  | registry call outside =>
      refine .inl (hperform (fun now id attempt expected w heq => ?_) hm)
      rw [heq] at outside
      cases outside
  | startExpires n i now entry db' db'' count starting found beginnable begins late =>
      exact .inl ((List.mem_append.mp hm).resolve_right
        ((@beginNetwork_effects limits _ _ _ _ _ _ beginnable).2 late m))
  | startResumes n i now entry db' starting found beginnable begins inTime =>
      obtain hold | hnew := List.mem_append.mp hm
      · exact .inl hold
      · rw [(beginNetwork_effects beginnable).1 inTime, List.mem_singleton] at hnew
        obtain rfl := Effect.resumeTask.inj hnew
        obtain ⟨row, hbegins⟩ := beginAttempt_spec begins
        obtain ⟨hlive, hattempt, -, -⟩ := beginnable_spec beginnable
        exact .inr ⟨n, i, entry, row, found, hlive, hattempt, rfl, hbegins, rfl⟩
  | _ => exact .inl hm

/-- What is recorded of an entry does not change. -/
theorem GenerationStep.installed_old (h : GenerationStep limits planDigest s l t) {n : ℕ}
    (hn : n < s.history.registry.installations) : t.installed n = s.installed n := by
  cases h with
  | install =>
      dsimp only
      split
      · exact Function.update_of_ne hn.ne _ _
      · rfl
  | _ => rfl

/-! ## The invariant -/

/-- The attempt in flight that has the number of entry `n` was begun with it. -/
def OwnAttempt (s : GenerationState) (n : ℕ) : Prop :=
  ∀ i row, s.installed n = some i → s.store.commands.lookup i.id.commandId = some row →
    row.state = .inFlight → row.attemptEpoch = i.attemptEpoch → s.begun i.id.commandId = some n

/-- The cancellation of an entry that was not started meets no attempt of its number that
another entry began. -/
def OwnCancellation (s : GenerationState) (l : GenerationLabel) : Prop :=
  ∀ n failure, l = .cancellation n false failure → OwnAttempt s n

/-- What holds of resumed tasks as long as cancellations meet their own attempts. -/
structure LiveInv (s : GenerationState) : Prop where
  /-- The number of a resumed task is not given back, and no other attempt gets it. -/
  resumed : ∀ n i row, .resumeTask n ∈ s.history.effects → s.installed n = some i →
    s.store.commands.lookup i.id.commandId = some row →
    i.attemptEpoch ≤ row.attemptEpoch ∧
      (row.state = .inFlight → row.attemptEpoch = i.attemptEpoch →
        s.begun i.id.commandId = some n)
  failed : ∀ id row n, s.store.commands.lookup id = some row → row.state = .failed →
    s.begun id = some n → .resumeTask n ∉ s.history.effects

/-- The cancellation of a started entry is told so. -/
theorem GenerationInv.not_resumed (hinv : GenerationInv limits s) {n : ℕ}
    {failure : DatabaseFailure} (h : .cancellation n false failure ∈ s.history.effects) :
    .resumeTask n ∉ s.history.effects := fun hresumed =>
  Bool.false_ne_true ((hinv.entries.tracks.cancellation n false failure h).1.mpr hresumed)

theorem LiveInv.step_resumed (h : LiveInv s) (hinv : GenerationInv limits s)
    (hst : GenerationStep limits planDigest s l t) (hown : OwnCancellation s l) :
    ∀ n i row, .resumeTask n ∈ t.history.effects → t.installed n = some i →
      t.store.commands.lookup i.id.commandId = some row →
      i.attemptEpoch ≤ row.attemptEpoch ∧
        (row.state = .inFlight → row.attemptEpoch = i.attemptEpoch →
          t.begun i.id.commandId = some n) := by
  intro n i row' hresumed hi hrow'
  obtain hold | ⟨m, j, entry, row, hfound, hlive, hattempt, rfl, hbegins, hbegun⟩ :=
    hst.resumes hresumed
  · rw [hst.installed_old (hinv.entries.tracks.resumeTask n hold)] at hi
    obtain ⟨row, hrow, -⟩ := hinv.commands.named n i hi
    obtain ⟨hle, hbegun⟩ := h.resumed n i row hold hi hrow
    obtain ⟨new, hnew, heffect⟩ := hst.store.row hrow
    rw [hrow', Option.some_inj] at hnew
    subst hnew
    cases heffect with
    | kept same begun =>
        subst same
        exact ⟨hle, fun hflight hnumber => begun.trans (hbegun hflight hnumber)⟩
    | settled settles =>
        exact ⟨settles.attempt ▸ hle, fun hflight => absurd hflight settles.inFlight⟩
    | takenBack m failure j label called found command inFlight attempt failed prior =>
        have hnumber : j.attemptEpoch = j.command.attemptEpoch + 1 := rfl
        have hne : row.attemptEpoch ≠ i.attemptEpoch := by
          -- otherwise entry `n` began the attempt, and entry `m` was not resumed
          intro heq
          have hn := hbegun inFlight heq
          have hm := hown m failure label j row found (by rw [command, hrow]) inFlight attempt
          rw [command, hn, Option.some_inj] at hm
          subst hm
          exact hinv.not_resumed called hold
        refine ⟨by omega, fun hflight => ?_⟩
        rw [failed] at hflight
        cases hflight
    | began m j entry found command live attempt fresh prior idle begun outcome =>
        have hnumber : j.attemptEpoch = j.command.attemptEpoch + 1 := rfl
        obtain ⟨-, hnew⟩ | ⟨hfailed, hnew, -⟩ := outcome
        · exact ⟨by omega, fun _ heq => by omega⟩
        · refine ⟨by omega, fun hflight => ?_⟩
          rw [hfailed] at hflight
          cases hflight
  · -- the attempt has just begun with this entry
    obtain ⟨k, hk, hid, hnumber⟩ := hinv.entries.owner hinv.commands hfound hlive hattempt
    rw [hst.installed_old (hinv.entries.numbered _ k hk), hk, Option.some_inj] at hi
    subst hi
    rw [hid, hbegins.begun, Option.some_inj] at hrow'
    subst hrow'
    have hprior : row.begun.attemptEpoch = j.attemptEpoch := congrArg (· + 1) hbegins.attempt
    refine ⟨(hnumber.trans hprior.symm).le, fun _ _ => ?_⟩
    rw [hbegun, hid, Function.update_self]

/-- A task that the step resumes is the one of an attempt in flight. -/
theorem GenerationStep.resumes_inFlight (hst : GenerationStep limits planDigest s l t)
    (hinv : GenerationInv limits s) {id : String} {row : CommandRow} {n : ℕ}
    (hrow : t.store.commands.lookup id = some row) (hfailed : row.state = .failed)
    (hbegun : t.begun id = some n) (hresumed : .resumeTask n ∈ t.history.effects) :
    .resumeTask n ∈ s.history.effects := by
  obtain hold | ⟨m, j, entry, old, hfound, hlive, hattempt, rfl, hbegins, hnow⟩ :=
    hst.resumes hresumed
  · exact hold
  · exfalso
    obtain ⟨k, hk, hid, -⟩ := hinv.entries.owner hinv.commands hfound hlive hattempt
    obtain ⟨i, r, hi, hcommand, -⟩ :=
      (hinv.commands.step hinv.entries hst).begun id entry.installation hbegun
    rw [hst.installed_old (hinv.entries.numbered _ k hk), hk, Option.some_inj] at hi
    subst hi
    rw [← hcommand, hid, hbegins.begun, Option.some_inj] at hrow
    subst hrow
    cases hfailed

theorem LiveInv.step_failed (h : LiveInv s) (hinv : GenerationInv limits s)
    (hst : GenerationStep limits planDigest s l t) (hown : OwnCancellation s l) :
    ∀ id row n, t.store.commands.lookup id = some row → row.state = .failed →
      t.begun id = some n → .resumeTask n ∉ t.history.effects := by
  intro id row' n hrow' hfailed hbegun hnow
  have hresumed := hst.resumes_inFlight hinv hrow' hfailed hbegun hnow
  cases hrow : s.store.commands.lookup id with
  | none =>
      rw [hst.store.begun_none hinv.commands hrow] at hbegun
      cases hbegun
  | some row =>
      obtain ⟨new, hnew, heffect⟩ := hst.store.row hrow
      rw [hrow', Option.some_inj] at hnew
      subst hnew
      cases heffect with
      | kept same begun =>
          subst same
          exact h.failed id row' n hrow hfailed (begun ▸ hbegun) hresumed
      | settled settles begun =>
          rw [begun] at hbegun
          obtain hprepared | hbefore := settles.failed hfailed
          · obtain ⟨-, r, -, -, hr, hnot⟩ := hinv.commands.begun id n hbegun
            rw [hrow, Option.some_inj] at hr
            exact hnot (hr ▸ hprepared)
          · exact h.failed id row n hrow hbefore hbegun hresumed
      | takenBack m failure j label called found command inFlight attempt _ _ begun =>
          have hm := hown m failure label j row found (by rw [command, hrow]) inFlight attempt
          rw [command, ← begun, hbegun, Option.some_inj] at hm
          subst hm
          exact hinv.not_resumed called hresumed
      | began m j entry found command live attempt fresh prior idle begun outcome =>
          rw [begun, Option.some_inj] at hbegun
          subst hbegun
          have hstarted := (hinv.entries.tracks.entry _ entry live).mpr hresumed
          rw [fresh] at hstarted
          cases hstarted

theorem live_inductive {ok : GenerationState → GenerationLabel → Prop}
    (hok : ∀ s l, ok s l → OwnCancellation s l) :
    ((generationSystem limits planDigest).restrict ok).Inductive
      fun s => GenerationInv limits s ∧ LiveInv s := by
  refine ((generation_inductive limits planDigest).restrict ok).and (fun s hs => ?_)
    fun s l t hinv h hst => ?_
  · obtain ⟨hinit, heq⟩ := hs
    rw [heq]
    exact ⟨by simp, by simp⟩
  · exact ⟨h.step_resumed hinv hst.2 (hok s l hst.1), h.step_failed hinv hst.2 (hok s l hst.1)⟩

/-! ## What ends an attempt -/

/-- The writes that change a command in flight. -/
theorem RowWrite.of_inFlight {db : Store} {id : String} {row row' : CommandRow} {w : Write}
    (h : RowWrite db id row w row') (hflight : row.state = .inFlight) :
    (∃ code ident, w = .statement (.interruptGenerationCommand code ident row.attemptEpoch) ∧
      ident.names id row) ∨
    (∃ text ident, w = .statement (.completeGenerationCommand text ident row.attemptEpoch) ∧
      row'.state = .completed) ∨
    w = .interruptInFlightGenerationCommands ∨
    (∃ code, w = .interruptAttempt row.requestId row.attemptEpoch code) ∨
    ∃ ident prior, w = .failGenerationCommandNotStarted ident prior ∧ ident.names id row ∧
      row.attemptEpoch = prior + 1 := by
  cases h with
  | begins _ _ _ _ state | abandons _ _ _ state =>
      obtain hs | hs | hs := state <;> rw [hs] at hflight <;> cases hflight
  | fails _ _ _ state | completesSilent _ _ state | notStarted _ _ state =>
      obtain hs | hs := state <;> rw [hs] at hflight <;> cases hflight
  | neverBegan state =>
      rw [state] at hflight
      cases hflight
  | interrupts code ident names => exact .inl ⟨code, ident, rfl, names⟩
  | completes text ident => exact .inr (.inl ⟨text, ident, rfl, rfl⟩)
  | lost => exact .inr (.inr (.inl rfl))
  | interruptsAttempt code => exact .inr (.inr (.inr (.inl ⟨code, rfl⟩)))
  | takesBack ident prior names attempt =>
      exact .inr (.inr (.inr (.inr ⟨ident, prior, rfl, names, attempt⟩)))

/-- A write leaves a row alone, or does one of the things a write to the commands does. -/
theorem Write.row_or {db db' : Store} {w : Write} {n : ℕ} (hpermitted : w.Permitted)
    (h : w.exec db = some (db', n)) {id : String} {row : CommandRow}
    (hrow : db.commands.lookup id = some row) :
    db'.commands.lookup id = some row ∨
      ∃ row', db'.commands.lookup id = some row' ∧ RowWrite db id row w row' := by
  cases hcommands : w.onCommands with
  | false =>
      rw [(Write.elsewhere hpermitted hcommands h).1]
      exact .inl hrow
  | true =>
      obtain ⟨row', hrow', rfl | ⟨-, hwrite⟩⟩ := Write.row_cases hcommands h hrow
      · exact .inl hrow'
      · exact .inr ⟨row', hrow', hwrite⟩

theorem Attempted.row_or {db db' : Store} {w : Write} (h : Attempted w db db')
    (hpermitted : w.Permitted) {id : String} {row : CommandRow}
    (hrow : db.commands.lookup id = some row) :
    db'.commands.lookup id = some row ∨
      ∃ row', db'.commands.lookup id = some row' ∧ RowWrite db id row w row' := by
  obtain rfl | ⟨n, hexec⟩ := h
  · exact .inl hrow
  · exact Write.row_or hpermitted hexec hrow

/-- The attempt in flight that has the number of a resumed entry was begun with it. -/
theorem LiveInv.own (h : LiveInv s) (hinv : GenerationInv limits s) {n : ℕ} {i j : Installed}
    {id : String} {row : CommandRow} (hresumed : .resumeTask n ∈ s.history.effects)
    (hj : s.installed n = some j) (hi : Named s.store i.id)
    (hrequest : j.id.requestId = i.id.requestId) (hnumber : j.attemptEpoch = i.attemptEpoch)
    (hrow : s.store.commands.lookup id = some row) (hflight : row.state = .inFlight)
    (hrequest' : row.requestId = i.id.requestId) (hattempt : row.attemptEpoch = i.attemptEpoch) :
    s.begun id = some n := by
  have hsame := (hinv.commands.named n j hj).unique hinv.commands.requests hi hrequest
  obtain ⟨r, hr, hnames⟩ := hi
  simp only [CommandIdentity.names, Bool.and_eq_true, decide_eq_true_eq, true_and] at hnames
  obtain rfl := hinv.commands.requests _ _ r row hr hrow (hnames.1.trans hrequest'.symm)
  have hown := (h.resumed n j row hresumed hj (by rw [hsame, hrow])).2 hflight
    (hattempt.trans hnumber.symm)
  rwa [hsame] at hown

theorem CommandIdentity.requestId_of_names {id : CommandIdentity} {commandId : String}
    {row : CommandRow} (h : id.names commandId row) : row.requestId = id.requestId := by
  simp only [CommandIdentity.names, Bool.and_eq_true, decide_eq_true_eq] at h
  exact h.1.2

/-- A cancellation changes a command in flight only in the attempt of its own entry. -/
theorem GenerationStep.cancellation_own {n : ℕ} {started : Bool} {failure : DatabaseFailure}
    (hst : GenerationStep limits planDigest s (.cancellation n started failure) t)
    (hinv : GenerationInv limits s) (h : LiveInv s)
    (hown : OwnCancellation s (.cancellation n started failure)) {id : String} {row : CommandRow}
    (hrow : s.store.commands.lookup id = some row) (hflight : row.state = .inFlight) :
    t.store.commands.lookup id = some row ∨ s.begun id = some n := by
  cases hst with
  | cancellation _ _ _ i db' called once found write =>
      have hnamed := hinv.commands.named n i found
      cases started with
      | true =>
          obtain hsame | ⟨row', -, hwrite⟩ := write.row_or trivial hrow
          · exact .inl hsame
          · obtain ⟨code, ident, heq, -⟩ | ⟨text, ident, heq, -⟩ | heq | ⟨code, heq⟩ |
              ⟨ident, prior, heq, -⟩ := hwrite.of_inFlight hflight
            · cases heq
            · cases heq
            · cases heq
            · obtain ⟨hrequest, hattempt, -⟩ := Write.interruptAttempt.inj heq
              have hresumed := (hinv.entries.tracks.cancellation n true failure called).1.mp rfl
              exact .inr (h.own hinv hresumed found hnamed rfl rfl hrow hflight hrequest.symm
                hattempt.symm)
            · cases heq
      | false =>
          obtain hsame | ⟨row', -, hwrite⟩ := write.row_or trivial hrow
          · exact .inl hsame
          · obtain ⟨code, ident, heq, -⟩ | ⟨text, ident, heq, -⟩ | heq | ⟨code, heq⟩ |
              ⟨ident, prior, heq, hnames, hattempt⟩ := hwrite.of_inFlight hflight
            · cases heq
            · cases heq
            · cases heq
            · cases heq
            · obtain ⟨rfl, rfl⟩ := Write.failGenerationCommandNotStarted.inj heq
              obtain rfl := CommandIdentity.eq_of_names hnames
              exact .inr (hown n failure rfl i row found hrow hflight hattempt)

/-- **`not_started` is truthful** in every run in which the cancellation of an entry that was
not started meets no attempt of its number that another entry began: where a command has
failed as not started, the task of the last attempt that began was never resumed; and a
cancellation leaves every attempt in flight alone that another entry began. -/
theorem not_started_truthful
    (hs : ((generationSystem limits planDigest).restrict OwnCancellation).Reachable s) :
    (∀ id row n, s.store.commands.lookup id = some row → row.state = .failed →
      row.failureCode = some "not_started" → s.begun id = some n →
      .resumeTask n ∉ s.history.effects) ∧
    ∀ n started failure t,
      ((generationSystem limits planDigest).restrict OwnCancellation).step s
        (.cancellation n started failure) t →
      ∀ id row, s.store.commands.lookup id = some row → row.state = .inFlight →
        s.begun id ≠ some n → t.store.commands.lookup id = some row := by
  obtain ⟨hinv, hlive⟩ := (live_inductive fun _ _ h => h).reachable hs
  refine ⟨fun id row n hrow hfailed _ => hlive.failed id row n hrow hfailed,
    fun n started failure t hst id row hrow hflight hother => ?_⟩
  exact (hst.2.cancellation_own hinv hlive hst.1 hrow hflight).resolve_right hother

/-- An update that meets the condition on the one command there is. -/
theorem updateCommands_one {db : Store} {id : String} {row : CommandRow}
    {condition : String → CommandRow → Bool} {set : CommandRow → CommandRow}
    (hentries : db.commands.entries = [⟨id, row⟩]) (hcondition : condition id row)
    (hquiet : ¬ Completes row (set row)) (htransition : ValidTransition row (set row))
    (himmutable : (set row).toGenerationCommand = row.toGenerationCommand)
    (hchecked : (set row).Checked) :
    updateCommands condition set db =
      some ({ db with commands := db.commands.insert id (set row) }, 1) := by
  have hallowed : UpdateAllowed db id row (set row) :=
    { immutable := himmutable
      transition := htransition
      attempt := fun hcompletes => absurd hcompletes hquiet
      fenced := fun hcompletes => absurd hcompletes hquiet
      checked := hchecked
      unique := fun _ e he hne => by
        rw [hentries, List.mem_singleton] at he
        exact absurd (congrArg Sigma.fst he) hne }
  simp [updateCommands, hentries, hcondition, updateCommandList, updateCommand, hallowed, hquiet]

/-! A message that is put to a provider, and asked again. -/
namespace Retried

open JsString

def identity : CommandIdentity :=
  { Asked.identity with
    requestDigest := "2d160271e9699188eba00a9e19ca245788f699f7ab58095e54942a371bab675c" }

def plan : Json ℚ := .obj
  [(ofString "kind", .str (ofString "provider")),
    (ofString "maxOutputTokens", .num 700),
    (ofString "messages", .arr
      [.obj [(ofString "content", .str (ofString "You are Ada.")),
          (ofString "role", .str (ofString "system"))],
        .obj [(ofString "content", .str (ofString "Hello")),
          (ofString "role", .str (ofString "user"))]]),
    (ofString "model", .str (ofString "gpt-5")),
    (ofString "personaSlug", .str (ofString "ada")),
    (ofString "profileId", .str (ofString "iphone.openai")),
    (ofString "profileRevision", .num 1),
    (ofString "providerId", .str (ofString "openai")),
    (ofString "requestId", .str (ofString identity.requestId)),
    (ofString "roomId", .str (ofString Asked.room.roomId)),
    (ofString "sourceEventSequence", .num 1),
    (ofString "temperature", .num (4 / 5))]

/-- The digest, where it is the plan's. -/
def digest (p : Json ℚ) : String := if p = plan then identity.requestDigest else ""

def command : GenerationCommand :=
  { Asked.command with
    requestDigest := identity.requestDigest
    requestPlan := plan }

/-- The tables with one command. -/
def holding (row : CommandRow) : Store :=
  { Asked.ready with commands := AList.singleton identity.commandId row }

/-- A row of the command that is not settled. -/
structure Open (row : CommandRow) : Prop where
  command : row.toGenerationCommand = command
  responseText : row.responseText = none
  finished : row.finished = false

def prepared : CommandRow := { toGenerationCommand := command, state := .prepared }

theorem checked : command.Checked := by decide

theorem named {row : CommandRow} (h : Open row) : identity.names identity.commandId row := by
  obtain ⟨hcommand, -, -⟩ := h
  simp only [CommandIdentity.names, hcommand]
  decide

theorem prepare_exec :
    (Write.statement (.prepareGenerationCommand identity.commandId command 0 1)).exec
    Asked.ready = some (holding prepared, 1) := by
  have hroom : Asked.ready.rooms.lookup command.roomId = some
      { title := "Ada Room", status := .active, generation := 0, nextEventSequence := 1,
        inferenceMode := .provider } := rfl
  have hcommands : Asked.ready.commands = ∅ := rfl
  have hadmitted : planAdmitted Asked.ready command := rfl
  have hhuman : humanBelongs Asked.ready command := rfl
  have hchecked : prepared.Checked := ⟨checked, rfl, rfl⟩
  have hunique : UniqueUnresolved Asked.ready identity.commandId prepared := by
    intro _ e he
    rw [hcommands] at he
    cases he
  simp only [Write.exec, Statement.exec, prepareGenerationCommand, hroom, hadmitted, hcommands,
    hhuman]
  rw [if_pos (by simp [command, Asked.command]),
    if_pos ⟨trivial, by simp, by simp, hchecked, hunique⟩]
  rfl

theorem authority (row : CommandRow) : (holding row).authority = some
    { selection := Asked.selection
      profile := { providerId := "openai", expectedPriorRevision := none }
      credential :=
        { providerId := "openai"
          credentialRef := Asked.credential.credentialRef
          expectedPriorRevision := none
          mutationId := Asked.credential.mutationId
          lifecycleState := .ready }
      consent :=
        { providerId := "openai"
          providerDefinitionVersion := 1
          model := "gpt-5"
          disclosureVersion := 1 } } := rfl

theorem room_found (row : CommandRow) : (holding row).rooms.lookup command.roomId = some
    { title := "Ada Room", status := .active, generation := 0, nextEventSequence := 1,
      inferenceMode := .provider } := rfl

theorem matches_plan : Asked.selection.Matches plan := by decide

theorem newest (row : CommandRow) :
    maxRevision (holding row).profileRevisions "iphone.openai" = some 1 := rfl

theorem current_room (row : CommandRow) :
    (holding row).currentRoom = some command.roomId := rfl

theorem kind : plan.extract "kind" = .ofText "provider" := rfl

theorem beginnable (row : CommandRow) :
    beginnableCommand (holding row) Asked.credential.credentialRef Asked.credential.mutationId
      command := by
  simp only [beginnableCommand, authority, room_found, Option.any_some, Bool.and_eq_true]
  refine ⟨?_, ?_⟩
  · have hselection : Asked.selection.Matches command.requestPlan := matches_plan
    have hnewest : maxRevision (holding row).profileRevisions Asked.selection.profileId =
        some Asked.selection.profileRevision := newest row
    simp [hselection, hnewest]
  · simp [RoomRow.openAt, current_room, command, Asked.command]

/-- What a call loads of the command. -/
def loaded (attemptEpoch : ℕ) : LoadedCommand :=
  { requestPlan := plan, attemptEpoch, reservation := Asked.credential }

theorem lookup_holding (row : CommandRow) :
    (holding row).commands.lookup identity.commandId = some row := rfl

theorem loads {row : CommandRow} (h : Open row)
    (hstate : row.state = .prepared ∨ row.state = .failed ∨ row.state = .interrupted) :
    providerCommandAuthority digest identity (holding row) =
      some (loaded row.attemptEpoch) := by
  have hcommand := h.command
  have hroom : (holding row).rooms.lookup row.roomId = _ := hcommand ▸ room_found row
  have hdigest : digest row.requestPlan = identity.requestDigest := by
    simp [digest, hcommand, command]
  simp only [providerCommandAuthority, lookup_holding, authority, hroom, Option.bind_eq_bind,
    Option.bind_some]
  refine (if_pos ⟨named h, ?_, hstate, ?_, trivial, trivial, trivial, newest row, trivial, ?_,
    hdigest, ?_, trivial, trivial⟩).trans ?_
  · rw [hcommand]
    rfl
  · rw [hcommand]
    exact matches_plan
  · rw [hcommand]
    exact kind
  · simp [RoomRow.openAt, hcommand, current_room, command, Asked.command]
  · decide

/-- What an entry of the command holds on to. -/
def entry (attemptEpoch lifecycleEpoch : ℕ) : Installed :=
  { id := identity, command := loaded attemptEpoch, lifecycleEpoch }

/-- One update of the one command. -/
theorem updates {row new : CommandRow} (h : Open row)
    {condition : String → CommandRow → Bool} {set : CommandRow → CommandRow}
    (hcondition : condition identity.commandId row) (hset : set row = new)
    (htransition : ValidTransition row new) (hopen : Open new)
    (hquiet : new.state ≠ .completed) (hstate : new.stateChecked) :
    updateCommands condition set (holding row) = some (holding new, 1) := by
  subst hset
  have hentries : (holding row).commands.entries = [⟨identity.commandId, row⟩] := rfl
  rw [updateCommands_one hentries hcondition
    (fun hcompletes => hquiet hcompletes.1) htransition (hopen.command.trans h.command.symm)
    ⟨hopen.command ▸ checked, by simp [CommandRow.responseChecked, hopen.responseText], hstate⟩]
  simp only [holding, AList.insert_singleton_eq]

theorem open_begun {row : CommandRow} (h : Open row) : Open row.begun :=
  ⟨h.command, h.responseText, h.finished⟩

theorem begins {row : CommandRow} (h : Open row) (lifecycleEpoch : ℕ)
    (hstate : row.state = .prepared ∨ row.state = .failed ∨ row.state = .interrupted) :
    beginAttempt digest (entry row.attemptEpoch lifecycleEpoch) (holding row) =
      some (holding row.begun) := by
  have hexec : (entry row.attemptEpoch lifecycleEpoch).begin.exec (holding row) =
      some (holding row.begun, 1) := by
    simp only [Installed.begin, Write.exec, Statement.exec, beginGenerationCommand]
    refine updates h ?_ rfl ?_ (open_begun h) (by simp [CommandRow.begun])
      (by simp [CommandRow.stateChecked, CommandRow.begun, h.finished, h.responseText])
    · have hnames := named h
      have hplan : row.requestPlan = plan := by rw [h.command]; rfl
      have hbeginnable := beginnable row
      rw [← h.command] at hbeginnable
      simp only [entry, loaded, Bool.and_eq_true, Bool.or_eq_true, decide_eq_true_eq, hplan, kind,
        or_assoc]
      exact ⟨⟨⟨⟨⟨hnames, trivial⟩, trivial⟩, hstate⟩, trivial⟩, hbeginnable⟩
    · obtain hs | hs | hs := hstate
      · exact .inl ⟨hs, by simp [CommandRow.begun]⟩
      · exact .inr (.inl ⟨hs, by simp [CommandRow.begun]⟩)
      · exact .inr (.inr (.inl ⟨hs, by simp [CommandRow.begun]⟩))
  have hloads := loads h hstate
  have hcurrent : providerCommandAuthority digest (entry row.attemptEpoch lifecycleEpoch).id
      (holding row) = some (loaded row.attemptEpoch) := hloads
  simp only [beginAttempt, hcurrent, Option.bind_eq_bind, Option.bind_some, hexec]
  exact if_pos ⟨rfl, rfl⟩

/-- The attempt in flight is taken back. -/
theorem takesBack {row : CommandRow} (h : Open row) (hstate : row.state = .inFlight)
    {prior : ℕ} (hattempt : row.attemptEpoch = prior + 1) (lifecycleEpoch : ℕ) :
    (entry prior lifecycleEpoch).failNotStarted.exec (holding row) =
      some (holding (row.takenBack prior), 1) := by
  simp only [Installed.failNotStarted, Write.exec, failGenerationCommandNotStarted]
  refine updates h ?_ rfl ?_ ⟨h.command, h.responseText, h.finished⟩
    (by simp [CommandRow.takenBack])
    (by simp [CommandRow.stateChecked, CommandRow.takenBack, h.finished, h.responseText])
  · have hnames := named h
    simp only [Bool.and_eq_true, Bool.or_eq_true, decide_eq_true_eq]
    exact ⟨hnames, .inr ⟨hattempt, hstate⟩⟩
  · exact .inr (.inr (.inr (.inl ⟨hstate, .inr (.inr ⟨rfl, rfl, hattempt.symm, rfl⟩)⟩)))

/-- The row of a command whose attempt is interrupted. -/
def interrupted (row : CommandRow) (code : String) : CommandRow :=
  { row with
    state := .interrupted
    failureCode := some code }

theorem open_interrupted {row : CommandRow} (h : Open row) (code : String) :
    Open (interrupted row code) :=
  ⟨h.command, h.responseText, h.finished⟩

theorem interrupts {row : CommandRow} (h : Open row) (hstate : row.state = .inFlight)
    (hattempt : 1 ≤ row.attemptEpoch) (hstarted : row.started) (code : String) :
    (Write.statement (.interruptGenerationCommand code identity row.attemptEpoch)).exec
      (holding row) = some (holding (interrupted row code), 1) := by
  simp only [Write.exec, Statement.exec, interruptGenerationCommand]
  refine updates h ?_ rfl ?_ (open_interrupted h code) (by simp [interrupted])
    (by simp [CommandRow.stateChecked, interrupted, h.finished, h.responseText, hattempt, hstarted])
  · have hnames := named h
    simp only [Bool.and_eq_true, decide_eq_true_eq]
    exact ⟨⟨hnames, trivial⟩, hstate⟩
  · exact .inr (.inr (.inr (.inl ⟨hstate, .inl rfl⟩)))

theorem cancels {row : CommandRow} (h : Open row) (hstate : row.state = .inFlight) {prior : ℕ}
    (hattempt : row.attemptEpoch = prior + 1) (hstarted : row.started) (lifecycleEpoch : ℕ)
    (failure : DatabaseFailure) :
    ((entry prior lifecycleEpoch).cancellation true failure).exec (holding row) =
      some (holding (interrupted row failure.code.text), 1) := by
  simp only [Installed.cancellation, if_true, Write.exec, interruptAttempt]
  refine updates h ?_ rfl ?_ (open_interrupted h failure.code.text) (by simp [interrupted])
    (by simp [CommandRow.stateChecked, interrupted, h.finished, h.responseText, hattempt, hstarted])
  · have hrequest : row.requestId = identity.requestId := by rw [h.command]; rfl
    simp only [Bool.and_eq_true, decide_eq_true_eq]
    exact ⟨⟨hrequest, hattempt⟩, hstate⟩
  · exact .inr (.inr (.inr (.inl ⟨hstate, .inl rfl⟩)))

/-! ### Runs -/

abbrev system : TransitionSystem GenerationState GenerationLabel := generationSystem {} digest

/-- No time passes. -/
def now : ClockReadings := fun _ => 0

def canceled : DatabaseFailure := ⟨.canceled, true⟩

def install (attemptEpoch : ℕ) : RegistryCall := .install now identity.requestId attemptEpoch 0

/-- The page cancels the request. -/
def cancel : RegistryCall := .cancel now identity.requestId canceled

/-- A call and what it has come to. -/
def call (stage : CallStage) : GenerateCall := { id := identity, lifecycleEpoch := 0, stage }

/-- The command is prepared, and nothing has been called. -/
def start : GenerationState := { store := holding prepared }

/-- A call `g` comes to install entry `n`, for the attempt after `prior`. -/
def called (g : ℕ) (s : GenerationState) : GenerationState :=
  { s with calls := Function.update s.calls g (some (call .called)) }

def loadedBy (g prior : ℕ) (s : GenerationState) : GenerationState :=
  { s with calls := Function.update s.calls g (some (call (.loaded (loaded prior)))) }

def installedBy (g n prior : ℕ) (s : GenerationState) : GenerationState :=
  { s with
    history := s.history.perform {} (install (prior + 1))
    calls := Function.update s.calls g (some (call (.installed n)))
    installed := Function.update s.installed n (some (entry prior 0)) }

/-- Entry `n` in its slot. -/
def active (n prior : ℕ) : Entry :=
  { installation := n
    attemptEpoch := prior + 1
    lifecycleEpoch := 0
    deadline := now 0 + RegistryLimits.totalDeadline {}
    state := .active }

/-- The start closure of entry `n` begins the attempt, and the row is `row` then. -/
def begunBy (n : ℕ) (row : CommandRow) (s : GenerationState) : GenerationState :=
  { s with
    store := holding row
    startsRun := n :: s.startsRun
    begun := Function.update s.begun identity.commandId (some n) }

/-- The task is resumed. -/
def resumed (n prior : ℕ) (s : GenerationState) : GenerationState :=
  { s with
    history :=
      { registry := { s.history.registry with
          tasks := s.history.registry.tasks.insert identity.requestId
            { active n prior with started := true } }
        effects := s.history.effects ++ [.resumeTask n] }
    tasks := { closure := n, entry := n } :: s.tasks }

/-- The page cancels the request. -/
def canceledBy (s : GenerationState) : GenerationState :=
  { s with history := s.history.perform {} cancel }

/-- The cancellation closure of entry `n` leaves the row `row`. -/
def closedBy (n : ℕ) (row : CommandRow) (s : GenerationState) : GenerationState :=
  { s with
    store := holding row
    cancellationsRun := n :: s.cancellationsRun }

/-- From tables without a command, to the prepared command. -/
theorem start_reachable {ok : GenerationState → GenerationLabel → Prop}
    (hok : ∀ s w, ok s (.write w)) : (system.restrict ok).Reachable start := by
  have hwrites : ∀ {ws : List Write} {db db' : Store}, storeSystem.Run db ws db' →
      (∀ w ∈ ws, w.ofTheRoom) → (system.restrict ok).Reachable { store := db } →
      (system.restrict ok).Reachable { store := db' } := by
    intro ws db db' hrun
    induction hrun with
    | nil => exact fun _ hs => hs
    | @cons db mid db' w ws hst _ ih =>
        intro hroom hs
        obtain ⟨hpermitted, n, hexec⟩ := hst
        refine ih (fun w hw => hroom w (List.mem_cons_of_mem _ hw)) (hs.step ⟨hok _ w, ?_⟩)
        exact GenerationStep.write (s := { store := db }) w mid n hpermitted
          (hroom w List.mem_cons_self) hexec
  have hprepare : storeSystem.step Asked.ready
      (.statement (.prepareGenerationCommand identity.commandId command 0 1)) (holding prepared) :=
    ⟨rfl, 1, prepare_exec⟩
  refine hwrites (Asked.run_ready.append (.single hprepare)) (by decide) ?_
  exact .of_init ⟨Asked.init, rfl⟩

theorem open_prepared : Open prepared := ⟨rfl, rfl, rfl⟩

/-- A call loads the command and installs its entry. -/
theorem installs {ok : GenerationState → GenerationLabel → Prop} {s : GenerationState}
    (hok : ∀ s g, ok s (.generate g identity) ∧ ok s (.load g) ∧ ok s (.install g now))
    (g n : ℕ) {row : CommandRow} (h : Open row)
    (hstate : row.state = .prepared ∨ row.state = .failed ∨ row.state = .interrupted)
    (hstore : s.store = holding row) (fresh : s.calls g = none)
    (hcount : s.history.registry.installations = n)
    (hepoch : s.history.registry.lifecycleSnapshot = some 0)
    (hadmission : (s.history.registry.install {} now identity.requestId (row.attemptEpoch + 1) 0).1
      = .active) :
    ∃ ls, (system.restrict ok).Run s ls (installedBy g n row.attemptEpoch
      (loadedBy g row.attemptEpoch (called g s))) := by
  subst hcount
  have hgenerate : GenerationStep {} digest s (.generate g identity) (called g s) := by
    have hstep : GenerationStep {} digest s _ _ := .generate g identity fresh
    rw [hepoch] at hstep
    exact hstep
  have hload : GenerationStep {} digest (called g s) (.load g)
      (loadedBy g row.attemptEpoch (called g s)) := by
    refine GenerationStep.load g (call .called) (loaded row.attemptEpoch) ?_ rfl ?_
    · exact Function.update_self ..
    · show providerCommandAuthority digest identity s.store = _
      rw [hstore]
      exact loads h hstate
  have hinstall : GenerationStep {} digest (loadedBy g row.attemptEpoch (called g s))
      (.install g now) (installedBy g s.history.registry.installations row.attemptEpoch
        (loadedBy g row.attemptEpoch (called g s))) := by
    exact GenerationStep.install g (call (.loaded (loaded row.attemptEpoch)))
      (loaded row.attemptEpoch) now .active (Function.update_self ..) rfl hadmission
  exact ⟨_, .cons ⟨(hok _ g).1, hgenerate⟩ (.cons ⟨(hok _ g).2.1, hload⟩
    (.single ⟨(hok _ g).2.2, hinstall⟩))⟩

/-- The call installs entry 0, which gets the slot at once. -/
def first : GenerationState := installedBy 0 0 0 (loadedBy 0 0 (called 0 start))

theorem first_reachable {ok : GenerationState → GenerationLabel → Prop}
    (hok : ∀ s g w, ok s (.write w) ∧ ok s (.generate g identity) ∧ ok s (.load g) ∧
      ok s (.install g now)) : (system.restrict ok).Reachable first := by
  have hinstalls : ∃ ls, (system.restrict ok).Run start ls first :=
    installs (fun s g => (hok s g .interruptInFlightGenerationCommands).2) 0 0 open_prepared
      (.inl rfl) rfl rfl rfl rfl rfl
  obtain ⟨ls, hrun⟩ := hinstalls
  exact (start_reachable fun s w => (hok s 0 w).1).run hrun

theorem first_starting : first.Starting 0 := ⟨⟨_, List.mem_cons_self⟩, List.not_mem_nil⟩

/-- An entry in its slot may begin before its deadline. -/
theorem beginnable_active {r : ProviderTaskRegistry} {clock : ClockReadings} {n prior : ℕ}
    (hin : clock 0 = 0) (havailable : r.available = true) (hepoch : r.lifecycleEpoch = 0)
    (hlookup : r.tasks.lookup identity.requestId = some (active n prior)) :
    r.beginnable clock identity.requestId (prior + 1) 0 = some (active n prior) := by
  have hin : clock 0 < now 0 + RegistryLimits.totalDeadline {} := by norm_num [now, hin]
  simp [ProviderTaskRegistry.beginnable, hlookup, havailable, hepoch, active, hin]

/-- The start closure of an entry in its slot begins the attempt and throws. -/
theorem breaks {s : GenerationState} {n : ℕ} {row : CommandRow} (h : Open row)
    (hstate : row.state = .prepared ∨ row.state = .failed ∨ row.state = .interrupted)
    (hstore : s.store = holding row) (hstarting : s.Starting n)
    (hinstalled : s.installed n = some (entry row.attemptEpoch 0))
    (havailable : s.history.registry.available = true)
    (hepoch : s.history.registry.lifecycleEpoch = 0)
    (hlookup : s.history.registry.tasks.lookup identity.requestId =
      some (active n row.attemptEpoch)) :
    GenerationStep {} digest s (.start n now) (begunBy n row.begun s) :=
  GenerationStep.startBroken n (entry row.attemptEpoch 0) now (active n row.attemptEpoch)
    (holding row.begun) hstarting hinstalled (beginnable_active rfl havailable hepoch hlookup)
    (hstore ▸ begins h 0 hstate)

/-- The start closure of an entry in its slot begins the attempt and resumes its task. -/
theorem resumes {s : GenerationState} {n : ℕ} {row : CommandRow} (h : Open row)
    (hstate : row.state = .prepared ∨ row.state = .failed ∨ row.state = .interrupted)
    (hstore : s.store = holding row) (hstarting : s.Starting n)
    (hinstalled : s.installed n = some (entry row.attemptEpoch 0))
    (havailable : s.history.registry.available = true)
    (hepoch : s.history.registry.lifecycleEpoch = 0)
    (hlookup : s.history.registry.tasks.lookup identity.requestId =
      some (active n row.attemptEpoch)) :
    GenerationStep {} digest s (.start n now)
      (resumed n row.attemptEpoch (begunBy n row.begun s)) := by
  have hbeginnable := @beginnable_active _ now _ _ rfl havailable hepoch hlookup
  have hin : now 1 < (active n row.attemptEpoch).deadline := by norm_num [now, active]
  have hperform : s.history.perform {} (.beginNetwork now identity.requestId
      (row.attemptEpoch + 1) 0 fun _ => { resumes := true }) =
      (resumed n row.attemptEpoch s).history := by
    simp [RegistryHistory.perform, ProviderTaskRegistry.perform, ProviderTaskRegistry.beginNetwork,
      hbeginnable, hin, resumed]
    rfl
  have hstep : GenerationStep {} digest s _ _ :=
    .startResumes n (entry row.attemptEpoch 0) now (active n row.attemptEpoch) (holding row.begun)
      hstarting hinstalled hbeginnable (hstore ▸ begins h 0 hstate) hin
  have hsame : (entry row.attemptEpoch 0).attemptEpoch = row.attemptEpoch + 1 := rfl
  simp only [hsame] at hstep
  rw [show (entry row.attemptEpoch 0).id.requestId = identity.requestId from rfl,
    show (entry row.attemptEpoch 0).lifecycleEpoch = 0 from rfl, hperform] at hstep
  exact hstep

/-! ### The first entry is cancelled, and its closure runs late -/

def firstCanceled : GenerationState := canceledBy first

/-- A second call for the same command gets the slot. -/
def second : GenerationState := installedBy 1 1 0 (loadedBy 1 0 (called 1 firstCanceled))

def secondResumed : GenerationState := resumed 1 0 (begunBy 1 prepared.begun second)

/-- The cancellation of the first entry takes back the attempt of the second. -/
def lateCancellation : GenerationState :=
  closedBy 0 (prepared.begun.takenBack 0) secondResumed

theorem open_begun_prepared : Open prepared.begun := open_begun open_prepared

theorem secondResumed_reachable : system.Reachable secondResumed := by
  have hfirst : (system.restrict fun _ _ => True).Reachable first :=
    first_reachable fun _ _ _ => ⟨trivial, trivial, trivial, trivial⟩
  have hcanceled : GenerationStep {} digest first (.registry cancel) firstCanceled :=
    .registry cancel rfl
  have hinstalls : ∃ ls, (system.restrict fun _ _ => True).Run firstCanceled ls second :=
    installs (fun _ _ => ⟨trivial, trivial, trivial⟩) 1 1 open_prepared (.inl rfl) rfl rfl rfl rfl
      rfl
  obtain ⟨_, hrun⟩ := hinstalls
  have hsecond : (system.restrict fun _ _ => True).Reachable second :=
    (hfirst.step ⟨trivial, hcanceled⟩).run hrun
  have hstarting : second.Starting 1 :=
    ⟨⟨_, List.mem_append_right _ List.mem_cons_self⟩, List.not_mem_nil⟩
  have hresumes : GenerationStep {} digest second (.start 1 now) secondResumed :=
    resumes open_prepared (.inl rfl) rfl hstarting rfl rfl rfl rfl
  exact hsecond.of_restrict.step hresumes

theorem lateCancellation_step : system.step secondResumed (.cancellation 0 false canceled)
    lateCancellation := by
  have hcalled : .cancellation 0 false canceled ∈ secondResumed.history.effects :=
    List.mem_append_left _ (List.mem_append_left _ (List.mem_append_right _ List.mem_cons_self))
  exact GenerationStep.cancellation 0 false canceled (entry 0 0) _ hcalled List.not_mem_nil rfl
    (.inr ⟨1, takesBack open_begun_prepared rfl rfl 0⟩)

end Retried

/-- The task of an attempt that has failed as not started was resumed, and the cancellation
that failed it belongs to another entry. -/
theorem not_started_of_resumed :
    ∃ s n failure t id row row' m,
      (generationSystem {} Retried.digest).Reachable s ∧
      (generationSystem {} Retried.digest).step s (.cancellation n false failure) t ∧
      s.store.commands.lookup id = some row ∧ row.state = .inFlight ∧ s.begun id ≠ some n ∧
      t.store.commands.lookup id = some row' ∧ row'.state = .failed ∧
      row'.failureCode = some "not_started" ∧ t.begun id = some m ∧
      .resumeTask m ∈ t.history.effects :=
  ⟨Retried.secondResumed, 0, Retried.canceled, Retried.lateCancellation,
    Retried.identity.commandId, Retried.prepared.begun, Retried.prepared.begun.takenBack 0, 1,
    Retried.secondResumed_reachable, Retried.lateCancellation_step, rfl, rfl,
    fun h => absurd (Option.some.inj h) (by decide), rfl, rfl, rfl, rfl,
    List.mem_append_right _ List.mem_cons_self⟩

namespace Retried

/-! ### The first entry never gets its task -/

def firstBegun : GenerationState := begunBy 0 prepared.begun first

/-- The start closure has thrown, and takes its entry out. -/
def firstRemoved : GenerationState :=
  { firstBegun with
    history := firstBegun.history.perform {} (.failBeforeStart now identity.requestId canceled) }

/-- The cancellation of the entry takes back its own attempt. -/
def firstTakenBack : GenerationState := closedBy 0 (prepared.begun.takenBack 0) firstRemoved

theorem firstTakenBack_reachable :
    (system.restrict OwnCancellation).Reachable firstTakenBack := by
  have hfirst : (system.restrict OwnCancellation).Reachable first :=
    first_reachable fun _ _ _ => ⟨fun _ _ h => (nomatch h), fun _ _ h => (nomatch h),
      fun _ _ h => (nomatch h), fun _ _ h => (nomatch h)⟩
  have hbreaks : GenerationStep {} digest first (.start 0 now) firstBegun :=
    breaks open_prepared (.inl rfl) rfl first_starting rfl rfl rfl rfl
  have hremoves : GenerationStep {} digest firstBegun
      (.registry (.failBeforeStart now identity.requestId canceled)) firstRemoved :=
    .registry _ rfl
  have hcancels : GenerationStep {} digest firstRemoved (.cancellation 0 false canceled)
      firstTakenBack :=
    GenerationStep.cancellation 0 false canceled (entry 0 0) _
      (List.mem_append_right _ List.mem_cons_self) List.not_mem_nil rfl
      (.inr ⟨1, takesBack open_begun_prepared rfl rfl 0⟩)
  have hfirstOk : OwnCancellation first (.start 0 now) := fun _ _ h => (nomatch h)
  have hbegunOk : OwnCancellation firstBegun
      (.registry (.failBeforeStart now identity.requestId canceled)) := fun _ _ h => (nomatch h)
  refine ((hfirst.step ⟨hfirstOk, hbreaks⟩).step ⟨hbegunOk, hremoves⟩).step
    ⟨fun n failure h => ?_, hcancels⟩
  obtain ⟨rfl, -⟩ := GenerationLabel.cancellation.inj h
  intro i row hi _ _ _
  obtain rfl := Option.some.inj hi
  rfl

end Retried

theorem not_started_truthful_taken_back :
    .resumeTask 0 ∉ Retried.firstTakenBack.history.effects :=
  (not_started_truthful Retried.firstTakenBack_reachable).1 Retried.identity.commandId
    (Retried.prepared.begun.takenBack 0) 0 rfl rfl rfl rfl

end GreenRoom.Iphone
