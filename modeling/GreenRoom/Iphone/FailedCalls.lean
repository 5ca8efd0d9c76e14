import GreenRoom.Iphone.LiveAttempt

/-!
# Calls that fail beside a running attempt

The page may call `generate` again for a command whose attempt is running.  The native
side refuses the call, and the page reconciles the failure with whatever the row says by
then.

## Main definitions

* `GenerationLabel.owner` — the entry whose failure a step acts on.
* `Undisturbed` — what ends an attempt meets no attempt of another entry.

## Main results

* `live_attempt_undamaged`
-/

namespace GreenRoom.Iphone

open ProviderTaskRegistry

variable {limits : RegistryLimits} {planDigest : Json ℚ → String} {s t : GenerationState}
  {l : GenerationLabel}

/-- The entry whose failure a step acts on. -/
def GenerationLabel.owner (s : GenerationState) : GenerationLabel → Option ℕ
  | .cancellation n _ _ => some n
  | .taskFailed task _ => some task.entry
  | .reconcileWrite g _ => (s.calls g).bind fun call => call.stage.installation?
  | _ => none

/-- The reconciliation of a call that read an attempt in flight meets, at that number, no
attempt that the entry of another call began. -/
def OwnReading (s : GenerationState) (l : GenerationLabel) : Prop :=
  ∀ g code reading row, l = .reconcileWrite g code → s.readings g = some reading →
    reading.state = .inFlight → s.store.commands.lookup reading.id.commandId = some row →
    row.state = .inFlight → row.attemptEpoch = reading.attemptEpoch →
    l.owner s = s.begun reading.id.commandId

/-- What ends an attempt meets its own. -/
def Undisturbed (s : GenerationState) (l : GenerationLabel) : Prop :=
  OwnCancellation s l ∧ OwnReading s l

/-- **A failure ends no attempt but its own** in every run whose cancellations and
reconciliations meet, at their number, no attempt that another entry began.  But for the
recovery, which is made whenever the database is opened, a step leaves a command in flight
alone, completes it, or acts on the failure of the entry that began its attempt; the
reconciliation of a call that was refused leaves it alone. -/
theorem live_attempt_undamaged
    (hs : ((generationSystem limits planDigest).restrict Undisturbed).Reachable s)
    (hst : ((generationSystem limits planDigest).restrict Undisturbed).step s l t)
    (hl : l ≠ .recover) {id : String} {row : CommandRow}
    (hrow : s.store.commands.lookup id = some row) (hflight : row.state = .inFlight) :
    (t.store.commands.lookup id = some row ∨
      (∃ w row', l = .write w ∧ t.store.commands.lookup id = some row' ∧
        row'.state = .completed) ∨
      ∃ n, l.owner s = some n ∧ s.begun id = some n) ∧
    ∀ g code, l = .reconcileWrite g code →
      (∀ call, s.calls g = some call → call.stage.installation? = none) →
      t.store.commands.lookup id = some row := by
  obtain ⟨hinv, hlive⟩ := (live_inductive fun _ _ h => h.1).reachable hs
  obtain ⟨⟨hown, hreading⟩, hst⟩ := hst
  have hcases : t.store.commands.lookup id = some row ∨
      (∃ w row', l = .write w ∧ t.store.commands.lookup id = some row' ∧
        row'.state = .completed) ∨
      ∃ n, l.owner s = some n ∧ s.begun id = some n := by
    cases hst with
    | generate | load | refuseLoad | refusePlan | install | startRefused | registry | taskDone
    | reconcileRead => exact .inl hrow
    | failInitial g call loaded db' found stage write =>
        obtain hsame | ⟨row', -, hwrite⟩ := write.row_or rfl hrow
        · exact .inl hsame
        · obtain ⟨_, _, heq, -⟩ | ⟨_, _, heq, -⟩ | heq | ⟨_, heq⟩ | ⟨_, _, heq, -⟩ :=
            hwrite.of_inFlight hflight <;> cases heq
    | startBroken n i now entry db' starting found beginnable begins
    | startResumes n i now entry db' starting found beginnable begins =>
        obtain ⟨old, hbegins⟩ := beginAttempt_spec begins
        refine .inl ((hbegins.others id ?_).trans hrow)
        rintro rfl
        rw [hbegins.found, Option.some_inj] at hrow
        subst hrow
        obtain hs | hs | hs := hbegins.state <;> rw [hs] at hflight <;> cases hflight
    | startExpires n i now entry db' db'' count starting found beginnable begins late takenBack =>
        obtain ⟨old, hbegins⟩ := beginAttempt_spec begins
        refine .inl (((hbegins.takenBack takenBack).2 id ?_).trans hrow)
        rintro rfl
        rw [hbegins.found, Option.some_inj] at hrow
        subst hrow
        obtain hs | hs | hs := hbegins.state <;> rw [hs] at hflight <;> cases hflight
    | cancellation n started failure i db' called once found write =>
        have hcancel : GenerationStep limits planDigest s _ _ :=
          .cancellation n started failure i db' called once found write
        exact (hcancel.cancellation_own hinv hlive hown hrow hflight).imp_right
          fun hbegun => .inr ⟨n, rfl, hbegun⟩
    | taskFailed task failure i db' pending found write =>
        obtain hsame | ⟨row', -, hwrite⟩ := write.row_or rfl hrow
        · exact .inl hsame
        · obtain ⟨code, ident, heq, hnames⟩ | ⟨_, _, heq, -⟩ | heq | ⟨_, heq⟩ | ⟨_, _, heq, -⟩ :=
            hwrite.of_inFlight hflight
          · obtain ⟨-, rfl, hattempt⟩ := Statement.interruptGenerationCommand.inj
              (Write.statement.inj heq)
            obtain ⟨i', j, hi', hj, hrequest, hnumber, hresumed⟩ :=
              hinv.entries.task task (.inr pending)
            rw [found, Option.some_inj] at hi'
            subst hi'
            exact .inr (.inr ⟨task.entry, rfl, hlive.own hinv hresumed hj
              (hinv.commands.named _ i found) hrequest hnumber hrow hflight
              (CommandIdentity.requestId_of_names hnames) hattempt.symm⟩)
          all_goals cases heq
    | reconcileWrite g code reading w db' found next write =>
        obtain ⟨ident, state, attempt⟩ := reading
        cases state with
        | inFlight =>
            obtain rfl := Option.some.inj next
            obtain hsame | ⟨row', -, hwrite⟩ := write.row_or rfl hrow
            · exact .inl hsame
            · obtain ⟨_, _, heq, hnames⟩ | ⟨_, _, heq, -⟩ | heq | ⟨_, heq⟩ | ⟨_, _, heq, -⟩ :=
                hwrite.of_inFlight hflight
              · obtain ⟨-, rfl, rfl⟩ := Statement.interruptGenerationCommand.inj
                  (Write.statement.inj heq)
                obtain rfl := CommandIdentity.eq_of_names hnames
                have howner := hreading g code _ row rfl found rfl hrow hflight rfl
                obtain ⟨n, i, hbegun, -⟩ := hinv.commands.inFlight _ row hrow hflight
                exact .inr (.inr ⟨n, howner.trans hbegun, hbegun⟩)
              all_goals cases heq
        | prepared =>
            obtain rfl := Option.some.inj next
            obtain hsame | ⟨row', -, hwrite⟩ := write.row_or rfl hrow
            · exact .inl hsame
            · obtain ⟨_, _, heq, -⟩ | ⟨_, _, heq, -⟩ | heq | ⟨_, heq⟩ | ⟨_, _, heq, -⟩ :=
                hwrite.of_inFlight hflight <;> cases heq
        | _ => cases next
    | write w db' count permitted room exec =>
        obtain hsame | ⟨row', hrow', hwrite⟩ := Write.row_or permitted exec hrow
        · exact .inl hsame
        · obtain ⟨_, _, rfl, -⟩ | ⟨_, _, rfl, hcompleted⟩ | rfl | ⟨_, rfl⟩ | ⟨_, _, rfl, -⟩ :=
            hwrite.of_inFlight hflight
          · cases room
          · exact .inr (.inl ⟨_, row', rfl, hrow', hcompleted⟩)
          all_goals cases room
    | recover => exact absurd rfl hl
  refine ⟨hcases, fun g code hlabel hrefused => ?_⟩
  subst hlabel
  obtain hsame | ⟨w, row', heq, -⟩ | ⟨n, howner, -⟩ := hcases
  · exact hsame
  · cases heq
  · obtain ⟨call, hcall, hstage⟩ := Option.bind_eq_some_iff.mp howner
    rw [hrefused call hcall] at hstage
    cases hstage

namespace Retried

/-! ### The attempt runs, and a second call is refused -/

def running : GenerationState := resumed 0 0 (begunBy 0 prepared.begun first)

theorem running_reachable {ok : GenerationState → GenerationLabel → Prop}
    (hok : ∀ s g w, ok s (.write w) ∧ ok s (.generate g identity) ∧ ok s (.load g) ∧
      ok s (.install g now)) (hstart : ∀ s n, ok s (.start n now)) :
    (system.restrict ok).Reachable running :=
  (first_reachable hok).step ⟨hstart _ 0,
    resumes open_prepared (.inl rfl) rfl first_starting rfl rfl rfl rfl⟩

/-- The page has read the row for the failure of call `g`. -/
def readBy (g : ℕ) (row : CommandRow) (s : GenerationState) : GenerationState :=
  { s with
    readings := Function.update s.readings g
      (some { id := identity, state := row.state, attemptEpoch := row.attemptEpoch }) }

/-- The page has written for the failure of call `g`. -/
def reconciledBy (g : ℕ) (row : CommandRow) (s : GenerationState) : GenerationState :=
  { s with
    store := holding row
    readings := Function.update s.readings g none }

theorem reads {s : GenerationState} {g : ℕ} {row : CommandRow} (h : Open row)
    (hstore : s.store = holding row) (hunresolved : row.state.unresolved)
    (hown : ∀ call, s.calls g = some call → call.id = identity) :
    GenerationStep {} digest s (.reconcileRead g identity command.roomId) (readBy g row s) := by
  refine GenerationStep.reconcileRead g identity command.roomId identity.commandId row hown ?_
    (named h)
  have hroom : row.roomId = command.roomId := by rw [h.command]
  rw [hstore]
  simp [readUnresolvedGenerationCommand, holding, hroom, hunresolved]

theorem reconciles {s : GenerationState} {g : ℕ} {row : CommandRow} (h : Open row)
    (hstore : s.store = holding row) (hstate : row.state = .inFlight)
    (hattempt : 1 ≤ row.attemptEpoch) (hstarted : row.started)
    (hreading : s.readings g =
      some { id := identity, state := .inFlight, attemptEpoch := row.attemptEpoch }) :
    GenerationStep {} digest s (.reconcileWrite g "canceled")
      (reconciledBy g (interrupted row "canceled") s) :=
  GenerationStep.reconcileWrite g "canceled" _ _ _ hreading rfl
    (.inr ⟨1, hstore ▸ interrupts h hstate hattempt hstarted "canceled"⟩)

/-- The second call is refused: the command is in flight. -/
def secondRefused : GenerationState :=
  { called 1 running with
    calls := Function.update (called 1 running).calls 1 (some (call (.refused none))) }

def secondRead : GenerationState := readBy 1 prepared.begun secondRefused

/-- The failure of the second call interrupts the attempt of the first. -/
def secondReconciled : GenerationState :=
  reconciledBy 1 (interrupted prepared.begun "canceled") secondRead

theorem secondRead_reachable : system.Reachable secondRead := by
  have hrunning : (system.restrict fun _ _ => True).Reachable running :=
    running_reachable (fun _ _ _ => ⟨trivial, trivial, trivial, trivial⟩) fun _ _ => trivial
  have hcall : GenerationStep {} digest running (.generate 1 identity) (called 1 running) :=
    GenerationStep.generate 1 identity rfl
  have hrefuse : GenerationStep {} digest (called 1 running) (.refuse 1) secondRefused :=
    GenerationStep.refuseLoad 1 (call .called) rfl rfl
  have hread : GenerationStep {} digest secondRefused
      (.reconcileRead 1 identity command.roomId) secondRead :=
    reads open_begun_prepared rfl rfl fun call hcall => by
      obtain rfl := Option.some.inj hcall
      rfl
  exact ((hrunning.of_restrict.step hcall).step hrefuse).step hread

theorem secondReconciled_step : system.step secondRead (.reconcileWrite 1 "canceled")
    secondReconciled :=
  reconciles open_begun_prepared rfl rfl le_rfl rfl rfl

/-! ### The failure of the call itself -/

theorem begun_found :
    (holding prepared.begun).commands.lookup identity.commandId = some prepared.begun := rfl

def firstRead : GenerationState := readBy 0 prepared.begun running

def firstReconciled : GenerationState :=
  reconciledBy 0 (interrupted prepared.begun "canceled") firstRead

theorem firstRead_reachable : (system.restrict Undisturbed).Reachable firstRead := by
  have hquiet : ∀ {s : GenerationState} {l : GenerationLabel},
      (∀ n started failure, l ≠ .cancellation n started failure) →
      (∀ g code, l ≠ .reconcileWrite g code) → Undisturbed s l := fun hc hr =>
    ⟨fun n failure h => absurd h (hc n false failure), fun g code _ _ h => absurd h (hr g code)⟩
  have hrunning : (system.restrict Undisturbed).Reachable running :=
    running_reachable (fun _ _ _ => ⟨hquiet (by simp) (by simp), hquiet (by simp) (by simp),
      hquiet (by simp) (by simp), hquiet (by simp) (by simp)⟩)
      fun _ _ => hquiet (by simp) (by simp)
  refine hrunning.step (l := .reconcileRead 0 identity command.roomId)
    ⟨hquiet (by simp) (by simp), reads open_begun_prepared rfl rfl fun call hcall => ?_⟩
  obtain rfl := Option.some.inj hcall
  rfl

theorem firstReconciled_step : (system.restrict Undisturbed).step firstRead
    (.reconcileWrite 0 "canceled") firstReconciled := by
  refine ⟨⟨fun _ _ h => (nomatch h), fun g code reading row h hreading _ _ _ _ => ?_⟩,
    reconciles open_begun_prepared rfl rfl le_rfl rfl rfl⟩
  obtain ⟨rfl, -⟩ := GenerationLabel.reconcileWrite.inj h
  obtain rfl := Option.some.inj hreading
  rfl

end Retried

/-- The failure of a call that was refused interrupts the attempt of another call. -/
theorem refused_retry_interrupts :
    ∃ s t g call id row row',
      (generationSystem {} Retried.digest).Reachable s ∧
      (generationSystem {} Retried.digest).step s (.reconcileWrite g "canceled") t ∧
      s.calls g = some call ∧ call.stage.installation? = none ∧
      s.store.commands.lookup id = some row ∧ row.state = .inFlight ∧
      t.store.commands.lookup id = some row' ∧ row'.state = .interrupted :=
  ⟨Retried.secondRead, Retried.secondReconciled, 1, Retried.call (.refused none),
    Retried.identity.commandId, Retried.prepared.begun,
    Retried.interrupted Retried.prepared.begun "canceled", Retried.secondRead_reachable,
    Retried.secondReconciled_step, rfl, rfl, rfl, rfl, rfl, rfl⟩

theorem live_attempt_undamaged_own_failure :
    ∃ n, GenerationLabel.owner Retried.firstRead (.reconcileWrite 0 "canceled") = some n ∧
      Retried.firstRead.begun Retried.identity.commandId = some n := by
  obtain hsame | ⟨_, _, heq, -⟩ | h := (live_attempt_undamaged Retried.firstRead_reachable
    Retried.firstReconciled_step (by simp) Retried.begun_found rfl).1
  · have hsame : some (Retried.interrupted Retried.prepared.begun "canceled") =
        some Retried.prepared.begun := hsame
    cases Option.some.inj hsame
  · cases heq
  · exact h

end GreenRoom.Iphone
