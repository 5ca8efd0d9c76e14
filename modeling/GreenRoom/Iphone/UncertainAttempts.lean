import GreenRoom.Iphone.FailedCalls

/-!
# Uncertain attempts

An attempt whose task was resumed and that ended interrupted may have reached the provider.
A later attempt that never starts is taken back, and the command has failed then with the
number of the uncertain attempt, not interrupted.  It is never prepared again, and never goes
below that number.

## Main definitions

* `Uncertain` — an attempt whose task was resumed ended interrupted.
* `Remembered` — what the row still says of it.

## Main results

* `uncertain_attempt_remembered`
-/

namespace GreenRoom.Iphone

open ProviderTaskRegistry

variable {limits : RegistryLimits} {planDigest : Json ℚ → String} {s t : GenerationState}
  {l : GenerationLabel}

/-- Attempt `k` of command `id`, the task of which was resumed with entry `n`, has ended
interrupted. -/
structure Uncertain (s : GenerationState) (id : String) (n k : ℕ) : Prop where
  resumed : .resumeTask n ∈ s.history.effects
  begun : s.begun id = some n
  row : ∃ row, s.store.commands.lookup id = some row ∧ row.state = .interrupted ∧
    row.attemptEpoch = k

/-- A row that is not settled stands at attempt `k`, or at a later one that is in flight, and
has only failed if that one was begun with another entry than `n`. -/
structure Remembered (begun : Option ℕ) (n k : ℕ) (row : CommandRow) : Prop where
  attempt : k ≤ row.attemptEpoch
  prepared : row.state ≠ .prepared
  inFlight : row.state = .inFlight → k < row.attemptEpoch ∧ ∃ m, begun = some m ∧ m ≠ n
  failed : row.state = .failed → ∃ m, begun = some m ∧ m ≠ n

/-! ## The CHECK constraints -/

/-- The rows of the commands meet their constraints. -/
def RowsChecked (db : Store) : Prop :=
  ∀ id row, db.commands.lookup id = some row → row.stateChecked

theorem rowsChecked_inductive : storeSystem.Inductive RowsChecked where
  init db h := by
    intro id row hrow
    rw [h.1, AList.lookup_empty] at hrow
    cases hrow
  step db w db' h hstep := by
    obtain ⟨hpermitted, n, hexec⟩ := hstep
    intro id row' hrow'
    cases hcommands : w.onCommands with
    | false =>
        rw [(Write.elsewhere hpermitted hcommands hexec).1] at hrow'
        exact h id row' hrow'
    | true =>
        cases hrow : db.commands.lookup id with
        | some row =>
            obtain ⟨new, hnew, rfl | ⟨hallowed, -⟩⟩ := Write.row_cases hcommands hexec hrow
            · rw [hrow', Option.some_inj] at hnew
              exact hnew ▸ h id new hrow
            · rw [hrow', Option.some_inj] at hnew
              exact hnew ▸ hallowed.checked.2.2
        | none =>
            cases Write.effect hcommands hexec with
            | unchanged eq =>
                rw [eq, hrow] at hrow'
                cases hrow'
            | prepared commandId new _ _ _ checked eq =>
                rw [eq] at hrow'
                simp only [KeyedTable.lookup_insert] at hrow'
                split at hrow'
                · exact Option.some.inj hrow' ▸ checked.2.2
                · rw [hrow] at hrow'
                  cases hrow'
            | updated commandId old new found eq =>
                rw [updateCommand_commands eq, KeyedTable.lookup_insert] at hrow'
                split at hrow'
                · exact Option.some.inj hrow' ▸ (updateCommand_spec eq).1.checked.2.2
                · rw [hrow] at hrow'
                  cases hrow'
            | swept set commands _ _ _ =>
                rw [commands, hrow] at hrow'
                cases hrow'

/-! ## One step -/

/-- A settled row stays. -/
theorem StoreEffect.settled (h : StoreEffect s l t) {id : String} {row : CommandRow}
    (hrow : s.store.commands.lookup id = some row) (hsettled : row.state.unresolved = false) :
    t.store.commands.lookup id = some row := by
  obtain ⟨ws, hrun⟩ := h.writes
  refine hrun.preserves (I := fun db => db.commands.lookup id = some row)
    (fun db w db' hdb hstep => ?_) hrow
  obtain ⟨hpermitted, n, hexec⟩ := hstep
  obtain ⟨row', hrow', hkept⟩ := Write.row_kept hpermitted hexec hdb
  rw [hrow', hkept.settled hsettled]

/-- What was called stays called. -/
theorem GenerationStep.effects_mono (h : GenerationStep limits planDigest s l t) {e : Effect}
    (he : e ∈ s.history.effects) : e ∈ t.history.effects := by
  cases h with
  | install | startResumes | startExpires | registry | taskDone => exact List.mem_append_left _ he
  | _ => exact he

/-- What is said of command `id` in a state: it is settled, or attempt `k` is remembered. -/
def Kept (id : String) (n k : ℕ) (s : GenerationState) : Prop :=
  .resumeTask n ∈ s.history.effects ∧ ∃ row, s.store.commands.lookup id = some row ∧
    (row.state.unresolved = false ∨ Remembered (s.begun id) n k row)

/-- A step remembers the attempt: an entry that begins an attempt had not been started. -/
theorem Remembered.step (hinv : GenerationInv limits s) {id : String} {row row' : CommandRow}
    {n k : ℕ} (hresumed : .resumeTask n ∈ s.history.effects)
    (h : Remembered (s.begun id) n k row) (heffect : RowEffect s l t id row row') :
    Remembered (t.begun id) n k row' := by
  cases heffect with
  | kept same begun => exact same ▸ begun ▸ h
  | settled settles begun =>
      refine ⟨settles.attempt ▸ h.attempt, settles.prepared,
        fun hflight => absurd hflight settles.inFlight, fun hfailed => ?_⟩
      rw [begun]
      exact h.failed ((settles.failed hfailed).resolve_left h.prepared)
  | takenBack m failure i label called found command inFlight attempt failed prior begun =>
      have hnumber : i.attemptEpoch = i.command.attemptEpoch + 1 := rfl
      obtain ⟨hlater, hother⟩ := h.inFlight inFlight
      refine ⟨by omega, by simp [failed], fun hflight => ?_, fun _ => begun ▸ hother⟩
      rw [failed] at hflight
      cases hflight
  | began m i entry found command live attempt fresh prior idle begun outcome =>
      have hnumber : i.attemptEpoch = i.command.attemptEpoch + 1 := rfl
      have hattempt := h.attempt
      have hother : ∃ m, t.begun id = some m ∧ m ≠ n := by
        refine ⟨_, begun, ?_⟩
        rintro rfl
        have hstarted := (hinv.entries.tracks.entry _ entry live).mpr hresumed
        rw [fresh] at hstarted
        cases hstarted
      obtain ⟨hflight, hnew⟩ | ⟨hfailed, hnew, -⟩ := outcome
      · exact ⟨by omega, by simp [hflight], fun _ => ⟨by omega, hother⟩, fun _ => hother⟩
      · refine ⟨by omega, by simp [hfailed], fun hflight => ?_, fun _ => hother⟩
        rw [hfailed] at hflight
        cases hflight

theorem Kept.step {id : String} {n k : ℕ} (hinv : GenerationInv limits s) (h : Kept id n k s)
    (hst : GenerationStep limits planDigest s l t) : Kept id n k t := by
  obtain ⟨hresumed, row, hrow, hcases⟩ := h
  refine ⟨hst.effects_mono hresumed, ?_⟩
  obtain hsettled | hremembered := hcases
  · exact ⟨row, hst.store.settled hrow hsettled, .inl hsettled⟩
  · obtain ⟨row', hrow', heffect⟩ := hst.store.row hrow
    exact ⟨row', hrow', .inr (hremembered.step hinv hresumed heffect)⟩

/-! ## Runs -/

/-- **An uncertain attempt is remembered** along every run: until the command is completed or
abandoned it is never prepared, its number never goes below the attempt's, and when nothing
is in flight it is interrupted, or has failed as not started, which only a later attempt does
that was begun with another entry. -/
theorem uncertain_attempt_remembered {id : String} {n k : ℕ} {ls : List GenerationLabel}
    (hs : (generationSystem limits planDigest).Reachable s) (h : Uncertain s id n k)
    (hrun : (generationSystem limits planDigest).Run s ls t) :
    ∃ row, t.store.commands.lookup id = some row ∧
      (row.state = .completed ∨ row.state = .abandoned ∨
        k ≤ row.attemptEpoch ∧
          (row.state = .interrupted ∨
            (row.state = .inFlight ∧ k < row.attemptEpoch) ∨
            row.state = .failed ∧ row.failureCode = some "not_started" ∧
              ∃ m, t.begun id = some m ∧ m ≠ n)) := by
  obtain ⟨hresumed, hbegun, old, hold, hinterrupted, hk⟩ := h
  have hpositive : 1 ≤ k := by
    have hchecked := rowsChecked_inductive.reachable (generation_store hs) id old hold
    simp only [CommandRow.stateChecked, hinterrupted, Bool.and_eq_true, decide_eq_true_eq]
      at hchecked
    exact hk ▸ hchecked.1.1.1.1
  have hkept : Kept id n k s := by
    refine ⟨hresumed, old, hold, .inr ⟨hk.ge, by simp [hinterrupted], fun hs => ?_, fun hs => ?_⟩⟩
      <;> rw [hinterrupted] at hs <;> cases hs
  obtain ⟨-, row, hrow, hcases⟩ := (generation_inductive limits planDigest).stable
    (fun s l t hinv hkept hst => hkept.step hinv hst) hs hrun hkept
  have hchecked := rowsChecked_inductive.reachable (generation_store (hs.run hrun)) id row hrow
  refine ⟨row, hrow, ?_⟩
  obtain hsettled | hremembered := hcases
  · cases hstate : row.state <;> simp [hstate, CommandState.unresolved] at hsettled ⊢
  · have hattempt := hremembered.attempt
    cases hstate : row.state with
    | prepared => exact absurd hstate hremembered.prepared
    | inFlight => exact .inr (.inr ⟨hattempt, .inr (.inl ⟨rfl, (hremembered.inFlight hstate).1⟩)⟩)
    | failed =>
        simp only [CommandRow.stateChecked, hstate, Bool.and_eq_true, Bool.or_eq_true,
          decide_eq_true_eq] at hchecked
        have hcode := hchecked.2.resolve_left (by omega)
        exact .inr (.inr ⟨hattempt, .inr (.inr ⟨rfl, hcode, hremembered.failed hstate⟩)⟩)
    | interrupted => exact .inr (.inr ⟨hattempt, .inl rfl⟩)
    | completed => exact .inl rfl
    | abandoned => exact .inr (.inl rfl)

namespace Retried

/-! ### The attempt is cancelled, and its retry never gets a task -/

def runningCanceled : GenerationState := canceledBy running

/-- The row of the attempt that was cancelled. -/
def uncertain : CommandRow := interrupted prepared.begun "canceled"

def runningInterrupted : GenerationState := closedBy 0 uncertain runningCanceled

theorem open_uncertain : Open uncertain := open_interrupted open_begun_prepared "canceled"

theorem runningInterrupted_reachable : system.Reachable runningInterrupted := by
  have hrunning : (system.restrict fun _ _ => True).Reachable running :=
    running_reachable (fun _ _ _ => ⟨trivial, trivial, trivial, trivial⟩) fun _ _ => trivial
  have hcancel : GenerationStep {} digest running (.registry cancel) runningCanceled :=
    .registry cancel rfl
  have hclosed : GenerationStep {} digest runningCanceled (.cancellation 0 true canceled)
      runningInterrupted :=
    GenerationStep.cancellation 0 true canceled (entry 0 0) _
      (List.mem_append_right _ (List.mem_cons_of_mem _ List.mem_cons_self)) List.not_mem_nil rfl
      (.inr ⟨1, cancels open_begun_prepared rfl rfl rfl 0 canceled⟩)
  exact (hrunning.of_restrict.step hcancel).step hclosed

theorem runningInterrupted_uncertain : Uncertain runningInterrupted identity.commandId 0 1 where
  resumed := List.mem_append_left _ (List.mem_append_right _ List.mem_cons_self)
  begun := rfl
  row := ⟨uncertain, rfl, rfl, rfl⟩

/-- The retry installs entry 1. -/
def retry : GenerationState := installedBy 1 1 1 (loadedBy 1 1 (called 1 runningInterrupted))

/-- The deadline passes while the start closure runs. -/
def late : ClockReadings := fun n => if n = 0 then 0 else RegistryLimits.totalDeadline {}

/-- Its start closure begins attempt 2, whose task is not resumed in time: the command has
failed, with the number of the attempt that was cancelled. -/
def retryTakenBack : GenerationState :=
  { retry with
    store := holding (uncertain.begun.takenBack 1)
    history := retry.history.perform {}
      (.beginNetwork late identity.requestId 2 0 fun _ => { resumes := true })
    startsRun := 1 :: retry.startsRun
    begun := Function.update retry.begun identity.commandId (some 1) }

theorem retryTakenBack_run : ∃ ls, system.Run runningInterrupted ls retryTakenBack := by
  have hinstalls : ∃ ls, (system.restrict fun _ _ => True).Run runningInterrupted ls retry :=
    installs (fun _ _ => ⟨trivial, trivial, trivial⟩) 1 1 open_uncertain (.inr (.inr rfl)) rfl rfl
      rfl rfl rfl
  have hstarting : retry.Starting 1 := ⟨⟨_, List.mem_append_right _ List.mem_cons_self⟩, by
    simp [retry, installedBy, loadedBy, called, runningInterrupted, closedBy, runningCanceled,
      canceledBy, running, resumed, begunBy, first, start]⟩
  have hlate : ¬ late 1 < (active 1 1).deadline := by norm_num [late, active, now]
  have hexpires : GenerationStep {} digest retry (.start 1 late) retryTakenBack :=
    .startExpires 1 (entry 1 0) late (active 1 1) (holding uncertain.begun) _ 1 hstarting rfl
      (beginnable_active rfl rfl rfl rfl) (begins open_uncertain 0 (.inr (.inr rfl))) hlate
      (takesBack (open_begun open_uncertain) rfl rfl 0)
  obtain ⟨_, hrun⟩ := hinstalls
  exact ⟨_, hrun.of_restrict.append (.single hexpires)⟩

end Retried

/-- A retry whose deadline passes before its task is resumed leaves the command failed, though the
task of the attempt before it was resumed and that attempt ended interrupted. -/
theorem uncertain_attempt_fails :
    ∃ s t ls id n k row,
      (generationSystem {} Retried.digest).Reachable s ∧ Uncertain s id n k ∧
      (generationSystem {} Retried.digest).Run s ls t ∧
      t.store.commands.lookup id = some row ∧ row.state = .failed ∧ row.attemptEpoch = k := by
  obtain ⟨ls, hrun⟩ := Retried.retryTakenBack_run
  exact ⟨_, _, ls, Retried.identity.commandId, 0, 1, Retried.uncertain.begun.takenBack 1,
    Retried.runningInterrupted_reachable, Retried.runningInterrupted_uncertain, hrun, rfl, rfl,
    rfl⟩

theorem uncertain_attempt_remembered_retry :
    ∃ m, Retried.retryTakenBack.begun Retried.identity.commandId = some m ∧ m ≠ 0 := by
  obtain ⟨ls, hrun⟩ := Retried.retryTakenBack_run
  obtain ⟨row, hrow, hcases⟩ := uncertain_attempt_remembered Retried.runningInterrupted_reachable
    Retried.runningInterrupted_uncertain hrun
  obtain rfl : Retried.uncertain.begun.takenBack 1 = row := Option.some.inj hrow
  obtain hs | hs | ⟨-, hs | ⟨hs, -⟩ | ⟨-, -, hother⟩⟩ := hcases
  · cases hs
  · cases hs
  · cases hs
  · cases hs
  · exact hother

end GreenRoom.Iphone
