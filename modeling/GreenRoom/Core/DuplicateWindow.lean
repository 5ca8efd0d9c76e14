import GreenRoom.Core.DirectorRestore
import Mathlib.Data.List.DropRight

/-!
# The duplicate window

A director answers `DUPLICATE` for the events whose identities it recorded last, as many as
the window holds, and for no others.

## Main definitions

* `Director.recorded` — the identities a sequence of calls records.

## Main results

* `run_seenOrder` — the window is the end of all that was ever recorded.
* `duplicate_window`
-/

namespace GreenRoom.Core

open JsString

namespace Director

variable {d d' : Director}

/-- The identity a call records: the one of a verified event that is not refused, nor in the
window. -/
def recordedBy (d : Director) : DirectorCall → Option EventIdentity
  | .schedule (some event) directedPersonaId =>
    match d.requireDirectable directedPersonaId with
    | .error _ => none
    | .ok () => if d.cancelled || d.hasSeen event.identity then none else some event.identity
  | _ => none

/-- The identities a sequence of calls records. -/
def recorded (d : Director) : List DirectorCall → List EventIdentity
  | [] => []
  | call :: calls => (d.recordedBy call).toList ++ (d.perform call).2.recorded calls

/-- The end of a list is the end of what is appended to its end. -/
theorem rtake_rtake_append {α : Type} (n : ℕ) (xs ys : List α) :
    (xs.rtake n ++ ys).rtake n = (xs ++ ys).rtake n := by
  simp only [List.rtake_eq_reverse_take_reverse, List.reverse_append, List.reverse_reverse,
    List.take_append, List.take_take]
  congr 3
  omega

/-- The window after one more identity. -/
theorem seenOrder_recordSeen (h : Window d) (x : EventIdentity) :
    (d.recordSeen x).seenOrder = (d.seenOrder ++ [x]).rtake maxTrackedEventIdentities := by
  have hle := h.length_le
  rcases recordSeen_eq x d with ⟨hlt, heq⟩ | ⟨oldest, rest, hge, horder, heq⟩
  · rw [heq, List.rtake, List.length_append, List.length_singleton, Nat.sub_eq_zero_of_le hlt,
      List.drop_zero]
  · rw [horder, List.length_cons] at hge hle
    have hone : (oldest :: rest ++ [x]).length - maxTrackedEventIdentities = 1 := by
      simp only [List.length_append, List.length_cons, List.length_nil]
      omega
    rw [heq, horder, List.rtake, hone]
    rfl

/-- An accepted event is no duplicate. -/
theorem scheduleAccepted_reason {wantsResponse : Bool} {directedPersonaId : Option PersonaId} :
    (d.scheduleAccepted wantsResponse directedPersonaId).1.reason ≠ .duplicate := by
  unfold scheduleAccepted
  split
  · simp
  · split
    · simp
    · split
      · simp
      · split
        · simp
        · dsimp only
          split <;> simp

/-- An event that is not in the window is no duplicate. -/
theorem schedule_fresh {event : VerifiedDirectorEvent} {directedPersonaId : Option PersonaId}
    (hcancelled : d.cancelled = false)
    (hdirectable : d.requireDirectable directedPersonaId = .ok ())
    (hseen : ¬ d.hasSeen event.identity) :
    ∃ decision d', d.schedule (some event) directedPersonaId = .ok (decision, d') ∧
      decision.reason ≠ .duplicate := by
  simp only [schedule, hdirectable, hcancelled, hseen, Bool.false_eq_true, if_false]
  by_cases hhuman : event.isHuman
  · exact ⟨_, _, by rw [hhuman]; rfl, scheduleAccepted_reason⟩
  · rw [Bool.not_eq_true] at hhuman
    exact ⟨_, _, by rw [hhuman], DirectorReason.noConfusion⟩

/-- An answer that is not `DUPLICATE` is the only one that changes anything. -/
theorem schedule_changes {event : Option VerifiedDirectorEvent}
    {directedPersonaId : Option PersonaId} {decision : DirectorDecision}
    (hs : d.schedule event directedPersonaId = .ok (decision, d')) :
    d' = d ∨ decision.reason ≠ .duplicate := by
  unfold schedule at hs
  split at hs
  · cases hs
  · rw [Except.ok.injEq] at hs
    split at hs
    · cases hs
      exact .inl rfl
    · split at hs
      · cases hs
        exact .inl rfl
      · next event =>
          split at hs
          · cases hs
            exact .inl rfl
          · dsimp only at hs
            split at hs
            · cases hs
              exact .inr DirectorReason.noConfusion
            · have hreason : ((d.recordSeen event.identity).accept.scheduleAccepted
                  event.wantsResponse directedPersonaId).1.reason ≠ .duplicate :=
                scheduleAccepted_reason
              rw [hs] at hreason
              exact .inr hreason

/-- A window that takes in nothing stays as it is. -/
theorem seenOrder_keep (h : Window d) {added : List EventIdentity} (hadded : added = []) :
    d.seenOrder = (d.seenOrder ++ added).rtake maxTrackedEventIdentities := by
  rw [hadded, List.append_nil, List.rtake, Nat.sub_eq_zero_of_le h.length_le, List.drop_zero]

/-- What `schedule` does to the window. -/
theorem schedule_seenOrder (h : Window d) {event : VerifiedDirectorEvent}
    {directedPersonaId : Option PersonaId} {decision : DirectorDecision}
    (hs : d.schedule (some event) directedPersonaId = .ok (decision, d')) :
    d'.seenOrder = (d.seenOrder ++
      (d.recordedBy (.schedule (some event) directedPersonaId)).toList).rtake
        maxTrackedEventIdentities := by
  unfold schedule at hs
  unfold recordedBy
  split at hs
  · cases hs
  · next hdirectable =>
      rw [Except.ok.injEq] at hs
      simp only [hdirectable]
      split at hs
      · next hcancelled =>
          cases hs
          exact seenOrder_keep h (by simp [hcancelled])
      · next hcancelled =>
          dsimp only at hs
          split at hs
          · next hseen =>
              cases hs
              exact seenOrder_keep h (by simp [hseen])
          · next hseen =>
              have hrecorded := seenOrder_recordSeen h event.identity
              simp only [Bool.not_eq_true] at hcancelled hseen
              simp only [hcancelled, hseen, Bool.or_self, Bool.false_eq_true, if_false,
                Option.toList_some]
              split at hs
              · cases hs
                exact hrecorded
              · obtain ⟨-, rfl⟩ | ⟨speaker, -, -, rfl⟩ := scheduleAccepted_cases hs
                · exact hrecorded
                · exact hrecorded

theorem perform_seenOrder (h : Window d) (call : DirectorCall) :
    (d.perform call).2.seenOrder =
      (d.seenOrder ++ (d.recordedBy call).toList).rtake maxTrackedEventIdentities := by
  cases call with
  | schedule event directedPersonaId =>
      simp only [perform]
      split
      · next error hs =>
          refine seenOrder_keep h ?_
          cases event with
          | none => rfl
          | some event =>
              simp only [schedule] at hs
              split at hs
              · next hdirectable => simp [recordedBy, hdirectable]
              · cases hs
      · next decision d' hs =>
          cases event with
          | none =>
              obtain ⟨-, rfl⟩ | ⟨_, heq, -⟩ := schedule_cases hs
              · exact seenOrder_keep h rfl
              · cases heq
          | some event => exact schedule_seenOrder h hs
  | setMuted personaId muted =>
      simp only [perform, Director.setMuted]
      by_cases hmem : personaId ∉ d.personas
      · rw [if_pos hmem]
        exact seenOrder_keep h rfl
      · rw [if_neg hmem]
        cases muted <;> exact seenOrder_keep h rfl
  | cancel => exact seenOrder_keep h rfl

/-- **The window is the end of all that was recorded.** -/
theorem run_seenOrder (h : Window d) (calls : List DirectorCall) :
    (d.run calls).2.seenOrder =
      (d.seenOrder ++ d.recorded calls).rtake maxTrackedEventIdentities := by
  induction calls generalizing d with
  | nil => exact seenOrder_keep h rfl
  | cons call calls ih =>
      have hrest := ih (h.perform call)
      rw [perform_seenOrder h, rtake_rtake_append, List.append_assoc] at hrest
      exact hrest

/-- **The duplicate window.**  In every director that was constructed, restored or not, and
called in any way, the per-namespace sets hold the identities of the window, each once and at
most 500 of them: the last that were recorded.  Unless the director is cancelled, an event is
a duplicate if and only if its identity is one of these; and the answer changes nothing. -/
theorem duplicate_window {personas : List JsString} {options : Option ℤ}
    {snapshot : Option (Json ℤ)} {first : Director}
    (h : construct personas options snapshot = .ok first) (calls : List DirectorCall) :
    let d := (first.run calls).2
    let window := (first.seenOrder ++ first.recorded calls).rtake maxTrackedEventIdentities
    (∀ x, d.hasSeen x ↔ x ∈ d.seenOrder) ∧ d.seenOrder.Nodup ∧
      d.seenOrder.length ≤ maxTrackedEventIdentities ∧ d.seenOrder = window ∧
      (d.cancelled = false → ∀ event directedPersonaId,
        d.requireDirectable directedPersonaId = .ok () →
        ∃ decision d', d.schedule (some event) directedPersonaId = .ok (decision, d') ∧
          (decision.reason = .duplicate ↔ event.identity ∈ window)) ∧
      ∀ event directedPersonaId decision d',
        d.schedule event directedPersonaId = .ok (decision, d') →
        decision.reason = .duplicate → d' = d := by
  intro d window
  have hkept : Window d := (sound_of_construct h).toWindow.run calls
  have hwindow : d.seenOrder = window := run_seenOrder (sound_of_construct h).toWindow calls
  refine ⟨hkept.hasSeen_iff, hkept.nodup, hkept.length_le, hwindow,
    fun hcancelled event directedPersonaId hdirectable => ?_,
    fun event directedPersonaId decision d' hs hreason => ?_⟩
  · rw [← hwindow, ← hkept.hasSeen_iff]
    by_cases hseen : d.hasSeen event.identity
    · refine ⟨⟨none, .duplicate⟩, d, ?_, iff_of_true rfl hseen⟩
      simp [schedule, hdirectable, hcancelled, hseen]
    · obtain ⟨decision, d', hs, hreason⟩ := schedule_fresh hcancelled hdirectable hseen
      exact ⟨decision, d', hs, iff_of_false hreason hseen⟩
  · rcases schedule_changes hs with rfl | hne
    · rfl
    · exact absurd hreason hne

/-- A greeting that has come twice is a duplicate when it comes again, and nothing else is. -/
theorem duplicate_window_greeting :
    let d := (Director.run
      { personas := [ofString "ada", ofString "bob"], maxAutonomousTurns := 10 }
      [.schedule (some greeting) none, .schedule (some greeting) none]).2
    d.seenOrder = [greeting.identity] ∧
      (∃ decision, d.schedule (some greeting) none = .ok (decision, d) ∧
        decision.reason = .duplicate) ∧
      ∀ event, event.identity ≠ greeting.identity →
        ∃ decision d', d.schedule (some event) none = .ok (decision, d') ∧
          decision.reason ≠ .duplicate := by
  have hfresh : construct [ofString "ada", ofString "bob"] none none =
      .ok { personas := [ofString "ada", ofString "bob"], maxAutonomousTurns := 10 } := by rfl
  obtain ⟨-, -, -, hwindow, hduplicate, hkept⟩ := duplicate_window hfresh
    [.schedule (some greeting) none, .schedule (some greeting) none]
  refine ⟨hwindow, ?_, fun event hevent => ?_⟩
  · obtain ⟨decision, d', hs, hiff⟩ := hduplicate rfl greeting none rfl
    have hreason := hiff.mpr List.mem_cons_self
    obtain rfl := hkept _ _ _ _ hs hreason
    exact ⟨decision, hs, hreason⟩
  · obtain ⟨decision, d', hs, hiff⟩ := hduplicate rfl event none rfl
    refine ⟨decision, d', hs, fun hreason => hevent ?_⟩
    exact List.mem_singleton.mp (hiff.mp hreason)

end Director
end GreenRoom.Core
