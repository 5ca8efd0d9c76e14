import GreenRoom.Core.Director

/-!
# Invariant of the director

What holds of every director that was constructed, restored or not, and then
called in any way: the duplicate window and the per-namespace sets hold the same
identities.  As long as the accepted events can be counted, the selections belong
to accepted events, and the rotation index follows the latest selection.  These are
the conditions a snapshot is checked for.

## Main definitions

* `Window` — the duplicate window.
* `Sound` — the whole invariant.
* `Counts`, `RunCounts` — the events of the calls can be counted.

## Main results

* `schedule_cases` — all that `schedule` can do.
* `Window.run` — calls keep the window.
* `Sound.perform`, `Sound.run` — calls whose events can be counted keep the invariant.
-/

namespace GreenRoom.Core

open JsString

theorem requireCanonicalIdentifier_of {value : JsString} {maxLength : Option ℕ}
    (h : IsCanonical maxLength value) (field : String) :
    requireCanonicalIdentifier (some value) field maxLength = .ok value := by
  obtain ⟨hne, htrim, hmax⟩ := h
  have hlen : value.length ≠ 0 := by simpa using hne
  cases maxLength with
  | none => simp [requireCanonicalIdentifier, hlen, htrim]
  | some m =>
      have hm := hmax m rfl
      simp [requireCanonicalIdentifier, hlen, htrim, hm]

theorem isCanonical_of_require {value result : JsString} {field : String} {maxLength : Option ℕ}
    (h : requireCanonicalIdentifier (some value) field maxLength = .ok result) :
    result = value ∧ IsCanonical maxLength value := by
  simp only [requireCanonicalIdentifier, typeError] at h
  split at h
  · cases h
  · next hshape =>
      rw [not_or, not_not] at hshape
      have hne : value ≠ [] := by simpa using hshape.1
      cases maxLength with
      | none =>
          cases h
          exact ⟨rfl, hne, hshape.2, by simp⟩
      | some m =>
          simp only at h
          split at h
          · cases h
          · next hm =>
              cases h
              exact ⟨rfl, hne, hshape.2, by simpa using hm⟩

namespace Director

variable {d d' : Director}

/-! ## The duplicate window -/

theorem holds_iff (seen : KeyedTable JsString (Finset JsString)) (x : EventIdentity) :
    holds seen x ↔ ∃ events, seen.lookup x.1 = some events ∧ x.2 ∈ events := by
  unfold holds
  cases seen.lookup x.1 <;> simp

theorem holds_set (n : JsString) (events : Finset JsString)
    (seen : KeyedTable JsString (Finset JsString)) (x : EventIdentity) :
    holds (KeyedTable.set n events seen) x ↔ if x.1 = n then x.2 ∈ events else holds seen x := by
  rw [holds_iff, KeyedTable.lookup_set]
  by_cases hn : x.1 = n
  · simp [hn]
  · simp [hn, holds_iff]

theorem holds_erase (n : JsString) (seen : KeyedTable JsString (Finset JsString))
    (x : EventIdentity) : holds (seen.erase n) x ↔ x.1 ≠ n ∧ holds seen x := by
  rw [holds_iff, KeyedTable.lookup_erase]
  by_cases hn : x.1 = n
  · simp [hn]
  · simp [hn, holds_iff]

@[simp] theorem holds_remember (x y : EventIdentity)
    (seen : KeyedTable JsString (Finset JsString)) :
    holds (remember x seen) y ↔ holds seen y ∨ y = x := by
  unfold remember
  cases hx : seen.lookup x.1 with
  | none =>
      simp only [holds_set, holds_iff seen, Prod.ext_iff]
      by_cases hn : y.1 = x.1
      · have hy : seen.lookup y.1 = none := by rw [hn, hx]
        simp [hn, hy]
      · simp [hn]
  | some events =>
      simp only [holds_set, holds_iff seen, Prod.ext_iff]
      by_cases hn : y.1 = x.1
      · have hy : seen.lookup y.1 = some events := by rw [hn, hx]
        simp [hn, hy, or_comm]
      · simp [hn]

@[simp] theorem holds_forget (x y : EventIdentity) (seen : KeyedTable JsString (Finset JsString)) :
    holds (forget x seen) y ↔ holds seen y ∧ y ≠ x := by
  unfold forget
  cases hx : seen.lookup x.1 with
  | none =>
      rw [holds_iff]
      constructor
      · rintro ⟨events, hy, hmem⟩
        refine ⟨⟨events, hy, hmem⟩, ?_⟩
        rintro rfl
        rw [hx] at hy
        cases hy
      · exact fun h => h.1
  | some events =>
      have hsame : y.1 = x.1 → (holds seen y ↔ y.2 ∈ events) := by
        intro hn
        rw [holds_iff, hn, hx]
        simp
      by_cases hempty : events.erase x.2 = ∅
      · -- the namespace goes: it held nothing else
        simp only [if_pos hempty]
        rw [holds_erase]
        have honly : ∀ i ∈ events, i = x.2 := by
          intro i hi
          by_contra hne
          have hmem := Finset.mem_erase.mpr ⟨hne, hi⟩
          rw [hempty] at hmem
          exact absurd hmem (Finset.notMem_empty i)
        constructor
        · rintro ⟨hn, hy⟩
          exact ⟨hy, fun hyx => hn (hyx ▸ rfl)⟩
        · rintro ⟨hy, hne⟩
          exact ⟨fun hn => hne (Prod.ext hn (honly _ ((hsame hn).mp hy))), hy⟩
      · simp only [if_neg hempty]
        rw [holds_set]
        by_cases hn : y.1 = x.1
        · have hyx : y = x ↔ y.2 = x.2 := by
            rw [Prod.ext_iff]
            exact ⟨fun h => h.2, fun h => ⟨hn, h⟩⟩
          rw [if_pos hn, hsame hn, Finset.mem_erase, ne_eq, ne_eq, hyx, and_comm]
        · rw [if_neg hn]
          exact ⟨fun hy => ⟨hy, fun hyx => hn (hyx ▸ rfl)⟩, fun hy => hy.1⟩

/-- The window after `recordSeen`: the new identity last, and the oldest dropped
when there would be more than the window holds. -/
theorem recordSeen_eq (x : EventIdentity) (d : Director) :
    (d.seenOrder.length < maxTrackedEventIdentities ∧
      recordSeen x d =
        { d with
          seenByNamespace := remember x d.seenByNamespace
          seenOrder := d.seenOrder ++ [x] }) ∨
    (∃ oldest rest, maxTrackedEventIdentities ≤ d.seenOrder.length ∧
      d.seenOrder = oldest :: rest ∧
      recordSeen x d =
        { d with
          seenByNamespace := forget oldest (remember x d.seenByNamespace)
          seenOrder := rest ++ [x] }) := by
  unfold recordSeen
  simp only [List.length_append, List.length_singleton]
  by_cases h : d.seenOrder.length + 1 ≤ maxTrackedEventIdentities
  · refine .inl ⟨h, ?_⟩
    rw [if_pos h]
  · refine .inr ?_
    rw [if_neg h]
    have hge : maxTrackedEventIdentities ≤ d.seenOrder.length := by omega
    cases ho : d.seenOrder with
    | nil =>
        rw [ho] at hge
        exact absurd hge (by decide)
    | cons oldest rest => exact ⟨oldest, rest, ho ▸ hge, rfl, rfl⟩

/-- The window holds canonical identities, each once and at most 500, and the
per-namespace sets hold the same ones. -/
structure Window (d : Director) : Prop where
  nodup : d.seenOrder.Nodup
  length_le : d.seenOrder.length ≤ maxTrackedEventIdentities
  canonical : ∀ x ∈ d.seenOrder, IsCanonical (some maxNamespaceLength) x.1 ∧
    IsCanonical (some maxEventIdLength) x.2
  hasSeen_iff : ∀ x, d.hasSeen x ↔ x ∈ d.seenOrder

theorem Window.recordSeen (h : Window d) {x : EventIdentity} (hx : d.hasSeen x = false)
    (hn : IsCanonical (some maxNamespaceLength) x.1)
    (hi : IsCanonical (some maxEventIdLength) x.2) : Window (d.recordSeen x) := by
  have hnot : x ∉ d.seenOrder := by
    rw [← h.hasSeen_iff, hx]
    simp
  have hseen : ∀ y, holds d.seenByNamespace y ↔ y ∈ d.seenOrder := h.hasSeen_iff
  rcases recordSeen_eq x d with ⟨hlt, heq⟩ | ⟨oldest, rest, hge, ho, heq⟩
  · rw [heq]
    refine ⟨?_, ?_, ?_, ?_⟩
    · exact List.concat_eq_append ▸ h.nodup.concat hnot
    · simpa using hlt
    · intro y hy
      rcases List.mem_append.mp hy with hy | hy
      · exact h.canonical y hy
      · rw [List.mem_singleton] at hy
        exact hy ▸ ⟨hn, hi⟩
    · intro y
      simp [hasSeen, hseen]
  · rw [heq]
    have hnodup := h.nodup
    rw [ho, List.nodup_cons] at hnodup
    rw [ho, List.mem_cons, not_or] at hnot
    have hlen := h.length_le
    rw [ho, List.length_cons] at hlen
    refine ⟨?_, ?_, ?_, ?_⟩
    · exact List.concat_eq_append ▸ hnodup.2.concat hnot.2
    · simpa using hlen
    · intro y hy
      rcases List.mem_append.mp hy with hy | hy
      · exact h.canonical y (ho ▸ List.mem_cons_of_mem _ hy)
      · rw [List.mem_singleton] at hy
        exact hy ▸ ⟨hn, hi⟩
    · intro y
      simp only [hasSeen, holds_forget, holds_remember, hseen, ho, List.mem_cons, List.mem_append,
        List.not_mem_nil, or_false]
      constructor
      · rintro ⟨(rfl | hy) | rfl, hne⟩
        · exact absurd rfl hne
        · exact .inl hy
        · exact .inr rfl
      · rintro (hy | rfl)
        · exact ⟨.inl (.inr hy), fun hyo => hnodup.1 (hyo ▸ hy)⟩
        · exact ⟨.inr rfl, hnot.1⟩

/-- Only what is recorded is seen. -/
theorem hasSeen_recordSeen {x y : EventIdentity} (h : (d.recordSeen x).hasSeen y) :
    d.hasSeen y ∨ y = x := by
  rcases recordSeen_eq x d with ⟨-, heq⟩ | ⟨oldest, rest, -, -, heq⟩
  · rw [heq] at h
    exact (holds_remember x y d.seenByNamespace).mp h
  · rw [heq] at h
    exact (holds_remember x y d.seenByNamespace).mp ((holds_forget oldest y _).mp h).1

/-- Recording an identity touches nothing but the window. -/
theorem recordSeen_frame (x : EventIdentity) (d : Director) :
    recordSeen x d =
      { d with
        seenByNamespace := (recordSeen x d).seenByNamespace
        seenOrder := (recordSeen x d).seenOrder } := by
  rcases recordSeen_eq x d with ⟨-, heq⟩ | ⟨_, _, -, -, heq⟩ <;> rw [heq]

theorem length_recordSeen (h : Window d) (x : EventIdentity) :
    (d.recordSeen x).seenOrder.length =
      min (d.seenOrder.length + 1) maxTrackedEventIdentities := by
  have hle := h.length_le
  rcases recordSeen_eq x d with ⟨hlt, heq⟩ | ⟨oldest, rest, hge, ho, heq⟩
  · rw [heq]
    simp only [List.length_append, List.length_singleton]
    omega
  · rw [heq]
    rw [ho, List.length_cons] at hge hle ⊢
    simp only [List.length_append, List.length_singleton]
    omega

/-! ## The whole state -/

/-- What holds of a director between calls. -/
structure Sound (d : Director) : Prop extends Window d where
  personas_canonical : ∀ p ∈ d.personas, IsCanonical none p
  personas_nodup : d.personas.Nodup
  budget_safe : d.maxAutonomousTurns < safeIntegerBound
  muted_mem : ∀ p ∈ d.muted, p ∈ d.personas
  turns_le : d.autonomousTurns ≤ d.acceptedHumanEventNumber
  selected : ∀ p n, d.lastSelectedAt.lookup p = some n →
    p ∈ d.personas ∧ 0 < n ∧ n ≤ d.acceptedHumanEventNumber
  selected_distinct : ∀ p q n, d.lastSelectedAt.lookup p = some n →
    d.lastSelectedAt.lookup q = some n → p = q
  selections_le : d.lastSelectedAt.entries.length ≤ d.autonomousTurns
  /-- Before the first selection, or after the latest one. -/
  rotation : (d.autonomousTurns = 0 ∧ d.fallbackIndex = 0) ∨
    ∃ p n, d.lastSelectedAt.lookup p = some n ∧ d.autonomousTurns ≤ n ∧
      (∀ q m, d.lastSelectedAt.lookup q = some m → m ≤ n) ∧
      d.fallbackIndex = (d.personas.idxOf p + 1) % d.personas.length
  seen_ge : min d.acceptedHumanEventNumber maxTrackedEventIdentities ≤ d.seenOrder.length

theorem Sound.recordSeen (h : Sound d) {x : EventIdentity} (hx : d.hasSeen x = false)
    (hn : IsCanonical (some maxNamespaceLength) x.1)
    (hi : IsCanonical (some maxEventIdLength) x.2) : Sound (d.recordSeen x) := by
  have hwindow := h.toWindow.recordSeen hx hn hi
  have hlen := length_recordSeen h.toWindow x
  have hge := h.seen_ge
  rw [recordSeen_frame] at hwindow hlen ⊢
  refine ⟨hwindow, h.personas_canonical, h.personas_nodup, h.budget_safe, h.muted_mem, h.turns_le,
    h.selected, h.selected_distinct, h.selections_le, h.rotation, ?_⟩
  simp only at hlen ⊢
  omega

theorem plusOne_of_lt {n : ℕ} (h : n < safeIntegerBound) : plusOne n = n + 1 := if_pos h

/-- The event is counted. -/
theorem accept_eq (hroom : d.acceptedHumanEventNumber < safeIntegerBound) :
    d.accept = { d with acceptedHumanEventNumber := d.acceptedHumanEventNumber + 1 } := by
  rw [accept, plusOne_of_lt hroom]

/-- An accepted event is counted, and so is the turn it is given. -/
theorem Sound.select_eq (h : Sound d) (hroom : d.acceptedHumanEventNumber < safeIntegerBound)
    (speaker : Speaker) : d.accept.select speaker = { d with
      lastSelectedAt := KeyedTable.set speaker.personaId (d.acceptedHumanEventNumber + 1)
        d.lastSelectedAt
      fallbackIndex := (speaker.index + 1) % d.personas.length
      autonomousTurns := d.autonomousTurns + 1
      acceptedHumanEventNumber := d.acceptedHumanEventNumber + 1 } := by
  rw [accept_eq hroom, Director.select, plusOne_of_lt (lt_of_le_of_lt h.turns_le hroom)]

theorem Sound.accept (h : Sound d) (hroom : d.acceptedHumanEventNumber < safeIntegerBound)
    (hge : min (d.acceptedHumanEventNumber + 1) maxTrackedEventIdentities ≤ d.seenOrder.length) :
    Sound d.accept := by
  rw [accept_eq hroom]
  refine { h with turns_le := Nat.le_succ_of_le h.turns_le, selected := ?_, seen_ge := hge, .. }
  intro p n hp
  obtain ⟨hmem, hpos, hle⟩ := h.selected p n hp
  exact ⟨hmem, hpos, Nat.le_succ_of_le hle⟩

/-- The persona an event that has just been accepted selects. -/
theorem Sound.select (h : Sound d) (hroom : d.acceptedHumanEventNumber < safeIntegerBound)
    (hge : min (d.acceptedHumanEventNumber + 1) maxTrackedEventIdentities ≤ d.seenOrder.length)
    {speaker : Speaker} (hmem : speaker.personaId ∈ d.personas)
    (hindex : speaker.index = d.personas.idxOf speaker.personaId) :
    Sound (d.accept.select speaker) := by
  rw [h.select_eq hroom]
  refine { h with
    selected := ?_
    selected_distinct := ?_
    selections_le := ?_
    rotation := ?_
    turns_le := Nat.succ_le_succ h.turns_le
    seen_ge := hge
    .. }
  · intro p n hp
    simp only [KeyedTable.lookup_set] at hp
    split at hp
    · next hps =>
        cases hp
        exact ⟨hps ▸ hmem, Nat.succ_pos _, le_rfl⟩
    · obtain ⟨hp, hpos, hle⟩ := h.selected p n hp
      exact ⟨hp, hpos, Nat.le_succ_of_le hle⟩
  · intro p q n hp hq
    simp only [KeyedTable.lookup_set] at hp hq
    split at hp <;> split at hq
    · simp_all
    · cases hp
      exact absurd (h.selected q _ hq).2.2 (Nat.not_succ_le_self _)
    · cases hq
      exact absurd (h.selected p _ hp).2.2 (Nat.not_succ_le_self _)
    · exact h.selected_distinct p q n hp hq
  · exact (KeyedTable.length_set_le d.lastSelectedAt speaker.personaId _).trans
      (Nat.succ_le_succ h.selections_le)
  · refine .inr ⟨speaker.personaId, d.acceptedHumanEventNumber + 1, ?_, ?_, ?_, ?_⟩
    · simp only [KeyedTable.lookup_set, if_true]
    · exact Nat.succ_le_succ h.turns_le
    · intro q m hq
      simp only [KeyedTable.lookup_set] at hq
      split at hq
      · cases hq
        exact le_rfl
      · exact Nat.le_succ_of_le (h.selected q m hq).2.2
    · rw [hindex]

/-! ## Calls -/

/-- A persona is found at the place it is looked up. -/
theorem eligibleAt_speaker (hnodup : d.personas.Nodup) {offset : ℕ} {speaker : Speaker}
    (h : d.eligibleAt offset = some speaker) :
    speaker.personaId ∈ d.personas ∧
      speaker.index = d.personas.idxOf speaker.personaId := by
  simp only [eligibleAt] at h
  have hfound : ∀ index persona, d.personas[index]? = some persona →
      persona ∈ d.personas ∧ index = d.personas.idxOf persona := by
    intro index persona hp
    obtain ⟨hlt, rfl⟩ := List.getElem?_eq_some_iff.mp hp
    exact ⟨List.getElem_mem hlt, (hnodup.idxOf_getElem index hlt).symm⟩
  split at h
  · cases h
  · next personaId hp =>
      split at h
      · cases h
      · split at h
        · cases h
          exact hfound _ _ hp
        · split at h
          · cases h
            exact hfound _ _ hp
          · cases h

theorem chooseSpeaker_mem (hnodup : d.personas.Nodup) {directedPersonaId : Option PersonaId}
    (hdirected : ∀ p ∈ directedPersonaId, p ∈ d.personas) {speaker : Speaker}
    (h : d.chooseSpeaker directedPersonaId = some speaker) :
    speaker.personaId ∈ d.personas ∧
      speaker.index = d.personas.idxOf speaker.personaId := by
  unfold chooseSpeaker at h
  split at h
  · cases h
    exact ⟨hdirected _ rfl, rfl⟩
  · split at h
    · next onlyUnmuted honly =>
        cases h
        have hmem : onlyUnmuted ∈ d.personas.filter (· ∉ d.muted) := by
          rw [honly]
          exact List.mem_singleton_self _
        exact ⟨(List.mem_filter.mp hmem).1, rfl⟩
    · obtain ⟨offset, -, hoff⟩ := List.exists_of_findSome?_eq_some h
      exact eligibleAt_speaker hnodup hoff

theorem directed_mem {directedPersonaId : Option PersonaId}
    (h : d.requireDirectable directedPersonaId = .ok ()) : ∀ p ∈ directedPersonaId,
      p ∈ d.personas ∧ p ∉ d.muted := by
  intro p hp
  rw [Option.mem_def] at hp
  subst hp
  simp only [requireDirectable] at h
  split at h
  · cases h
  · next q hq =>
      obtain ⟨rfl, -⟩ := isCanonical_of_require hq
      split at h
      · cases h
      · next hmem =>
          split at h
          · cases h
          · next hmuted => exact ⟨not_not.mp hmem, hmuted⟩

/-- What an accepted event makes of the director: nothing, or one selection. -/
theorem scheduleAccepted_cases {wantsResponse : Bool} {directedPersonaId : Option PersonaId}
    {decision : DirectorDecision}
    (h : d.scheduleAccepted wantsResponse directedPersonaId = (decision, d')) :
    (decision.speaker = none ∧ d' = d) ∨
    ∃ speaker, d.chooseSpeaker directedPersonaId = some speaker ∧
      decision.speaker = some speaker.personaId ∧ d' = d.select speaker := by
  unfold scheduleAccepted at h
  split at h
  · cases h
    exact .inl ⟨rfl, rfl⟩
  · split at h
    · cases h
      exact .inl ⟨rfl, rfl⟩
    · split at h
      · cases h
        exact .inl ⟨rfl, rfl⟩
      · split at h
        · cases h
          exact .inl ⟨rfl, rfl⟩
        · next speaker hs =>
            cases h
            exact .inr ⟨speaker, hs, rfl, rfl⟩

/-- All that `schedule` can do: nothing; or record a fresh event, and then accept it if
it is a human one, and then select a speaker. -/
theorem schedule_cases {event : Option VerifiedDirectorEvent}
    {directedPersonaId : Option PersonaId} {decision : DirectorDecision}
    (h : d.schedule event directedPersonaId = .ok (decision, d')) :
    (decision.speaker = none ∧ d' = d) ∨
    ∃ e, event = some e ∧ d.cancelled = false ∧ d.hasSeen e.identity = false ∧
      ((decision.speaker = none ∧ d' = d.recordSeen e.identity) ∨
        e.isHuman ∧ decision.speaker = none ∧ d' = (d.recordSeen e.identity).accept ∨
        e.isHuman ∧ ∃ speaker,
          (d.recordSeen e.identity).accept.chooseSpeaker directedPersonaId = some speaker ∧
          decision.speaker = some speaker.personaId ∧
          d' = (d.recordSeen e.identity).accept.select speaker) := by
  unfold schedule at h
  split at h
  · cases h
  · rw [Except.ok.injEq] at h
    split at h
    · cases h
      exact .inl ⟨rfl, rfl⟩
    · next hcancelled =>
        split at h
        · cases h
          exact .inl ⟨rfl, rfl⟩
        · next e =>
            split at h
            · cases h
              exact .inl ⟨rfl, rfl⟩
            · next hseen =>
                refine .inr ⟨e, rfl, by simpa using hcancelled, by simpa using hseen, ?_⟩
                simp only at h
                split at h
                · cases h
                  exact .inl ⟨rfl, rfl⟩
                · next hhuman =>
                    have hhuman : e.isHuman := by simpa using hhuman
                    rcases scheduleAccepted_cases h with ⟨hs, hd⟩ | ⟨speaker, hc, hs, hd⟩
                    · exact .inr (.inl ⟨hhuman, hs, hd⟩)
                    · exact .inr (.inr ⟨hhuman, speaker, hc, hs, hd⟩)

theorem schedule_directable {event : Option VerifiedDirectorEvent}
    {directedPersonaId : Option PersonaId} {decision : DirectorDecision}
    (h : d.schedule event directedPersonaId = .ok (decision, d')) :
    ∀ p ∈ directedPersonaId, p ∈ d.personas ∧ p ∉ d.muted := by
  unfold schedule at h
  split at h
  · cases h
  · next hok => exact directed_mem hok

/-- What a director remembers of events and selections does not matter to the window. -/
theorem Window.schedule (h : Window d) {event : Option VerifiedDirectorEvent}
    {directedPersonaId : Option PersonaId} {decision : DirectorDecision}
    (hs : d.schedule event directedPersonaId = .ok (decision, d')) : Window d' := by
  rcases schedule_cases hs with ⟨-, rfl⟩ | ⟨e, -, -, hseen, hd⟩
  · exact h
  · have hrec := h.recordSeen hseen e.namespace_canonical e.eventId_canonical
    rcases hd with ⟨-, rfl⟩ | ⟨-, -, rfl⟩ | ⟨-, speaker, -, -, rfl⟩
    · exact hrec
    · exact { hrec with .. }
    · exact { hrec with .. }

theorem Window.perform (h : Window d) (call : DirectorCall) : Window (d.perform call).2 := by
  cases call with
  | schedule event directedPersonaId =>
      simp only [Director.perform]
      split
      · exact h
      · next hs => exact h.schedule hs
  | setMuted personaId muted =>
      simp only [Director.perform, Director.setMuted]
      by_cases hmem : personaId ∉ d.personas
      · rw [if_pos hmem]
        exact h
      · rw [if_neg hmem]
        cases muted <;> exact { h with .. }
  | cancel => exact { h with .. }

/-- **Invariant.**  Every sequence of calls keeps the window. -/
theorem Window.run (h : Window d) (calls : List DirectorCall) : Window (d.run calls).2 := by
  induction calls generalizing d with
  | nil => exact h
  | cons call calls ih => exact ih (h.perform call)

/-- A human event the call schedules can be counted. -/
def Counts (d : Director) : DirectorCall → Prop
  | .schedule (some event) _ =>
    event.isHuman = true → d.acceptedHumanEventNumber < safeIntegerBound
  | _ => True

/-- The human events of all calls can be counted when they are scheduled. -/
def RunCounts (d : Director) : List DirectorCall → Prop
  | [] => True
  | call :: calls => d.Counts call ∧ (d.perform call).2.RunCounts calls

theorem Sound.schedule (h : Sound d) {event : Option VerifiedDirectorEvent}
    {directedPersonaId : Option PersonaId} (hroom : d.Counts (.schedule event directedPersonaId))
    {decision : DirectorDecision}
    (hs : d.schedule event directedPersonaId = .ok (decision, d')) : Sound d' := by
  have hdirected := schedule_directable hs
  rcases schedule_cases hs with ⟨-, rfl⟩ | ⟨e, rfl, -, hseen, hd⟩
  · exact h
  · have hrec := h.recordSeen hseen e.namespace_canonical e.eventId_canonical
    have hge : min ((d.recordSeen e.identity).acceptedHumanEventNumber + 1)
        maxTrackedEventIdentities ≤ (d.recordSeen e.identity).seenOrder.length := by
      have hlen := length_recordSeen h.toWindow e.identity
      have hsg := h.seen_ge
      rw [recordSeen_frame] at hlen ⊢
      simp only at hlen ⊢
      omega
    have hpersonas : (d.recordSeen e.identity).personas = d.personas := by
      rw [recordSeen_frame]
    have hroom' : e.isHuman = true →
        (d.recordSeen e.identity).acceptedHumanEventNumber < safeIntegerBound := by
      rw [recordSeen_frame]
      exact hroom
    rcases hd with ⟨-, rfl⟩ | ⟨hhuman, -, rfl⟩ | ⟨hhuman, speaker, hc, -, rfl⟩
    · exact hrec
    · exact hrec.accept (hroom' hhuman) hge
    · obtain ⟨hmem, hindex⟩ := chooseSpeaker_mem (d := (d.recordSeen e.identity).accept)
        hrec.personas_nodup (fun p hp => hpersonas ▸ (hdirected p hp).1) hc
      exact hrec.select (hroom' hhuman) hge hmem hindex

theorem Sound.setMuted (h : Sound d) {personaId : PersonaId} {muted : Bool}
    (hs : d.setMuted personaId muted = .ok d') : Sound d' := by
  unfold Director.setMuted at hs
  split at hs
  · cases hs
  · next hmem =>
      rw [not_not] at hmem
      split at hs
      · cases hs
        refine { h with muted_mem := ?_, .. }
        intro p hp
        rcases Finset.mem_insert.mp hp with rfl | hp
        · exact hmem
        · exact h.muted_mem p hp
      · cases hs
        refine { h with muted_mem := ?_, .. }
        intro p hp
        exact h.muted_mem p (Finset.mem_of_mem_erase hp)

theorem Sound.perform (h : Sound d) {call : DirectorCall} (hcounts : d.Counts call) :
    Sound (d.perform call).2 := by
  cases call with
  | schedule event directedPersonaId =>
      simp only [Director.perform]
      split
      · exact h
      · next hs => exact h.schedule hcounts hs
  | setMuted personaId muted =>
      simp only [Director.perform]
      split
      · exact h
      · next hs => exact h.setMuted hs
  | cancel => exact { h with .. }

/-- **Invariant.**  Every sequence of calls whose events can be counted keeps a sound director
sound. -/
theorem Sound.run (h : Sound d) {calls : List DirectorCall} (hcounts : d.RunCounts calls) :
    Sound (d.run calls).2 := by
  induction calls generalizing d with
  | nil => exact h
  | cons call calls ih => exact ih (h.perform hcounts.1) hcounts.2

/-- The count never goes down. -/
theorem le_plusOne (n : ℕ) : n ≤ plusOne n := by
  unfold plusOne
  split
  · exact Nat.le_succ n
  · exact le_rfl

theorem perform_number_le (d : Director) (call : DirectorCall) :
    d.acceptedHumanEventNumber ≤ (d.perform call).2.acceptedHumanEventNumber := by
  cases call with
  | schedule event directedPersonaId =>
      simp only [Director.perform]
      split
      · exact le_rfl
      · next hs =>
          rcases schedule_cases hs with ⟨-, rfl⟩ | ⟨e, -, -, -, hd⟩
          · exact le_rfl
          · have hframe := recordSeen_frame e.identity d
            rcases hd with ⟨-, rfl⟩ | ⟨-, -, rfl⟩ | ⟨-, speaker, -, -, rfl⟩
            · rw [hframe]
            · rw [hframe]
              exact le_plusOne _
            · rw [hframe]
              exact le_plusOne _
  | setMuted personaId muted =>
      simp only [Director.perform, Director.setMuted]
      by_cases hmem : personaId ∉ d.personas
      · rw [if_pos hmem]
      · rw [if_neg hmem]
        cases muted <;> exact le_rfl
  | cancel => exact le_rfl

theorem run_number_le (d : Director) (calls : List DirectorCall) :
    d.acceptedHumanEventNumber ≤ (d.run calls).2.acceptedHumanEventNumber := by
  induction calls generalizing d with
  | nil => exact le_rfl
  | cons call calls ih => exact (d.perform_number_le call).trans (ih (d.perform call).2)

/-- What could be counted to the end could be counted all along. -/
theorem runCounts_of_lt {calls : List DirectorCall}
    (h : (d.run calls).2.acceptedHumanEventNumber < safeIntegerBound) : d.RunCounts calls := by
  induction calls generalizing d with
  | nil => trivial
  | cons call calls ih =>
      refine ⟨?_, ih h⟩
      have hlt := lt_of_le_of_lt (d.run_number_le (call :: calls)) h
      match call with
      | .schedule (some _) _ => exact fun _ => hlt
      | .schedule none _ | .setMuted _ _ | .cancel => trivial

end Director
end GreenRoom.Core
