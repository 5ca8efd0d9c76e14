import GreenRoom.Core.DirectorRestore
import Mathlib.Data.List.Rotate

/-!
# Fairness of the director

The unmuted personas, read from the rotation index on, are a queue: an undirected event that
wants a response takes its head, and puts it at the end.  The cooldown never holds the head
back, for the persona selected last is the end of the roster's rotation.  That lasts as long
as the accepted events can be counted: at 2^53 the count stays, and so do all cooldowns.

## Main definitions

* `Director.order` — the queue.
* `Director.previousSpeaker` — who answered the accepted human event before.
* `Director.selections` — who is selected in a sequence of calls.

## Main results

* `Sound.chooseSpeaker_order`, `Sound.order_select` — what a selection does to the queue.
* `selections_eq_take` — a sequence of calls selects the queue's personas in turn.
* `director_fairness`
* `director_fairness_saturated` — a director that counts no further.
-/

namespace GreenRoom.Core

open JsString

/-- Who speaks after a call. -/
def DirectorAnswer.speaker : DirectorAnswer → Option PersonaId
  | .decision made => made.speaker
  | _ => none

namespace Director

variable {d d' : Director}

/-- `this.#personas.filter((personaId) => !this.#muted.has(personaId))`. -/
def unmuted (d : Director) : List PersonaId := d.personas.filter (· ∉ d.muted)

/-- The unmuted personas from the rotation index on. -/
def order (d : Director) : List PersonaId :=
  (d.personas.rotate d.fallbackIndex).filter (· ∉ d.muted)

theorem order_perm (d : Director) : d.order.Perm d.unmuted :=
  (d.personas.rotate_perm d.fallbackIndex).filter _

/-- Two unmuted personas are the first two of the queue. -/
theorem order_eq_cons (htwo : 2 ≤ d.unmuted.length) :
    ∃ personaId next rest, d.order = personaId :: next :: rest := by
  rw [← d.order_perm.length_eq] at htwo
  match horder : d.order, htwo with
  | personaId :: next :: rest, _ => exact ⟨personaId, next, rest, rfl⟩

/-! ## One selection -/

/-- The first success of a search through `0, …, n - 1`. -/
theorem findSome?_range {α : Type} {f : ℕ → Option α} {n k : ℕ} {a : α} (hk : k < n)
    (hf : f k = some a) (hbefore : ∀ i < k, f i = none) :
    (List.range n).findSome? f = some a := by
  obtain ⟨m, rfl⟩ := Nat.exists_eq_add_of_lt hk
  have hnone : (List.range k).findSome? f = none := by
    rw [List.findSome?_eq_none_iff]
    intro i hi
    exact hbefore i (List.mem_range.mp hi)
  rw [Nat.add_assoc, List.range_add, List.findSome?_append, hnone, List.range_succ_eq_map,
    List.map_cons, Nat.add_zero, List.findSome?_cons, hf]
  rfl

/-- Where the search looks at its place `offset`. -/
theorem rotate_index (hnodup : d.personas.Nodup) {offset : ℕ} {personaId : PersonaId}
    (h : (d.personas.rotate d.fallbackIndex)[offset]? = some personaId) :
    d.personas[(d.fallbackIndex + offset) % d.personas.length]? = some personaId ∧
      (d.fallbackIndex + offset) % d.personas.length = d.personas.idxOf personaId := by
  obtain ⟨hoffset, -⟩ := List.getElem?_eq_some_iff.mp h
  rw [List.length_rotate] at hoffset
  rw [List.getElem?_rotate hoffset, Nat.add_comm] at h
  obtain ⟨hlt, hget⟩ := List.getElem?_eq_some_iff.mp h
  exact ⟨h, hget ▸ (hnodup.idxOf_getElem _ hlt).symm⟩

theorem eligibleAt_muted (hnodup : d.personas.Nodup) {offset : ℕ} {personaId : PersonaId}
    (h : (d.personas.rotate d.fallbackIndex)[offset]? = some personaId)
    (hmuted : personaId ∈ d.muted) : d.eligibleAt offset = none := by
  simp only [eligibleAt, (rotate_index hnodup h).1, if_pos hmuted]

theorem eligibleAt_unmuted (hnodup : d.personas.Nodup) {offset : ℕ} {personaId : PersonaId}
    (h : (d.personas.rotate d.fallbackIndex)[offset]? = some personaId)
    (hmuted : personaId ∉ d.muted)
    (hcool : ∀ n, d.lastSelectedAt.lookup personaId = some n →
      oneEventCooldown < d.acceptedHumanEventNumber - n) :
    d.eligibleAt offset = some ⟨personaId, d.personas.idxOf personaId⟩ := by
  obtain ⟨hget, hindex⟩ := rotate_index hnodup h
  simp only [eligibleAt, hget, if_neg hmuted]
  cases hlast : d.lastSelectedAt.lookup personaId with
  | none => simp only [hindex]
  | some n => simp only [if_pos (hcool n hlast), hindex]

/-- A roster rotated past one of its personas ends with it. -/
theorem rotate_idxOf {personas : List PersonaId} (hnodup : personas.Nodup)
    {personaId : PersonaId} (hmem : personaId ∈ personas) :
    ∃ init, personas.rotate ((personas.idxOf personaId + 1) % personas.length) =
      init ++ [personaId] := by
  obtain ⟨before, after, rfl⟩ := List.append_of_mem hmem
  have hnot : personaId ∉ before := fun hb =>
    (List.nodup_append.mp hnodup).2.2 personaId hb personaId List.mem_cons_self rfl
  refine ⟨after ++ before, ?_⟩
  rw [List.rotate_mod, List.idxOf_append_of_notMem hnot, List.idxOf_cons_self, Nat.add_zero]
  have hrotate := List.rotate_append_length_eq (before ++ [personaId]) after
  rw [List.length_append, List.length_singleton, List.append_assoc, ← List.append_assoc after]
    at hrotate
  exact hrotate

/-- The persona selected for the event accepted last is the end of the rotated roster. -/
theorem Sound.rotate_getLast (h : Sound d) {personaId : PersonaId}
    (hlast : d.lastSelectedAt.lookup personaId = some d.acceptedHumanEventNumber) :
    ∃ init, d.personas.rotate d.fallbackIndex = init ++ [personaId] := by
  rcases h.rotation with ⟨hturns, -⟩ | ⟨latest, n, hlatest, -, hmax, hindex⟩
  · have hempty := h.selections_le
    rw [hturns, Nat.le_zero, List.length_eq_zero_iff] at hempty
    have hmem := KeyedTable.mem_entries_iff.mpr hlast
    rw [hempty] at hmem
    cases hmem
  · have hn : n = d.acceptedHumanEventNumber :=
      (h.selected latest n hlatest).2.2.antisymm (hmax personaId _ hlast)
    obtain rfl := h.selected_distinct personaId latest n (hn ▸ hlast) hlatest
    rw [hindex]
    exact rotate_idxOf h.personas_nodup (h.selected personaId n hlatest).1

/-- **The cooldown never holds the head of the queue back**, unless it is alone. -/
theorem Sound.head_rested (h : Sound d) {personaId next : PersonaId} {rest : List PersonaId}
    (horder : d.order = personaId :: next :: rest) :
    d.lastSelectedAt.lookup personaId ≠ some d.acceptedHumanEventNumber := by
  intro hlast
  obtain ⟨init, hrotate⟩ := h.rotate_getLast hlast
  obtain ⟨before, after, hsplit, -, -, hafter⟩ := List.filter_eq_cons_iff.mp horder
  have hnodup : (d.personas.rotate d.fallbackIndex).Nodup :=
    List.nodup_rotate.mpr h.personas_nodup
  have hnext : after ≠ [] := by
    rintro rfl
    cases hafter
  have hend : personaId ∈ after := by
    have hgetLast := congrArg List.getLast? (hsplit.symm.trans hrotate)
    rw [List.getLast?_append, List.getLast?_cons, List.getLast?_eq_some_getLast hnext] at hgetLast
    simp at hgetLast
    exact hgetLast ▸ List.getLast_mem hnext
  rw [hsplit] at hnodup
  exact (List.nodup_cons.mp (List.nodup_append.mp hnodup).2.1).1 hend

/-- **An accepted event takes the head of the queue.** -/
theorem Sound.chooseSpeaker_order (h : Sound d)
    (hroom : d.acceptedHumanEventNumber < safeIntegerBound) {personaId next : PersonaId}
    {rest : List PersonaId} (horder : d.order = personaId :: next :: rest) :
    d.accept.chooseSpeaker none = some ⟨personaId, d.personas.idxOf personaId⟩ := by
  have hrested := h.head_rested horder
  obtain ⟨before, after, hsplit, hbefore, hhead, hafter⟩ := List.filter_eq_cons_iff.mp horder
  have hlength : 2 ≤ d.unmuted.length := by
    rw [← d.order_perm.length_eq, horder]
    simp
  have hmuted : ∀ p ∈ before, p ∈ d.muted := by simpa using hbefore
  have hsearch : d.accept.deterministicEligibleSpeaker =
      some ⟨personaId, d.personas.idxOf personaId⟩ := by
    have hget : (d.personas.rotate d.fallbackIndex)[before.length]? = some personaId := by
      rw [hsplit]
      simp
    have hunmuted : personaId ∉ d.muted := by simpa using hhead
    refine findSome?_range (k := before.length) ?_ ?_ ?_
    · show before.length < d.personas.length
      have hlen := congrArg List.length hsplit
      rw [List.length_rotate, List.length_append, List.length_cons] at hlen
      omega
    · refine eligibleAt_unmuted (d := d.accept) h.personas_nodup hget hunmuted ?_
      intro n hn
      have hle := (h.selected personaId n hn).2.2
      have hne : n ≠ d.acceptedHumanEventNumber := fun heq => hrested (heq ▸ hn)
      rw [accept_eq hroom]
      show 1 < d.acceptedHumanEventNumber + 1 - n
      omega
    · intro i hi
      have hget : (d.personas.rotate d.fallbackIndex)[i]? = some before[i] := by
        rw [hsplit, List.getElem?_append_left hi, List.getElem?_eq_getElem hi]
      exact eligibleAt_muted (d := d.accept) h.personas_nodup hget
        (hmuted _ (List.getElem_mem hi))
  rw [← hsearch]
  rw [chooseSpeaker]
  split
  · next onlyUnmuted honly =>
      have honly : d.unmuted = [onlyUnmuted] := honly
      rw [honly] at hlength
      simp at hlength
  · rfl

/-- **The speaker goes to the end of the queue.** -/
theorem Sound.order_select (h : Sound d) {personaId : PersonaId} {rest : List PersonaId}
    (horder : d.order = personaId :: rest) :
    (d.accept.select ⟨personaId, d.personas.idxOf personaId⟩).order = rest ++ [personaId] := by
  obtain ⟨before, after, hsplit, hbefore, hhead, hafter⟩ := List.filter_eq_cons_iff.mp horder
  have hget : (d.personas.rotate d.fallbackIndex)[before.length]? = some personaId := by
    rw [hsplit]
    simp
  have hindex := (rotate_index h.personas_nodup hget).2
  have hrotate : d.personas.rotate ((d.personas.idxOf personaId + 1) % d.personas.length) =
      after ++ (before ++ [personaId]) := by
    have happend := List.rotate_append_length_eq (before ++ [personaId]) after
    rw [List.length_append, List.length_singleton, List.append_assoc before, List.singleton_append,
      ← hsplit, List.rotate_rotate] at happend
    rw [← hindex, Nat.mod_add_mod, List.rotate_mod, Nat.add_assoc]
    exact happend
  show (d.personas.rotate ((d.personas.idxOf personaId + 1) % d.personas.length)).filter
    (· ∉ d.muted) = rest ++ [personaId]
  have hnone : before.filter (· ∉ d.muted) = [] := List.filter_eq_nil_iff.mpr hbefore
  have hone : [personaId].filter (· ∉ d.muted) = [personaId] := by
    rw [List.filter_singleton, hhead]
    rfl
  rw [hrotate, List.filter_append, List.filter_append, hafter, hnone, hone, List.nil_append]

/-! ## Calls -/

/-- Whether an event is accepted as a human one, unless its directed persona is refused. -/
def accepts (d : Director) (event : VerifiedDirectorEvent) : Bool :=
  !d.cancelled && !d.hasSeen event.identity && event.isHuman

/-- A call that directs no event. -/
def Undirected : DirectorCall → Prop
  | .schedule _ directedPersonaId => directedPersonaId = none
  | _ => True

/-- Who is selected by the calls that were answered. -/
def selections (answers : List DirectorAnswer) : List PersonaId :=
  answers.filterMap DirectorAnswer.speaker

theorem order_recordSeen (x : EventIdentity) (d : Director) : (d.recordSeen x).order = d.order := by
  rw [recordSeen_frame]
  rfl

/-- The queue depends on the roster, the index and who is not muted. -/
theorem order_congr (hpersonas : d'.personas = d.personas)
    (hindex : d'.fallbackIndex = d.fallbackIndex) (hunmuted : d'.unmuted = d.unmuted) :
    d'.order = d.order := by
  unfold order
  rw [hpersonas, hindex]
  refine List.filter_congr fun p hp => ?_
  rw [List.mem_rotate] at hp
  have hiff : p ∈ d'.unmuted ↔ p ∈ d.unmuted := by rw [hunmuted]
  simp only [unmuted, hpersonas, List.mem_filter, hp, true_and] at hiff
  exact Bool.eq_iff_iff.mpr hiff

/-- Calls of `schedule` mute nobody. -/
theorem run_unmuted {calls : List DirectorCall}
    (hcalls : ∀ call ∈ calls, ∃ event directedPersonaId,
      call = .schedule event directedPersonaId) :
    (d.run calls).2.unmuted = d.unmuted := by
  induction calls generalizing d with
  | nil => rfl
  | cons call calls ih =>
      refine (ih fun c hc => hcalls c (List.mem_cons_of_mem _ hc)).trans ?_
      obtain ⟨event, directedPersonaId, rfl⟩ := hcalls call List.mem_cons_self
      simp only [perform]
      split
      · rfl
      · next decision d' hs =>
          rcases schedule_cases hs with ⟨-, rfl⟩ | ⟨e, -, -, -, hd⟩
          · rfl
          · have hframe := recordSeen_frame e.identity d
            rcases hd with ⟨-, rfl⟩ | ⟨-, -, rfl⟩ | ⟨-, _, -, -, rfl⟩ <;> (rw [hframe]; rfl)

/-- What an undirected call does to the queue. -/
theorem Sound.perform_order (h : Sound d) {call : DirectorCall} (hcounts : d.Counts call)
    (hcall : Undirected call)
    (hunmuted : (d.perform call).2.unmuted = d.unmuted) (htwo : 2 ≤ d.unmuted.length) :
    ((d.perform call).1.speaker = none ∧ (d.perform call).2.order = d.order) ∨
    ∃ personaId rest, d.order = personaId :: rest ∧
      (d.perform call).1.speaker = some personaId ∧
      (d.perform call).2.order = rest ++ [personaId] := by
  cases call with
  | schedule event directedPersonaId =>
      obtain rfl : directedPersonaId = none := hcall
      simp only [Director.perform]
      split
      · exact .inl ⟨rfl, rfl⟩
      · next decision d' hs =>
          rcases schedule_cases hs with ⟨hnone, rfl⟩ | ⟨e, rfl, -, hseen, hd⟩
          · exact .inl ⟨hnone, rfl⟩
          · have hrec := h.recordSeen hseen e.namespace_canonical e.eventId_canonical
            have hrecorded := order_recordSeen e.identity d
            rcases hd with ⟨hnone, rfl⟩ | ⟨-, hnone, rfl⟩ |
              ⟨hhuman, speaker, hchoose, hspeaker, rfl⟩
            · exact .inl ⟨hnone, hrecorded⟩
            · exact .inl ⟨hnone, hrecorded⟩
            · obtain ⟨personaId, next, rest, horder⟩ := order_eq_cons htwo
              have hroom :
                  (d.recordSeen e.identity).acceptedHumanEventNumber < safeIntegerBound := by
                rw [recordSeen_frame]
                exact hcounts hhuman
              rw [hrec.chooseSpeaker_order hroom (hrecorded.trans horder), Option.some.injEq]
                at hchoose
              subst hchoose
              exact .inr ⟨personaId, next :: rest, horder, hspeaker,
                hrec.order_select (hrecorded.trans horder)⟩
  | setMuted personaId muted =>
      refine .inl ⟨?_, order_congr (d.perform_personas _) ?_ hunmuted⟩
      · simp only [Director.perform]
        split <;> rfl
      · simp only [Director.perform, Director.setMuted]
        by_cases hmem : personaId ∉ d.personas
        · rw [if_pos hmem]
        · rw [if_neg hmem]
          cases muted <;> rfl
  | cancel => exact .inl ⟨rfl, rfl⟩

/-- **The queue's personas are selected in turn.** -/
theorem Sound.selections_eq_take (h : Sound d) {calls : List DirectorCall}
    (hcounts : d.RunCounts calls) (hcalls : ∀ call ∈ calls, Undirected call)
    (hunmuted : ∀ n, (d.run (calls.take n)).2.unmuted = d.unmuted)
    (htwo : 2 ≤ d.unmuted.length)
    (hlength : (selections (d.run calls).1).length ≤ d.order.length) :
    selections (d.run calls).1 = d.order.take (selections (d.run calls).1).length := by
  induction calls generalizing d with
  | nil => rfl
  | cons call calls ih =>
      have hstep : (d.perform call).2.unmuted = d.unmuted := hunmuted 1
      have hrest := ih (h.perform hcounts.1) hcounts.2
        (fun c hc => hcalls c (List.mem_cons_of_mem _ hc)) (fun n =>
        (hunmuted (n + 1)).trans hstep.symm) (hstep ▸ htwo)
      rcases h.perform_order hcounts.1 (hcalls call List.mem_cons_self) hstep htwo with
        ⟨hnone, horder⟩ | ⟨personaId, rest, horder, hspeaker, hnext⟩
      · have hselections : selections (d.run (call :: calls)).1 =
            selections ((d.perform call).2.run calls).1 := List.filterMap_cons_none hnone
        rw [hselections] at hlength ⊢
        rw [horder] at hrest
        exact hrest hlength
      · have hselections : selections (d.run (call :: calls)).1 =
            personaId :: selections ((d.perform call).2.run calls).1 :=
          List.filterMap_cons_some hspeaker
        rw [hselections, horder, List.length_cons, List.length_cons] at hlength
        rw [hselections, horder, List.length_cons, List.take_succ_cons]
        rw [hnext, List.length_append] at hrest
        have htake := hrest (Nat.le_of_succ_le hlength)
        rw [List.take_append_of_le_length (Nat.le_of_succ_le_succ hlength)] at htake
        exact congrArg (personaId :: ·) htake

/-! ## The previous speaker -/

/-- The speaker selected for the human event that was accepted last in a sequence of calls;
`speaker` for the one before it. -/
def previousSpeaker (d : Director) (speaker : Option PersonaId) :
    List DirectorCall → Option PersonaId
  | [] => speaker
  | call :: calls =>
    (d.perform call).2.previousSpeaker
      (if (d.perform call).2.acceptedHumanEventNumber = d.acceptedHumanEventNumber then speaker
        else (d.perform call).1.speaker) calls

/-- A call accepts no human event and selects nobody, or accepts one and writes down whom it
selects. -/
theorem perform_latest (d : Director) {call : DirectorCall} (hcounts : d.Counts call) :
    ((d.perform call).2.acceptedHumanEventNumber = d.acceptedHumanEventNumber ∧
      (d.perform call).2.lastSelectedAt = d.lastSelectedAt) ∨
    ((d.perform call).2.acceptedHumanEventNumber = d.acceptedHumanEventNumber + 1 ∧
      ∀ p ∈ (d.perform call).1.speaker, (d.perform call).2.lastSelectedAt.lookup p =
        some (d.perform call).2.acceptedHumanEventNumber) := by
  cases call with
  | schedule event directedPersonaId =>
      simp only [perform]
      split
      · exact .inl ⟨rfl, rfl⟩
      · next decision d' hs =>
          rcases schedule_cases hs with ⟨-, rfl⟩ | ⟨e, rfl, -, -, hd⟩
          · exact .inl ⟨rfl, rfl⟩
          · have hframe := recordSeen_frame e.identity d
            rcases hd with ⟨-, rfl⟩ | ⟨hhuman, hnone, rfl⟩ | ⟨hhuman, chosen, -, hchosen, rfl⟩
            · rw [hframe]
              exact .inl ⟨rfl, rfl⟩
            · rw [hframe]
              refine .inr ⟨if_pos (hcounts hhuman), fun p hp => ?_⟩
              rw [DirectorAnswer.speaker, hnone] at hp
              cases hp
            · rw [hframe]
              refine .inr ⟨if_pos (hcounts hhuman), fun p hp => ?_⟩
              rw [DirectorAnswer.speaker, hchosen] at hp
              cases hp
              simp only [select, KeyedTable.lookup_set, if_true]
  | setMuted personaId muted =>
      simp only [perform, setMuted]
      by_cases hmem : personaId ∉ d.personas
      · rw [if_pos hmem]
        exact .inl ⟨rfl, rfl⟩
      · rw [if_neg hmem]
        cases muted <;> exact .inl ⟨rfl, rfl⟩
  | cancel => exact .inl ⟨rfl, rfl⟩

/-- Who answered the event accepted last is written down so. -/
theorem previousSpeaker_latest {calls : List DirectorCall} (hcounts : d.RunCounts calls)
    {speaker : Option PersonaId}
    (hspeaker : ∀ p ∈ speaker, d.lastSelectedAt.lookup p = some d.acceptedHumanEventNumber) :
    ∀ p ∈ d.previousSpeaker speaker calls,
      (d.run calls).2.lastSelectedAt.lookup p =
        some (d.run calls).2.acceptedHumanEventNumber := by
  induction calls generalizing d speaker with
  | nil => exact hspeaker
  | cons call calls ih =>
      rw [previousSpeaker]
      refine ih hcounts.2 ?_
      rcases d.perform_latest hcounts.1 with ⟨hnumber, hlast⟩ | ⟨hnumber, hchosen⟩
      · rw [hnumber, hlast, if_pos rfl]
        exact hspeaker
      · rw [hnumber, if_neg (Nat.succ_ne_self _)]
        rw [hnumber] at hchosen
        exact hchosen

/-! ## Fairness -/

theorem scheduleAccepted_selects {speaker : Speaker} (htwo : 2 ≤ d.unmuted.length)
    (hchoose : d.chooseSpeaker none = some speaker) :
    d.scheduleAccepted true none = (⟨some speaker.personaId, .selected⟩, d.select speaker) := by
  have hpersonas : d.personas.length ≠ 0 := by
    have hle : d.unmuted.length ≤ d.personas.length := List.length_filter_le _ _
    omega
  have hunmuted : (d.personas.filter (· ∉ d.muted)).length ≠ 0 := by
    show d.unmuted.length ≠ 0
    omega
  simp only [scheduleAccepted, Bool.not_true, Bool.false_eq_true, if_false, hpersonas, hunmuted,
    hchoose, if_true]

/-- An event that is accepted is recorded and counted. -/
theorem schedule_accepts {event : VerifiedDirectorEvent} (haccepts : d.accepts event) :
    d.schedule (some event) none =
      .ok ((d.recordSeen event.identity).accept.scheduleAccepted event.wantsResponse none) := by
  simp only [accepts, Bool.and_eq_true, Bool.not_eq_true'] at haccepts
  simp only [Director.schedule, requireDirectable, haccepts.1.1, haccepts.1.2, haccepts.2,
    Bool.false_eq_true, if_false, Bool.not_true]

/-- With two unmuted personas, an accepted event selects the head of the queue. -/
theorem Sound.schedule_selects (h : Sound d) {event : VerifiedDirectorEvent}
    (hcounts : d.Counts (.schedule (some event) none))
    (htwo : 2 ≤ d.unmuted.length) (haccepts : d.accepts event) (hwants : event.wantsResponse) :
    ∃ personaId d', d.schedule (some event) none = .ok (⟨some personaId, .selected⟩, d') ∧
      personaId ∈ d.unmuted ∧
      d.lastSelectedAt.lookup personaId ≠ some d.acceptedHumanEventNumber := by
  have hs := schedule_accepts haccepts
  rw [hwants] at hs
  simp only [accepts, Bool.and_eq_true, Bool.not_eq_true'] at haccepts
  obtain ⟨⟨-, hseen⟩, hhuman⟩ := haccepts
  have hframe := recordSeen_frame event.identity d
  have hrecorded := order_recordSeen event.identity d
  have hrec := h.recordSeen hseen event.namespace_canonical event.eventId_canonical
  obtain ⟨personaId, next, rest, horder⟩ := order_eq_cons htwo
  have hmem : personaId ∈ d.unmuted := by
    rw [← d.order_perm.mem_iff, horder]
    exact List.mem_cons_self
  have hunmuted : (d.recordSeen event.identity).accept.unmuted = d.unmuted := by
    rw [hframe]
    rfl
  have hroom : (d.recordSeen event.identity).acceptedHumanEventNumber < safeIntegerBound := by
    rw [hframe]
    exact hcounts hhuman
  have hchosen := scheduleAccepted_selects (hunmuted ▸ htwo)
    (hrec.chooseSpeaker_order hroom (hrecorded.trans horder))
  exact ⟨personaId, _, hs.trans (congrArg Except.ok hchosen), hmem, h.head_rested horder⟩

/-- **Fairness.**  In every director that was constructed, restored or not, and called in any
way, as long as its human events could be counted, and that has two unmuted personas at least:
an undirected event that is accepted and wants a response selects an unmuted persona, and not
the one that was selected for the human event accepted before; and while the unmuted personas
stay the same `k`, calls that direct no event and make `k` selections select each of them
once. -/
theorem director_fairness {personas : List JsString} {options : Option ℤ}
    {snapshot : Option (Json ℤ)} {first : Director}
    (h : construct personas options snapshot = .ok first) {calls : List DirectorCall}
    (hcounts : first.RunCounts calls) (htwo : 2 ≤ (first.run calls).2.unmuted.length) :
    let d := (first.run calls).2
    (∀ event, d.Counts (.schedule (some event) none) → d.accepts event → event.wantsResponse →
      ∃ personaId d', d.schedule (some event) none = .ok (⟨some personaId, .selected⟩, d') ∧
        personaId ∈ d.unmuted ∧
        d.lastSelectedAt.lookup personaId ≠ some d.acceptedHumanEventNumber ∧
        first.previousSpeaker none calls ≠ some personaId) ∧
    ∀ more, d.RunCounts more → (∀ call ∈ more, Undirected call) →
      (∀ n, (d.run (more.take n)).2.unmuted = d.unmuted) →
      (selections (d.run more).1).length = d.unmuted.length →
      (selections (d.run more).1).Perm d.unmuted := by
  intro d
  have hsound : Sound d := (sound_of_construct h).run hcounts
  refine ⟨fun event hcount haccepts hwants => ?_,
    fun more hcount hundirected hunmuted hlength => ?_⟩
  · obtain ⟨personaId, d', hs, hmem, hlatest⟩ :=
      hsound.schedule_selects hcount htwo haccepts hwants
    refine ⟨personaId, d', hs, hmem, hlatest, fun hprevious => hlatest ?_⟩
    exact previousSpeaker_latest hcounts (fun p hp => by cases hp) personaId hprevious
  · have hperm := d.order_perm
    rw [← hperm.length_eq] at hlength
    rw [hsound.selections_eq_take hcount hundirected hunmuted htwo hlength.le, hlength,
      List.take_length]
    exact hperm

/-- A second message. -/
def followUp : VerifiedDirectorEvent :=
  { greeting with
    eventId := ofString "request-2"
    eventId_canonical := ⟨by decide, by decide, fun m hm => by cases hm; decide⟩ }

theorem director_fairness_greeting :
    let d : Director :=
      { personas := [ofString "ada", ofString "bob"], maxAutonomousTurns := 10 }
    (∃ personaId d', (d.run [.schedule (some greeting) none]).2.schedule (some followUp) none =
      .ok (⟨some personaId, .selected⟩, d') ∧
      d.previousSpeaker none [.schedule (some greeting) none] ≠ some personaId) ∧
    (selections (d.run [.schedule (some greeting) none, .schedule (some followUp) none]).1).Perm
      [ofString "ada", ofString "bob"] := by
  intro d
  have hfresh : construct [ofString "ada", ofString "bob"] none none = .ok d := by rfl
  have hone : d.RunCounts [.schedule (some greeting) none] := runCounts_of_lt (by decide)
  obtain ⟨hselects, -⟩ := director_fairness hfresh hone (by decide)
  obtain ⟨personaId, d', hs, -, -, hother⟩ := hselects followUp (fun _ => by decide) (by decide) rfl
  have hnone : d.RunCounts [] := trivial
  obtain ⟨-, hturns⟩ := director_fairness hfresh hnone (by decide)
  refine ⟨⟨personaId, d', hs, hother⟩, hturns _ (runCounts_of_lt (by decide)) ?_ ?_ (by decide)⟩
  · simp [Undirected]
  · intro n
    refine run_unmuted fun call hcall => ?_
    have hmem := List.mem_of_mem_take hcall
    simp only [List.mem_cons, List.not_mem_nil, or_false] at hmem
    rcases hmem with rfl | rfl
    · exact ⟨_, _, rfl⟩
    · exact ⟨_, _, rfl⟩

/-! ## At the end of the count -/

/-- A director with another window. -/
def withWindow (seenByNamespace : KeyedTable JsString (Finset JsString))
    (seenOrder : List EventIdentity) (d : Director) : Director :=
  { d with seenByNamespace, seenOrder }

theorem accept_withWindow (d : Director)
    (seenByNamespace : KeyedTable JsString (Finset JsString)) (seenOrder : List EventIdentity) :
    (d.withWindow seenByNamespace seenOrder).accept =
      d.accept.withWindow seenByNamespace seenOrder := rfl

/-- An event that is accepted is answered whatever the window holds. -/
theorem scheduleAccepted_withWindow (d : Director)
    (seenByNamespace : KeyedTable JsString (Finset JsString)) (seenOrder : List EventIdentity)
    (wantsResponse : Bool) (directedPersonaId : Option PersonaId) :
    (d.withWindow seenByNamespace seenOrder).scheduleAccepted wantsResponse directedPersonaId =
      ((d.scheduleAccepted wantsResponse directedPersonaId).1,
        (d.scheduleAccepted wantsResponse directedPersonaId).2.withWindow seenByNamespace
          seenOrder) := by
  have hpersonas : (d.withWindow seenByNamespace seenOrder).personas = d.personas := rfl
  have hmuted : (d.withWindow seenByNamespace seenOrder).muted = d.muted := rfl
  have hchoose : (d.withWindow seenByNamespace seenOrder).chooseSpeaker directedPersonaId =
      d.chooseSpeaker directedPersonaId := rfl
  simp only [scheduleAccepted, hpersonas, hmuted, hchoose]
  split
  · rfl
  · split
    · rfl
    · split
      · rfl
      · cases d.chooseSpeaker directedPersonaId <;> rfl

namespace Saturated

def ada : PersonaId := ofString "ada"

def bob : PersonaId := ofString "bob"

/-- Both have spoken, and one event more can be counted. -/
def director : Director where
  personas := [ada, bob]
  maxAutonomousTurns := 10
  lastSelectedAt := KeyedTable.set bob (2 ^ 53 - 1) (KeyedTable.set ada (2 ^ 53 - 2) ∅)
  autonomousTurns := 2
  acceptedHumanEventNumber := 2 ^ 53 - 1

/-- The identities of a window. -/
@[irreducible] def earlier : List EventIdentity :=
  (List.range maxTrackedEventIdentities).map fun n => (ofString "earlier", ofNat n)

/-- The director with its window. -/
def written : Director :=
  { director with
    seenByNamespace := KeyedTable.set (ofString "earlier")
      (earlier.map Prod.snd).toFinset ∅
    seenOrder := earlier }

theorem mem_earlier {x : EventIdentity} : x ∈ earlier ↔
    x.1 = ofString "earlier" ∧ x.2 ∈ earlier.map Prod.snd := by
  simp only [earlier, List.mem_map, Prod.ext_iff]
  constructor
  · rintro ⟨n, hn, hx, hid⟩
    exact ⟨hx.symm, (ofString "earlier", ofNat n), ⟨n, hn, rfl, rfl⟩, hid⟩
  · rintro ⟨hx, y, ⟨n, hn, -, hsecond⟩, hid⟩
    exact ⟨n, hn, hx.symm, hsecond.trans hid⟩

theorem canonical_earlier {x : EventIdentity} (hx : x ∈ earlier) :
    IsCanonical (some maxNamespaceLength) x.1 ∧ IsCanonical (some maxEventIdLength) x.2 := by
  have hnamespace : IsCanonical (some maxNamespaceLength) (ofString "earlier") :=
    ⟨by decide, by decide, by rintro m ⟨⟩; decide⟩
  rw [earlier] at hx
  obtain ⟨n, hn, rfl⟩ := List.mem_map.mp hx
  have hdigits : n < 10 ^ 3 := (List.mem_range.mp hn).trans (by decide)
  have hlength : (ofNat n).length ≤ maxEventIdLength :=
    (length_ofNat_le (by decide) hdigits).trans (by decide)
  exact ⟨hnamespace, ofNat_ne_nil n, trim_ofNat n, by rintro m ⟨⟩; exact hlength⟩

theorem length_earlier : earlier.length = maxTrackedEventIdentities := by
  rw [earlier, List.length_map, List.length_range]

theorem window : Window written where
  nodup := by
    show earlier.Nodup
    rw [earlier]
    exact List.nodup_range.map fun m n h => ofNat_injective (Prod.mk.inj h).2
  length_le := length_earlier.le
  canonical _ hx := canonical_earlier hx
  hasSeen_iff x := by
    rw [hasSeen, holds_iff, written, KeyedTable.lookup_set]
    change _ ↔ x ∈ earlier
    rw [mem_earlier]
    split
    · next hx => simp [hx]
    · next hx => simp [hx]

/-- Who was selected, and when. -/
theorem selected {p : PersonaId} {n : ℕ} (h : written.lastSelectedAt.lookup p = some n) :
    p = bob ∧ n = 2 ^ 53 - 1 ∨ p = ada ∧ n = 2 ^ 53 - 2 := by
  simp only [written, director, KeyedTable.lookup_set] at h
  split at h
  · next hp => exact .inl ⟨hp, (Option.some.inj h).symm⟩
  · split at h
    · next hp => exact .inr ⟨hp, (Option.some.inj h).symm⟩
    · cases h

theorem sound : Sound written where
  toWindow := window
  personas_canonical p hp := by
    have hmem : p = ada ∨ p = bob := by simpa [written, director] using hp
    rcases hmem with rfl | rfl <;> exact ⟨by decide, by decide, nofun⟩
  personas_nodup := by decide
  budget_safe := by decide
  muted_mem p hp := absurd hp (Finset.notMem_empty p)
  turns_le := by decide
  selected p n hp := by
    rcases selected hp with ⟨rfl, rfl⟩ | ⟨rfl, rfl⟩ <;> decide
  selected_distinct p q n hp hq := by
    rcases selected hp with ⟨rfl, rfl⟩ | ⟨rfl, rfl⟩ <;>
      rcases selected hq with ⟨rfl, hn⟩ | ⟨rfl, hn⟩ <;>
      first | rfl | exact absurd hn (by decide)
  selections_le := by decide
  rotation := by
    refine .inr ⟨bob, 2 ^ 53 - 1, by decide, by decide, fun q m hq => ?_, by decide⟩
    rcases selected hq with ⟨-, rfl⟩ | ⟨-, rfl⟩ <;> decide
  seen_ge := length_earlier ▸ Nat.min_le_right _ _

/-- The last event that is counted. -/
def answered : DirectorDecision × Director := director.accept.scheduleAccepted true none

/-- Nobody is selected for the next. -/
theorem rests : (answered.2.accept.scheduleAccepted true none).1 = ⟨none, .cooldown⟩ := by
  decide

end Saturated

/-- A director restored when it has accepted `2 ^ 53 - 1` human events selects Ada for the next
one; for the one after it the count has not moved, and it selects nobody, though two personas
are not muted. -/
theorem director_fairness_saturated :
    ∃ first d' : Director,
      construct [Saturated.ada, Saturated.bob] none (some Saturated.written.snapshot) = .ok first ∧
      2 ≤ (first.run [.schedule (some greeting) none]).2.unmuted.length ∧
      (first.run [.schedule (some greeting) none]).2.accepts followUp ∧ followUp.wantsResponse ∧
      (first.run [.schedule (some greeting) none]).2.schedule (some followUp) none =
        .ok (⟨none, .cooldown⟩, d') := by
  obtain ⟨seen, hrestore, hwindow⟩ :=
    restore_snapshot Saturated.sound (by decide) (by decide) (.inl rfl)
  have hearlier : ∀ event : VerifiedDirectorEvent, event.eventNamespace ≠ ofString "earlier" →
      (Saturated.written.withoutMutes seen).hasSeen event.identity = false := by
    intro event hevent
    rw [Bool.eq_false_iff, Ne, hwindow.hasSeen_iff]
    exact fun hmem => hevent (Saturated.mem_earlier.mp hmem).1
  obtain ⟨first, hfirst⟩ : ∃ first, first = Saturated.written.withoutMutes seen := ⟨_, rfl⟩
  rw [← hfirst] at hrestore hearlier
  have haccepts : first.accepts greeting := by
    rw [accepts, hearlier greeting (by decide), hfirst]
    rfl
  have hfields : ∀ seenByNamespace seenOrder, first.withWindow seenByNamespace seenOrder =
      Saturated.director.withWindow seenByNamespace seenOrder := by
    rw [hfirst]
    exact fun _ _ => rfl
  -- the director after the first event, but for its window
  obtain ⟨seenBy, order, hrecorded⟩ : ∃ seenByNamespace seenOrder,
      first.recordSeen greeting.identity =
        Saturated.director.withWindow seenByNamespace seenOrder :=
    ⟨_, _, (recordSeen_frame greeting.identity first).trans (hfields _ _)⟩
  obtain ⟨next, hnext⟩ : ∃ next, next = Saturated.answered.2.withWindow seenBy order := ⟨_, rfl⟩
  have hrun : (first.run [.schedule (some greeting) none]).2 = next := by
    have hs := schedule_accepts haccepts
    rw [hrecorded, accept_withWindow, scheduleAccepted_withWindow] at hs
    have hperform : (first.run [.schedule (some greeting) none]).2 =
        (first.perform (.schedule (some greeting) none)).2 := rfl
    rw [hperform, perform, hs, hnext, Saturated.answered]
    rfl
  have hunseen : next.hasSeen followUp.identity = false := by
    rw [Bool.eq_false_iff]
    intro hseen
    have hseen : (first.recordSeen greeting.identity).hasSeen followUp.identity := by
      rw [hrecorded]
      rw [hnext] at hseen
      exact hseen
    obtain hseen | heq := hasSeen_recordSeen hseen
    · rw [hearlier followUp (by decide)] at hseen
      cases hseen
    · exact absurd heq (by decide)
  have haccepts' : next.accepts followUp := by
    rw [accepts, hunseen, hnext]
    rfl
  have hunmuted : next.unmuted = [Saturated.ada, Saturated.bob] := by
    rw [hnext]
    rfl
  have hrests : ((next.recordSeen followUp.identity).accept.scheduleAccepted true none).1 =
      ⟨none, .cooldown⟩ := by
    have hframe : next.recordSeen followUp.identity = Saturated.answered.2.withWindow
        (next.recordSeen followUp.identity).seenByNamespace
        (next.recordSeen followUp.identity).seenOrder := by
      rw [recordSeen_frame followUp.identity next, hnext]
      rfl
    rw [hframe, accept_withWindow, scheduleAccepted_withWindow]
    exact Saturated.rests
  refine ⟨first, ((next.recordSeen followUp.identity).accept.scheduleAccepted true none).2,
    hrestore, ?_⟩
  rw [hrun, hunmuted, ← hrests]
  exact ⟨le_rfl, haccepts', rfl, schedule_accepts haccepts'⟩

end Director
end GreenRoom.Core
