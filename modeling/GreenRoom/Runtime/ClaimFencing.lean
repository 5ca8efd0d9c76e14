import GreenRoom.Runtime.ExactlyOnce

/-!
# Claims fence replies

A reply is committed under the claim its work was started under, and only while that
claim is recorded and unexpired.  An execution draws its owner token once, so claims
are told apart by the number of their grant, not by their owner.

## Main definitions

* `System.recordedClaim` — the claim a command's row records.
* `System.Completing` — an execution is about to commit what a work has produced.
* `UnderClaim` — what is asked of the work at the commit.

## Main results

* `Step.reply` — a reply is committed under its claim.
* `recordedClaim_lost`, `claim_expired` — a claim that is lost or has expired stays so.
* `claim_fencing`
-/

namespace GreenRoom.Runtime

open GreenRoom.Core Providers

/-- The claim recorded for a command, by the number of its grant. -/
def System.recordedClaim (s : System) (key : CommandKey) : Option ℕ :=
  (s.db.claim key).bind fun _ => (s.granted key).map Grant.id

/-- The execution is about to commit what the work has produced. -/
def System.Completing (s : System) (token : Token) (key : CommandKey) (work : ℕ) : Prop :=
  ∃ e pending generated, s.executions.lookup token = some e ∧ e.key = key ∧
    e.phase = .completing pending generated (some work)

/-- The work has produced `text`, under the claim that is recorded and unexpired at `clock`. -/
structure UnderClaim (s : System) (key : CommandKey) (token : Token) (clock : ℤ) (work : ℕ)
    (text : JsString) : Prop where
  delivered : s.Delivered work (.text text)
  recorded : ∃ w, s.works.lookup work = some w ∧ w.token = token ∧
    s.recordedClaim key = some w.grant
  unexpired : ∃ expiresAt : ℕ, s.db.claim key = some ⟨token, expiresAt⟩ ∧ clock < expiresAt

/-! ## Who commits replies -/

/-- No reply is put into the log. -/
def Speechless (db db' : Db) : Prop :=
  ∀ roomId n speaker source text, db'.event roomId n = some (.personaMessage speaker source text) →
    db.event roomId n ≠ none

theorem Speechless.of_events {db db' : Db} (h : db'.events = db.events) : Speechless db db' := by
  intro roomId n speaker source text he hnone
  rw [Db.event, h, ← Db.event, hnone] at he
  cases he

theorem Speechless.of_eq {db db' : Db} (h : db' = db) : Speechless db db' :=
  .of_events (by rw [h])

theorem Speechless.of_accepted {command : MessageCommand} {requestDigest : JsString}
    {decision : DirectorDecision} {room : RoomRow} {state : DirectorStateRow} {db db' : Db}
    (h : Accepted command requestDigest decision room state db db') : Speechless db db' := by
  obtain ⟨human, hevents, -⟩ := h.events
  intro roomId n speaker source text he hnone
  rw [Db.event, hevents, KeyedTable.lookup_insert, KeyedTable.lookup_insert, ← Db.event,
    hnone] at he
  split at he
  · cases he
  · split at he <;> cases he

theorem Speechless.of_opened {sessionId : RoomId} {db db' : Db} (h : db.Opened sessionId db') :
    Speechless db db' := by
  obtain ⟨cast, hevents⟩ := h.events
  intro roomId n speaker source text he hnone
  rw [Db.event_insert hevents, hnone] at he
  split at he <;> cases he

theorem Prepared.speechless {options : ServiceOptions} {command : MessageCommand}
    {requestDigest claimOwner : JsString} {clock : ℤ} {db db' : Db} {prepared : PreparedMessage}
    (h : Prepared options command requestDigest claimOwner clock db db' prepared) :
    Speechless db db' := by
  cases h with
  | known result _ hdb => exact .of_eq hdb
  | watched observedUntil pending hdb => exact .of_eq hdb
  | taken pending now _ _ _ hquiet _ => exact .of_events hquiet.events
  | unscheduled decision room state haccepted _ _ => exact .of_accepted haccepted
  | scheduled decision room state speaker now haccepted _ _ _ => exact .of_accepted haccepted

theorem RoomControlEffect.events {kind : RoomControl} {key : CommandKey} {requestDigest : JsString}
    {db db' : Db} {answer : ControlAnswer}
    (h : RoomControlEffect kind key requestDigest db db' answer) : db'.events = db.events := by
  rcases h with ⟨-, hdb, -⟩ | ⟨result, hcontrolled, -⟩
  · rw [hdb]
  · exact hcontrolled.events

theorem PersonaControlEffect.events {kind : PersonaControl} {key : CommandKey}
    {personaId : ParticipantId} {requestDigest : JsString} {db db' : Db} {answer : ControlAnswer}
    (h : PersonaControlEffect kind key personaId requestDigest db db' answer) :
    db'.events = db.events := by
  rcases h with ⟨-, hdb, -⟩ | ⟨result, hcontrolled, -⟩
  · rw [hdb]
  · exact hcontrolled.events

theorem speechless_of_transact {α : Type} {action : DbProgram α} {faults : Faults JsError}
    {db db' : Db} {answer : Except JsError α} (h : transact faults action db = (answer, db'))
    (hreturns : ∀ a, action.Returns db a db' → Speechless db db') : Speechless db db' := by
  cases answer with
  | error error => exact .of_eq (transact_error h)
  | ok a => exact hreturns a (returns_of_transact h)

section

variable {host : Host} {s t : System} {l : Label}

/-- The claim an execution was last granted is the one recorded, if it owns that. -/
theorem Inv.recordedClaim (h : Inv host s) {token : Token} {e : Execution} {c : Claim}
    (he : s.executions.lookup token = some e) (hc : s.db.claim e.key = some c)
    (howner : c.owner = token) : s.recordedClaim e.key = e.grant := by
  obtain ⟨g, hg, htoken⟩ := h.claims e.key c hc
  obtain ⟨-, e', he', -, hgrant⟩ := h.granted e.key g hg
  rw [htoken, howner] at he'
  obtain rfl := Option.some.inj (he.symm.trans he')
  rw [System.recordedClaim, hc, hg, hgrant]
  rfl

/-- Only `completeMessage` commits replies, and it does so under the claim. -/
theorem Step.reply (h : Inv host s) (hstep : Step host s l t) {roomId : RoomId} {n : ℕ}
    {speaker : ParticipantId} {source : ℕ} {text : JsString} (hnone : s.db.event roomId n = none)
    (hevent : t.db.event roomId n = some (.personaMessage speaker source text)) :
    ∃ key token clock work requestDigest message room, key.1 = roomId ∧
      l = .transaction (.complete token clock) none ∧ s.Completing token key work ∧
      UnderClaim s key token clock work text ∧ message.humanEventSequence = source ∧
      Replied key requestDigest message speaker text room s.db t.db := by
  have hspeechless : ∀ {db' : Db}, t.db = db' → Speechless s.db db' → False :=
    fun hdb h => h _ _ _ _ _ (hdb ▸ hevent) hnone
  cases hstep with
  | complete token e service pending generated work faults clock answer db' he _ _ hphase ht =>
      cases answer with
      | error error =>
          exact (hspeechless rfl (.of_eq (transact_error ht))).elim
      | ok result =>
          have hvalid := h.executions _ _ he
          have hcompleted := completed_of_transact hvalid hphase ht rfl
          cases hcompleted with
          | known result _ hdb => exact (hspeechless rfl (.of_eq hdb)).elim
          | lost hdb => exact (hspeechless rfl (.of_eq hdb)).elim
          | settled outcome hsettled _ => exact (hspeechless rfl (.of_events hsettled.events)).elim
          | replied speaker' text' room now expiresAt hresult hnow hclaim hlive hreplied _ =>
              -- The reply is the one event that is new.
              change db'.event roomId n = _ at hevent
              rw [Db.event_insert hreplied.events, hnone] at hevent
              split at hevent
              · next hplace =>
                  obtain ⟨rfl, rfl⟩ := Prod.mk.inj hplace
                  obtain ⟨rfl, rfl, rfl⟩ := by simpa using hevent
                  obtain ⟨i, rfl, ⟨w, hw, htoken, hgrant⟩, hdelivered⟩ :=
                    hvalid.completing pending generated work _ hphase hresult
                  refine ⟨e.key, token, clock, i, _, _, room, rfl, rfl,
                    ⟨e, pending, generated, he, rfl, hphase⟩,
                    ⟨hdelivered, ⟨w, hw, htoken, ?_⟩, expiresAt, hclaim, ?_⟩, rfl, hreplied⟩
                  · rw [h.recordedClaim he hclaim rfl, hgrant]
                  · rw [← hnow]
                    exact_mod_cast hlive
              · cases hevent
  | prepare token e service faults clock answer db' he _ _ _ ht =>
      obtain ⟨grants, granted, hgrant⟩ :=
        System.grantIfClaimed_frame e.key token answer (s.commit (some e.key) db')
      exact (@hspeechless db' (by rw [hgrant]; rfl) (speechless_of_transact ht fun _ hr =>
        (prepareMessage_returns hr).speechless)).elim
  | pin token e service pending faults answer db' _ _ _ ht =>
      exact (hspeechless rfl (speechless_of_transact ht fun _ hr =>
        .of_events (pinProviderDecision_returns hr).1.events)).elim
  | renew token e service faults clock answer db' _ _ _ _ _ _ ht =>
      exact (hspeechless rfl (speechless_of_transact ht fun _ hr =>
        .of_events (renewClaim_returns hr).1.events)).elim
  | discard token e pending error faults answer db' _ _ ht =>
      exact (hspeechless rfl (speechless_of_transact ht fun _ hr =>
        .of_events (releaseClaim_returns hr).1.events)).elim
  | release token e pending error faults answer db' _ _ ht =>
      exact (hspeechless rfl (speechless_of_transact ht fun _ hr =>
        .of_events (releaseClaim_returns hr).1.events)).elim
  | closeRelease token e service faults answer db' _ _ _ _ ht =>
      exact (hspeechless rfl (speechless_of_transact ht fun _ hr =>
        .of_events (releaseClaim_returns hr).1.events)).elim
  | roomControl id service kind command faults answer db' _ _ ht =>
      refine (hspeechless rfl (speechless_of_transact ht fun _ hr => ?_)).elim
      obtain ⟨_, heffect⟩ := roomControl_returns hr
      exact .of_events heffect.events
  | personaControl id service kind command faults answer db' _ _ ht =>
      refine (hspeechless rfl (speechless_of_transact ht fun _ hr => ?_)).elim
      obtain ⟨_, heffect⟩ := personaControl_returns hr
      exact .of_events heffect.events
  | replaceCast id service uuids command faults answer db' _ _ ht =>
      refine (hspeechless rfl (speechless_of_transact ht fun _ hr => ?_)).elim
      rcases replaceCast_returns hr with hdb | ⟨sessionId, hopened⟩
      · exact .of_eq hdb
      · exact .of_opened hopened
  | selectRoom command faults answer db' ht =>
      exact (hspeechless rfl (speechless_of_transact ht fun _ hr =>
        .of_events (selectRoom_returns hr).events)).elim
  | providers db' hchange =>
      obtain ⟨providers, rfl⟩ := hchange.frame
      exact (hspeechless rfl (.of_events rfl)).elim
  | _ => exact (hspeechless rfl (.of_events rfl)).elim

/-! ## What is lost stays lost -/

/-- The recorded claim of a command stays, goes, or is one that is granted now. -/
theorem ClaimEffect.recordedClaim (h : ClaimEffect s l t) (key : CommandKey) :
    t.recordedClaim key = s.recordedClaim key ∨ t.recordedClaim key = none ∨
      t.recordedClaim key = some s.grants := by
  cases h with
  | kept hclaims _ hgranted =>
      rcases hclaims key with hk | hk
      · exact .inl (by rw [System.recordedClaim, System.recordedClaim, hk, hgranted])
      · exact .inr (.inl (by rw [System.recordedClaim, hk]; rfl))
  | renewed key' token now _ hclaims _ hgranted =>
      refine .inl ?_
      rw [System.recordedClaim, System.recordedClaim, hgranted]
      rcases hclaims key with hk | ⟨-, expiresAt, expiresAt', hold, -, hnew⟩
      · rw [hk]
      · rw [hold, hnew]
        rfl
  | granted token e e' expiresAt _ _ _ _ hclaims _ hgranted =>
      rw [System.recordedClaim, System.recordedClaim, hclaims, hgranted]
      simp only [System.grant]
      split
      · exact .inr (.inr rfl)
      · exact .inl rfl

/-- A claim that is no longer recorded is never recorded again. -/
theorem recordedClaim_lost (hs : (roomSystem host Fresh).Reachable s) {ls : List Label}
    (hrun : (roomSystem host Fresh).Run s ls t) {key : CommandKey} {g : ℕ} (hg : g < s.grants)
    (hlost : s.recordedClaim key ≠ some g) : t.recordedClaim key ≠ some g := by
  refine ((inv_inductive fun _ h => h).stable (P := fun s => g < s.grants ∧
    s.recordedClaim key ≠ some g) ?_ hs hrun ⟨hg, hlost⟩).2
  intro s l t h ⟨hg, hlost⟩ hstep
  have heffect := hstep.claims h.executions
  refine ⟨hg.trans_le heffect.grants_le, ?_⟩
  rcases heffect.recordedClaim key with heq | heq | heq
  · rw [heq]
    exact hlost
  · simp [heq]
  · rw [heq]
    intro hcontra
    rw [Option.some.inj hcontra] at hg
    exact lt_irrefl _ hg

/-- A reading that is not before `τ`. -/
def Label.NotBefore (τ : ℤ) (l : Label) : Prop := ∀ reading, l.clock = some reading → τ ≤ reading

/-- A claim that has expired is not prolonged, as long as no clock goes back. -/
theorem claim_expired (hs : (roomSystem host Fresh).Reachable s) {ls : List Label}
    (hrun : (roomSystem host Fresh).Run s ls t) {key : CommandKey} {g : ℕ} {τ : ℤ}
    (hτ : ∀ l ∈ ls, l.NotBefore τ) (hg : g < s.grants)
    (hexpired : s.recordedClaim key = some g → ∀ c, s.db.claim key = some c → c.expiresAt ≤ τ) :
    t.recordedClaim key = some g → ∀ c, t.db.claim key = some c → c.expiresAt ≤ τ := by
  refine ((inv_inductive fun _ h => h).stable_on (P := fun s => g < s.grants ∧
    (s.recordedClaim key = some g → ∀ c, s.db.claim key = some c → c.expiresAt ≤ τ))
    ?_ hs hrun hτ ⟨hg, hexpired⟩).2
  intro s l t h hτ ⟨hg, hexpired⟩ hstep
  have heffect := hstep.claims h.executions
  refine ⟨hg.trans_le heffect.grants_le, fun hrecorded c hc => ?_⟩
  -- The claim is an old one, so it was recorded before the step.
  have hold : s.recordedClaim key = some g := by
    rcases heffect.recordedClaim key with heq | heq | heq
    · rw [← heq, hrecorded]
    · rw [heq] at hrecorded
      cases hrecorded
    · rw [heq] at hrecorded
      rw [Option.some.inj hrecorded] at hg
      exact absurd hg (lt_irrefl _)
  cases heffect with
  | kept hclaims _ _ =>
      rcases hclaims key with hk | hk
      · exact hexpired hold c (hk ▸ hc)
      · rw [hk] at hc
        cases hc
  | renewed key' token now hclock hclaims _ _ =>
      rcases hclaims key with hk | ⟨-, expiresAt, expiresAt', hbefore, hlive, -⟩
      · exact hexpired hold c (hk ▸ hc)
      · -- It would have been renewed at a reading at which it had expired.
        have hle := hexpired hold _ hbefore
        have hnow := hτ _ hclock
        simp only at hle
        omega
  | granted token e e' expiresAt _ _ _ _ hclaims _ hgranted =>
      rw [hclaims] at hc
      split at hc
      · next hk =>
          rw [System.recordedClaim, hclaims, hgranted] at hrecorded
          simp only [System.grant, if_pos hk, Option.bind_some, Option.map_some,
            Option.some.injEq] at hrecorded
          omega
      · exact hexpired hold c hc

/-- **Claim fencing.**  Every reply is committed by `completeMessage`, with the text of
a work that was started under the claim that is recorded and unexpired then.  And
for a work started by `s`, if what it has produced is committed later, its claim is
recorded in `s`, and has not expired in `s` by any time no later clock goes behind:
what has expired, has been released or taken over in `s` is never committed. -/
theorem claim_fencing (hs : (roomSystem host Fresh).Reachable s) :
    (∀ l t, Step host s l t → ∀ roomId n speaker source text, s.db.event roomId n = none →
      t.db.event roomId n = some (.personaMessage speaker source text) →
        ∃ key token clock work requestDigest message, key.1 = roomId ∧
          l = .transaction (.complete token clock) none ∧ s.Completing token key work ∧
          UnderClaim s key token clock work text ∧
          s.db.recorded key = some ⟨requestDigest, .pending message⟩ ∧
          message.humanEventSequence = source) ∧
    (∀ work w, s.works.lookup work = some w → ∀ ls t, (roomSystem host Fresh).Run s ls t →
      ∀ key token clock error u, Step host t (.transaction (.complete token clock) error) u →
        t.Completing token key work → ∀ n speaker source text, t.db.event key.1 n = none →
        u.db.event key.1 n = some (.personaMessage speaker source text) →
          s.recordedClaim key = some w.grant ∧
          ∀ τ : ℤ, (∀ l ∈ ls, l.NotBefore τ) → τ ≤ clock →
            ∃ c, s.db.claim key = some c ∧ τ < c.expiresAt) := by
  have hinv : (roomSystem host Fresh).Inductive (Inv host) := inv_inductive fun _ h => h
  constructor
  · intro l t hstep roomId n speaker source text hnone hevent
    obtain ⟨key, token, clock, work, requestDigest, message, room, hroom, hl, hcompleting, hclaim,
      hsource, hreplied⟩ := hstep.reply (hinv.reachable hs) hnone hevent
    exact ⟨key, token, clock, work, requestDigest, message, hroom, hl, hcompleting, hclaim,
      hreplied.pending, hsource⟩
  · intro work w hw ls t hrun key token clock error u hstep hcompleting n speaker source text hnone
      hevent
    obtain ⟨key', token', clock', work', _, _, _, -, hl, hcompleting', hclaim, -, -⟩ :=
      hstep.reply (hinv.reachable (hs.run hrun)) hnone hevent
    simp only [Label.transaction.injEq, Operation.complete.injEq] at hl
    obtain ⟨⟨rfl, rfl⟩, -⟩ := hl
    obtain ⟨e, pending, generated, he, rfl, hphase⟩ := hcompleting
    obtain ⟨e', pending', generated', he', rfl, hphase'⟩ := hcompleting'
    obtain rfl := Option.some.inj (he.symm.trans he')
    rw [hphase] at hphase'
    simp only [Phase.completing.injEq, Option.some.injEq] at hphase'
    obtain ⟨-, -, rfl⟩ := hphase'
    obtain ⟨w', hw', -, hrecorded⟩ := hclaim.recorded
    -- The work is still the one it was in `s`.
    have hgrant : w'.grant = w.grant := by
      obtain ⟨w'', hw'', -, hgrant, -⟩ := hinv.relates (R := WorksKept) (fun s => .of_eq rfl)
        (fun _ _ _ => .trans) (fun _ _ _ _ hstep => hstep.works) hs hrun work w hw
      rw [← hgrant, Option.some.inj (hw'.symm.trans hw'')]
    have hlt := (hinv.reachable hs).works work w hw
    have hstill : s.recordedClaim e.key = some w.grant := by
      by_contra hlost
      exact recordedClaim_lost hs hrun hlt hlost (hgrant ▸ hrecorded)
    refine ⟨hstill, fun τ hτ hclock => ?_⟩
    rcases hc : s.db.claim e.key with - | c
    · rw [System.recordedClaim, hc] at hstill
      cases hstill
    · refine ⟨c, rfl, ?_⟩
      by_contra hle
      obtain ⟨expiresAt, hexpires, hlive⟩ := hclaim.unexpired
      have := claim_expired hs hrun hτ hlt (fun _ c' hc' => by
        obtain rfl := Option.some.inj (hc.symm.trans hc')
        exact not_lt.mp hle) (hgrant ▸ hrecorded) _ hexpires
      simp only at this
      omega

end

theorem claim_fencing_hello :
    Hello.s₈.recordedClaim Hello.command.key = some 0 ∧
      ∃ c, Hello.s₈.db.claim Hello.command.key = some c ∧ (2000 : ℤ) < c.expiresAt := by
  have h := (claim_fencing Hello.reachable).2 0 _ (AList.lookup_insert _) [] _ (.nil _)
    Hello.command.key Hello.token 2000 none _ Hello.completes
    ⟨_, _, _, AList.lookup_insert _, rfl, rfl⟩ 3 Hello.persona 1 (JsString.ofString "Hi") rfl rfl
  exact ⟨h.1, h.2 2000 (by simp) le_rfl⟩

end GreenRoom.Runtime
