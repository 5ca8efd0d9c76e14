import GreenRoom.Iphone.AtomicTurns

/-!
# The consent gate

The database keeps the current selection and at most one consent; that the consent was
given for this selection, and after its last change, is a fact about the run.

## Main definitions

* `ProviderEffect` — what a write does to the selection and the consent.
* `AcceptedSince` — the current selection was accepted, and has not changed since.

## Main results

* `Write.providerEffect` — every write has one of the three effects.
* `Write.enters_flight` — what begins an attempt.
* `consent_gate`
-/

namespace GreenRoom.Iphone

variable {db db' : Store} {n : ℕ} {w : Write}

/-- What a write does to the selection and the consent. -/
inductive ProviderEffect (w : Write) (db db' : Store) : Prop
  | kept (selection : db'.selection = db.selection) (consent : db'.consent = db.consent)
  /-- The selection is saved, and a change of it clears the consent. -/
  | saved (new : ProviderSelection) (selection : db'.selection = some new)
      (consent : db'.consent = if db.selection.any (· ≠ new) then none else db.consent)
  /-- The selection is saved and accepted. -/
  | accepted (new : ProviderSelection) (definition disclosure : ℕ)
      (write : w = .saveProviderSelectionAndConsent new definition disclosure)
      (selection : db'.selection = some new)

theorem CommandEffect.keepsProvider (h : CommandEffect db db') : KeepsProvider db db' := by
  cases h with
  | unchanged eq =>
      subst eq
      exact ⟨rfl, rfl⟩
  | prepared _ _ _ _ _ _ eq =>
      subst eq
      exact ⟨rfl, rfl⟩
  | updated _ _ _ _ eq =>
      obtain ⟨-, ⟨-, rfl⟩ | ⟨-, hturn⟩⟩ := updateCommand_spec eq
      · exact ⟨rfl, rfl⟩
      · rw [hturn.frame]
        exact ⟨rfl, rfl⟩
  | swept _ _ _ _ frame =>
      rw [frame]
      exact ⟨rfl, rfl⟩

theorem Write.providerEffect (h : w.exec db = some (db', n)) : ProviderEffect w db db' := by
  cases hcommands : w.onCommands with
  | true =>
      have hkept := (Write.effect hcommands h).keepsProvider
      exact .kept hkept.selection hkept.consent
  | false =>
      cases w with
      | statement s =>
          cases hselection : s.savesSelection with
          | false =>
              have hapart := Statement.exec_apart hcommands hselection h
              exact .kept hapart.selection hapart.consent
          | true =>
              cases s with
              | saveProviderSelection selection =>
                  obtain ⟨-, rfl⟩ | ⟨-, rfl⟩ := saveProviderSelection_spec h
                  · exact .kept rfl rfl
                  · exact .saved selection rfl rfl
              | _ => cases hselection
      | createLocalRoom room =>
          obtain ⟨-, hkept, -⟩ := NewRoom.create_apart h
          exact .kept hkept.selection hkept.consent
      | saveProviderSelectionAndConsent selection definition disclosure =>
          obtain rfl := saveProviderSelectionAndConsent_spec h
          exact .accepted selection definition disclosure rfl rfl
      | markCredentialReady id | markCredentialMissing id | markCredentialUnavailable id =>
          have hapart := markCredential_keeps (changing_eq_some.mp h).1
          exact .kept hapart.selection hapart.consent
      | _ => cases hcommands

/-! ## Acceptances -/

/-- The write accepts the data use of a selection. -/
def Write.accepts : Write → Option ProviderSelection
  | .saveProviderSelectionAndConsent selection _ _ => some selection
  | _ => none

/-- The run `ws` from `db₀` to `db` accepted the current selection, and in no state since
has the selection been another one. -/
def AcceptedSince (db₀ : Store) (ws : List Write) (db : Store) : Prop :=
  ∃ selection, db.selection = some selection ∧
    ∃ us w vs accepted, ws = us ++ w :: vs ∧ w.accepts = some selection ∧
      storeSystem.Run db₀ (us ++ [w]) accepted ∧
      storeSystem.RunIn (fun db => db.selection = some selection) accepted vs db

theorem AcceptedSince.step {db₀ : Store} {ws : List Write} (h : AcceptedSince db₀ ws db)
    (hstep : storeSystem.step db w db') (hsame : db'.selection = db.selection) :
    AcceptedSince db₀ (ws ++ [w]) db' := by
  obtain ⟨selection, hselection, us, v, vs, accepted, rfl, haccepts, hrun, hin⟩ := h
  refine ⟨selection, hsame.trans hselection, us, v, vs ++ [w], accepted, by simp, haccepts, hrun,
    hin.snoc hstep (hsame.trans hselection)⟩

/-- **A consent in the database is one for the current selection**, given after the last
change of the selection. -/
theorem acceptedSince_of_consent {db₀ : Store} (hinit : storeSystem.init db₀) {ws : List Write}
    (hrun : storeSystem.Run db₀ ws db) (hconsent : db.consent ≠ none) :
    AcceptedSince db₀ ws db := by
  refine hrun.induction_end (motive := fun ws db => db.consent ≠ none → AcceptedSince db₀ ws db)
    (fun h => absurd hinit.2.1 h) ?_ hconsent
  intro ws s w t hrun ih hstep hconsent
  obtain ⟨n, hexec⟩ := hstep.2
  cases Write.providerEffect hexec with
  | kept selection consent =>
      rw [consent] at hconsent
      exact (ih hconsent).step hstep selection
  | saved new selection consent =>
      rw [consent] at hconsent
      split at hconsent
      · exact absurd rfl hconsent
      · next hsame =>
          have haccepted := ih hconsent
          refine haccepted.step hstep ?_
          obtain ⟨old, hold, -⟩ := haccepted
          rw [hold] at hsame ⊢
          simp only [Option.any_some, decide_eq_true_eq, ne_eq, not_not] at hsame
          rw [selection, hsame]
  | accepted new definition disclosure write selection =>
      subst write
      exact ⟨new, selection, ws, _, [], t, rfl, rfl, hrun.append (.single hstep), .nil selection⟩

/-- Without a selection there is no consent. -/
theorem consent_inductive :
    storeSystem.Inductive fun db => db.selection = none → db.consent = none where
  init db h _ := h.2.1
  step db w db' h hstep hselection := by
    obtain ⟨n, hexec⟩ := hstep.2
    cases Write.providerEffect hexec with
    | kept selection consent =>
        rw [consent]
        exact h (selection ▸ hselection)
    | saved new selection consent =>
        rw [selection] at hselection
        cases hselection
    | accepted new definition disclosure write selection =>
        rw [selection] at hselection
        cases hselection

/-- Along a run without an acceptance, a consent that is there at the end was there all
along, and so was the selection. -/
theorem selection_of_consent {ws : List Write} (hs : storeSystem.Reachable db)
    (hrun : storeSystem.Run db ws db') (hnone : ∀ w ∈ ws, w.accepts = none)
    (hconsent : db'.consent ≠ none) : db'.selection = db.selection ∧ db.consent ≠ none := by
  refine hrun.induction_end (motive := fun ws db' => (∀ w ∈ ws, w.accepts = none) →
    db'.consent ≠ none → db'.selection = db.selection ∧ db.consent ≠ none)
    (fun _ h => ⟨rfl, h⟩) ?_ hnone hconsent
  intro ws t w u hrun ih hstep hnone hconsent
  have ih := ih fun w hw => hnone w (List.mem_append_left _ hw)
  obtain ⟨n, hexec⟩ := hstep.2
  cases Write.providerEffect hexec with
  | kept selection consent =>
      rw [consent] at hconsent
      rw [selection]
      exact ih hconsent
  | saved new selection consent =>
      rw [consent] at hconsent
      split at hconsent
      · exact absurd rfl hconsent
      · next hsame =>
          have hold : t.selection ≠ none := fun h =>
            hconsent (consent_inductive.reachable (hs.run hrun) h)
          obtain ⟨old, hold⟩ := Option.ne_none_iff_exists'.mp hold
          rw [hold] at hsame
          simp only [Option.any_some, decide_eq_true_eq, ne_eq, not_not] at hsame
          obtain ⟨hselection, hthere⟩ := ih hconsent
          exact ⟨by rw [selection, ← hselection, hold, hsame], hthere⟩
  | accepted new definition disclosure write _ =>
      subst write
      have haccepts := hnone _ (List.mem_append_right _ List.mem_cons_self)
      cases haccepts

/-! ## The gate -/

theorem Store.authority_spec {a : ProviderAuthority} (h : db.authority = some a) :
    db.selection = some a.selection ∧ db.consent = some a.consent ∧
      a.consent.providerId = a.selection.providerId ∧ a.consent.model = a.selection.model := by
  simp only [Store.authority, Option.bind_eq_bind, Option.bind_eq_some_iff] at h
  obtain ⟨selection, hselection, profile, -, credential, -, consent, hconsent, h⟩ := h
  split at h
  · next hagree =>
      cases h
      exact ⟨hselection, hconsent, hagree.2.2.1, hagree.2.2.2⟩
  · cases h

/-- The write moves a command into flight. -/
def EntersFlight (db db' : Store) (id : String) (row : CommandRow) : Prop :=
  db.commands.lookup id = some row ∧ row.state ≠ .inFlight ∧
    ∃ row', db'.commands.lookup id = some row' ∧ row'.state = .inFlight

/-- Only `begin_generation_command` moves a command into flight, and only with a consent to
the selection the command's plan names. -/
theorem Write.enters_flight (hpermitted : w.Permitted) (h : w.exec db = some (db', n))
    {id : String} {row : CommandRow} (hflight : EntersFlight db db' id row) :
    (∃ ident credentialRef mutationId, w = .statement
      (.beginGenerationCommand ident row.requestPlan row.attemptEpoch credentialRef
        mutationId)) ∧
    ∃ selection consent, db.selection = some selection ∧ selection.Matches row.requestPlan ∧
      db.consent = some consent ∧ consent.providerId = selection.providerId ∧
      consent.model = selection.model := by
  obtain ⟨hrow, hbefore, row', hrow', hafter⟩ := hflight
  cases hcommands : w.onCommands with
  | false =>
      obtain ⟨hsame, -⟩ := Write.elsewhere hpermitted hcommands h
      rw [hsame, hrow] at hrow'
      cases hrow'
      exact absurd hafter hbefore
  | true =>
      obtain ⟨new, hnew, hcases⟩ := Write.row_cases hcommands h hrow
      rw [hrow'] at hnew
      cases hnew
      obtain rfl | ⟨-, hwrite⟩ := hcases
      · exact absurd hafter hbefore
      · cases hwrite with
        | begins ident credentialRef mutationId names state kind beginnable =>
            refine ⟨⟨ident, credentialRef, mutationId, rfl⟩, ?_⟩
            simp only [beginnableCommand, Bool.and_eq_true] at beginnable
            obtain ⟨a, ha, hmatches⟩ := (Option.any_eq_true _ _).mp beginnable.1
            simp only [Bool.and_eq_true, decide_eq_true_eq] at hmatches
            obtain ⟨hselection, hconsent, hprovider, hmodel⟩ := Store.authority_spec ha
            exact ⟨a.selection, a.consent, hselection, hmatches.1.1.1.1.1.1, hconsent, hprovider,
              hmodel⟩
        | _ => cases hafter

/-- **The consent gate.**  Along every run, a write moves a command into flight only where
the current selection, which the command's plan names, was accepted and has not changed
since.  Where a run without an acceptance leads away from a selection, no command is moved
into flight after it, whatever the selection is by then. -/
theorem consent_gate {db₀ : Store} (hinit : storeSystem.init db₀) {ws : List Write}
    (hrun : storeSystem.Run db₀ ws db) :
    (∀ w db' id row, storeSystem.step db w db' → EntersFlight db db' id row →
      AcceptedSince db₀ ws db ∧
      ∃ selection consent, db.selection = some selection ∧ selection.Matches row.requestPlan ∧
        db.consent = some consent ∧ consent.providerId = selection.providerId ∧
        consent.model = selection.model) ∧
    ∀ us db₁ vs db₂, storeSystem.Run db us db₁ → storeSystem.Run db₁ vs db₂ →
      (∀ w ∈ us ++ vs, w.accepts = none) → db₁.selection ≠ db.selection →
      ∀ w db' id row, storeSystem.step db₂ w db' → ¬ EntersFlight db₂ db' id row := by
  have hs : storeSystem.Reachable db := ⟨db₀, ws, hinit, hrun⟩
  refine ⟨fun w db' id row hstep hflight => ?_,
    fun us db₁ vs db₂ hus hvs hnone hchange w db' id row hstep hflight => ?_⟩
  · obtain ⟨n, hexec⟩ := hstep.2
    obtain ⟨-, selection, consent, hselection, hmatches, hconsent, hrest⟩ :=
      Write.enters_flight hstep.1 hexec hflight
    refine ⟨acceptedSince_of_consent hinit hrun ?_, selection, consent, hselection, hmatches,
      hconsent, hrest⟩
    rw [hconsent]
    exact Option.some_ne_none _
  · obtain ⟨n, hexec⟩ := hstep.2
    obtain ⟨-, selection, consent, -, -, hconsent, -⟩ := Write.enters_flight hstep.1 hexec hflight
    have hthere : db₂.consent ≠ none := by
      rw [hconsent]
      exact Option.some_ne_none _
    have hthere₁ := (selection_of_consent (hs.run hus) hvs
      (fun w hw => hnone w (List.mem_append_right _ hw)) hthere).2
    have hsame := (selection_of_consent hs hus
      (fun w hw => hnone w (List.mem_append_left _ hw)) hthere₁).1
    exact hchange hsame

/-! A room in which the message is put to a provider. -/
namespace Asked

open JsString

def room : NewRoom :=
  { roomId := "room-33333333-3333-4333-8333-333333333333"
    title := "Ada Room"
    humanId := "human-44444444-4444-4444-8444-444444444444"
    inferenceMode := .provider
    personas := [("ada", "Ada")] }

def selection : ProviderSelection :=
  { providerId := "openai", profileId := "iphone.openai", profileRevision := 1, model := "gpt-5" }

def credential : CredentialIdentity :=
  { profileId := "iphone.openai"
    profileRevision := 1
    providerId := "openai"
    credentialRef := "credential:iphone.openai:1"
    mutationId := "55555555-5555-4555-8555-555555555555" }

def identity : CommandIdentity :=
  { commandId := "11111111-1111-4111-8111-111111111111"
    requestId := "22222222-2222-4222-8222-222222222222"
    requestDigest := "00000000000000000000000000000000000000000000000000000000000000aa" }

/-- The command that asks Ada. -/
def command : GenerationCommand :=
  { requestId := identity.requestId
    roomId := room.roomId
    requestDigest := identity.requestDigest
    requestPlan := .obj
      [(ofString "kind", .str (ofString "provider")),
        (ofString "requestId", .str (ofString identity.requestId)),
        (ofString "roomId", .str (ofString room.roomId)),
        (ofString "sourceEventSequence", .num 1),
        (ofString "personaSlug", .str (ofString "ada")),
        (ofString "providerId", .str (ofString "openai")),
        (ofString "profileId", .str (ofString "iphone.openai")),
        (ofString "profileRevision", .num 1),
        (ofString "model", .str (ofString "gpt-5"))]
    humanEvent := .obj
      [(ofString "participantId", .str (ofString room.humanId)),
        (ofString "text", .str (ofString "Hello")),
        (ofString "type", .str (ofString "human_message"))]
    directorEvent := .obj
      [(ofString "generation", .num 0),
        (ofString "reason", .str (ofString "selected")),
        (ofString "sourceEventSequence", .num 1),
        (ofString "speaker", .str (ofString "ada")),
        (ofString "type", .str (ofString "director_decision"))]
    directorState := .obj [(ofString "autonomousTurns", .num 0)]
    expectedGeneration := 0
    expectedNextEventSequence := 1
    personaSlug := some "ada" }

/-- The writes up to the command, and what begins an attempt of it. -/
def writes : List Write :=
  [.createLocalRoom room,
    .statement (.createConnectionProfileRevision "iphone.openai" 1 "openai" none),
    .statement (.reserveCredential "iphone.openai" 1 "openai" credential.credentialRef none
      credential.mutationId),
    .saveProviderSelectionAndConsent selection 1 1,
    .markCredentialReady credential,
    .statement (.prepareGenerationCommand identity.commandId command 0 1)]

def begin (attemptEpoch : ℕ) : Write :=
  .statement (.beginGenerationCommand identity command.requestPlan attemptEpoch
    credential.credentialRef credential.mutationId)

/-- The tables after writes that succeed. -/
def afterAll (ws : List Write) (db : Store) : Store := ws.foldl (fun db w => after w db) db

def prepared : Store := afterAll writes {}

def inFlight : Store := after (begin 0) prepared

theorem init : storeSystem.init {} := ⟨rfl, rfl, fun id _ => AList.lookup_empty id⟩

/-- The tables before the command. -/
def ready : Store := afterAll (writes.take 5) {}

theorem run_ready : storeSystem.Run {} (writes.take 5) ready := by
  refine .cons (t := afterAll (writes.take 1) {}) ⟨trivial, 5, rfl⟩ ?_
  refine .cons (t := afterAll (writes.take 2) {}) ⟨rfl, 1, rfl⟩ ?_
  refine .cons (t := afterAll (writes.take 3) {}) ⟨rfl, 1, rfl⟩ ?_
  refine .cons (t := afterAll (writes.take 4) {}) ⟨trivial, 1, rfl⟩ ?_
  exact .cons (t := ready) ⟨trivial, 1, rfl⟩ (.nil _)

theorem run_prepared : storeSystem.Run {} writes prepared :=
  run_ready.append (.single ⟨rfl, 1, rfl⟩)

theorem begins : storeSystem.step prepared (begin 0) inFlight := ⟨rfl, 1, rfl⟩

theorem enters : EntersFlight prepared inFlight identity.commandId
    { toGenerationCommand := command, state := .prepared } :=
  ⟨rfl, by decide, _, rfl, rfl⟩

end Asked

theorem consent_gate_asked : AcceptedSince {} Asked.writes Asked.prepared :=
  ((consent_gate Asked.init Asked.run_prepared).1 _ _ _ _ Asked.begins Asked.enters).1

end GreenRoom.Iphone
