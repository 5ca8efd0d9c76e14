import GreenRoom.Iphone.Writes

/-!
# Turns are atomic

A generation command changes the room only when it completes, and then all at once.
Every write to the commands does one of four things; from these four follow the
invariants of the table and what a completion does.

## Main definitions

* `CommandEffect` — what a write does to the commands.
* `OneUnresolved` — a room has at most one command that is not settled.

## Main results

* `Write.effect` — every write to the commands has one of the four effects.
* `atomic_turns`
-/

namespace GreenRoom.Iphone

variable {db db' : Store} {n : ℕ} {w : Write}

/-- A write to `generation_commands`. -/
def Write.onCommands : Write → Bool
  | .statement s => s.onCommands
  | .interruptInFlightGenerationCommands | .interruptAttempt .. |
    .failGenerationCommandNotStarted .. => true
  | _ => false

/-- What a write to the commands does. -/
inductive CommandEffect (db db' : Store) : Prop
  /-- No row meets the condition. -/
  | unchanged (eq : db' = db)
  /-- One command is prepared. -/
  | prepared (commandId : String) (row : CommandRow)
      (fresh : db.commands.lookup commandId = none) (state : row.state = .prepared)
      (unique : UniqueUnresolved db commandId row) (checked : row.Checked)
      (eq : db' = { db with commands := db.commands.insert commandId row })
  /-- One command is updated. -/
  | updated (commandId : String) (old new : CommandRow)
      (found : db.commands.lookup commandId = some old)
      (eq : updateCommand commandId old new db = some db')
  /-- Some commands are updated, none of which settles. -/
  | swept (set : String → CommandRow → CommandRow)
      (commands : ∀ id, db'.commands.lookup id = (db.commands.lookup id).map (set id))
      (allowed : ∀ id row, db.commands.lookup id = some row →
        set id row = row ∨ RowAllowed row (set id row))
      (unsettled : ∀ id row, (set id row).state.unresolved = row.state.unresolved)
      (frame : db' = { db with commands := db'.commands })

namespace CommandEffect

/-- An update that finds a command by its key. -/
theorem of_unique {set : CommandRow → CommandRow} {condition : String → CommandRow → Bool}
    {id₀ : String} (hunique : ∀ id row, condition id row → id = id₀)
    (h : updateCommands condition set db = some (db', n)) : CommandEffect db db' := by
  obtain ⟨-, rfl⟩ | ⟨row, -, hrow, -, hupdate⟩ := updateCommands_unique hunique h
  · exact .unchanged rfl
  · exact .updated id₀ row _ hrow hupdate

/-- An update that moves unresolved commands to an unresolved state. -/
theorem of_unsettled {set : CommandRow → CommandRow} {condition : String → CommandRow → Bool}
    (hset : ∀ row, (set row).state.unresolved)
    (hcondition : ∀ id row, condition id row → row.state.unresolved)
    (h : updateCommands condition set db = some (db', n)) : CommandEffect db db' := by
  have hquiet : ∀ row, ¬ Completes row (set row) := by
    rintro row ⟨hcompleted, -⟩
    have hunresolved := hset row
    rw [hcompleted] at hunresolved
    cases hunresolved
  obtain ⟨hlookup, hallowed⟩ := updateCommands_lookup h
  refine .swept (fun id row => if condition id row then set row else row) hlookup ?_ ?_
    (updateCommands_frame hquiet h)
  · intro id row hrow
    by_cases hcond : condition id row
    · exact .inr (by simpa [hcond] using hallowed id row hrow hcond)
    · exact .inl (by simp [hcond])
  · intro id row
    by_cases hcond : condition id row
    · simp [hcond, hset row, hcondition id row hcond]
    · simp [hcond]

end CommandEffect

theorem CommandIdentity.eq_of_names {id : CommandIdentity} {commandId : String}
    {row : CommandRow} (h : id.names commandId row) : commandId = id.commandId := by
  simp only [CommandIdentity.names, Bool.and_eq_true, decide_eq_true_eq] at h
  exact h.1.1

theorem prepareGenerationCommand_spec {commandId : String} {c : GenerationCommand}
    {generation next : ℕ}
    (h : prepareGenerationCommand commandId c generation next db = some (db', n)) :
    db' = db ∨ db.commands.lookup commandId = none ∧
      ({ toGenerationCommand := c, state := .prepared } : CommandRow).Checked ∧
      UniqueUnresolved db commandId { toGenerationCommand := c, state := .prepared } ∧
      planAdmitted db c ∧
      db' = { db with
        commands := db.commands.insert commandId
          { toGenerationCommand := c, state := .prepared } } := by
  unfold prepareGenerationCommand at h
  split at h
  · cases h
    exact .inl rfl
  · split at h
    · next hroom =>
        dsimp only at h
        split at h
        · next hok =>
            cases h
            exact .inr ⟨hok.2.1, hok.2.2.2.1, hok.2.2.2.2, hroom.2.2.2.2.2, rfl⟩
        · cases h
    · cases h
      exact .inl rfl

theorem prepareGenerationCommand_effect {commandId : String} {c : GenerationCommand}
    {generation next : ℕ}
    (h : prepareGenerationCommand commandId c generation next db = some (db', n)) :
    CommandEffect db db' := by
  obtain rfl | ⟨hfresh, hchecked, hunique, -, rfl⟩ := prepareGenerationCommand_spec h
  · exact .unchanged rfl
  · exact .prepared commandId _ hfresh rfl hunique hchecked rfl

/-- A template about commands has one of the four effects. -/
theorem Statement.exec_effect {s : Statement} (hcommands : s.onCommands)
    (h : s.exec db = some (db', n)) : CommandEffect db db' := by
  cases s with
  | prepareGenerationCommand => exact prepareGenerationCommand_effect h
  | beginGenerationCommand id | failGenerationCommand _ id | interruptGenerationCommand _ id
  | completeGenerationCommand _ id | completeSilentGenerationCommand id
  | abandonGenerationCommand _ id =>
      simp only [exec, Iphone.beginGenerationCommand, Iphone.failGenerationCommand,
        Iphone.interruptGenerationCommand, Iphone.completeGenerationCommand,
        Iphone.completeSilentGenerationCommand, Iphone.abandonGenerationCommand] at h
      refine .of_unique (fun commandId row hcond => (?_ : commandId = id.commandId)) h
      simp only [Bool.and_eq_true] at hcond
      exact CommandIdentity.eq_of_names (by tauto)
  | _ => cases hcommands

/-- **Every write to the commands has one of the four effects.** -/
theorem Write.effect (hcommands : w.onCommands) (h : w.exec db = some (db', n)) :
    CommandEffect db db' := by
  cases w with
  | statement s => exact Statement.exec_effect hcommands h
  | interruptInFlightGenerationCommands =>
      simp only [exec, Iphone.interruptInFlightGenerationCommands] at h
      refine .of_unsettled (fun row => ?_) (fun id row hcond => ?_) h
      · by_cases hstate : row.state = .prepared <;> simp [hstate, CommandState.unresolved]
      · have hcond : row.state = .prepared ∨ row.state = .inFlight := by simpa using hcond
        obtain hstate | hstate := hcond <;> simp [hstate, CommandState.unresolved]
  | interruptAttempt requestId attempt code =>
      simp only [exec, Iphone.interruptAttempt] at h
      refine .of_unsettled (fun row => rfl) (fun id row hcond => ?_) h
      have hstate : row.state = .inFlight := by
        simp only [Bool.and_eq_true, decide_eq_true_eq] at hcond
        exact hcond.2
      rw [hstate]
      rfl
  | failGenerationCommandNotStarted id prior =>
      simp only [exec, Iphone.failGenerationCommandNotStarted] at h
      refine .of_unique (fun commandId row hcond => (?_ : commandId = id.commandId)) h
      simp only [Bool.and_eq_true] at hcond
      exact CommandIdentity.eq_of_names hcond.1
  | _ => cases hcommands

/-- Any other write leaves the commands alone. -/
theorem Write.elsewhere (hpermitted : w.Permitted) (hcommands : w.onCommands = false)
    (h : w.exec db = some (db', n)) :
    db'.commands = db.commands ∧ (db.Whole → db'.Whole) := by
  cases w with
  | statement s =>
      cases hselection : s.savesSelection with
      | false =>
          have hapart := Statement.exec_apart hcommands hselection h
          rw [show s.createdRoom = none from hpermitted] at hapart
          exact ⟨hapart.commands, hapart.toKeepsRooms.whole⟩
      | true =>
          cases s with
          | saveProviderSelection =>
              obtain ⟨-, rfl⟩ | ⟨-, rfl⟩ := saveProviderSelection_spec h
              · exact ⟨rfl, id⟩
              · exact ⟨rfl, id⟩
          | _ => cases hselection
  | createLocalRoom room =>
      obtain ⟨hcommands, -, hwhole⟩ := NewRoom.create_apart h
      exact ⟨hcommands, hwhole⟩
  | saveProviderSelectionAndConsent selection definition disclosure =>
      obtain rfl := saveProviderSelectionAndConsent_spec h
      exact ⟨rfl, id⟩
  | markCredentialReady id | markCredentialMissing id | markCredentialUnavailable id =>
      have hapart := markCredential_keeps (changing_eq_some.mp h).1
      exact ⟨hapart.commands, hapart.toKeepsRooms.whole⟩
  | _ => cases hcommands

/-! ## The invariant -/

/-- A room has at most one command that is not settled. -/
def OneUnresolved (db : Store) : Prop :=
  ∀ id id' row row', db.commands.lookup id = some row → db.commands.lookup id' = some row' →
    row.roomId = row'.roomId → row.state.unresolved → row'.state.unresolved → id = id'

/-- The row a command gets may be unresolved only if no other one of the room is. -/
theorem OneUnresolved.insert {commandId : String} {row : CommandRow} (h : OneUnresolved db)
    (hunique : UniqueUnresolved db commandId row) :
    OneUnresolved { db with commands := db.commands.insert commandId row } := by
  have hother : ∀ id other, id ≠ commandId → db.commands.lookup id = some other →
      row.roomId = other.roomId → row.state.unresolved → other.state.unresolved = false :=
    fun id other hne hid hroom hrow =>
      hunique hrow ⟨id, other⟩ (KeyedTable.mem_entries_iff.mpr hid) hne hroom.symm
  intro id id' r r' hid hid' hroom hr hr'
  rw [KeyedTable.lookup_insert] at hid hid'
  split at hid <;> split at hid'
  · next heq heq' => rw [heq, heq']
  · next hne =>
      cases hid
      have hfalse := hother id' r' hne hid' hroom hr
      rw [hfalse] at hr'
      cases hr'
  · next hne _ =>
      cases hid'
      have hfalse := hother id r hne hid hroom.symm hr'
      rw [hfalse] at hr
      cases hr
  · exact h id id' r r' hid hid' hroom hr hr'

theorem CommandEffect.oneUnresolved (he : CommandEffect db db') (h : OneUnresolved db) :
    OneUnresolved db' := by
  cases he with
  | unchanged eq => rwa [eq]
  | prepared commandId row _ _ unique _ eq =>
      subst eq
      exact h.insert unique
  | updated commandId old new _ eq =>
      have hinsert := h.insert (updateCommand_spec eq).1.unique
      unfold OneUnresolved at hinsert ⊢
      rw [updateCommand_commands eq]
      exact hinsert
  | swept set commands allowed unsettled _ =>
      have hold : ∀ id row', db'.commands.lookup id = some row' →
          ∃ row, db.commands.lookup id = some row ∧ row'.roomId = row.roomId ∧
            row'.state.unresolved = row.state.unresolved := by
        intro id row' hid
        rw [commands id] at hid
        obtain ⟨row, hrow, rfl⟩ := Option.map_eq_some_iff.mp hid
        refine ⟨row, hrow, ?_, unsettled id row⟩
        obtain heq | hallowed := allowed id row hrow
        · rw [heq]
        · rw [hallowed.immutable]
      intro id id' r r' hid hid' hroom hr hr'
      obtain ⟨row, hrow, hsame, hstate⟩ := hold id r hid
      obtain ⟨row', hrow', hsame', hstate'⟩ := hold id' r' hid'
      exact h id id' row row' hrow hrow' (by rw [← hsame, ← hsame', hroom]) (hstate ▸ hr)
        (hstate' ▸ hr')

theorem TurnCommitted.whole {c : CommandRow} (h : TurnCommitted c db db') (hw : db.Whole) :
    db'.Whole := by
  intro id hid
  obtain ⟨room, next, hroom, hrooms, -⟩ := h.rooms
  have hold : db.directorState.lookup id = none := by
    obtain ⟨-, hstate⟩ | ⟨row, new, -, -, hstate⟩ := h.directorState
    · rwa [hstate] at hid
    · rw [hstate] at hid
      exact (lookup_insert_eq_none.mp hid).2
  have hnone := hw id hold
  rw [hrooms]
  refine lookup_insert_eq_none.mpr ⟨?_, hnone⟩
  rintro rfl
  rw [hroom] at hnone
  cases hnone

theorem CommandEffect.whole (he : CommandEffect db db') (hw : db.Whole) : db'.Whole := by
  cases he with
  | unchanged eq => rwa [eq]
  | prepared commandId row _ _ _ _ eq =>
      subst eq
      exact hw
  | updated commandId old new _ eq =>
      obtain ⟨-, ⟨-, rfl⟩ | ⟨-, hturn⟩⟩ := updateCommand_spec eq
      · exact hw
      · exact hturn.whole hw
  | swept set _ _ _ frame =>
      rw [frame]
      exact hw

/-- What holds of the tables along every run. -/
structure StoreInv (db : Store) : Prop where
  whole : db.Whole
  oneUnresolved : OneUnresolved db

theorem store_inductive : storeSystem.Inductive StoreInv where
  init db h := by
    refine ⟨h.2.2, fun id id' row row' hid => ?_⟩
    rw [h.1, AList.lookup_empty] at hid
    cases hid
  step db w db' h hstep := by
    obtain ⟨hpermitted, n, hexec⟩ := hstep
    cases hcommands : w.onCommands with
    | true =>
        have he := Write.effect hcommands hexec
        exact ⟨he.whole h.whole, he.oneUnresolved h.oneUnresolved⟩
    | false =>
        obtain ⟨hsame, hwhole⟩ := Write.elsewhere hpermitted hcommands hexec
        refine ⟨hwhole h.whole, ?_⟩
        unfold OneUnresolved
        rw [hsame]
        exact h.oneUnresolved

/-! ## What a write does to a command -/

/-- What any write keeps of a command: what the command is about, the whole row once it is
settled, and the number of attempts unless one is taken back. -/
structure RowKept (row row' : CommandRow) : Prop where
  command : row'.toGenerationCommand = row.toGenerationCommand
  settled : row.state.unresolved = false → row' = row
  attempt : row'.attemptEpoch < row.attemptEpoch →
    row.state = .inFlight ∧ row'.state = .failed ∧ row'.failureCode = some "not_started"

theorem RowKept.refl (row : CommandRow) : RowKept row row :=
  ⟨rfl, fun _ => rfl, fun h => absurd h (lt_irrefl _)⟩

theorem CommandRow.ext_of {row row' : CommandRow}
    (hcommand : row'.toGenerationCommand = row.toGenerationCommand)
    (hstate : row.state = row'.state) (hattempt : row.attemptEpoch = row'.attemptEpoch)
    (hfailure : row.failureCode = row'.failureCode)
    (hresponse : row.responseText = row'.responseText) (hstarted : row.started = row'.started)
    (hfinished : row.finished = row'.finished) : row' = row := by
  cases row
  cases row'
  simp_all

/-- A settled row is never changed. -/
theorem RowAllowed.settled {row row' : CommandRow} (h : RowAllowed row row')
    (hsettled : row.state.unresolved = false) : row' = row := by
  obtain ⟨hs, -⟩ | ⟨hs, -⟩ | ⟨hs, -⟩ | ⟨hs, -⟩ | ⟨hs, ha, hf, hr, hst, hfin⟩ := h.transition
  · rw [hs] at hsettled
    cases hsettled
  · rw [hs] at hsettled
    cases hsettled
  · rw [hs] at hsettled
    cases hsettled
  · rw [hs] at hsettled
    cases hsettled
  · exact CommandRow.ext_of h.immutable hs ha hf hr hst hfin

/-- A change of a row that the triggers let through. -/
theorem RowAllowed.kept {row row' : CommandRow} (h : RowAllowed row row')
    (hattempt : row'.attemptEpoch < row.attemptEpoch → row.state = .inFlight ∧
      row'.state = .failed) : RowKept row row' where
  command := h.immutable
  settled := h.settled
  attempt hlt := by
    obtain ⟨hold, hnew⟩ := hattempt hlt
    refine ⟨hold, hnew, ?_⟩
    obtain ⟨hs, -⟩ | ⟨hs, -⟩ | ⟨hs, -⟩ | ⟨-, hcases⟩ | ⟨hs, -⟩ := h.transition
    · rw [hold] at hs
      cases hs
    · rw [hold] at hs
      cases hs
    · rw [hold] at hs
      cases hs
    · obtain hs | ⟨hs, -⟩ | ⟨-, hf, -⟩ := hcases
      · rw [hnew] at hs
        cases hs
      · rw [hnew] at hs
        cases hs
      · exact hf
    · rw [hold, hnew] at hs
      cases hs

/-- What an update does to one row. -/
theorem updateCommands_row {set : CommandRow → CommandRow}
    {condition : String → CommandRow → Bool} {id : String} {row : CommandRow}
    (h : updateCommands condition set db = some (db', n))
    (hrow : db.commands.lookup id = some row) :
    db'.commands.lookup id = some row ∨
      condition id row ∧ db'.commands.lookup id = some (set row) ∧ RowAllowed row (set row) := by
  obtain ⟨hlookup, hallowed⟩ := updateCommands_lookup h
  have hid := hlookup id
  rw [hrow, Option.map_some] at hid
  by_cases hcond : condition id row
  · rw [if_pos hcond] at hid
    exact .inr ⟨hcond, hid, hallowed id row hrow hcond⟩
  · rw [if_neg hcond] at hid
    exact .inl hid

/-- What a write to the commands does to one row. -/
inductive RowWrite (db : Store) (commandId : String) (row : CommandRow) :
    Write → CommandRow → Prop
  | begins (id : CommandIdentity) (credentialRef mutationId : String)
      (names : id.names commandId row)
      (state : row.state = .prepared ∨ row.state = .failed ∨ row.state = .interrupted)
      (kind : row.requestPlan.extract "kind" = .ofText "provider")
      (beginnable : beginnableCommand db credentialRef mutationId row.toGenerationCommand) :
      RowWrite db commandId row
        (.statement (.beginGenerationCommand id row.requestPlan row.attemptEpoch credentialRef
          mutationId))
        { row with
          state := .inFlight
          attemptEpoch := row.attemptEpoch + 1
          started := true
          failureCode := none }
  | fails (code : String) (id : CommandIdentity) (names : id.names commandId row)
      (state : row.state = .prepared ∨ row.state = .failed) :
      RowWrite db commandId row (.statement (.failGenerationCommand code id row.attemptEpoch))
        { row with state := .failed, failureCode := some code }
  | interrupts (code : String) (id : CommandIdentity) (names : id.names commandId row)
      (state : row.state = .inFlight) :
      RowWrite db commandId row
        (.statement (.interruptGenerationCommand code id row.attemptEpoch))
        { row with state := .interrupted, failureCode := some code }
  | completes (text : String) (id : CommandIdentity) (names : id.names commandId row)
      (state : row.state = .inFlight) (persona : row.personaSlug ≠ none) :
      RowWrite db commandId row
        (.statement (.completeGenerationCommand text id row.attemptEpoch))
        { row with
          state := .completed
          responseText := some text
          failureCode := none
          finished := true }
  | completesSilent (id : CommandIdentity) (names : id.names commandId row)
      (state : row.state = .prepared ∨ row.state = .failed) (persona : row.personaSlug = none) :
      RowWrite db commandId row
        (.statement (.completeSilentGenerationCommand id row.attemptEpoch))
        { row with state := .completed, failureCode := none, finished := true }
  | abandons (code : String) (id : CommandIdentity) (names : id.names commandId row)
      (state : row.state = .prepared ∨ row.state = .failed ∨ row.state = .interrupted) :
      RowWrite db commandId row (.statement (.abandonGenerationCommand code id))
        { row with state := .abandoned, failureCode := some code, finished := true }
  /-- At start: a prepared command never began. -/
  | neverBegan (state : row.state = .prepared) :
      RowWrite db commandId row .interruptInFlightGenerationCommands
        { row with state := .failed, failureCode := some "not_started" }
  /-- At start: what happened to an attempt in flight is not known. -/
  | lost (state : row.state = .inFlight) :
      RowWrite db commandId row .interruptInFlightGenerationCommands
        { row with state := .interrupted, failureCode := some "canceled" }
  | interruptsAttempt (code : String) (state : row.state = .inFlight) :
      RowWrite db commandId row (.interruptAttempt row.requestId row.attemptEpoch code)
        { row with state := .interrupted, failureCode := some code }
  | notStarted (id : CommandIdentity) (names : id.names commandId row)
      (state : row.state = .prepared ∨ row.state = .failed) :
      RowWrite db commandId row (.failGenerationCommandNotStarted id row.attemptEpoch)
        { row with state := .failed, started := false, failureCode := some "not_started" }
  /-- The attempt in flight is taken back. -/
  | takesBack (id : CommandIdentity) (priorAttemptEpoch : ℕ) (names : id.names commandId row)
      (attempt : row.attemptEpoch = priorAttemptEpoch + 1) (state : row.state = .inFlight) :
      RowWrite db commandId row (.failGenerationCommandNotStarted id priorAttemptEpoch)
        { row with
          state := .failed
          attemptEpoch := priorAttemptEpoch
          started := false
          failureCode := some "not_started" }

/-- **What a write to the commands does to a row that is there.** -/
theorem Write.row_cases (hcommands : w.onCommands) (h : w.exec db = some (db', n)) {id : String}
    {row : CommandRow} (hrow : db.commands.lookup id = some row) :
    ∃ row', db'.commands.lookup id = some row' ∧
      (row' = row ∨ RowAllowed row row' ∧ RowWrite db id row w row') := by
  -- an update rewrites the row or leaves it alone
  have hupdate : ∀ {condition : String → CommandRow → Bool} {set : CommandRow → CommandRow},
      updateCommands condition set db = some (db', n) →
      (condition id row → RowWrite db id row w (set row)) →
      ∃ row', db'.commands.lookup id = some row' ∧
        (row' = row ∨ RowAllowed row row' ∧ RowWrite db id row w row') := by
    intro condition set h hset
    obtain hsame | ⟨hcond, hnew, hallowed⟩ := updateCommands_row h hrow
    · exact ⟨row, hsame, .inl rfl⟩
    · exact ⟨set row, hnew, .inr ⟨hallowed, hset hcond⟩⟩
  cases w with
  | statement s =>
      cases s with
      | prepareGenerationCommand commandId c generation next =>
          obtain rfl | ⟨fresh, -, -, -, rfl⟩ := prepareGenerationCommand_spec h
          · exact ⟨row, hrow, .inl rfl⟩
          · refine ⟨row, ?_, .inl rfl⟩
            rw [AList.lookup_insert_ne, hrow]
            rintro rfl
            rw [fresh] at hrow
            cases hrow
      | beginGenerationCommand ident plan attempt credentialRef mutationId =>
          simp only [exec, Statement.exec, Iphone.beginGenerationCommand] at h
          refine hupdate h fun hcond => ?_
          simp only [Bool.and_eq_true, Bool.or_eq_true, decide_eq_true_eq, or_assoc] at hcond
          obtain ⟨⟨⟨⟨⟨hnames, rfl⟩, rfl⟩, hstate⟩, hkind⟩, hbeginnable⟩ := hcond
          exact .begins ident credentialRef mutationId hnames hstate hkind hbeginnable
      | failGenerationCommand code ident attempt =>
          simp only [exec, Statement.exec, Iphone.failGenerationCommand] at h
          refine hupdate h fun hcond => ?_
          simp only [Bool.and_eq_true, Bool.or_eq_true, decide_eq_true_eq] at hcond
          obtain ⟨⟨hnames, rfl⟩, hstate⟩ := hcond
          exact .fails code ident hnames hstate
      | interruptGenerationCommand code ident attempt =>
          simp only [exec, Statement.exec, Iphone.interruptGenerationCommand] at h
          refine hupdate h fun hcond => ?_
          simp only [Bool.and_eq_true, decide_eq_true_eq] at hcond
          obtain ⟨⟨hnames, rfl⟩, hstate⟩ := hcond
          exact .interrupts code ident hnames hstate
      | completeGenerationCommand text ident attempt =>
          simp only [exec, Statement.exec, Iphone.completeGenerationCommand] at h
          refine hupdate h fun hcond => ?_
          simp only [Bool.and_eq_true, decide_eq_true_eq] at hcond
          obtain ⟨⟨⟨hnames, rfl⟩, hstate⟩, hpersona⟩ := hcond
          exact .completes text ident hnames hstate (Option.isSome_iff_ne_none.mp hpersona)
      | completeSilentGenerationCommand ident attempt =>
          simp only [exec, Statement.exec, Iphone.completeSilentGenerationCommand] at h
          refine hupdate h fun hcond => ?_
          simp only [Bool.and_eq_true, Bool.or_eq_true, decide_eq_true_eq] at hcond
          obtain ⟨⟨⟨hnames, rfl⟩, hstate⟩, hpersona⟩ := hcond
          exact .completesSilent ident hnames hstate (Option.isNone_iff_eq_none.mp hpersona)
      | abandonGenerationCommand code ident =>
          simp only [exec, Statement.exec, Iphone.abandonGenerationCommand] at h
          refine hupdate h fun hcond => ?_
          simp only [Bool.and_eq_true, Bool.or_eq_true, decide_eq_true_eq, or_assoc] at hcond
          exact .abandons code ident hcond.1 hcond.2
      | _ => cases hcommands
  | interruptInFlightGenerationCommands =>
      simp only [exec, Iphone.interruptInFlightGenerationCommands] at h
      refine hupdate h fun hcond => ?_
      simp only [Bool.or_eq_true, decide_eq_true_eq] at hcond
      obtain hstate | hstate := hcond
      · simpa only [hstate, if_true] using RowWrite.neverBegan hstate
      · simpa only [hstate, reduceCtorEq, if_false] using RowWrite.lost hstate
  | interruptAttempt requestId attempt code =>
      simp only [exec, Iphone.interruptAttempt] at h
      refine hupdate h fun hcond => ?_
      simp only [Bool.and_eq_true, decide_eq_true_eq] at hcond
      obtain ⟨⟨rfl, rfl⟩, hstate⟩ := hcond
      exact .interruptsAttempt code hstate
  | failGenerationCommandNotStarted ident prior =>
      simp only [exec, Iphone.failGenerationCommandNotStarted] at h
      refine hupdate h fun hcond => ?_
      simp only [Bool.and_eq_true, Bool.or_eq_true, decide_eq_true_eq] at hcond
      obtain ⟨hnames, ⟨rfl, hstate⟩ | ⟨hattempt, hstate⟩⟩ := hcond
      · exact .notStarted ident hnames hstate
      · exact .takesBack ident prior hnames hattempt hstate
  | _ => cases hcommands

/-- An attempt is taken back only from a command in flight, which fails. -/
theorem RowWrite.attempt {id : String} {row row' : CommandRow} (h : RowWrite db id row w row')
    (hlt : row'.attemptEpoch < row.attemptEpoch) :
    row.state = .inFlight ∧ row'.state = .failed := by
  cases h with
  | takesBack _ _ _ _ state => exact ⟨state, rfl⟩
  | begins => exact absurd hlt (Nat.not_lt.mpr (Nat.le_succ _))
  | _ => exact absurd hlt (lt_irrefl _)

/-- The write completes the command at its live attempt. -/
def CompletesAt (w : Write) (commandId : String) (row new : CommandRow) : Prop :=
  (∃ text id, w = .statement (.completeGenerationCommand text id row.attemptEpoch) ∧
    id.names commandId row ∧ row.state = .inFlight ∧ row.personaSlug ≠ none ∧
    new.responseText = some text) ∨
  ∃ id, w = .statement (.completeSilentGenerationCommand id row.attemptEpoch) ∧
    id.names commandId row ∧ (row.state = .prepared ∨ row.state = .failed) ∧
    row.personaSlug = none

theorem RowWrite.completesAt {id : String} {row row' : CommandRow}
    (h : RowWrite db id row w row') (hcompletes : Completes row row') :
    CompletesAt w id row row' := by
  cases h with
  | completes text ident names state persona =>
      exact .inl ⟨text, ident, rfl, names, state, persona, rfl⟩
  | completesSilent ident names state persona => exact .inr ⟨ident, rfl, names, state, persona⟩
  | _ => cases hcompletes.1

theorem Write.row_kept (hpermitted : w.Permitted) (h : w.exec db = some (db', n)) {id : String}
    {row : CommandRow} (hrow : db.commands.lookup id = some row) :
    ∃ row', db'.commands.lookup id = some row' ∧ RowKept row row' := by
  cases hcommands : w.onCommands with
  | true =>
      obtain ⟨row', hrow', rfl | ⟨hallowed, hwrite⟩⟩ := Write.row_cases hcommands h hrow
      · exact ⟨row', hrow', .refl row'⟩
      · exact ⟨row', hrow', hallowed.kept hwrite.attempt⟩
  | false =>
      obtain ⟨hsame, -⟩ := Write.elsewhere hpermitted hcommands h
      exact ⟨row, by rw [hsame, hrow], .refl row⟩

/-! ## Completions -/

/-- A write that completes a command, and what it does to the command's room. -/
structure CompletesTurn (w : Write) (db db' : Store) (commandId : String)
    (old new : CommandRow) : Prop where
  found : db.commands.lookup commandId = some old
  completed : db'.commands.lookup commandId = some new
  command : new.toGenerationCommand = old.toGenerationCommand
  enters : new.state = .completed ∧ old.state ≠ .completed
  /-- The statement names the live attempt. -/
  live : CompletesAt w commandId old new
  attempt : new.attemptEpoch = old.attemptEpoch
  /-- The room is active, at the generation and at the sequence the command recorded. -/
  fenced : ∃ room, db.rooms.lookup old.roomId = some room ∧ room.status = .active ∧
    room.generation = old.expectedGeneration ∧
    room.nextEventSequence = old.expectedNextEventSequence
  /-- The stored events are appended from the recorded sequence on. -/
  events : db'.events = appendTurn new db.events
  free : ∀ i < turnLength old.toGenerationCommand,
    db.events.lookup (old.roomId, old.expectedNextEventSequence + i) = none
  /-- The director's row becomes the stored snapshot. -/
  directorState : ∃ row snapshot, db.directorState.lookup old.roomId = some row ∧
    completedDirectorRow old.toGenerationCommand row = some snapshot ∧
    db'.directorState = db.directorState.insert old.roomId snapshot
  /-- There is a third event if and only if the plan names a persona. -/
  persona : old.personaSlug = none ↔ old.requestPlan.extract "personaSlug" = .null

/-- A row that completes does all this. -/
theorem completesTurn_of_update {commandId : String} {old new : CommandRow}
    (hw : db.Whole) (hfound : db.commands.lookup commandId = some old)
    (h : updateCommand commandId old new db = some db') (hcompletes : Completes old new)
    (hlive : CompletesAt w commandId old new) : CompletesTurn w db db' commandId old new := by
  obtain ⟨hallowed, ⟨hnot, -⟩ | ⟨-, hturn⟩⟩ := updateCommand_spec h
  · exact absurd hcompletes hnot
  have hcommand := hallowed.immutable
  have hroomId : new.roomId = old.roomId := by rw [hcommand]
  obtain ⟨room, hroom, hfence⟩ :=
    (Option.any_eq_true _ _).mp (show (db.rooms.lookup old.roomId).any _ from
      hallowed.fenced hcompletes)
  simp only [Bool.and_eq_true, decide_eq_true_eq] at hfence
  refine ⟨hfound, ?_, hcommand, hcompletes, hlive, hallowed.attempt hcompletes,
    ⟨room, hroom, hfence.1.1, hfence.1.2, hfence.2⟩, hturn.events, ?_, ?_, ?_⟩
  · rw [updateCommand_commands h, AList.lookup_insert]
  · have hfree := hturn.free
    rwa [hcommand] at hfree
  · obtain ⟨hnone, -⟩ | ⟨row, snapshot, hrow, hsnapshot, heq⟩ := hturn.directorState
    · -- the room is there, so its director's state is
      have hmissing := hw _ (hroomId ▸ hnone)
      rw [hroom] at hmissing
      cases hmissing
    · rw [hcommand] at hrow hsnapshot heq
      exact ⟨row, snapshot, hrow, hsnapshot, heq⟩
  · have hchecked := hallowed.checked.1.2.2.2.2.2.1
    rw [hcommand] at hchecked
    rw [hchecked, SqlValue.ofText?_eq_null]

/-- **Turns are atomic.**  In every reachable state a room has at most one command that is
not settled.  A write never changes what a command is about, nor a command that is completed or
abandoned, and takes back an attempt only of a command that goes from in flight to failed
as not started.  A write to the commands leaves the events and the director's state of
every room alone, unless it completes a command: then it appends exactly the stored
events, where the room is active and where the command expected it, and stores the
director's snapshot. -/
theorem atomic_turns (hs : storeSystem.Reachable db) :
    OneUnresolved db ∧
    (∀ w db', storeSystem.step db w db' →
      (∀ id row, db.commands.lookup id = some row →
        ∃ row', db'.commands.lookup id = some row' ∧ RowKept row row') ∧
      (w.onCommands →
        (db'.events = db.events ∧ db'.directorState = db.directorState ∧
          ∀ id row row', db.commands.lookup id = some row → db'.commands.lookup id = some row' →
            ¬ Completes row row') ∨
        ∃ id old new, CompletesTurn w db db' id old new)) ∧
    (∀ ws db', storeSystem.Run db ws db' → ∀ id row, db.commands.lookup id = some row →
      row.state.unresolved = false → db'.commands.lookup id = some row) := by
  have hinv := store_inductive.reachable hs
  refine ⟨hinv.oneUnresolved, fun w db' hstep => ⟨fun id row hrow => ?_, fun hcommands => ?_⟩,
    fun ws db' hrun id row hrow hsettled => ?_⟩
  · obtain ⟨hpermitted, n, hexec⟩ := hstep
    exact Write.row_kept hpermitted hexec hrow
  · obtain ⟨-, n, hexec⟩ := hstep
    cases Write.effect hcommands hexec with
    | unchanged eq =>
        subst eq
        refine .inl ⟨rfl, rfl, fun id row row' hrow hrow' hcompletes => ?_⟩
        rw [hrow] at hrow'
        cases hrow'
        exact hcompletes.2 hcompletes.1
    | prepared commandId new fresh state _ _ eq =>
        subst eq
        refine .inl ⟨rfl, rfl, fun id row row' hrow hrow' hcompletes => ?_⟩
        rw [KeyedTable.lookup_insert] at hrow'
        split at hrow'
        · cases hrow'
          rw [hcompletes.1] at state
          cases state
        · rw [hrow] at hrow'
          cases hrow'
          exact hcompletes.2 hcompletes.1
    | updated commandId old new found eq =>
        by_cases hcompletes : Completes old new
        · obtain ⟨row', hrow', hcases⟩ := Write.row_cases hcommands hexec found
          rw [updateCommand_commands eq, AList.lookup_insert] at hrow'
          obtain rfl := Option.some.inj hrow'
          obtain rfl | ⟨-, hwrite⟩ := hcases
          · exact absurd hcompletes.1 hcompletes.2
          · exact .inr ⟨commandId, old, new, completesTurn_of_update hinv.whole found eq
              hcompletes (hwrite.completesAt hcompletes)⟩
        · obtain ⟨-, ⟨-, rfl⟩ | ⟨h, -⟩⟩ := updateCommand_spec eq
          · refine .inl ⟨rfl, rfl, fun id row row' hrow hrow' hdone => ?_⟩
            rw [KeyedTable.lookup_insert] at hrow'
            split at hrow'
            · next heq =>
                subst heq
                rw [found] at hrow
                cases hrow
                cases hrow'
                exact hcompletes hdone
            · rw [hrow] at hrow'
              cases hrow'
              exact hdone.2 hdone.1
          · exact absurd h hcompletes
    | swept set commands allowed unsettled frame =>
        refine .inl ⟨by rw [frame], by rw [frame], fun id row row' hrow hrow' hcompletes => ?_⟩
        rw [commands, hrow] at hrow'
        cases hrow'
        have hsettled : row.state.unresolved = false := by
          rw [← unsettled id row, hcompletes.1]
          rfl
        have hsame : set id row = row :=
          (allowed id row hrow).elim (fun h => h) fun h => h.settled hsettled
        rw [hsame] at hcompletes
        exact hcompletes.2 hcompletes.1
  · refine store_inductive.stable (P := fun db => db.commands.lookup id = some row)
      (fun s w t _ hrow hstep => ?_) hs hrun hrow
    obtain ⟨hpermitted, n, hexec⟩ := hstep
    obtain ⟨row', hrow', hkept⟩ := Write.row_kept hpermitted hexec hrow
    rw [hrow', hkept.settled hsettled]

/-- The tables after a write, which are the same where it fails. -/
def after (w : Write) (db : Store) : Store := (w.exec db).elim db Prod.fst

/-! A room in which the message is answered by silence. -/
namespace Silence

def room : NewRoom :=
  { roomId := "room-1", title := "Ada Room", humanId := "human-1", inferenceMode := .provider,
    personas := [("ada", "Ada")] }

/-- The command to answer by silence. -/
def command : GenerationCommand :=
  { requestId := "request-1"
    roomId := "room-1"
    requestDigest := "digest-1"
    requestPlan := .obj
      [(JsString.ofString "kind", .str (JsString.ofString "silence")),
        (JsString.ofString "requestId", .str (JsString.ofString "request-1")),
        (JsString.ofString "roomId", .str (JsString.ofString "room-1")),
        (JsString.ofString "sourceEventSequence", .num 1)]
    humanEvent := .obj
      [(JsString.ofString "participantId", .str (JsString.ofString "human-1")),
        (JsString.ofString "text", .str (JsString.ofString "Quiet, please.")),
        (JsString.ofString "type", .str (JsString.ofString "human_message"))]
    directorEvent := .obj
      [(JsString.ofString "generation", .num 0),
        (JsString.ofString "reason", .str (JsString.ofString "no_response_wanted")),
        (JsString.ofString "sourceEventSequence", .num 1),
        (JsString.ofString "speaker", .null),
        (JsString.ofString "type", .str (JsString.ofString "director_decision"))]
    directorState := .obj [(JsString.ofString "autonomousTurns", .num 0)]
    expectedGeneration := 0
    expectedNextEventSequence := 1
    personaSlug := none }

def identity : CommandIdentity := ⟨"command-1", "request-1", "digest-1"⟩

def created : Store := after (.createLocalRoom room) {}

def prepared : Store :=
  after (.statement (.prepareGenerationCommand "command-1" command 0 1)) created

def completed : Store :=
  after (.statement (.completeSilentGenerationCommand identity 0)) prepared

theorem prepared_reachable : storeSystem.Reachable prepared := by
  have hinit : storeSystem.init {} := ⟨rfl, rfl, fun id _ => AList.lookup_empty id⟩
  have hcreate : storeSystem.step {} (.createLocalRoom room) created := ⟨trivial, 5, rfl⟩
  have hprepare : storeSystem.step created
      (.statement (.prepareGenerationCommand "command-1" command 0 1)) prepared :=
    ⟨rfl, 1, rfl⟩
  exact ((TransitionSystem.Reachable.of_init hinit).step hcreate).step hprepare

theorem completes : storeSystem.step prepared
    (.statement (.completeSilentGenerationCommand identity 0)) completed :=
  ⟨rfl, 1, rfl⟩

end Silence

theorem atomic_turns_silence :
    ∃ id old new, CompletesTurn (.statement (.completeSilentGenerationCommand Silence.identity 0))
      Silence.prepared Silence.completed id old new := by
  refine (((atomic_turns Silence.prepared_reachable).2.1 _ _ Silence.completes).2 rfl).resolve_left
    fun h => ?_
  have hevents := congrArg (fun events => events.lookup ("room-1", 1)) h.1
  simp only [show Silence.prepared.events.lookup ("room-1", 1) = none from rfl,
    show Silence.completed.events.lookup ("room-1", 1) = some Silence.command.humanEvent
      from rfl] at hevents
  cases hevents

end GreenRoom.Iphone
