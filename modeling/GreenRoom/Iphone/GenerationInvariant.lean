import GreenRoom.Iphone.GenerationRuns

/-!
# What every run of generation keeps

The entries of the registry stand for attempts of commands that are there, and an attempt
in flight was begun with an entry of its command and number.  None of this depends on how
the attempts end.

## Main definitions

* `RequestsUnique`, `Named` — commands are found by their request.
* `EntriesInv`, `CommandsInv` — the entries, and the commands they stand for.

## Main results

* `StoreEffect.writes` — what a step does to the database is a run of writes.
* `generation_inductive`
-/

namespace GreenRoom.Iphone

open ProviderTaskRegistry

/-! ## Rows -/

section Rows

variable {db db' : Store} {n : ℕ} {w : Write}

/-- A change that neither begins an attempt nor takes one back. -/
structure RowSettles (row row' : CommandRow) : Prop where
  attempt : row'.attemptEpoch = row.attemptEpoch
  inFlight : row'.state ≠ .inFlight
  prepared : row'.state ≠ .prepared
  failed : row'.state = .failed → row.state = .prepared ∨ row.state = .failed

/-- The write begins an attempt. -/
def Write.beginsAttempt : Write → Bool
  | .statement (.beginGenerationCommand ..) => true
  | _ => false

/-- The write may take an attempt back. -/
def Write.takesBack : Write → Bool
  | .failGenerationCommandNotStarted .. => true
  | _ => false

/-- A write that does not begin an attempt settles the row, or takes its attempt back. -/
theorem RowWrite.settles {id : String} {row row' : CommandRow} (h : RowWrite db id row w row')
    (hbegins : w.beginsAttempt = false) :
    RowSettles row row' ∨
    ∃ ident prior, w = .failGenerationCommandNotStarted ident prior ∧ ident.names id row ∧
      row.state = .inFlight ∧ row.attemptEpoch = prior + 1 ∧ row'.state = .failed ∧
      row'.attemptEpoch = prior := by
  cases h with
  | begins => cases hbegins
  | fails _ _ _ state | notStarted _ _ state =>
      exact .inl ⟨rfl, by simp, by simp, fun _ => state⟩
  | neverBegan state => exact .inl ⟨rfl, by simp, by simp, fun _ => .inl state⟩
  | takesBack ident prior names attempt state =>
      exact .inr ⟨ident, prior, rfl, names, state, attempt, rfl, rfl⟩
  | _ => exact .inl ⟨rfl, by simp, by simp, by simp⟩

/-- A row that was not there is a command just prepared, with a request of its own. -/
theorem Write.row_new (hpermitted : w.Permitted) (h : w.exec db = some (db', n)) {id : String}
    {row : CommandRow} (hnone : db.commands.lookup id = none)
    (hrow : db'.commands.lookup id = some row) :
    row.state = .prepared ∧ ∀ e ∈ db.commands.entries, e.2.requestId ≠ row.requestId := by
  have hupdate : ∀ {condition : String → CommandRow → Bool} {set : CommandRow → CommandRow},
      updateCommands condition set db = some (db', n) → False := by
    intro condition set h
    have hid := (updateCommands_lookup h).1 id
    rw [hnone, hrow] at hid
    cases hid
  cases hcommands : w.onCommands with
  | false =>
      rw [(Write.elsewhere hpermitted hcommands h).1, hnone] at hrow
      cases hrow
  | true =>
      cases w with
      | statement s =>
          cases s with
          | prepareGenerationCommand commandId c generation next =>
              simp only [exec, Statement.exec, Iphone.prepareGenerationCommand] at h
              split at h
              · cases h
                rw [hnone] at hrow
                cases hrow
              · split at h
                · split at h
                  · next hok =>
                      cases h
                      rw [KeyedTable.lookup_insert] at hrow
                      split at hrow
                      · cases hrow
                        exact ⟨rfl, hok.2.2.1⟩
                      · rw [hnone] at hrow
                        cases hrow
                  · cases h
                · cases h
                  rw [hnone] at hrow
                  cases hrow
          | beginGenerationCommand | failGenerationCommand | interruptGenerationCommand
          | completeGenerationCommand | completeSilentGenerationCommand
          | abandonGenerationCommand =>
              simp only [exec, Statement.exec, Iphone.beginGenerationCommand,
                Iphone.failGenerationCommand, Iphone.interruptGenerationCommand,
                Iphone.completeGenerationCommand, Iphone.completeSilentGenerationCommand,
                Iphone.abandonGenerationCommand] at h
              exact (hupdate h).elim
          | _ => cases hcommands
      | interruptInFlightGenerationCommands | interruptAttempt
      | failGenerationCommandNotStarted =>
          simp only [exec, Iphone.interruptInFlightGenerationCommands, Iphone.interruptAttempt,
            Iphone.failGenerationCommandNotStarted] at h
          exact (hupdate h).elim
      | _ => cases hcommands

/-- A command is found by its request. -/
def RequestsUnique (db : Store) : Prop :=
  ∀ id id' row row', db.commands.lookup id = some row → db.commands.lookup id' = some row' →
    row.requestId = row'.requestId → id = id'

theorem RequestsUnique.step (hu : RequestsUnique db) (hpermitted : w.Permitted)
    (h : w.exec db = some (db', n)) : RequestsUnique db' := by
  -- a row is an old one with its request, or new with a request no old one has
  have hback : ∀ id row', db'.commands.lookup id = some row' →
      (∃ row, db.commands.lookup id = some row ∧ row.requestId = row'.requestId) ∨
      db.commands.lookup id = none ∧ ∀ e ∈ db.commands.entries, e.2.requestId ≠ row'.requestId := by
    intro id row' hid
    cases hold : db.commands.lookup id with
    | none => exact .inr ⟨rfl, (Write.row_new hpermitted h hold hid).2⟩
    | some row =>
        obtain ⟨new, hnew, hkept⟩ := Write.row_kept hpermitted h hold
        rw [hid] at hnew
        cases hnew
        exact .inl ⟨row, rfl, by rw [hkept.command]⟩
  intro id id' row row' hid hid' hsame
  obtain ⟨r, hr, hrequest⟩ | ⟨hnone, hfresh⟩ := hback id row hid <;>
    obtain ⟨r', hr', hrequest'⟩ | ⟨hnone', hfresh'⟩ := hback id' row' hid'
  · exact hu id id' r r' hr hr' (by rw [hrequest, hrequest', hsame])
  · exact absurd (hrequest.trans hsame) (hfresh' ⟨id, r⟩ (KeyedTable.mem_entries_iff.mpr hr))
  · exact absurd (hrequest'.trans hsame.symm)
      (hfresh ⟨id', r'⟩ (KeyedTable.mem_entries_iff.mpr hr'))
  · -- one statement prepares one command
    by_contra hne
    cases Write.effect (w := w) (by
        by_contra hcommands
        rw [(Write.elsewhere hpermitted (Bool.not_eq_true _ ▸ hcommands) h).1, hnone] at hid
        cases hid) h with
    | unchanged eq =>
        rw [eq, hnone] at hid
        cases hid
    | prepared commandId new _ _ _ _ eq =>
        rw [eq] at hid hid'
        simp only [KeyedTable.lookup_insert] at hid hid'
        split at hid
        · split at hid'
          · next heq heq' => exact hne (heq.trans heq'.symm)
          · rw [hnone'] at hid'
            cases hid'
        · rw [hnone] at hid
          cases hid
    | updated commandId old new found eq =>
        rw [updateCommand_commands eq, KeyedTable.lookup_insert] at hid
        split at hid
        · next heq =>
            rw [heq, found] at hnone
            cases hnone
        · rw [hnone] at hid
          cases hid
    | swept set commands _ _ _ =>
        rw [commands, hnone] at hid
        cases hid

theorem requestsUnique_inductive : storeSystem.Inductive RequestsUnique where
  init db h := by
    intro id id' row row' hid
    rw [h.1, AList.lookup_empty] at hid
    cases hid
  step db w db' h hstep := by
    obtain ⟨hpermitted, n, hexec⟩ := hstep
    exact h.step hpermitted hexec

/-- The command the identity names is there. -/
def Named (db : Store) (id : CommandIdentity) : Prop :=
  ∃ row, db.commands.lookup id.commandId = some row ∧ id.names id.commandId row

theorem CommandIdentity.names_congr {id : CommandIdentity} {commandId : String}
    {row row' : CommandRow} (hcommand : row'.toGenerationCommand = row.toGenerationCommand)
    (h : id.names commandId row) : id.names commandId row' := by
  unfold CommandIdentity.names at h ⊢
  rwa [hcommand]

theorem Named.step {id : CommandIdentity} (h : Named db id) (hpermitted : w.Permitted)
    (hexec : w.exec db = some (db', n)) : Named db' id := by
  obtain ⟨row, hrow, hnames⟩ := h
  obtain ⟨row', hrow', hkept⟩ := Write.row_kept hpermitted hexec hrow
  exact ⟨row', hrow', CommandIdentity.names_congr hkept.command hnames⟩

/-- Two identities of one request are one. -/
theorem Named.unique {id id' : CommandIdentity} (hu : RequestsUnique db) (h : Named db id)
    (h' : Named db id') (hsame : id.requestId = id'.requestId) : id = id' := by
  obtain ⟨row, hrow, hnames⟩ := h
  obtain ⟨row', hrow', hnames'⟩ := h'
  simp only [CommandIdentity.names, Bool.and_eq_true, decide_eq_true_eq, true_and]
    at hnames hnames'
  have hid := hu _ _ row row' hrow hrow' (by rw [hnames.1, hnames'.1, hsame])
  rw [hid, hrow', Option.some_inj] at hrow
  rw [hrow] at hnames'
  cases id
  cases id'
  simp_all

/-- An update that names one command leaves the others alone. -/
theorem updateCommands_others {condition : String → CommandRow → Bool}
    {set : CommandRow → CommandRow} {id : CommandIdentity}
    (hnames : ∀ commandId row, condition commandId row → id.names commandId row)
    (h : updateCommands condition set db = some (db', n)) {commandId : String}
    (hne : commandId ≠ id.commandId) :
    db'.commands.lookup commandId = db.commands.lookup commandId := by
  rw [(updateCommands_lookup h).1 commandId]
  cases db.commands.lookup commandId with
  | none => rfl
  | some row =>
      have hcondition : ¬ condition commandId row := fun hcond =>
        hne (CommandIdentity.eq_of_names (hnames commandId row hcond))
      rw [Option.map_some, if_neg hcondition]

end Rows

/-! ## How an attempt begins -/

section Begin

variable {planDigest : Json ℚ → String} {i : Installed} {db db' : Store} {n : ℕ}

/-- The row of a command whose attempt begins. -/
def CommandRow.begun (row : CommandRow) : CommandRow :=
  { row with
    state := .inFlight
    attemptEpoch := row.attemptEpoch + 1
    started := true
    failureCode := none }

/-- What `beginAttempt` does. -/
structure Begins (i : Installed) (db db' : Store) (row : CommandRow) : Prop where
  exec : i.begin.exec db = some (db', 1)
  found : db.commands.lookup i.id.commandId = some row
  named : i.id.names i.id.commandId row
  attempt : row.attemptEpoch = i.command.attemptEpoch
  state : row.state = .prepared ∨ row.state = .failed ∨ row.state = .interrupted
  begun : db'.commands.lookup i.id.commandId = some row.begun
  others : ∀ id, id ≠ i.id.commandId → db'.commands.lookup id = db.commands.lookup id

theorem beginAttempt_spec (h : beginAttempt planDigest i db = some db') :
    ∃ row, Begins i db db' row := by
  simp only [beginAttempt, Option.bind_eq_bind, Option.bind_eq_some_iff] at h
  obtain ⟨current, -, h⟩ := h
  split at h
  · split at h
    · next mid hexec =>
        cases h
        have hupdate := hexec
        simp only [Installed.begin, Write.exec, Statement.exec, Iphone.beginGenerationCommand]
          at hupdate
        obtain ⟨hzero, -⟩ | ⟨row, -, hrow, hcond, hrewrite⟩ := updateCommands_unique
          (fun commandId row hcond => by
            simp only [Bool.and_eq_true] at hcond
            exact CommandIdentity.eq_of_names hcond.1.1.1.1.1) hupdate
        · cases hzero
        · have hlookup := congrArg (fun t => t.lookup i.id.commandId)
            (updateCommand_commands hrewrite)
          simp only [AList.lookup_insert] at hlookup
          simp only [Bool.and_eq_true, Bool.or_eq_true, decide_eq_true_eq, or_assoc] at hcond
          refine ⟨row, hexec, hrow, hcond.1.1.1.1.1, hcond.1.1.1.2, hcond.1.1.2, hlookup,
            fun id hne => ?_⟩
          rw [updateCommand_commands hrewrite, AList.lookup_insert_ne hne]
    · cases h
  · cases h

/-- The row of a command whose attempt is taken back. -/
def CommandRow.takenBack (row : CommandRow) (priorAttemptEpoch : ℕ) : CommandRow :=
  { row with
    state := .failed
    attemptEpoch := priorAttemptEpoch
    started := false
    failureCode := some "not_started" }

/-- An attempt that has just begun is taken back. -/
theorem Begins.takenBack {row : CommandRow} {db'' : Store} (h : Begins i db db' row)
    (hexec : i.failNotStarted.exec db' = some (db'', n)) :
    db''.commands.lookup i.id.commandId = some (row.begun.takenBack i.command.attemptEpoch) ∧
      ∀ id, id ≠ i.id.commandId → db''.commands.lookup id = db.commands.lookup id := by
  simp only [Installed.failNotStarted, Write.exec, Iphone.failGenerationCommandNotStarted]
    at hexec
  refine ⟨?_, fun id hne => ?_⟩
  · rw [(updateCommands_lookup hexec).1, h.begun, Option.map_some]
    have hnames : i.id.names i.id.commandId row.begun :=
      CommandIdentity.names_congr rfl h.named
    have hcondition : (row.begun.attemptEpoch = i.command.attemptEpoch + 1 &&
        row.begun.state = .inFlight) = true := by
      simp [CommandRow.begun, h.attempt]
    rw [if_pos (by simp [-Bool.decide_and, hnames, hcondition])]
    rfl
  · have hothers : db''.commands.lookup id = db'.commands.lookup id := by
      refine updateCommands_others (fun commandId row hcond => ?_) hexec hne
      simp only [Bool.and_eq_true] at hcond
      exact hcond.1
    exact hothers.trans (h.others id hne)

end Begin

section Step

variable {limits : RegistryLimits} {planDigest : Json ℚ → String} {s t : GenerationState}
  {l : GenerationLabel}

/-! ## What a step does to the database -/

/-- What a step does to the database and to the record of who began what. -/
inductive StoreEffect (s : GenerationState) (l : GenerationLabel) (t : GenerationState) : Prop
  | kept (store : t.store = s.store) (begun : t.begun = s.begun)
  /-- One write that begins nothing; only the cancellation of an entry that was not started
  takes an attempt back. -/
  | wrote (w : Write) (count : ℕ) (permitted : w.Permitted)
      (exec : w.exec s.store = some (t.store, count)) (begun : t.begun = s.begun)
      (begins : w.beginsAttempt = false)
      (back : w.takesBack → ∃ n failure i, l = .cancellation n false failure ∧
        .cancellation n false failure ∈ s.history.effects ∧ s.installed n = some i ∧
        w = i.failNotStarted)
  /-- An attempt begins with an entry that is there and was not started. -/
  | began (n : ℕ) (i : Installed) (entry : Entry) (row : CommandRow) (db' : Store)
      (found : s.installed n = some i)
      (live : s.history.registry.tasks.lookup i.id.requestId = some entry)
      (attempt : entry.attemptEpoch = i.attemptEpoch) (fresh : entry.started = false)
      (begins : Begins i s.store db' row)
      (begun : t.begun = Function.update s.begun i.id.commandId (some entry.installation))
      (outcome : t.store = db' ∨
        (∃ count, i.failNotStarted.exec db' = some (t.store, count)) ∧
          ∀ m, .resumeTask m ∈ t.history.effects → .resumeTask m ∈ s.history.effects)

theorem Attempted.effect {w : Write} {db' : Store} (h : Attempted w s.store db')
    (hstore : t.store = db') (hbegun : t.begun = s.begun) (hpermitted : w.Permitted)
    (hbegins : w.beginsAttempt = false)
    (hback : w.takesBack → ∃ n failure i, l = .cancellation n false failure ∧
      .cancellation n false failure ∈ s.history.effects ∧ s.installed n = some i ∧
      w = i.failNotStarted) : StoreEffect s l t := by
  subst hstore
  obtain hsame | ⟨count, hexec⟩ := h
  · exact .kept hsame hbegun
  · exact .wrote w count hpermitted hexec hbegun hbegins hback

/-- What `beginNetwork` does with an entry that may begin and a closure that does not throw. -/
theorem beginNetwork_effects {r : ProviderTaskRegistry} {now : ClockReadings} {id : RequestId}
    {attempt expected : ℕ} {entry : Entry}
    (h : r.beginnable now id attempt expected = some entry) :
    let effects := (r.perform limits (.beginNetwork now id attempt expected fun _ =>
      { resumes := true })).2
    (now 1 < entry.deadline → effects = [.resumeTask entry.installation]) ∧
      (¬ now 1 < entry.deadline → ∀ n, .resumeTask n ∉ effects) := by
  constructor
  · intro hin
    simp [ProviderTaskRegistry.perform, beginNetwork, h, hin]
  · intro hlate n
    simp only [ProviderTaskRegistry.perform, beginNetwork, h, hlate, decide_false, Bool.and_false,
      Bool.false_eq_true, if_false, if_true, List.mem_cons, reduceCtorEq, false_or]
    exact resumeTask_not_mem_effects _ n

/-- **What a step does to the database.** -/
theorem GenerationStep.store (h : GenerationStep limits planDigest s l t) :
    StoreEffect s l t := by
  cases h with
  | generate | load | refuseLoad | refusePlan | install | startRefused | registry | taskDone
  | reconcileRead => exact .kept rfl rfl
  | failInitial g call loaded db' _ _ write =>
      exact write.effect rfl rfl rfl rfl (fun hback => by cases hback)
  | startBroken n i now entry db' _ found beginnable begins =>
      obtain ⟨row, hbegins⟩ := beginAttempt_spec begins
      obtain ⟨hlive, hattempt, -, hfresh⟩ := beginnable_spec beginnable
      exact .began n i entry row db' found hlive hattempt hfresh hbegins rfl (.inl rfl)
  | startResumes n i now entry db' _ found beginnable begins inTime =>
      obtain ⟨row, hbegins⟩ := beginAttempt_spec begins
      obtain ⟨hlive, hattempt, -, hfresh⟩ := beginnable_spec beginnable
      exact .began n i entry row db' found hlive hattempt hfresh hbegins rfl (.inl rfl)
  | startExpires n i now entry db' db'' count _ found beginnable begins late takenBack =>
      obtain ⟨row, hbegins⟩ := beginAttempt_spec begins
      obtain ⟨hlive, hattempt, -, hfresh⟩ := beginnable_spec beginnable
      refine .began n i entry row db' found hlive hattempt hfresh hbegins rfl
        (.inr ⟨⟨count, takenBack⟩, fun m hm => ?_⟩)
      have hnone := (@beginNetwork_effects limits _ _ _ _ _ _ beginnable).2 late m
      exact (List.mem_append.mp hm).resolve_right hnone
  | cancellation n started failure i db' called once found write =>
      cases started with
      | true => exact write.effect rfl rfl trivial rfl (fun hback => by cases hback)
      | false =>
          exact write.effect rfl rfl trivial rfl
            fun _ => ⟨n, failure, i, rfl, called, found, rfl⟩
  | taskFailed task failure i db' _ _ write =>
      exact write.effect rfl rfl rfl rfl (fun hback => by cases hback)
  | reconcileWrite g code reading w db' _ next write =>
      obtain ⟨id, state, attempt⟩ := reading
      cases state with
      | inFlight | prepared =>
          obtain rfl := Option.some.inj next
          exact write.effect rfl rfl rfl rfl (fun hback => by cases hback)
      | _ => cases next
  | write w db' count permitted room exec =>
      refine .wrote w count permitted exec rfl ?_ fun hback => ?_
      · cases w with
        | statement s =>
            cases s with
            | beginGenerationCommand => cases room
            | _ => rfl
        | _ => rfl
      · cases w with
        | failGenerationCommandNotStarted => cases room
        | _ => cases hback
  | recover db' exec => exact exec.effect rfl rfl trivial rfl (fun hback => by cases hback)

/-! ## Entries -/

/-- The entries, the effects and the tasks are those of what was installed. -/
structure EntriesInv (limits : RegistryLimits) (s : GenerationState) : Prop where
  admitted : Admitted limits s.history.registry
  tracks : Tracks s.history
  numbered : ∀ n i, s.installed n = some i → n < s.history.registry.installations
  entry : ∀ id e, s.history.registry.tasks.lookup id = some e →
    ∃ i, s.installed e.installation = some i ∧ i.id.requestId = id ∧
      e.attemptEpoch = i.attemptEpoch
  task : ∀ task, task ∈ s.tasks ∨ task ∈ s.claimed →
    ∃ i j, s.installed task.closure = some i ∧ s.installed task.entry = some j ∧
      j.id.requestId = i.id.requestId ∧ j.attemptEpoch = i.attemptEpoch ∧
      .resumeTask task.entry ∈ s.history.effects

/-- A step that leaves the registry alone. -/
theorem EntriesInv.same (h : EntriesInv limits s) (hhistory : t.history = s.history)
    (hinstalled : t.installed = s.installed)
    (htask : ∀ task, task ∈ t.tasks ∨ task ∈ t.claimed → task ∈ s.tasks ∨ task ∈ s.claimed) :
    EntriesInv limits t where
  admitted := hhistory ▸ h.admitted
  tracks := hhistory ▸ h.tracks
  numbered := by
    rw [hhistory, hinstalled]
    exact h.numbered
  entry := by
    rw [hhistory, hinstalled]
    exact h.entry
  task task hmem := by
    rw [hhistory, hinstalled]
    exact h.task task (htask task hmem)

/-- A step that calls the registry, but not `install`. -/
theorem EntriesInv.perform (h : EntriesInv limits s) {call : RegistryCall}
    (hcall : ∀ now id attempt expected, call ≠ .install now id attempt expected)
    (hhistory : t.history = s.history.perform limits call) (hinstalled : t.installed = s.installed)
    (htask : ∀ task, task ∈ t.tasks ∨ task ∈ t.claimed → (task ∈ s.tasks ∨ task ∈ s.claimed) ∨
      ∃ i j, s.installed task.closure = some i ∧ s.installed task.entry = some j ∧
        j.id.requestId = i.id.requestId ∧ j.attemptEpoch = i.attemptEpoch ∧
        .resumeTask task.entry ∈ (s.history.registry.perform limits call).2) :
    EntriesInv limits t where
  admitted := hhistory ▸ (perform_spec call h.admitted).1
  tracks := hhistory ▸ h.tracks.perform h.admitted call
  numbered n i hn := by
    have hcount : (s.history.perform limits call).registry.installations = _ :=
      perform_no_entry hcall
    rw [hhistory, hcount]
    exact h.numbered n i (hinstalled ▸ hn)
  entry id f hf := by
    rw [hhistory] at hf
    obtain ⟨e, he, hlater, -⟩ := perform_old_entry h.admitted hcall hf
    obtain ⟨i, hi, hid, hattempt⟩ := h.entry id e he
    rw [hinstalled, hlater.installation, hlater.attemptEpoch]
    exact ⟨i, hi, hid, hattempt⟩
  task task hmem := by
    rw [hhistory, hinstalled]
    obtain hold | ⟨i, j, hi, hj, hid, hattempt, hnew⟩ := htask task hmem
    · obtain ⟨i, j, hi, hj, hid, hattempt, hresumed⟩ := h.task task hold
      exact ⟨i, j, hi, hj, hid, hattempt, List.mem_append_left _ hresumed⟩
    · exact ⟨i, j, hi, hj, hid, hattempt, List.mem_append_right _ hnew⟩

/-- A recorded entry stays recorded. -/
theorem GenerationStep.installed_mono (h : GenerationStep limits planDigest s l t)
    (hinv : EntriesInv limits s) {n : ℕ} {i : Installed} (hn : s.installed n = some i) :
    t.installed n = some i := by
  cases h with
  | install g call loaded now admission _ _ answer =>
      dsimp only
      split
      · rwa [Function.update_of_ne (hinv.numbered n i hn).ne]
      · exact hn
  | _ => exact hn

theorem EntriesInv.install (h : EntriesInv limits s) {call : GenerateCall} {loaded : LoadedCommand}
    {now : ClockReadings} {admission : ProviderTaskAdmission}
    (answer : (s.history.registry.install limits now call.id.requestId
      (loaded.attemptEpoch + 1) call.lifecycleEpoch).1 = admission)
    (hhistory : t.history = s.history.perform limits
      (.install now call.id.requestId (loaded.attemptEpoch + 1) call.lifecycleEpoch))
    (hinstalled : t.installed =
      if admission.admits then
        Function.update s.installed s.history.registry.installations
          (some { id := call.id, command := loaded, lifecycleEpoch := call.lifecycleEpoch })
      else s.installed)
    (htasks : t.tasks = s.tasks) (hclaimed : t.claimed = s.claimed) : EntriesInv limits t := by
  obtain ⟨hno, hsame, hnothing⟩ | ⟨hyes, hfree, e, hnumber, hattempt, -, -, htable, hcount⟩ :=
    @install_entries limits s.history.registry now call.id.requestId
      (loaded.attemptEpoch + 1) call.lifecycleEpoch
  · -- nothing was installed
    rw [answer] at hno
    refine h.same ?_ (by rw [hinstalled, hno]; rfl) (by simp [htasks, hclaimed])
    rw [hhistory]
    simp only [RegistryHistory.perform, ProviderTaskRegistry.perform, hsame, hnothing,
      List.append_nil]
  · rw [answer] at hyes
    rw [if_pos hyes] at hinstalled
    have hadm := (perform_spec (.install now call.id.requestId
      (loaded.attemptEpoch + 1) call.lifecycleEpoch) h.admitted).1
    have hregistry : t.history.registry.tasks = _ := (congrArg (·.registry.tasks) hhistory).trans
      htable
    have hcount' : t.history.registry.installations = s.history.registry.installations + 1 :=
      (congrArg (·.registry.installations) hhistory).trans hcount
    have hold : ∀ n i, s.installed n = some i → t.installed n = some i := by
      intro n i hn
      rwa [hinstalled, Function.update_of_ne (h.numbered n i hn).ne]
    refine ⟨hhistory ▸ hadm, hhistory ▸ h.tracks.perform h.admitted _, fun n i hn => ?_,
      fun id f hf => ?_, fun task hmem => ?_⟩
    · rw [hcount']
      by_cases hnew : n = s.history.registry.installations
      · omega
      · rw [hinstalled, Function.update_of_ne hnew] at hn
        exact (h.numbered n i hn).trans (Nat.lt_succ_self _)
    · rw [hregistry, KeyedTable.lookup_insert] at hf
      split at hf
      · next hid =>
          cases hf
          exact ⟨{ id := call.id, command := loaded, lifecycleEpoch := call.lifecycleEpoch },
            by rw [hinstalled, hnumber, Function.update_self], hid.symm, hattempt⟩
      · obtain ⟨i, hi, hid, hsame⟩ := h.entry id f hf
        exact ⟨i, hold _ i hi, hid, hsame⟩
    · rw [htasks, hclaimed] at hmem
      obtain ⟨i, j, hi, hj, hid, hsame, hresumed⟩ := h.task task hmem
      refine ⟨i, j, hold _ i hi, hold _ j hj, hid, hsame, ?_⟩
      rw [hhistory]
      exact List.mem_append_left _ hresumed

theorem EntriesInv.step (h : EntriesInv limits s) (hst : GenerationStep limits planDigest s l t) :
    EntriesInv limits t := by
  cases hst with
  | generate | load | refuseLoad | refusePlan | failInitial | startRefused | startBroken
  | cancellation | reconcileRead | reconcileWrite | write | recover =>
      exact h.same rfl rfl fun task hmem => hmem
  | taskFailed task failure i db' pending =>
      exact h.same rfl rfl fun task' hmem => hmem.imp_right List.mem_of_mem_erase
  | install g call loaded now admission found stage answer =>
      exact h.install answer rfl rfl rfl rfl
  | startResumes n i now entry db' starting found beginnable begins inTime =>
      refine h.perform (by simp) rfl rfl fun task hmem => ?_
      rw [List.mem_cons, or_assoc] at hmem
      refine hmem.symm.imp id fun heq => ?_
      obtain rfl := heq
      obtain ⟨hlive, hattempt, -, -⟩ := beginnable_spec beginnable
      obtain ⟨j, hj, hid, hnumber⟩ := h.entry _ entry hlive
      refine ⟨i, j, found, hj, hid, hnumber.symm.trans hattempt, ?_⟩
      rw [(beginNetwork_effects beginnable).1 inTime]
      exact List.mem_singleton_self _
  | startExpires n i now entry db' db'' count starting found beginnable begins late =>
      exact h.perform (by simp) rfl rfl fun task hmem => .inl hmem
  | registry call outside =>
      refine h.perform (fun now id attempt expected heq => ?_) rfl rfl fun task hmem => .inl hmem
      rw [heq] at outside
      cases outside
  | taskDone task i now pending found =>
      refine h.perform (by simp) rfl rfl fun task' hmem => .inl ?_
      obtain hmem | hmem := hmem
      · exact .inl (List.mem_of_mem_erase hmem)
      · dsimp only at hmem
        split at hmem
        · obtain rfl | hmem := List.mem_cons.mp hmem
          · exact .inl pending
          · exact .inr hmem
        · exact .inr hmem

/-! ## Commands -/

/-- The entries stand for commands that are there, and an attempt in flight was begun with an
entry of its number. -/
structure CommandsInv (s : GenerationState) : Prop where
  requests : RequestsUnique s.store
  loaded : ∀ g call command, s.calls g = some call → call.stage = .loaded command →
    Named s.store call.id
  named : ∀ n i, s.installed n = some i → Named s.store i.id
  begun : ∀ id n, s.begun id = some n → ∃ i row, s.installed n = some i ∧ i.id.commandId = id ∧
    s.store.commands.lookup id = some row ∧ row.state ≠ .prepared
  inFlight : ∀ id row, s.store.commands.lookup id = some row → row.state = .inFlight →
    ∃ n i, s.begun id = some n ∧ s.installed n = some i ∧ row.attemptEpoch = i.attemptEpoch

/-- Every write of a step is one the database lets through. -/
theorem StoreEffect.writes (h : StoreEffect s l t) :
    ∃ ws, storeSystem.Run s.store ws t.store := by
  cases h with
  | kept store => exact ⟨[], store ▸ .nil _⟩
  | wrote w count permitted exec => exact ⟨[w], .single ⟨permitted, count, exec⟩⟩
  | began n i entry row db' _ _ _ _ begins _ outcome =>
      have hbegin : storeSystem.step s.store i.begin db' := ⟨rfl, 1, begins.exec⟩
      obtain rfl | ⟨⟨count, hback⟩, -⟩ := outcome
      · exact ⟨[i.begin], .single hbegin⟩
      · exact ⟨[i.begin, i.failNotStarted], .cons hbegin (.single ⟨trivial, count, hback⟩)⟩

theorem Named.run {db db' : Store} {ws : List Write} {id : CommandIdentity}
    (hrun : storeSystem.Run db ws db') (h : Named db id) : Named db' id := by
  refine hrun.preserves (I := fun db => Named db id) (fun db w db' h hstep => ?_) h
  obtain ⟨hpermitted, n, hexec⟩ := hstep
  exact h.step hpermitted hexec

/-- The entry that begins an attempt is one of its command and number. -/
theorem EntriesInv.owner (h : EntriesInv limits s) (hc : CommandsInv s) {n : ℕ} {i : Installed}
    {entry : Entry} (found : s.installed n = some i)
    (live : s.history.registry.tasks.lookup i.id.requestId = some entry)
    (attempt : entry.attemptEpoch = i.attemptEpoch) :
    ∃ j, s.installed entry.installation = some j ∧ j.id = i.id ∧
      j.attemptEpoch = i.attemptEpoch := by
  obtain ⟨j, hj, hid, hsame⟩ := h.entry _ entry live
  exact ⟨j, hj, (hc.named _ j hj).unique hc.requests (hc.named n i found) hid,
    hsame.symm.trans attempt⟩

/-- What a step does to a row that is there. -/
inductive RowEffect (s : GenerationState) (l : GenerationLabel) (t : GenerationState)
    (id : String) (row row' : CommandRow) : Prop
  | kept (same : row' = row) (begun : t.begun id = s.begun id)
  | settled (settles : RowSettles row row') (begun : t.begun id = s.begun id)
  /-- The cancellation of an entry that was not started takes back the attempt in flight. -/
  | takenBack (n : ℕ) (failure : DatabaseFailure) (i : Installed)
      (label : l = .cancellation n false failure)
      (called : .cancellation n false failure ∈ s.history.effects)
      (found : s.installed n = some i) (command : i.id.commandId = id)
      (inFlight : row.state = .inFlight) (attempt : row.attemptEpoch = i.attemptEpoch)
      (failed : row'.state = .failed) (prior : row'.attemptEpoch = i.command.attemptEpoch)
      (begun : t.begun id = s.begun id)
  /-- An attempt begins, and is taken back at once if its time is over. -/
  | began (n : ℕ) (i : Installed) (entry : Entry) (found : s.installed n = some i)
      (command : i.id.commandId = id)
      (live : s.history.registry.tasks.lookup i.id.requestId = some entry)
      (attempt : entry.attemptEpoch = i.attemptEpoch) (fresh : entry.started = false)
      (prior : row.attemptEpoch = i.command.attemptEpoch)
      (idle : row.state ≠ .inFlight)
      (begun : t.begun id = some entry.installation)
      (outcome : row'.state = .inFlight ∧ row'.attemptEpoch = i.attemptEpoch ∨
        row'.state = .failed ∧ row'.attemptEpoch = i.command.attemptEpoch ∧
          ∀ m, .resumeTask m ∈ t.history.effects → .resumeTask m ∈ s.history.effects)

/-- **What a step does to a command.** -/
theorem StoreEffect.row (h : StoreEffect s l t) {id : String} {row : CommandRow}
    (hrow : s.store.commands.lookup id = some row) :
    ∃ row', t.store.commands.lookup id = some row' ∧ RowEffect s l t id row row' := by
  cases h with
  | kept store begun => exact ⟨row, by rw [store, hrow], .kept rfl (by rw [begun])⟩
  | wrote w count permitted exec begun begins back =>
      cases hcommands : w.onCommands with
      | false =>
          have hsame := (Write.elsewhere permitted hcommands exec).1
          exact ⟨row, by rw [hsame, hrow], .kept rfl (by rw [begun])⟩
      | true =>
          obtain ⟨row', hrow', rfl | ⟨-, hwrite⟩⟩ := Write.row_cases hcommands exec hrow
          · exact ⟨row', hrow', .kept rfl (by rw [begun])⟩
          · refine ⟨row', hrow', ?_⟩
            obtain hsettles | ⟨ident, prior, rfl, hnames, hflight, hattempt, hfailed, hprior⟩ :=
              hwrite.settles begins
            · exact .settled hsettles (by rw [begun])
            · obtain ⟨n, failure, i, hlabel, hcalled, hfound, heq⟩ := back rfl
              obtain ⟨rfl, rfl⟩ := Write.failGenerationCommandNotStarted.inj heq
              exact .takenBack n failure i hlabel hcalled hfound
                (CommandIdentity.eq_of_names hnames).symm hflight hattempt hfailed hprior
                (by rw [begun])
  | began n i entry old db' found live attempt fresh begins begun outcome =>
      by_cases hid : id = i.id.commandId
      · subst hid
        rw [begins.found, Option.some_inj] at hrow
        subst hrow
        have hidle : old.state ≠ .inFlight := by
          intro hflight
          obtain hs | hs | hs := begins.state <;> rw [hs] at hflight <;> cases hflight
        have hbegun : t.begun i.id.commandId = some entry.installation := by
          rw [begun, Function.update_self]
        obtain rfl | ⟨⟨count, hback⟩, hquiet⟩ := outcome
        · refine ⟨old.begun, begins.begun, .began n i entry found rfl live attempt fresh
            begins.attempt hidle hbegun (.inl ⟨rfl, ?_⟩)⟩
          exact congrArg (· + 1) begins.attempt
        · exact ⟨_, (begins.takenBack hback).1, .began n i entry found rfl live attempt fresh
            begins.attempt hidle hbegun (.inr ⟨rfl, rfl, hquiet⟩)⟩
      · have hsame : t.store.commands.lookup id = s.store.commands.lookup id := by
          obtain rfl | ⟨⟨count, hback⟩, -⟩ := outcome
          · exact begins.others id hid
          · exact (begins.takenBack hback).2 id hid
        exact ⟨row, by rw [hsame, hrow], .kept rfl (by rw [begun, Function.update_of_ne hid])⟩

/-- A command that a step brings is prepared. -/
theorem StoreEffect.row_new (h : StoreEffect s l t) {id : String} {row' : CommandRow}
    (hnone : s.store.commands.lookup id = none)
    (hrow : t.store.commands.lookup id = some row') : row'.state = .prepared := by
  cases h with
  | kept store =>
      rw [store, hnone] at hrow
      cases hrow
  | wrote w count permitted exec => exact (Write.row_new permitted exec hnone hrow).1
  | began n i entry old db' found live attempt fresh begins begun outcome =>
      have hid : id ≠ i.id.commandId := by
        rintro rfl
        rw [begins.found] at hnone
        cases hnone
      have hsame : t.store.commands.lookup id = s.store.commands.lookup id := by
        obtain rfl | ⟨⟨count, hback⟩, -⟩ := outcome
        · exact begins.others id hid
        · exact (begins.takenBack hback).2 id hid
      rw [hsame, hnone] at hrow
      cases hrow

/-- Nothing is recorded for a command that is not there. -/
theorem CommandsInv.begun_none (h : CommandsInv s) {id : String}
    (hnone : s.store.commands.lookup id = none) : s.begun id = none := by
  cases hbegun : s.begun id with
  | none => rfl
  | some n =>
      obtain ⟨i, row, -, -, hrow, -⟩ := h.begun id n hbegun
      rw [hnone] at hrow
      cases hrow

/-- Nothing is recorded of a command that is not there, also after the step. -/
theorem StoreEffect.begun_none (h : StoreEffect s l t) (hc : CommandsInv s) {id : String}
    (hnone : s.store.commands.lookup id = none) : t.begun id = none := by
  have hbefore := hc.begun_none hnone
  cases h with
  | kept _ begun | wrote _ _ _ _ begun => rw [begun, hbefore]
  | began n i entry old db' _ _ _ _ begins begun =>
      rw [begun, Function.update_of_ne, hbefore]
      rintro rfl
      rw [begins.found] at hnone
      cases hnone

theorem providerCommandAuthority_named {id : CommandIdentity} {db : Store} {loaded : LoadedCommand}
    (h : providerCommandAuthority planDigest id db = some loaded) : Named db id := by
  simp only [providerCommandAuthority, Option.bind_eq_bind, Option.bind_eq_some_iff] at h
  obtain ⟨row, hrow, a, -, room, -, h⟩ := h
  split at h
  · next hok => exact ⟨row, hrow, hok.1⟩
  · cases h

/-- A call whose command is loaded loaded it now or before. -/
theorem GenerationStep.loaded (h : GenerationStep limits planDigest s l t) {g : ℕ}
    {call : GenerateCall} {command : LoadedCommand} (hcall : t.calls g = some call)
    (hstage : call.stage = .loaded command) :
    s.calls g = some call ∨ Named s.store call.id := by
  -- a call that is written is loaded only where it was loaded by this step
  have hupdate : ∀ {g₀ : ℕ} {new : GenerateCall},
      (∀ command, new.stage = .loaded command → Named s.store new.id) →
      Function.update s.calls g₀ (some new) g = some call →
      s.calls g = some call ∨ Named s.store call.id := by
    intro g₀ new hnew hg
    by_cases heq : g = g₀
    · rw [heq, Function.update_self, Option.some_inj] at hg
      subst hg
      exact .inr (hnew command hstage)
    · rw [Function.update_of_ne heq] at hg
      exact .inl hg
  cases h with
  | generate g₀ id fresh =>
      refine hupdate (fun command hnew => ?_) hcall
      split at hnew <;> cases hnew
  | load g₀ call₀ loaded found stage authority =>
      refine hupdate (fun command hnew => ?_) hcall
      cases hnew
      exact providerCommandAuthority_named authority
  | refuseLoad | refusePlan | failInitial =>
      exact hupdate (fun command hnew => by cases hnew) hcall
  | install g₀ call₀ loaded now admission =>
      refine hupdate (fun command hnew => ?_) hcall
      cases admission <;> cases hnew
  | _ => exact .inl hcall

/-- An entry that is recorded was recorded before, or its command was loaded. -/
theorem GenerationStep.installed_named (h : GenerationStep limits planDigest s l t)
    (hc : CommandsInv s) {n : ℕ} {i : Installed} (hi : t.installed n = some i) :
    Named s.store i.id := by
  cases h with
  | install g call loaded now admission found stage answer =>
      dsimp only at hi
      split at hi
      · by_cases hn : n = s.history.registry.installations
        · rw [hn, Function.update_self, Option.some_inj] at hi
          subst hi
          exact hc.loaded g call loaded found stage
        · rw [Function.update_of_ne hn] at hi
          exact hc.named n i hi
      · exact hc.named n i hi
  | _ => exact hc.named n i hi

theorem CommandsInv.step (h : CommandsInv s) (he : EntriesInv limits s)
    (hst : GenerationStep limits planDigest s l t) : CommandsInv t := by
  have heffect := hst.store
  obtain ⟨ws, hwrites⟩ := heffect.writes
  refine ⟨hwrites.preserves (fun db w db' hu hstep => requestsUnique_inductive.step db w db' hu
    hstep) h.requests, fun g call command hcall hstage => ?_, fun n i hi => ?_,
    fun id n hbegun => ?_, fun id row' hrow' hflight => ?_⟩
  · obtain hold | hnow := hst.loaded hcall hstage
    · exact (h.loaded g call command hold hstage).run hwrites
    · exact hnow.run hwrites
  · exact (hst.installed_named h hi).run hwrites
  · cases hrow : s.store.commands.lookup id with
    | none =>
        rw [heffect.begun_none h hrow] at hbegun
        cases hbegun
    | some row =>
        obtain ⟨row', hrow', hchange⟩ := heffect.row hrow
        -- a record that stays is of an entry that stays
        have hold : t.begun id = s.begun id → (row.state ≠ .prepared → row'.state ≠ .prepared) →
            ∃ i row, t.installed n = some i ∧ i.id.commandId = id ∧
              t.store.commands.lookup id = some row ∧ row.state ≠ .prepared := by
          intro hsame hstate
          obtain ⟨i, r, hi, hid, hr, hprepared⟩ := h.begun id n (hsame ▸ hbegun)
          rw [hrow, Option.some_inj] at hr
          exact ⟨i, row', hst.installed_mono he hi, hid, hrow', hstate (hr ▸ hprepared)⟩
        cases hchange with
        | kept same begun => exact hold begun fun hprepared => same ▸ hprepared
        | settled settles begun => exact hold begun fun _ => settles.prepared
        | takenBack _ _ _ _ _ _ _ _ _ failed _ begun =>
            exact hold begun fun _ => by simp [failed]
        | began m i entry found command live attempt fresh prior idle begun outcome =>
            rw [begun, Option.some_inj] at hbegun
            subst hbegun
            obtain ⟨j, hj, hid, -⟩ := he.owner h found live attempt
            refine ⟨j, row', hst.installed_mono he hj, by rw [hid, command], hrow', ?_⟩
            obtain ⟨hstate, -⟩ | ⟨hstate, -⟩ := outcome <;> simp [hstate]
  · cases hrow : s.store.commands.lookup id with
    | none =>
        rw [heffect.row_new hrow hrow'] at hflight
        cases hflight
    | some row =>
        obtain ⟨new, hnew, hchange⟩ := heffect.row hrow
        rw [hrow', Option.some_inj] at hnew
        subst hnew
        cases hchange with
        | kept same begun =>
            subst same
            obtain ⟨n, i, hbegun, hi, hattempt⟩ := h.inFlight id row' hrow hflight
            exact ⟨n, i, begun.trans hbegun, hst.installed_mono he hi, hattempt⟩
        | settled settles => exact absurd hflight settles.inFlight
        | takenBack _ _ _ _ _ _ _ _ _ failed =>
            rw [failed] at hflight
            cases hflight
        | began m i entry found command live attempt fresh prior idle begun outcome =>
            obtain ⟨-, hattempt⟩ | ⟨hfailed, -⟩ := outcome
            · obtain ⟨j, hj, -, hsame⟩ := he.owner h found live attempt
              exact ⟨entry.installation, j, begun, hst.installed_mono he hj,
                hattempt.trans hsame.symm⟩
            · rw [hfailed] at hflight
              cases hflight

/-- What holds in every state of every run. -/
structure GenerationInv (limits : RegistryLimits) (s : GenerationState) : Prop where
  entries : EntriesInv limits s
  commands : CommandsInv s

theorem generation_inductive (limits : RegistryLimits) (planDigest : Json ℚ → String) :
    (generationSystem limits planDigest).Inductive (GenerationInv limits) where
  init s hs := by
    obtain ⟨hinit, heq⟩ := hs
    have hnone : ∀ id, s.store.commands.lookup id = none := by
      intro id
      rw [hinit.1, AList.lookup_empty]
    rw [heq]
    refine ⟨⟨admitted_empty limits, ⟨by simp, by simp, by simp⟩, by simp, by simp, by simp⟩,
      ⟨requestsUnique_inductive.init _ hinit, by simp, by simp, by simp, ?_⟩⟩
    intro id row hrow
    rw [hnone] at hrow
    cases hrow
  step s l t hs hst := ⟨hs.entries.step hst, hs.commands.step hs.entries hst⟩

/-- The database of a run of generation is one that its writes reach. -/
theorem generation_store (hs : (generationSystem limits planDigest).Reachable s) :
    storeSystem.Reachable s.store := by
  obtain ⟨s₀, ls, hinit, hrun⟩ := hs
  refine hrun.preserves (I := fun s => storeSystem.Reachable s.store)
    (fun s l t h hst => ?_) (.of_init hinit.1)
  obtain ⟨ws, hwrites⟩ := (show GenerationStep limits planDigest s l t from hst).store.writes
  exact h.run hwrites

end Step

end GreenRoom.Iphone
