import GreenRoom.Runtime.ExactlyOnce
import GreenRoom.Runtime.Requests

/-!
# Repeated commands

A request may be repeated at any time, by anybody.  Once its command is complete, the
same request is given the stored result again; another request under its key is turned
away.  Either way nothing happens: no table changes and no execution is disturbed.

## Main definitions

* `CarriesOut` — the step in which a service carries out a request, and its answer.
* `Untouched` — what a repetition leaves alone.

## Main results

* `command_idempotency`
-/

namespace GreenRoom.Runtime

open JsString GreenRoom.Core

/-- The result a message is answered with, unless it waits for one. -/
def PreparedMessage.result : PreparedMessage → Option CommandResult
  | .complete result => some result
  | _ => none

section

variable {host : Host}

variable (host) in
/-- The request is carried out, in a transaction with the given faults that reads the given
clock; the answer is `none` while a message waits for its reply. -/
inductive CarriesOut (s : System) (faults : Faults JsError) :
    Request → Option ℤ → Except JsError (Option CommandResult) → System → Prop
  | message (token : Token) (e : Execution) (service : Service) (clock : ℤ)
      (answer : Except JsError PreparedMessage) (db' : Db) :
      s.executions.lookup token = some e → s.services.lookup e.service = some service →
      service.closed = false → e.phase = .preparing →
      transact faults (prepareMessage service.options e.command e.requestDigest token clock) s.db =
        (answer, db') →
      CarriesOut s faults (.message e.command) (some clock) (answer.map PreparedMessage.result)
        (((s.commit (some e.key) db').grantIfClaimed e.key token answer).setExecution token
          (e.afterPrepare s.grants answer))
  | roomControl (id : ServiceId) (service : Service) (kind : RoomControl) (command : RoomCommand)
      (answer : Except JsError ControlAnswer) (db' : Db) :
      s.services.lookup id = some service → service.closed = false →
      transact faults (roomControl host kind command) s.db = (answer, db') →
      CarriesOut s faults (.roomControl kind command) none (answer.map fun a => some a.result)
        ((s.commit (some (command.roomId, command.requestId)) db').abortIf id command.roomId answer)
  | personaControl (id : ServiceId) (service : Service) (kind : PersonaControl)
      (command : PersonaControlCommand) (answer : Except JsError ControlAnswer) (db' : Db) :
      s.services.lookup id = some service → service.closed = false →
      transact faults (personaControl host kind command) s.db = (answer, db') →
      CarriesOut s faults (.personaControl kind command) none (answer.map fun a => some a.result)
        ((s.commit (some (command.roomId, command.requestId)) db').abortIf id command.roomId answer)

theorem CarriesOut.step {s t : System} {faults : Faults JsError} {request : Request}
    {clock : Option ℤ} {answer : Except JsError (Option CommandResult)}
    (h : CarriesOut host s faults request clock answer t) : ∃ l, Step host s l t := by
  cases h with
  | message token e service clock answer db' he hservice hopen hphase ht =>
      exact ⟨_, .prepare s token e service faults clock answer db' he hservice hopen hphase ht⟩
  | roomControl id service kind command answer db' hservice hopen ht =>
      exact ⟨_, .roomControl s id service kind command faults answer db' hservice hopen ht⟩
  | personaControl id service kind command answer db' hservice hopen ht =>
      exact ⟨_, .personaControl s id service kind command faults answer db' hservice hopen ht⟩

/-- No table is changed, no claim is granted, and no execution that is past preparing is
disturbed. -/
structure Untouched (s t : System) : Prop where
  db : t.db = s.db
  journal : t.journal = s.journal
  services : t.services = s.services
  works : t.works = s.works
  granted : t.granted = s.granted
  executions : ∀ token e, s.executions.lookup token = some e → e.phase ≠ .preparing →
    t.executions.lookup token = some e

def selectionConflict : JsError := .ofText "Room selection revision conflict"

theorem System.commit_self (author : Option CommandKey) (s : System) :
    s.commit author s.db = s := by
  have hnew : System.newEvents s.db s.db = [] := by
    rw [System.newEvents, List.filter_eq_nil_iff]
    intro e he
    simpa using AList.mem_keys.mpr (List.mem_map_of_mem he)
  rw [System.commit, hnew]
  simp

theorem System.abortIf_of_not {id : ServiceId} {roomId : RoomId}
    {answer : Except JsError ControlAnswer} (h : asksToAbort answer = false) (s : System) :
    s.abortIf id roomId answer = s := by
  have hkept : (s.abortIf id roomId answer).executions = s.executions := by
    simp only [System.abortIf, System.updateExecutions]
    refine KeyedTable.modify_self fun token e _ => ?_
    simp [h]
  calc s.abortIf id roomId answer
      = { s with executions := (s.abortIf id roomId answer).executions } := rfl
    _ = s := by rw [hkept]

theorem Untouched.refl (s : System) : Untouched s s := ⟨rfl, rfl, rfl, rfl, rfl, fun _ _ h _ => h⟩

/-- An execution that leaves `prepareMessage` with a result or an error. -/
theorem Untouched.finish {s : System} {token : Token} {e : Execution} (phase : Phase)
    (he : s.executions.lookup token = some e) (hphase : e.phase = .preparing) :
    Untouched s (s.setExecution token (e.finish phase)) := by
  refine ⟨rfl, rfl, rfl, rfl, rfl, fun token' e' he' hpast => ?_⟩
  refine (KeyedTable.lookup_insert _ _ _ _).trans ?_
  rw [if_neg, he']
  rintro rfl
  rw [he, Option.some.injEq] at he'
  exact hpast (he' ▸ hphase)

theorem Untouched.control {s : System} {id : ServiceId} {key : CommandKey}
    {answer : Except JsError ControlAnswer} {db' : Db} (hdb : db' = s.db)
    (habort : asksToAbort answer = false) :
    Untouched s ((s.commit (some key) db').abortIf id key.1 answer) := by
  rw [hdb, System.commit_self, System.abortIf_of_not habort]
  exact .refl s

/-! ## What a repetition is turned away for -/

theorem requireRoomSelection_throws {roomId : JsString} {selectionRevision : ℕ} {db : Db}
    {error : JsError} (hroomId : Cast.canonicalIdentifier roomId "roomId" 128 = .ok roomId)
    (hrevision : (selectionRevision : ℤ) < safeIntegerBound)
    (h : (requireRoomSelection roomId selectionRevision).Throws db error) :
    error = selectionConflict := by
  unfold requireRoomSelection at h
  rcases h.bind with h | ⟨_, _, -, h⟩
  · rw [Program.throws_ofExcept, hroomId] at h
    cases h
  rcases h.bind with h | ⟨_, _, -, h⟩
  · rw [Program.throws_ofExcept, Cast.canonicalRevision,
      if_pos ⟨Int.natCast_nonneg _, hrevision⟩] at h
    cases h
  rcases h.bind with h | ⟨_, _, -, h⟩
  · exact absurd h Program.throws_query
  · exact (Program.throws_require.mp h).2

/-- A command that has a result of its own is not turned away. -/
theorem answerAgain_throws {prior : CommandRow} {requestDigest : JsString} {result : CommandResult}
    {db : Db} {error : JsError} (hrow : AnsweredFrom prior requestDigest result) :
    ¬ (answerAgain prior requestDigest).Throws db error := by
  intro h
  unfold answerAgain at h
  rcases h.bind with h | ⟨_, _, -, h⟩
  · exact (Program.throws_require.mp h).1 hrow.digest
  · rw [hrow.result] at h
    exact Program.throws_pure h

theorem prepareMessage_throws {options : ServiceOptions} {command : MessageCommand}
    {requestDigest claimOwner : JsString} {clock : ℤ} {row : CommandRow} {result : CommandResult}
    {db : Db} {error : JsError} (hchecked : (Request.message command).Checked)
    (hclock : 0 ≤ clock ∧ clock < safeIntegerBound)
    (hrow : db.commands.lookup command.key = some row)
    (hanswered : AnsweredFrom row requestDigest result)
    (h : (prepareMessage options command requestDigest claimOwner clock).Throws db error) :
    error = selectionConflict := by
  unfold prepareMessage at h
  rcases h.bind with h | ⟨_, _, hselected, hrest⟩
  · exact requireRoomSelection_throws hchecked.libraryId hchecked.revision.2 h
  obtain rfl := requireRoomSelection_returns hselected
  rcases hrest.bind with h | ⟨_, _, htime, hrest'⟩
  · rw [currentTime, if_pos hclock] at h
    exact absurd h Program.throws_pure
  obtain ⟨-, rfl⟩ := currentTime_returns htime
  rcases hrest'.bind with h | ⟨_, _, hprior, hknown⟩
  · exact absurd h Program.throws_query
  obtain ⟨rfl, rfl⟩ := findCommand_returns hprior
  rw [show (command.roomId, command.requestId) = command.key from rfl, hrow] at hknown
  dsimp only [prepareKnown] at hknown
  rcases hknown.bind with h | ⟨_, _, -, h⟩
  · exact absurd hanswered.digest (Program.throws_require.mp h).1
  · rw [hanswered.result] at h
    exact absurd h Program.throws_pure

theorem canonicalSelectionRevision_of {value : ℤ} (h : 0 ≤ value ∧ value < safeIntegerBound) :
    canonicalSelectionRevision value = .ok value.toNat := if_pos h

/-- What a control does after its arguments have passed their checks. -/
theorem control_throws {key : CommandKey} {selectionRevision : ℕ} {requestDigest : JsString}
    {new : DbProgram ControlAnswer} {row : CommandRow} {result : CommandResult} {db : Db}
    {error : JsError} (hroomId : Cast.canonicalIdentifier key.1 "roomId" 128 = .ok key.1)
    (hrevision : (selectionRevision : ℤ) < safeIntegerBound)
    (hrow : db.commands.lookup key = some row) (hanswered : AnsweredFrom row requestDigest result)
    (h : Program.Throws (do
      requireRoomSelection key.1 selectionRevision
      match ← findCommand key.1 key.2 with
      | some prior => answerAgain prior requestDigest
      | none => new) db error) : error = selectionConflict := by
  rcases h.bind with h | ⟨_, _, hselected, hrest⟩
  · exact requireRoomSelection_throws hroomId hrevision h
  obtain rfl := requireRoomSelection_returns hselected
  rcases hrest.bind with h | ⟨_, _, hprior, hknown⟩
  · exact absurd h Program.throws_query
  obtain ⟨rfl, rfl⟩ := findCommand_returns hprior
  rw [hrow] at hknown
  exact absurd hknown (answerAgain_throws hanswered)

theorem ofExcept_bind {α β : Type} (a : α) (f : α → DbProgram β) :
    ((Program.ofExcept (.ok a) : DbProgram α) >>= f) = f a := rfl

theorem roomControl_throws {kind : RoomControl} {command : RoomCommand} {row : CommandRow}
    {result : CommandResult} {db : Db} {error : JsError}
    (hchecked : (Request.roomControl kind command).Checked)
    (hrow : db.commands.lookup (Request.roomControl kind command).key = some row)
    (hanswered : AnsweredFrom row ((Request.roomControl kind command).digest host) result)
    (h : (roomControl host kind command).Throws db error) : error = selectionConflict := by
  have hroomId : canonicalIdentifier command.roomId "roomId" = _ := hchecked.roomId
  have hrequestId : canonicalIdentifier command.requestId "requestId" = _ := hchecked.requestId
  have hrevision : canonicalSelectionRevision command.selectionRevision = _ :=
    canonicalSelectionRevision_of hchecked.revision
  have hnat : (command.selectionRevision.toNat : ℤ) = command.selectionRevision :=
    Int.toNat_of_nonneg hchecked.revision.1
  rw [roomControl, hroomId, hrequestId, hrevision] at h
  simp only [ofExcept_bind, hnat] at h
  exact control_throws hchecked.libraryId (by rw [hnat]; exact hchecked.revision.2) hrow hanswered h

theorem personaControl_throws {kind : PersonaControl} {command : PersonaControlCommand}
    {row : CommandRow} {result : CommandResult} {db : Db} {error : JsError}
    (hchecked : (Request.personaControl kind command).Checked)
    (hrow : db.commands.lookup (Request.personaControl kind command).key = some row)
    (hanswered : AnsweredFrom row ((Request.personaControl kind command).digest host) result)
    (h : (personaControl host kind command).Throws db error) : error = selectionConflict := by
  have hroomId : canonicalIdentifier command.roomId "roomId" = _ := hchecked.roomId
  have hrequestId : canonicalIdentifier command.requestId "requestId" = _ := hchecked.requestId
  have hpersonaId : canonicalIdentifier command.personaId "personaId" = _ :=
    hchecked.personaId command.personaId rfl
  have hrevision : canonicalSelectionRevision command.selectionRevision = _ :=
    canonicalSelectionRevision_of hchecked.revision
  have hnat : (command.selectionRevision.toNat : ℤ) = command.selectionRevision :=
    Int.toNat_of_nonneg hchecked.revision.1
  rw [personaControl, hroomId, hrequestId, hrevision, hpersonaId] at h
  simp only [ofExcept_bind, hnat] at h
  exact control_throws hchecked.libraryId (by rw [hnat]; exact hchecked.revision.2) hrow hanswered h

/-! ## Repetitions -/

theorem unpinned_kind (stored : Stored) : stored.unpinned.kind = stored.kind := by
  rcases stored with message | result <;> rfl

section

variable {s t : System} {faults : Faults JsError} {request : Request} {clock : Option ℤ}
  {answer : Except JsError (Option CommandResult)} {row : CommandRow}

/-- What a request finds that is not turned away, and what is left alone. -/
theorem CarriesOut.known (h : CarriesOut host s faults request clock answer t)
    (hinv : Inv host s) (hrow : s.db.commands.lookup request.key = some row) :
    (∀ error, answer = .error error → Untouched s t) ∧
      ∀ answered, answer = .ok answered → row.requestDigest = request.digest host ∧
        ∀ result, row.result = .complete result → answered = some result ∧ Untouched s t := by
  cases h with
  | message token e service clock answer db' he _ _ hphase ht =>
      have hvalid := hinv.executions _ _ he
      cases answer with
      | error error =>
          refine ⟨fun _ _ => ?_, by rintro _ ⟨⟩⟩
          rw [transact_error ht, System.commit_self]
          exact .finish (.thrown error) he hphase
      | ok prepared =>
          refine ⟨by rintro _ ⟨⟩, fun answered ha => ?_⟩
          obtain rfl := Except.ok.inj ha
          obtain ⟨-, hfound⟩ := prepareMessage_requested hvalid.normal (returns_of_transact ht)
          obtain ⟨hdigest, hknown⟩ := hfound row hrow
          refine ⟨hdigest.trans hvalid.digest, fun result hresult => ?_⟩
          obtain ⟨rfl, hdb⟩ := hknown result hresult
          refine ⟨rfl, ?_⟩
          rw [hdb, System.commit_self]
          exact .finish (.returned result) he hphase
  | roomControl id service kind command answer db' _ _ ht =>
      cases answer with
      | error error =>
          exact ⟨fun _ _ => .control (transact_error ht) rfl, by rintro _ ⟨⟩⟩
      | ok answer =>
          refine ⟨by rintro _ ⟨⟩, fun answered ha => ?_⟩
          obtain rfl := Except.ok.inj ha
          obtain ⟨-, hfound⟩ := roomControl_requested (returns_of_transact ht)
          rw [hrow] at hfound
          obtain ⟨hfrom, hdb, habort⟩ := hfound
          refine ⟨hfrom.digest, fun result hresult => ?_⟩
          obtain rfl := Stored.complete.inj (hfrom.result.symm.trans hresult)
          exact ⟨rfl, .control hdb habort⟩
  | personaControl id service kind command answer db' _ _ ht =>
      cases answer with
      | error error =>
          exact ⟨fun _ _ => .control (transact_error ht) rfl, by rintro _ ⟨⟩⟩
      | ok answer =>
          refine ⟨by rintro _ ⟨⟩, fun answered ha => ?_⟩
          obtain rfl := Except.ok.inj ha
          obtain ⟨-, hfound⟩ := personaControl_requested (returns_of_transact ht)
          rw [hrow] at hfound
          obtain ⟨hfrom, hdb, habort⟩ := hfound
          refine ⟨hfrom.digest, fun result hresult => ?_⟩
          obtain rfl := Stored.complete.inj (hfrom.result.symm.trans hresult)
          exact ⟨rfl, .control hdb habort⟩

/-- A request that has its result is turned away for the selection only. -/
theorem CarriesOut.turnedAway (h : CarriesOut host s {} request clock answer t)
    (hinv : Inv host s) (hchecked : request.Checked)
    (hclock : ∀ reading ∈ clock, 0 ≤ reading ∧ reading < safeIntegerBound)
    (hrow : s.db.commands.lookup request.key = some row) {result : CommandResult}
    (hanswered : AnsweredFrom row (request.digest host) result) {error : JsError}
    (herror : answer = .error error) : error = selectionConflict := by
  cases h with
  | message token e service clock answer db' he _ _ _ ht =>
      cases answer with
      | ok prepared => cases herror
      | error error =>
          obtain rfl := Except.error.inj herror
          rw [Request.digest_message, ← (hinv.executions _ _ he).digest] at hanswered
          exact prepareMessage_throws hchecked (hclock clock rfl) hrow hanswered
            (throws_of_transact ht)
  | roomControl id service kind command answer db' _ _ ht =>
      cases answer with
      | ok answer => cases herror
      | error error =>
          obtain rfl := Except.error.inj herror
          exact roomControl_throws hchecked hrow hanswered (throws_of_transact ht)
  | personaControl id service kind command answer db' _ _ ht =>
      cases answer with
      | ok answer => cases herror
      | error error =>
          obtain rfl := Except.error.inj herror
          exact personaControl_throws hchecked hrow hanswered (throws_of_transact ht)

/-- Every row is of a request. -/
theorem Requested.recordedAs (h : Requested host s.db) {key : CommandKey}
    (hrow : s.db.commands.lookup key = some row) :
    ∃ first : Request, first.RecordedAs host key row := by
  have hrecord : s.db.recorded key = some row.record := by rw [Db.recorded, hrow]; rfl
  obtain ⟨first, hkey, hchecked, hdigest, hkind⟩ := h key _ hrecord
  exact ⟨first, hkey, hchecked, hdigest, (unpinned_kind row.result).symm.trans hkind⟩

/-- **Repeated commands do nothing.**  When a request is carried out whose key has a row,
under any faults and at any time, the row is of some request, and unless the digest of that one
collides with the digest of the repetition: if the row is complete and under the same digest,
the answer is the stored result, or the request is turned away, which is for a conflict of the
selection unless the database or the clock fails; if the row is under another digest or of
another kind, the request is turned away.  In all these cases nothing is touched.  Nor does
anybody wait for an execution that has not been asked for under the same digest. -/
theorem command_idempotency (hs : (roomSystem host Fresh).Reachable s)
    (h : CarriesOut host s faults request clock answer t)
    (hrow : s.db.commands.lookup request.key = some row) :
    (∃ first : Request, first.RecordedAs host request.key row) ∧
    (∀ first : Request, first.RecordedAs host request.key row →
      ¬ first.Collides host request →
      (∀ result, row.result = .complete result → row.requestDigest = request.digest host →
        Untouched s t ∧ (answer = .ok (some result) ∨ ∃ error, answer = .error error ∧
          (faults = {} → (∀ reading ∈ clock, 0 ≤ reading ∧ reading < safeIntegerBound) →
            error = selectionConflict))) ∧
      (row.requestDigest ≠ request.digest host ∨ row.result.kind ≠ request.kind →
        Untouched s t ∧ ∃ error, answer = .error error)) ∧
    (∀ caller ∈ s.callers, ∃ e, s.executions.lookup caller.token = some e ∧
      e.key = caller.command.key ∧ e.requestDigest = caller.command.digest host) := by
  obtain ⟨hinv, hrequested⟩ := (requested_inductive fun _ h => h).reachable hs
  obtain ⟨hthrown, hanswered⟩ := h.known hinv hrow
  refine ⟨hrequested.recordedAs hrow, fun first hfirst hno => ⟨?_, ?_⟩, hinv.callers⟩
  · intro result hresult hdigest
    cases answer with
    | ok answered =>
        obtain ⟨rfl, huntouched⟩ := (hanswered answered rfl).2 result hresult
        exact ⟨huntouched, .inl rfl⟩
    | error error =>
        refine ⟨hthrown error rfl, .inr ⟨error, rfl, ?_⟩⟩
        rintro rfl hclock
        have hchecked := (hfirst.same hno hdigest).1
        exact h.turnedAway hinv hchecked hclock hrow ⟨hdigest, hresult⟩ rfl
  · intro hother
    cases answer with
    | error error => exact ⟨hthrown error rfl, error, rfl⟩
    | ok answered =>
        have hdigest := (hanswered answered rfl).1
        rcases hother with hother | hother
        · exact absurd hdigest hother
        · exact absurd (hfirst.same hno hdigest).2 hother

end

end

namespace Hello

def pauseDigest : JsString :=
  ofString "2599167d8da268ebac45ebb8a70af96a9349b7c83ab962f17046062224881a54"

/-- SHA-256 at the one pause; everything else has the digest of the empty text. -/
def sha256 (text : JsString) : JsString :=
  if text = ofString ("\x7b\"kind\":\"pause\",\"requestId\":\"request-2\"," ++
      "\"roomId\":\"room-1\",\"selectionRevision\":0\x7d") then
    pauseDigest
  else ofString "e3b0c44298fc1c149afbf4c8996fb92427ae41e4649b934ca495991b7852b855"

def host' : Host := { host with sha256 }

def pause : RoomCommand where
  roomId := roomId
  requestId := ofString "request-2"
  selectionRevision := 0

def paused : Except JsError ControlAnswer × Db := transact {} (roomControl host' .pause pause) db

def pausedAgain : Except JsError ControlAnswer × Db :=
  transact {} (roomControl host' .pause pause) paused.2

/-- A stop under the request id of the pause. -/
def stopped : Except JsError ControlAnswer × Db :=
  transact {} (roomControl host' .stop pause) paused.2

def pausedResult : CommandResult := .roomControl {
  kind := .pause
  requestId := pause.requestId
  status := .paused
  generation := 1
  changed := true }

def pausedRow : CommandRow where
  requestDigest := (Request.roomControl .pause pause).digest host'
  result := .complete pausedResult

def s₂' : System := (s₁.commit (some (roomId, pause.requestId)) paused.2).abortIf 0 roomId paused.1

theorem reachable_s₂' : (roomSystem host' Fresh).Reachable s₂' := by
  refine ⟨s₀, [.other, .transaction (.roomControl .pause pause) none], ⟨fresh, rfl⟩, ?_⟩
  refine .cons (.openService s₀ 0 service.options (by decide)) ?_
  exact .single (.roomControl s₁ 0 service .pause pause {} paused.1 paused.2 rfl rfl rfl)

/-- The same pause again. -/
theorem pausesAgain : CarriesOut host' s₂' {} (.roomControl .pause pause) none
    (pausedAgain.1.map fun a => some a.result)
    ((s₂'.commit (some (roomId, pause.requestId)) pausedAgain.2).abortIf 0 roomId pausedAgain.1) :=
  .roomControl 0 service .pause pause pausedAgain.1 pausedAgain.2 rfl rfl rfl

theorem stops : CarriesOut host' s₂' {} (.roomControl .stop pause) none
    (stopped.1.map fun a => some a.result)
    ((s₂'.commit (some (roomId, pause.requestId)) stopped.2).abortIf 0 roomId stopped.1) :=
  .roomControl 0 service .stop pause stopped.1 stopped.2 rfl rfl rfl

theorem pausedRow_stored :
    s₂'.db.commands.lookup (Request.roomControl .pause pause).key = some pausedRow := rfl

theorem pause_recordedAs : (Request.roomControl .pause pause).RecordedAs host'
    (roomId, pause.requestId) pausedRow where
  key := rfl
  checked := (roomControl_requested (returns_of_transact (rfl : transact {}
    (roomControl host' .pause pause) db = _))).1
  digest := rfl
  kind := rfl

theorem stop_digest :
    pausedRow.requestDigest ≠ (Request.roomControl .stop pause).digest host' := by
  decide

end Hello

/-- The pause again is given its result; the stop under its request id is turned away. -/
theorem command_idempotency_pause :
    Untouched Hello.s₂' ((Hello.s₂'.commit (some (Hello.roomId, Hello.pause.requestId))
      Hello.pausedAgain.2).abortIf 0 Hello.roomId Hello.pausedAgain.1) ∧
    Untouched Hello.s₂' ((Hello.s₂'.commit (some (Hello.roomId, Hello.pause.requestId))
      Hello.stopped.2).abortIf 0 Hello.roomId Hello.stopped.1) := by
  have hpause := (command_idempotency Hello.reachable_s₂' Hello.pausesAgain
    Hello.pausedRow_stored).2.1 _ Hello.pause_recordedAs fun hcollides => hcollides.2 rfl
  have hstop := (command_idempotency Hello.reachable_s₂' Hello.stops
    Hello.pausedRow_stored).2.1 _ Hello.pause_recordedAs fun hcollides =>
      Hello.stop_digest hcollides.1
  exact ⟨(hpause.1 Hello.pausedResult rfl rfl).1, (hstop.2 (.inl Hello.stop_digest)).1⟩

end GreenRoom.Runtime
