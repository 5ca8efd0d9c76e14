import GreenRoom.Runtime.ExactlyOnce
import GreenRoom.Runtime.Requests
import GreenRoom.Runtime.RoomSelection

/-!
# Guards and replays of selections

A command that carries a selection asks whether it is the current one before it does
anything else.  A command that selects is answered from its row once it has one.

## Main definitions

* `Label.selection` — the selection a step carries; `CurrentSelection`, that it is current.

## Main results

* `Step.guarded` — what carries a selection changes nothing unless it is the current one.
* `selectRoom_replayed`, `replaceCast_replayed`
* `room_selection`
-/

namespace GreenRoom

open JsString GreenRoom.Core

variable {host : Host}

/-- A selection that passes is the current one. -/
theorem requireRoomSelection_current {roomId : JsString} {n : ℕ} {db db' : Db} {u : Unit}
    (h : (requireRoomSelection roomId n).Returns db u db') :
    db.currentRoom = some ⟨roomId, n⟩ := by
  simp only [requireRoomSelection, Program.returns_bind, Program.returns_ofExcept,
    Program.returns_query, Program.returns_require] at h
  obtain ⟨_, _, ⟨hroomId, rfl⟩, n', _, ⟨hn, rfl⟩, _, _, ⟨rfl, rfl⟩, hrow, -⟩ := h
  obtain rfl := Cast.canonicalIdentifier_ok hroomId
  obtain rfl : n' = n := by exact_mod_cast Cast.canonicalRevision_ok hn
  obtain ⟨row, hrow⟩ := Option.isSome_iff_exists.mp hrow
  obtain ⟨hcurrent, hsame⟩ := Option.filter_eq_some_iff.mp hrow
  simp only [Bool.and_eq_true, decide_eq_true_eq] at hsame
  obtain ⟨rfl, rfl⟩ := hsame
  exact hcurrent

namespace Runtime

/-- The selection that a room-scoped command carries. -/
def Label.selection (s : System) : Label → Option (RoomId × ℤ)
  | .transaction (.prepare token _) _ => (s.executions.lookup token).map fun e =>
    (e.command.roomId, (e.command.selectionRevision : ℤ))
  | .transaction (.roomControl _ command) _ => some (command.roomId, command.selectionRevision)
  | .transaction (.personaControl _ command) _ => some (command.roomId, command.selectionRevision)
  | _ => none

/-- The selection is the current one. -/
def CurrentSelection (db : Db) (selection : RoomId × ℤ) : Prop :=
  ∃ n : ℕ, (n : ℤ) = selection.2 ∧ db.currentRoom = some ⟨selection.1, n⟩

theorem prepareMessage_current {options : ServiceOptions} {command : MessageCommand}
    {requestDigest claimOwner : JsString} {clock : ℤ} {db db' : Db} {answer : PreparedMessage}
    (h : (prepareMessage options command requestDigest claimOwner clock).Returns db answer db') :
    CurrentSelection db (command.roomId, (command.selectionRevision : ℤ)) := by
  obtain ⟨_, _, hselected, -⟩ := Program.returns_bind.mp h
  exact ⟨_, rfl, requireRoomSelection_current hselected⟩

theorem roomControl_current {kind : RoomControl} {command : RoomCommand} {db db' : Db}
    {answer : ControlAnswer} (h : (roomControl host kind command).Returns db answer db') :
    CurrentSelection db (command.roomId, command.selectionRevision) := by
  simp only [roomControl, Program.returns_bind, Program.returns_ofExcept] at h
  obtain ⟨_, _, ⟨hroomId, rfl⟩, _, _, ⟨-, rfl⟩, n, _, ⟨hn, rfl⟩, _, _, hselected, -⟩ := h
  obtain rfl := canonicalIdentifier_ok hroomId
  exact ⟨n, (canonicalSelectionRevision_ok hn).1, requireRoomSelection_current hselected⟩

theorem personaControl_current {kind : PersonaControl} {command : PersonaControlCommand}
    {db db' : Db} {answer : ControlAnswer}
    (h : (personaControl host kind command).Returns db answer db') :
    CurrentSelection db (command.roomId, command.selectionRevision) := by
  simp only [personaControl, Program.returns_bind, Program.returns_ofExcept] at h
  obtain ⟨_, _, ⟨hroomId, rfl⟩, _, _, ⟨-, rfl⟩, n, _, ⟨hn, rfl⟩, _, _, ⟨-, rfl⟩, _, _, hselected,
    -⟩ := h
  obtain rfl := canonicalIdentifier_ok hroomId
  exact ⟨n, (canonicalSelectionRevision_ok hn).1, requireRoomSelection_current hselected⟩

/-- What a transaction does only if its guard passes. -/
theorem guarded_of_transact {α : Type} {action : DbProgram α} {faults : Faults JsError}
    {db db' : Db} {answer : Except JsError α} {guard : Prop}
    (h : transact faults action db = (answer, db')) (hchanged : db' ≠ db)
    (hreturns : ∀ a, action.Returns db a db' → guard) : guard := by
  cases answer with
  | error error => exact absurd (transact_error h) hchanged
  | ok a => exact hreturns a (returns_of_transact h)

/-- **A selection is a guard.** -/
theorem Step.guarded {s t : System} {l : Label} (h : Step host s l t) {selection : RoomId × ℤ}
    (hselection : l.selection s = some selection) (hchanged : t.db ≠ s.db) :
    CurrentSelection s.db selection := by
  cases h with
  | prepare token e service faults clock answer db' he _ _ _ ht =>
      obtain ⟨grants, granted, hgrant⟩ :=
        System.grantIfClaimed_frame e.key token answer (s.commit (some e.key) db')
      rw [hgrant] at hchanged
      rw [Label.selection, he] at hselection
      obtain rfl := Option.some.inj hselection
      exact guarded_of_transact ht hchanged fun _ hr => prepareMessage_current hr
  | roomControl id service kind command faults answer db' _ _ ht =>
      obtain rfl := Option.some.inj hselection
      exact guarded_of_transact ht hchanged fun _ hr => roomControl_current hr
  | personaControl id service kind command faults answer db' _ _ ht =>
      obtain rfl := Option.some.inj hselection
      exact guarded_of_transact ht hchanged fun _ hr => personaControl_current hr
  | _ => cases hselection

/-! ## Replays -/

/-- What has been answered about selections stays answered. -/
structure AnswersKept (s t : System) : Prop where
  select : ∀ id row, s.db.roomSelectionCommands.lookup id = some row →
    t.db.roomSelectionCommands.lookup id = some row
  replace : ∀ id row, s.db.castCommands.lookup id = some row →
    t.db.castCommands.lookup id = some row

theorem lookup_insert_of_notMem {ρ : Type} {table : KeyedTable RequestId ρ} {id id' : RequestId}
    {row row' : ρ} (hnew : id' ∉ table) (h : table.lookup id = some row) :
    (table.insert id' row').lookup id = some row := by
  rw [KeyedTable.lookup_insert, if_neg, h]
  rintro rfl
  rw [AList.lookup_eq_none.mpr hnew] at h
  cases h

theorem SelectionEffect.answersKept {s t : System} {l : Label} (h : SelectionEffect host s l t) :
    AnswersKept s t := by
  cases h with
  | kept hkept _ _ =>
      refine ⟨fun id row h => ?_, fun id row h => ?_⟩
      · rw [hkept.roomSelectionCommands, h]
      · rw [hkept.castCommands, h]
  | selected command result _ hselected =>
      obtain ⟨_, n, -, -, -, hdb⟩ := hselected.selected
      refine ⟨fun id row h => ?_, fun id row h => ?_⟩
      · rw [hdb]
        exact lookup_insert_of_notMem hselected.new h
      · rw [hdb]
        exact h
  | replaced command replacement result _ _ _ hreplaced =>
      refine ⟨fun id row h => ?_, fun id row h => ?_⟩
      · rw [hreplaced.roomSelectionCommands, h]
      · rw [hreplaced.castCommands]
        exact lookup_insert_of_notMem hreplaced.new h

theorem run_answersKept {fresh : Db → Prop} {s t : System} {ls : List Label}
    (h : (roomSystem host fresh).Run s ls t) : AnswersKept s t := by
  induction h with
  | nil s => exact ⟨fun _ _ h => h, fun _ _ h => h⟩
  | cons hstep _ ih =>
      have hkept := (Step.selectionEffect hstep).answersKept
      exact ⟨fun id row h => ih.select id row (hkept.select id row h),
        fun id row h => ih.replace id row (hkept.replace id row h)⟩

/-- A command that has a row changes nothing, and has no other answer. -/
structure AnswersAlike {α : Type} (action : DbProgram α) (result : α) (db : Db) : Prop where
  unchanged : ∀ faults answer db', transact faults action db = (answer, db') → db' = db
  same : ∀ faults answer db', transact faults action db = (.ok answer, db') → answer = result

/-- A command that has a row is answered from it. -/
structure AnswersAgain {α : Type} (action : DbProgram α) (result : α) (db : Db) : Prop extends
    AnswersAlike action result db where
  answered : transact {} action db = (.ok result, db)

theorem AnswersAlike.of_returns {α : Type} {action : DbProgram α} {result : α} {db : Db}
    (h : ∀ answer db', action.Returns db answer db' → db' = db ∧ answer = result) :
    AnswersAlike action result db := by
  refine ⟨?_, fun faults answer db' ht => (h _ _ (returns_of_transact ht)).2⟩
  rintro faults (e | answer) db' ht
  · exact transact_error ht
  · exact (h _ _ (returns_of_transact ht)).1

theorem AnswersAlike.again {α : Type} {action : DbProgram α} {result : α} {db : Db}
    (h : AnswersAlike action result db) (hthrows : ∀ e, ¬ action.Throws db e) :
    AnswersAgain action result db := by
  refine ⟨h, ?_⟩
  rcases ht : transact {} action db with ⟨e | answer, db'⟩
  · exact absurd (throws_of_transact ht) (hthrows e)
  · rw [h.same _ _ _ ht, h.unchanged _ _ _ ht]

theorem selectRoom_alike {command : SelectRoomCommand} {row : ResultRow RoomSelectionResult}
    {db : Db} (hrow : db.roomSelectionCommands.lookup command.requestId = some row) :
    AnswersAlike (selectRoom host.sha256 command) row.result db := by
  refine .of_returns fun answer db' h => ?_
  rcases selectRoom_selects h with ⟨rfl, hrow'⟩ | hselected
  · obtain rfl := Option.some.inj (hrow.symm.trans hrow')
    exact ⟨rfl, rfl⟩
  · exact absurd (AList.lookup_isSome.mp (Option.isSome_of_mem hrow)) hselected.new

/-- The checks have been passed before. -/
theorem selectRoom_not_throws {command : SelectRoomCommand} {result first : RoomSelectionResult}
    {db₀ db₀' db : Db} (hfirst : (selectRoom host.sha256 command).Returns db₀ first db₀')
    (hrow : db.roomSelectionCommands.lookup command.requestId =
      some ⟨command.digest host, result⟩) (e : JsError) :
    ¬ (selectRoom host.sha256 command).Throws db e := by
  intro h
  simp only [selectRoom, Program.returns_bind, Program.returns_ofExcept] at hfirst
  obtain ⟨_, _, ⟨hrequestId, -⟩, _, _, ⟨hroomId, -⟩, n, _, ⟨hn, -⟩, -⟩ := hfirst
  have h := ((h.of_ofExcept hrequestId).of_ofExcept hroomId).of_ofExcept hn
  obtain rfl := Cast.canonicalIdentifier_ok hrequestId
  obtain rfl := Cast.canonicalIdentifier_ok hroomId
  have h := h.of_query
  rw [hrow, Cast.canonicalRevision_ok hn] at h
  exact Program.throws_pure (h.of_require rfl)

theorem replaceCast_alike {uuids : ℕ → JsString} {options : ServiceOptions}
    {command : ReplaceCastCommand} {row : ResultRow CastReplacementResult} {db : Db}
    (hrow : db.castCommands.lookup command.requestId = some row) :
    AnswersAlike (replaceCast host uuids options command) row.result db := by
  refine .of_returns fun answer db' h => ?_
  simp only [replaceCast, Program.returns_bind, Program.returns_ofExcept] at h
  obtain ⟨replacement, _, ⟨hcheck, rfl⟩, h⟩ := h
  rw [← (requireReplacement_ok hcheck).1] at hrow
  rcases replaceCurrentRoomCast_replaces h with ⟨rfl, hrow'⟩ | hreplaced
  · obtain rfl := Option.some.inj (hrow.symm.trans hrow')
    exact ⟨rfl, rfl⟩
  · exact absurd (AList.lookup_isSome.mp (Option.isSome_of_mem hrow)) hreplaced.new

theorem replaceCurrentRoomCast_not_throws {uuids uuids₀ : ℕ → JsString}
    {command : ReplaceCurrentRoomCastCommand} {result first : CastReplacementResult}
    {db₀ db₀' db : Db}
    (hfirst : (replaceCurrentRoomCast host.sha256 uuids₀ command).Returns db₀ first db₀')
    (hrow : db.castCommands.lookup command.requestId = some ⟨command.digest host, result⟩)
    (e : JsError) : ¬ (replaceCurrentRoomCast host.sha256 uuids command).Throws db e := by
  intro h
  simp only [replaceCurrentRoomCast, Program.returns_bind, Program.returns_ofExcept] at hfirst
  obtain ⟨_, _, ⟨hrequestId, -⟩, n, _, ⟨hn, -⟩, _, _, ⟨hpersonas, -⟩, -⟩ := hfirst
  have h := ((h.of_ofExcept hrequestId).of_ofExcept hn).of_ofExcept hpersonas
  obtain rfl := Cast.canonicalIdentifier_ok hrequestId
  obtain rfl := requireCast_ok hpersonas
  have h := h.of_query
  rw [hrow, Cast.canonicalRevision_ok hn] at h
  exact Program.throws_pure (h.of_require rfl)

variable {fresh : Db → Prop} {s u : System} {ls : List Label} {faults : Faults JsError} {db' : Db}

/-- **A selection that has been answered is answered the same way ever after.** -/
theorem selectRoom_replayed {command : SelectRoomCommand} {result : RoomSelectionResult}
    (h : transact faults (selectRoom host.sha256 command) s.db = (.ok result, db'))
    (hrun : (roomSystem host fresh).Run (s.commit none db') ls u) :
    AnswersAgain (selectRoom host.sha256 command) result u.db := by
  have hfirst := returns_of_transact h
  have hrow : db'.roomSelectionCommands.lookup command.requestId =
      some ⟨command.digest host, result⟩ := by
    rcases selectRoom_selects hfirst with ⟨rfl, hrow⟩ | hselected
    · exact hrow
    · obtain ⟨_, n, -, -, -, hdb⟩ := hselected.selected
      rw [hdb]
      exact AList.lookup_insert _
  have hrow := (run_answersKept hrun).select _ _ hrow
  exact (selectRoom_alike hrow).again (selectRoom_not_throws hfirst hrow)

/-- **A cast that has been replaced is answered the same way ever after**, also by a service
with another catalog, if that one names the personas alike. -/
theorem replaceCast_replayed {uuids uuids' : ℕ → JsString} {options options' : ServiceOptions}
    {command : ReplaceCastCommand} {result : CastReplacementResult}
    (h : transact faults (replaceCast host uuids options command) s.db = (.ok result, db'))
    (hrun : (roomSystem host fresh).Run (s.commit none db') ls u) :
    AnswersAlike (replaceCast host uuids' options' command) result u.db ∧
      (requireReplacement options' command = requireReplacement options command →
        AnswersAgain (replaceCast host uuids' options' command) result u.db) := by
  have hfirst := returns_of_transact h
  simp only [replaceCast, Program.returns_bind, Program.returns_ofExcept] at hfirst
  obtain ⟨replacement, _, ⟨hcheck, rfl⟩, hfirst⟩ := hfirst
  have hid := (requireReplacement_ok hcheck).1
  have hrow : db'.castCommands.lookup replacement.requestId =
      some ⟨replacement.digest host, result⟩ := by
    rcases replaceCurrentRoomCast_replaces hfirst with ⟨rfl, hrow⟩ | hreplaced
    · exact hrow
    · rw [hreplaced.castCommands]
      exact AList.lookup_insert _
  have hrow := (run_answersKept hrun).replace _ _ hrow
  have halike := @replaceCast_alike host uuids' options' _ _ _ (hid ▸ hrow)
  refine ⟨halike, fun hsame => halike.again fun e h => ?_⟩
  exact replaceCurrentRoomCast_not_throws hfirst hrow e (h.of_ofExcept (hsame.trans hcheck))

/-! ## Selection as a whole -/

/-- What is listed in a database: within the limit, each room once. -/
structure LibraryListed (db : Db) : Prop where
  limit : KeyedTable.count (fun row => !row.archived) db.rooms ≤ roomLibraryLimit
  listed : ∀ lastActivity, ∃ current summaries, db.currentRoom = some current ∧
    (listRooms lastActivity).run (fun _ => none) 0 db = (.ok summaries, db) ∧
    db.ListsLibrary current.roomId summaries

theorem Library.listed {db : Db} (h : Library db) : LibraryListed db := by
  refine ⟨h.limit, fun lastActivity => ?_⟩
  obtain ⟨current, row, hcurrent, hrow, harchived⟩ := h.selected
  rcases hrun : (listRooms lastActivity).run (fun _ => none) 0 db with ⟨e | summaries, db'⟩
  · exact absurd (Program.throws_of_run hrun) (listRooms_not_throws hcurrent)
  · obtain ⟨rfl, hlists⟩ := listRooms_returns hcurrent hrow harchived h.limit
      (Program.returns_of_run hrun)
    exact ⟨current, summaries, hcurrent, rfl, hlists⟩

/-- What the selection of a state goes through in a step. -/
structure CountsUp (s : System) (l : Label) (t : System) : Prop where
  effective : ∀ revision, Effective s l revision → ∃ (roomId roomId' : RoomId) (n : ℕ),
    (n : ℤ) = revision ∧ s.db.currentRoom = some ⟨roomId, n⟩ ∧
      t.db.currentRoom = some ⟨roomId', n + 1⟩
  otherwise : (∀ revision, ¬ Effective s l revision) → t.db.currentRoom = s.db.currentRoom

/-- Of two effective commands the later one carries the greater revision. -/
theorem effective_lt {fresh : Db → Prop} {s t u v : System} {l l' : Label} {ls : List Label}
    {n m : ℤ} (hstep : Step host s l t) (hrun : (roomSystem host fresh).Run t ls u)
    (hstep' : Step host u l' v) (hn : Effective s l n) (hm : Effective u l' m) : n < m := by
  obtain ⟨_, _, n, rfl, -, ht⟩ := (Step.selectionEffect hstep).effective hn
  obtain ⟨_, _, m, rfl, hu, -⟩ := (Step.selectionEffect hstep').effective hm
  obtain ⟨current, hcurrent, hle⟩ := run_revisionLe hrun _ ht
  obtain rfl := Option.some.inj (hu.symm.trans hcurrent)
  exact_mod_cast hle

/-- **The selection of a room is a compare-and-swap.** -/
theorem room_selection {s : System} (hs : (roomSystem host Furnished).Reachable s) :
    (∀ l t, Step host s l t → CountsUp s l t) ∧
    (∀ l t ls u l' v n m, Step host s l t → (roomSystem host Furnished).Run t ls u →
      Step host u l' v → Effective s l n → Effective u l' m → n < m) ∧
    (∀ faults command result db' ls u,
      transact faults (selectRoom host.sha256 command) s.db = (.ok result, db') →
      (roomSystem host Furnished).Run (s.commit none db') ls u →
        AnswersAgain (selectRoom host.sha256 command) result u.db) ∧
    (∀ faults uuids uuids' options options' command result db' ls u,
      transact faults (replaceCast host uuids options command) s.db = (.ok result, db') →
      (roomSystem host Furnished).Run (s.commit none db') ls u →
        AnswersAlike (replaceCast host uuids' options' command) result u.db ∧
        (requireReplacement options' command = requireReplacement options command →
          AnswersAgain (replaceCast host uuids' options' command) result u.db)) ∧
    (∀ l t selection, Step host s l t → l.selection s = some selection → t.db ≠ s.db →
      CurrentSelection s.db selection) ∧
    LibraryListed s.db := by
  refine ⟨fun l t h => ?_, fun _ _ _ _ _ _ _ _ => effective_lt, fun _ _ _ _ _ _ =>
    selectRoom_replayed,
    fun _ _ _ _ _ _ _ _ _ _ => replaceCast_replayed, fun _ _ _ h => Step.guarded h,
    (library_inductive.reachable hs).listed⟩
  have heffect := Step.selectionEffect h
  exact ⟨fun _ => heffect.effective, heffect.not_effective⟩

namespace Selection

def select (requestId : String) : SelectRoomCommand where
  expectedRevision := 0
  requestId := ofString requestId
  roomId := Hello.roomId

def replacement : ReplaceCastCommand where
  requestId := ofString "cast-1"
  selectionRevision := 1
  personaSlugs := [ofString "ada"]

def options : ServiceOptions where
  pendingWorkLeaseMs := 30000
  personaCatalog := (∅ : KeyedTable _ _).insert (ofString "ada") ⟨ofString "ada", ofString "Ada"⟩

def uuids (n : ℕ) : JsString := List.replicate (n + 1) (unit 'a')

/-- SHA-256 at the three commands; everything else has the digest of the empty text. -/
def sha256 (text : JsString) : JsString :=
  if text = ofString ("\x7b\"expectedRevision\":0,\"kind\":\"selectRoom\"," ++
      "\"requestId\":\"select-1\",\"roomId\":\"room-1\"\x7d") then
    ofString "9dcf25f9377479e420e81068371a3e9d78e99de3a8f526737d7f55407c04dcb0"
  else if text = ofString ("\x7b\"expectedRevision\":0,\"kind\":\"selectRoom\"," ++
      "\"requestId\":\"select-2\",\"roomId\":\"room-1\"\x7d") then
    ofString "eba1596bc896d110c167134a47b0dc54111a981435b5fe1842d7870595c0a685"
  else if text = ofString ("\x7b\"expectedRevision\":1,\"kind\":\"replaceCast\"," ++
      "\"personaSlugs\":[\"ada\"],\"requestId\":\"cast-1\"\x7d") then
    ofString "6ccd658d6d3bc5827109853e185ba7ed5ca8702a4d340a577b4932ed4c1c52ea"
  else ofString "e3b0c44298fc1c149afbf4c8996fb92427ae41e4649b934ca495991b7852b855"

def host' : Host := { Hello.host with sha256 }

def selected : Except JsError RoomSelectionResult × Db :=
  transact {} (selectRoom host'.sha256 (select "select-1")) Hello.db

/-- A selection at a revision that is no longer the current one. -/
def stale : Except JsError RoomSelectionResult × Db :=
  transact {} (selectRoom host'.sha256 (select "select-2")) selected.2

def replaced : Except JsError CastReplacementResult × Db :=
  transact {} (replaceCast host' uuids options replacement) stale.2

def s₀ : System := { db := Hello.db }

def s₁ : System := s₀.setService 0 { options }

def s₂ : System := s₁.commit none selected.2

def s₃ : System := s₂.commit none stale.2

def s₄ : System := s₃.commit none replaced.2

theorem selects : Step host' s₁ (.transaction (.selectRoom (select "select-1")) none) s₂ :=
  .selectRoom s₁ _ {} selected.1 selected.2 rfl

theorem stale_rejected : Step host' s₂ (.transaction (.selectRoom (select "select-2"))
    (some (.ofText "Room selection revision conflict"))) s₃ :=
  .selectRoom s₂ _ {} stale.1 stale.2 rfl

theorem replaces : Step host' s₃ (.transaction (.replaceCast replacement) none) s₄ :=
  .replaceCast s₃ 0 _ uuids _ {} replaced.1 replaced.2 (AList.lookup_insert _) rfl rfl

theorem reachable : (roomSystem host' Furnished).Reachable s₁ :=
  ⟨s₀, [.other],
  ⟨⟨Hello.fresh, ⟨⟨⟨Hello.roomId, 0⟩, _, rfl, AList.lookup_insert _, rfl⟩, by decide⟩⟩,
    rfl⟩, .single (.openService s₀ 0 options (by decide))⟩

def selection : RoomSelectionResult where
  requestId := ofString "select-1"
  revision := 1
  room := {
    id := Hello.roomId
    sessionId := Hello.roomId
    title := ofString "Lobby"
    status := .active
    generation := 0
    participants := [
      { id := ofString "you", kind := .human, displayName := ofString "You", muted := false,
        personaSlug := none },
      { id := Hello.persona, kind := .persona, displayName := ofString "Mina", muted := false,
        personaSlug := none }] }

def cast : CastReplacementResult where
  requestId := ofString "cast-1"
  selectionRevision := 2
  sessionId := ofString "room-a"
  room := {
    id := ofString "room-a"
    sessionId := ofString "room-a"
    title := ofString "Ada"
    status := .active
    generation := 0
    participants := [
      { id := ofString "human-aa", kind := .human, displayName := ofString "You", muted := false,
        personaSlug := none },
      { id := ofString "persona-aaa", kind := .persona, displayName := ofString "Ada",
        muted := false, personaSlug := some (ofString "ada") }] }
  selectedCast := [⟨ofString "persona-aaa", ofString "ada", ofString "Ada", 1⟩]

end Selection

open Selection in
/-- A room is selected, a selection at the old revision changes nothing, and a new cast opens
another room; both commands are answered again. -/
theorem room_selection_replaced :
    (∃ roomId, s₂.db.currentRoom = some ⟨roomId, 1⟩) ∧ s₃.db.currentRoom = s₂.db.currentRoom ∧
      (∃ roomId, s₄.db.currentRoom = some ⟨roomId, 2⟩) ∧
      AnswersAgain (selectRoom host'.sha256 (select "select-1")) selection s₄.db ∧
      AnswersAgain (replaceCast host' uuids options replacement) cast s₄.db ∧
      LibraryListed s₄.db := by
  have hrun₂ := (TransitionSystem.Run.single selects : (roomSystem host' Furnished).Run _ _ _)
  have hreachable₂ := reachable.run hrun₂
  have hrun₃ :=
    (TransitionSystem.Run.single stale_rejected : (roomSystem host' Furnished).Run _ _ _)
  have hreachable₃ := hreachable₂.run hrun₃
  have hrun₄ := (TransitionSystem.Run.single replaces : (roomSystem host' Furnished).Run _ _ _)
  obtain ⟨hcounts₁, -, hselected, -⟩ := room_selection reachable
  obtain ⟨hcounts₂, -⟩ := room_selection hreachable₂
  obtain ⟨hcounts₃, -, -, hreplaced, -⟩ := room_selection hreachable₃
  obtain ⟨-, -, -, -, -, hlisted⟩ := room_selection (hreachable₃.run hrun₄)
  refine ⟨?_, ?_, ?_, ?_, ?_, hlisted⟩
  · obtain ⟨_, roomId, n, hn, -, hcurrent⟩ :=
      (hcounts₁ _ _ selects).effective 0 (.inl ⟨_, rfl, by decide, rfl⟩)
    obtain rfl : n = 0 := by exact_mod_cast hn
    exact ⟨roomId, hcurrent⟩
  · refine (hcounts₂ _ _ stale_rejected).otherwise ?_
    rintro revision (⟨_, h, -⟩ | ⟨_, h, -⟩) <;> cases h
  · obtain ⟨_, roomId, n, hn, -, hcurrent⟩ :=
      (hcounts₃ _ _ replaces).effective 1 (.inr ⟨_, rfl, by decide, rfl⟩)
    obtain rfl : n = 1 := by exact_mod_cast hn
    exact ⟨roomId, hcurrent⟩
  · exact hselected {} (select "select-1") selection selected.2 _ _ rfl (hrun₃.append hrun₄)
  · have hagain := hreplaced {} uuids uuids options options replacement cast replaced.2 _ _ rfl
      (.nil _)
    exact hagain.2 rfl

end Runtime

end GreenRoom
