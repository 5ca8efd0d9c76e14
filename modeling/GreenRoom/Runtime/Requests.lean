import GreenRoom.Db.Digest
import GreenRoom.Runtime.RoomInvariant

/-!
# Requests and their records

A request is a message, a room control or a persona control.  Whatever is recorded
under a key has been asked for by a request that passed its checks, and carries its
digest.  A repetition with the same digest is, unless the two collide, of the same text,
and that tells the kind of the request, its selection and its persona.

## Main definitions

* `CommandKind`, `Request` — what the services are asked.
* `Request.RecordedAs` — a row is of a request.
* `Request.Collides` — two requests have one digest, but not one text.
* `Requested` — every record is of a request.

## Main results

* `Request.kind_of_text`, `Request.checked_of_text` — what the text of a request determines.
* `requested_inductive`
-/

namespace GreenRoom

open JsString GreenRoom.Core

/-- The kinds of commands. -/
inductive CommandKind
  | sendMessage
  | roomControl (kind : RoomControl)
  | personaControl (kind : PersonaControl)
  deriving DecidableEq

/-- The kind of a recorded command. -/
def Stored.kind : Stored → CommandKind
  | .pending _ => .sendMessage
  | .complete (.message _) => .sendMessage
  | .complete (.roomControl result) => .roomControl result.kind
  | .complete (.personaControl result) => .personaControl result.kind

namespace Runtime

inductive Request
  | message (command : MessageCommand)
  | roomControl (kind : RoomControl) (command : RoomCommand)
  | personaControl (kind : PersonaControl) (command : PersonaControlCommand)

def kindName : CommandKind → String
  | .sendMessage => "sendMessage"
  | .roomControl kind => roomControlName kind
  | .personaControl kind => personaControlName kind

namespace Request

def kind : Request → CommandKind
  | .message _ => .sendMessage
  | .roomControl kind _ => .roomControl kind
  | .personaControl kind _ => .personaControl kind

def roomId : Request → JsString
  | .message command => command.roomId
  | .roomControl _ command => command.roomId
  | .personaControl _ command => command.roomId

def requestId : Request → JsString
  | .message command => command.requestId
  | .roomControl _ command => command.requestId
  | .personaControl _ command => command.requestId

def key (request : Request) : CommandKey := (request.roomId, request.requestId)

def selectionRevision : Request → ℤ
  | .message command => command.selectionRevision
  | .roomControl _ command => command.selectionRevision
  | .personaControl _ command => command.selectionRevision

def personaId : Request → Option JsString
  | .personaControl _ command => some command.personaId
  | _ => none

/-- The members all payloads have. -/
def members (request : Request) : List (JsString × Json ℤ) :=
  [(ofString "kind", .str (ofString (kindName request.kind))),
    (ofString "roomId", .str request.roomId), (ofString "requestId", .str request.requestId),
    (ofString "selectionRevision", .num request.selectionRevision)]

/-- The members some payloads have besides. -/
def furtherMembers : Request → List (JsString × Json ℤ)
  | .message command =>
    [(ofString "text", .str command.text),
    (ofString "wantsResponse", .bool command.wantsResponse)] ++
      (command.targetPersonaId.map fun id => (ofString "targetPersonaId", Json.str id)).toList
  | .roomControl _ _ => []
  | .personaControl _ command => [(ofString "personaId", .str command.personaId)]

/-- What the digest of a request is taken of. -/
def payload (request : Request) : Json ℤ := .obj (request.members ++ request.furtherMembers)

def text (request : Request) : JsString := canonicalJson request.payload

/-- The request has passed the checks before its command is looked up, but for the selection. -/
structure Checked (request : Request) : Prop where
  roomId : canonicalIdentifier request.roomId "roomId" = .ok request.roomId
  libraryId : Cast.canonicalIdentifier request.roomId "roomId" 128 = .ok request.roomId
  requestId : canonicalIdentifier request.requestId "requestId" = .ok request.requestId
  revision : 0 ≤ request.selectionRevision ∧ request.selectionRevision < safeIntegerBound
  personaId : ∀ id ∈ request.personaId, canonicalIdentifier id "personaId" = .ok id

end Request

/-! ## What the text determines -/

theorem kindName_injective {kind kind' : CommandKind}
    (h : ofString (kindName kind) = ofString (kindName kind')) : kind = kind' := by
  rcases kind with - | (- | - | -) | (- | -) <;> rcases kind' with - | (- | - | -) | (- | -) <;>
    first | rfl | exact absurd h (by decide)

namespace Request

/-- The names of all members there may be. -/
def memberNames : List JsString :=
  [ofString "kind", ofString "roomId", ofString "requestId", ofString "selectionRevision",
    ofString "personaId", ofString "text", ofString "wantsResponse", ofString "targetPersonaId"]

theorem memberNames_sublist (request : Request) :
    ((request.members ++ request.furtherMembers).map Prod.fst).Sublist memberNames := by
  have hfurther : (request.furtherMembers.map Prod.fst).Sublist (memberNames.drop 4) := by
    cases request with
    | message command =>
        rcases h : command.targetPersonaId with - | id
        · simp only [furtherMembers, h]
          exact .cons _ (.cons_cons _ (.cons_cons _ (.cons _ .slnil)))
        · simp only [furtherMembers, h]
          exact .cons _ (.cons_cons _ (.cons_cons _ (.cons_cons _ .slnil)))
    | roomControl kind command => exact List.nil_sublist _
    | personaControl kind command => exact .cons_cons _ (List.nil_sublist _)
  rw [List.map_append]
  exact List.Sublist.append (.refl (memberNames.take 4)) hfurther

theorem payload_distinct (request : Request) : request.payload.Distinct := by
  refine ⟨(memberNames_sublist request).nodup (by decide), ?_⟩
  cases request with
  | message command =>
      cases h : command.targetPersonaId <;>
        simp [members, furtherMembers, h, Json.DistinctMembers, Json.Distinct]
  | roomControl kind command =>
      simp [members, furtherMembers, Json.DistinctMembers, Json.Distinct]
  | personaControl kind command =>
      simp [members, furtherMembers, Json.DistinctMembers, Json.Distinct]

end Request

section

variable {host : Host}

variable (host) in
def Request.digest (request : Request) : JsString := GreenRoom.digest host.sha256 request.payload

theorem Request.digest_message (command : MessageCommand) :
    (Request.message command).digest host = command.digest host := rfl

variable (host) in
/-- The hash function gives two texts one digest. -/
def Request.Collides (first request : Request) : Prop :=
  first.digest host = request.digest host ∧ first.text ≠ request.text

variable {request request' : Request}

theorem Request.member_of_text (h : request.text = request'.text) (k : JsString) :
    (request.payload.member? k).map Json.sorted = (request'.payload.member? k).map Json.sorted :=
  member_of_canonicalJson request.payload_distinct request'.payload_distinct h k

/-- **The text tells the kind.** -/
theorem Request.kind_of_text (h : request.text = request'.text) : request.kind = request'.kind := by
  have hkind : some (Json.sorted (.str (ofString (kindName request.kind)))) =
      some (Json.sorted (.str (ofString (kindName request'.kind)))) :=
    Request.member_of_text h (ofString "kind")
  exact kindName_injective (Json.str.inj (Option.some.inj hkind))

theorem Request.selectionRevision_of_text (h : request.text = request'.text) :
    request.selectionRevision = request'.selectionRevision := by
  have hrevision : some (Json.sorted (.num request.selectionRevision)) =
      some (Json.sorted (.num request'.selectionRevision)) :=
    Request.member_of_text h (ofString "selectionRevision")
  exact Json.num.inj (Option.some.inj hrevision)

theorem Request.personaId_of_text (h : request.text = request'.text) :
    request.personaId = request'.personaId := by
  have hkind := Request.kind_of_text h
  have hpersona := Request.member_of_text h (ofString "personaId")
  rcases request with command | ⟨kind, command⟩ | ⟨kind, command⟩ <;>
    rcases request' with command' | ⟨kind', command'⟩ | ⟨kind', command'⟩ <;> cases hkind
  · rfl
  · rfl
  · exact congrArg some (Json.str.inj (Option.some.inj hpersona))

/-- **The text tells whether the checks are passed.** -/
theorem Request.checked_of_text (hkey : request.key = request'.key)
    (h : request.text = request'.text) (hchecked : request'.Checked) : request.Checked := by
  obtain ⟨hroom, hid⟩ := Prod.mk.inj hkey
  exact ⟨hroom ▸ hchecked.roomId, hroom ▸ hchecked.libraryId, hid ▸ hchecked.requestId,
    selectionRevision_of_text h ▸ hchecked.revision, personaId_of_text h ▸ hchecked.personaId⟩

/-! ## What is recorded has been asked for -/

variable (host) in
/-- A row under the key is of the request, which has passed its checks. -/
structure Request.RecordedAs (request : Request) (key : CommandKey) (row : CommandRow) :
    Prop where
  key : request.key = key
  checked : request.Checked
  digest : row.requestDigest = request.digest host
  kind : row.result.kind = request.kind

/-- **Who asks under the digest of a row** asks what the row is of, unless the two collide. -/
theorem Request.RecordedAs.same {first : Request} {row : CommandRow}
    (h : first.RecordedAs host request.key row) (hno : ¬ first.Collides host request)
    (hdigest : row.requestDigest = request.digest host) :
    request.Checked ∧ row.result.kind = request.kind := by
  have htext : request.text = first.text := by
    by_contra htext
    exact hno ⟨h.digest.symm.trans hdigest, Ne.symm htext⟩
  exact ⟨Request.checked_of_text h.key.symm htext h.checked,
    h.kind.trans (Request.kind_of_text htext).symm⟩

variable (host) in
/-- Every record is of a request that has passed its checks. -/
def Requested (db : Db) : Prop :=
  ∀ key record, db.recorded key = some record → ∃ request : Request, request.key = key ∧
    request.Checked ∧ record.requestDigest = request.digest host ∧
      record.result.kind = request.kind

theorem canonicalSelectionRevision_ok {value : ℤ} {revision : ℕ}
    (h : canonicalSelectionRevision value = .ok revision) :
    (revision : ℤ) = value ∧ 0 ≤ value ∧ value < safeIntegerBound := by
  unfold canonicalSelectionRevision at h
  split at h
  · next hrange =>
      obtain rfl := Except.ok.inj h
      exact ⟨Int.toNat_of_nonneg hrange.1, hrange⟩
  · cases h

/-- A selection that is required has a room's identifier. -/
theorem requireRoomSelection_libraryId {roomId : JsString} {selectionRevision : ℕ} {db db' : Db}
    {u : Unit} (h : (requireRoomSelection roomId selectionRevision).Returns db u db') :
    Cast.canonicalIdentifier roomId "roomId" 128 = .ok roomId := by
  simp only [requireRoomSelection, Program.returns_bind, Program.returns_ofExcept] at h
  obtain ⟨roomId', _, ⟨hroomId, -⟩, -⟩ := h
  have hsame := hroomId
  unfold Cast.canonicalIdentifier at hsame
  split at hsame
  · cases hsame
  · rw [hroomId, Except.ok.inj hsame]

/-- What a command finds that has a row. -/
structure AnsweredFrom (row : CommandRow) (requestDigest : JsString) (result : CommandResult) :
    Prop where
  digest : row.requestDigest = requestDigest
  result : row.result = .complete result

theorem answerAgain_from {prior : CommandRow} {requestDigest : JsString} {db db' : Db}
    {answer : ControlAnswer} (h : (answerAgain prior requestDigest).Returns db answer db') :
    AnsweredFrom prior requestDigest answer.result ∧ db' = db ∧ answer.abort = false := by
  refine ⟨?_, answerAgain_returns h⟩
  simp only [answerAgain, assertMatchingDigest, Program.returns_bind, Program.returns_require] at h
  obtain ⟨_, _, ⟨hdigest, -⟩, h⟩ := h
  split at h
  · exact absurd h Program.returns_throw
  · next result hresult =>
      obtain ⟨rfl, -⟩ := Program.returns_pure.mp h
      exact ⟨hdigest, hresult⟩

/-- A room control that returns has passed its checks, and answers from the row it finds. -/
theorem roomControl_requested {kind : RoomControl} {command : RoomCommand} {db db' : Db}
    {answer : ControlAnswer} (h : (roomControl host kind command).Returns db answer db') :
    (Request.roomControl kind command).Checked ∧
      match db.commands.lookup (Request.roomControl kind command).key with
      | some row =>
          AnsweredFrom row ((Request.roomControl kind command).digest host) answer.result ∧
            db' = db ∧ answer.abort = false
      | none => RoomControlEffect kind (Request.roomControl kind command).key
          ((Request.roomControl kind command).digest host) db db' answer := by
  simp only [roomControl, Program.returns_bind, Program.returns_ofExcept] at h
  obtain ⟨roomId, _, ⟨hroomId, rfl⟩, requestId, _, ⟨hrequestId, rfl⟩, revision, _, ⟨hrevision, rfl⟩,
    _, db₁, hselected, prior, db, hprior, h⟩ := h
  obtain rfl := canonicalIdentifier_ok hroomId
  obtain rfl := canonicalIdentifier_ok hrequestId
  obtain ⟨hrevision, hrange⟩ := canonicalSelectionRevision_ok hrevision
  have hlibrary := requireRoomSelection_libraryId hselected
  obtain rfl := requireRoomSelection_returns hselected
  obtain ⟨rfl, rfl⟩ := findCommand_returns hprior
  rw [hrevision] at h
  refine ⟨⟨hroomId, hlibrary, hrequestId, hrange, by simp [Request.personaId]⟩, ?_⟩
  change match db.commands.lookup (command.roomId, command.requestId) with
    | some row => _
    | none => _
  split at h
  · next prior hprior =>
      rw [hprior]
      exact answerAgain_from h
  · next hprior =>
      rw [hprior]
      exact roomControlNew_returns h

/-- A persona control that returns has passed its checks, and answers from the row it finds. -/
theorem personaControl_requested {kind : PersonaControl} {command : PersonaControlCommand}
    {db db' : Db} {answer : ControlAnswer}
    (h : (personaControl host kind command).Returns db answer db') :
    (Request.personaControl kind command).Checked ∧
      match db.commands.lookup (Request.personaControl kind command).key with
      | some row =>
          AnsweredFrom row ((Request.personaControl kind command).digest host) answer.result ∧
            db' = db ∧ answer.abort = false
      | none => PersonaControlEffect kind (Request.personaControl kind command).key
          command.personaId ((Request.personaControl kind command).digest host) db db' answer := by
  simp only [personaControl, Program.returns_bind, Program.returns_ofExcept] at h
  obtain ⟨roomId, _, ⟨hroomId, rfl⟩, requestId, _, ⟨hrequestId, rfl⟩, revision, _, ⟨hrevision, rfl⟩,
    personaId, _, ⟨hpersonaId, rfl⟩, _, db₁, hselected, prior, db, hprior, h⟩ := h
  obtain rfl := canonicalIdentifier_ok hroomId
  obtain rfl := canonicalIdentifier_ok hrequestId
  obtain rfl := canonicalIdentifier_ok hpersonaId
  obtain ⟨hrevision, hrange⟩ := canonicalSelectionRevision_ok hrevision
  have hlibrary := requireRoomSelection_libraryId hselected
  obtain rfl := requireRoomSelection_returns hselected
  obtain ⟨rfl, rfl⟩ := findCommand_returns hprior
  rw [hrevision] at h
  refine ⟨⟨hroomId, hlibrary, hrequestId, hrange, ?_⟩, ?_⟩
  · rintro id ⟨⟩
    exact hpersonaId
  change match db.commands.lookup (command.roomId, command.requestId) with
    | some row => _
    | none => _
  split at h
  · next prior hprior =>
      rw [hprior]
      exact answerAgain_from h
  · next hprior =>
      rw [hprior]
      exact personaControlNew_returns h

theorem canonicalIdentifier_again {value value' : JsString} {field : String}
    (h : canonicalIdentifier value field = .ok value') :
    canonicalIdentifier value' field = .ok value' := by
  obtain rfl := canonicalIdentifier_ok h
  exact h

theorem normalize_ok {raw : SendMessageCommand} {command : MessageCommand}
    (h : normalize raw = .ok command) :
    canonicalIdentifier command.roomId "roomId" = .ok command.roomId ∧
      canonicalIdentifier command.requestId "requestId" = .ok command.requestId ∧
      (command.selectionRevision : ℤ) < safeIntegerBound := by
  simp only [normalize, Except.bind_eq_ok] at h
  obtain ⟨roomId, hroomId, requestId, hrequestId, revision, hrevision, text, -, target, -, h⟩ := h
  have hcommand : command.roomId = roomId ∧ command.requestId = requestId ∧
      command.selectionRevision = revision := by
    split at h
    · cases h
    · obtain rfl := Except.ok.inj h
      exact ⟨rfl, rfl, rfl⟩
  obtain ⟨rfl, rfl, rfl⟩ := hcommand
  obtain ⟨hrevision, -, hbound⟩ := canonicalSelectionRevision_ok hrevision
  refine ⟨?_, ?_, hrevision ▸ hbound⟩
  · exact canonicalIdentifier_again hroomId
  · exact canonicalIdentifier_again hrequestId

/-- A message that is prepared has passed its checks, and answers from the row it finds. -/
theorem prepareMessage_requested {options : ServiceOptions} {command : MessageCommand}
    {requestDigest claimOwner : JsString} {clock : ℤ} {db db' : Db} {answer : PreparedMessage}
    (hnormal : ∃ raw, normalize raw = .ok command)
    (h : (prepareMessage options command requestDigest claimOwner clock).Returns db answer db') :
    (Request.message command).Checked ∧ ∀ row, db.commands.lookup command.key = some row →
      row.requestDigest = requestDigest ∧ ∀ result, row.result = .complete result →
        answer = .complete result ∧ db' = db := by
  obtain ⟨raw, hnormal⟩ := hnormal
  obtain ⟨hroomId, hrequestId, hrevision⟩ := normalize_ok hnormal
  simp only [prepareMessage, Program.returns_bind] at h
  obtain ⟨_, _, hselected, now, _, htime, prior, db, hprior, h⟩ := h
  have hlibrary := requireRoomSelection_libraryId hselected
  obtain rfl := requireRoomSelection_returns hselected
  obtain ⟨-, rfl⟩ := currentTime_returns htime
  obtain ⟨rfl, rfl⟩ := findCommand_returns hprior
  refine ⟨⟨hroomId, hlibrary, hrequestId, ⟨Int.natCast_nonneg _, hrevision⟩,
    by simp [Request.personaId]⟩, fun row hrow => ?_⟩
  have hrow' : db.commands.lookup (command.roomId, command.requestId) = some row := hrow
  rw [hrow'] at h
  simp only [prepareKnown, assertMatchingDigest, Program.returns_bind, Program.returns_require] at h
  obtain ⟨_, _, ⟨hdigest, rfl⟩, h⟩ := h
  refine ⟨hdigest, fun result hresult => ?_⟩
  rw [hresult] at h
  exact Program.returns_pure.mp h

namespace Requested

variable {db db' : Db}

theorem of_recorded (h : Requested host db) (heq : ∀ key, db'.recorded key = db.recorded key) :
    Requested host db' := fun key record hrecord => h key record ((heq key).symm.trans hrecord)

theorem of_eq (h : Requested host db) (heq : db' = db) : Requested host db' := heq ▸ h

/-- A request is recorded. -/
theorem of_set (h : Requested host db) {request : Request} {stored : Stored}
    (hset : db.RecordSet request.key ⟨request.digest host, stored⟩ db') (hchecked : request.Checked)
    (hkind : stored.kind = request.kind) : Requested host db' := by
  intro key record hrecord
  rw [hset key] at hrecord
  split at hrecord
  · next hkey =>
      obtain rfl := Option.some.inj hrecord
      exact ⟨request, hkey.symm, hchecked, rfl, hkind⟩
  · exact h key record hrecord

/-- A pending message is completed. -/
theorem of_pending (h : Requested host db) {key : CommandKey} {requestDigest : JsString}
    {message : PendingMessage} {result : SendMessageResult}
    (hset : db.RecordSet key ⟨requestDigest, .complete (.message result)⟩ db')
    (hpending : db.recorded key = some ⟨requestDigest, .pending message⟩) :
    Requested host db' := by
  obtain ⟨request, rfl, hchecked, hdigest, hkind⟩ := h key _ hpending
  obtain rfl : requestDigest = request.digest host := hdigest
  exact h.of_set hset hchecked hkind

theorem of_prepared (h : Requested host db) {options : ServiceOptions} {command : MessageCommand}
    {requestDigest claimOwner : JsString} {clock : ℤ} {prepared : PreparedMessage}
    (hchecked : (Request.message command).Checked) (hdigest : requestDigest = command.digest host)
    (hp : Prepared options command requestDigest claimOwner clock db db' prepared) :
    Requested host db' := by
  subst hdigest
  have haccepted : ∀ {decision room state}, Accepted command (command.digest host) decision room
      state db db' → Requested host db' := by
    intro decision room state haccepted
    refine @of_set _ _ _ h (.message command) _ haccepted.record hchecked ?_
    unfold acceptedStored
    split <;> rfl
  cases hp with
  | known result _ hdb => exact h.of_eq hdb
  | watched observedUntil pending hdb => exact h.of_eq hdb
  | taken pending now _ _ _ hquiet _ => exact h.of_recorded hquiet.recorded
  | unscheduled decision room state ha _ _ => exact haccepted ha
  | scheduled decision room state speaker now ha _ _ _ => exact haccepted ha

theorem of_completed (h : Requested host db) {key : CommandKey} {requestDigest : JsString}
    {pending : PendingMessage} {generated : GeneratedMessage} {claimOwner : JsString} {clock : ℤ}
    {answer : Option CommandResult}
    (hc : Completed key requestDigest pending generated claimOwner clock db db' answer) :
    Requested host db' := by
  cases hc with
  | known result _ hdb => exact h.of_eq hdb
  | lost hdb => exact h.of_eq hdb
  | replied speaker text room now expiresAt _ _ _ _ hreplied _ =>
      exact h.of_pending hreplied.record hreplied.pending
  | settled outcome hsettled _ => exact h.of_pending hsettled.record hsettled.pending

end Requested

theorem requested_of_transact {α : Type} {action : DbProgram α} {faults : Faults JsError}
    {db db' : Db} {answer : Except JsError α} (h : Requested host db)
    (ht : transact faults action db = (answer, db'))
    (hreturns : ∀ a, action.Returns db a db' → Requested host db') : Requested host db' := by
  cases answer with
  | error error => exact h.of_eq (transact_error ht)
  | ok a => exact hreturns a (returns_of_transact ht)

theorem Step.requested {s t : System} {l : Label} (hvalid : ExecutionsValid host s)
    (h : Requested host s.db) (hstep : Step host s l t) : Requested host t.db := by
  cases hstep with
  | prepare token e service faults clock answer db' he _ _ _ ht =>
      obtain ⟨grants, granted, hgrant⟩ :=
        System.grantIfClaimed_frame e.key token answer (s.commit (some e.key) db')
      rw [hgrant]
      refine requested_of_transact h ht fun prepared hr => ?_
      exact h.of_prepared (prepareMessage_requested (hvalid _ _ he).normal hr).1
        (hvalid _ _ he).digest (prepareMessage_returns hr)
  | complete token e service pending generated work faults clock answer db' he _ _ hphase ht =>
      cases answer with
      | error error => exact h.of_eq (transact_error ht)
      | ok result => exact h.of_completed (completed_of_transact (hvalid _ _ he) hphase ht rfl)
  | roomControl id service kind command faults answer db' _ _ ht =>
      refine requested_of_transact h ht fun answer hr => ?_
      obtain ⟨hchecked, hfound⟩ := roomControl_requested hr
      obtain ⟨_, ⟨-, hdb, -⟩ | ⟨_, hnew, -⟩⟩ := roomControl_returns hr
      · exact h.of_eq hdb
      · have hnone : s.db.commands.lookup (Request.roomControl kind command).key = none :=
          AList.lookup_eq_none.mpr (Db.recorded_eq_none.mp hnew.new)
        rw [hnone] at hfound
        obtain ⟨hold, -⟩ | ⟨result, hcontrolled, -, hkind, -⟩ := hfound
        · exact absurd hnew.new hold
        · exact h.of_set hcontrolled.record hchecked (congrArg CommandKind.roomControl hkind)
  | personaControl id service kind command faults answer db' _ _ ht =>
      refine requested_of_transact h ht fun answer hr => ?_
      obtain ⟨hchecked, hfound⟩ := personaControl_requested hr
      obtain ⟨_, ⟨-, hdb, -⟩ | ⟨_, hnew, -⟩⟩ := personaControl_returns hr
      · exact h.of_eq hdb
      · have hnone : s.db.commands.lookup (Request.personaControl kind command).key = none :=
          AList.lookup_eq_none.mpr (Db.recorded_eq_none.mp hnew.new)
        rw [hnone] at hfound
        obtain ⟨hold, -⟩ | ⟨result, hcontrolled, -, hkind, -⟩ := hfound
        · exact absurd hnew.new hold
        · exact h.of_set hcontrolled.record hchecked (congrArg CommandKind.personaControl hkind)
  | replaceCast id service uuids command faults answer db' _ _ ht =>
      refine requested_of_transact h ht fun _ hr => ?_
      rcases replaceCast_returns hr with hdb | ⟨sessionId, hopened⟩
      · exact h.of_eq hdb
      · exact h.of_recorded fun key => by rw [Db.recorded, Db.recorded, hopened.commands]
  | selectRoom command faults answer db' ht =>
      exact requested_of_transact h ht fun _ hr =>
        h.of_recorded (selectRoom_returns hr).quiet.recorded
  | pin token e service pending faults answer db' _ _ _ ht =>
      exact requested_of_transact h ht fun _ hr =>
        h.of_recorded (pinProviderDecision_returns hr).1.recorded
  | renew token e service faults clock answer db' _ _ _ _ _ _ ht =>
      exact requested_of_transact h ht fun _ hr => h.of_recorded (renewClaim_returns hr).1.recorded
  | discard token e pending error faults answer db' _ _ ht =>
      exact requested_of_transact h ht fun _ hr =>
        h.of_recorded (releaseClaim_returns hr).1.recorded
  | release token e pending error faults answer db' _ _ ht =>
      exact requested_of_transact h ht fun _ hr =>
        h.of_recorded (releaseClaim_returns hr).1.recorded
  | closeRelease token e service faults answer db' _ _ _ _ ht =>
      exact requested_of_transact h ht fun _ hr =>
        h.of_recorded (releaseClaim_returns hr).1.recorded
  | providers db' hchange =>
      obtain ⟨providers, rfl⟩ := hchange.frame
      exact h.of_recorded fun _ => rfl
  | _ => exact h

theorem requested_inductive {fresh : Db → Prop} (hfresh : ∀ db, fresh db → Fresh db) :
    (roomSystem host fresh).Inductive fun s => Inv host s ∧ Requested host s.db := by
  refine (inv_inductive hfresh).and (fun s hs key record hrecord => ?_) fun s l t hinv h hstep =>
    Step.requested hinv.executions h hstep
  rw [Db.recorded, (hfresh _ hs.1).commands] at hrecord
  cases hrecord

end

end Runtime

end GreenRoom
