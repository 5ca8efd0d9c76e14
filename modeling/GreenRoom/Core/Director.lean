import GreenRoom.Lib.JsError
import GreenRoom.Lib.Json
import GreenRoom.Lib.KeyedTable
import Mathlib.Data.Finset.Basic

/-!
# The director

The in-memory scheduler of `packages/core/src/director.ts`: it picks who answers a
human message, in turn, never the same persona twice running, and remembers the
last 500 event identities it was given.  A `Director` can be written out as a
snapshot and restored from one.

A method that throws is an `Except` value; it throws before it changes anything.
Counters are natural numbers, counted up as doubles are: they stay at 2^53.

## Main definitions

* `Director`, `Director.construct` — the state and its constructor.
* `Director.schedule`, `setMuted`, `cancel` — the methods.
* `Director.snapshot`, `Director.restore` — writing out and reading back.
* `DirectorCall`, `Director.run` — sequences of calls.
-/

namespace GreenRoom.Core

open JsString

def typeError {α : Type} (message : String) : Except JsError α :=
  .error (.typeError (ofString message))

abbrev PersonaId := JsString

/-- `Number.MAX_SAFE_INTEGER + 1`. -/
def safeIntegerBound : ℕ := 2 ^ 53

/-- `+= 1` of a double that holds a natural number, up to 2^53: the next one has no double of
its own. -/
def plusOne (n : ℕ) : ℕ := if n < safeIntegerBound then n + 1 else n

def maxNamespaceLength : ℕ := 128

def maxEventIdLength : ℕ := 256

def maxTrackedEventIdentities : ℕ := 500

def oneEventCooldown : ℕ := 1

def defaultAutonomousTurnBudget : ℤ := 10

/-- Not blank, without white space around it, and not too long. -/
def IsCanonical (maxLength : Option ℕ) (value : JsString) : Prop :=
  value ≠ [] ∧ trim value = value ∧ ∀ m ∈ maxLength, value.length ≤ m

/-- `none` stands for a value that is not a string. -/
def requireCanonicalIdentifier (value : Option JsString) (field : String)
    (maxLength : Option ℕ) : Except JsError JsString :=
  match value with
  | none => typeError (field ++ " must be a canonical nonblank string")
  | some value =>
    if value.length = 0 ∨ trim value ≠ value then
      typeError (field ++ " must be a canonical nonblank string")
    else
      match maxLength with
      | some maxLength =>
        if maxLength < value.length then
          typeError (field ++ " must be at most " ++ toString maxLength ++ " characters")
        else .ok value
      | none => .ok value

/-! ## Events -/

/-- An event only `TrustedEventAdapter` makes. -/
structure VerifiedDirectorEvent where
  eventNamespace : JsString
  eventId : JsString
  isHuman : Bool
  text : JsString
  wantsResponse : Bool
  namespace_canonical : IsCanonical (some maxNamespaceLength) eventNamespace
  eventId_canonical : IsCanonical (some maxEventIdLength) eventId

/-- What the duplicate window remembers of an event. -/
abbrev EventIdentity := JsString × JsString

def VerifiedDirectorEvent.identity (e : VerifiedDirectorEvent) : EventIdentity :=
  (e.eventNamespace, e.eventId)

inductive DirectorReason
  | selected | directed | cancelled | unverifiedEvent | duplicate | selfTriggerBlocked
  | budgetExhausted | deliberateSilence | noPersona | noEligiblePersona | cooldown
  deriving DecidableEq, Repr

structure DirectorDecision where
  speaker : Option PersonaId
  reason : DirectorReason
  deriving DecidableEq, Repr

/-! ## State -/

structure Director where
  personas : List PersonaId
  maxAutonomousTurns : ℕ
  muted : Finset PersonaId := ∅
  /-- In the order of first selection, as a `Map` iterates. -/
  lastSelectedAt : KeyedTable PersonaId ℕ := ∅
  seenByNamespace : KeyedTable JsString (Finset JsString) := ∅
  seenOrder : List EventIdentity := []
  autonomousTurns : ℕ := 0
  acceptedHumanEventNumber : ℕ := 0
  fallbackIndex : ℕ := 0
  cancelled : Bool := false

namespace Director

/-- Whether the per-namespace sets hold an identity. -/
def holds (seen : KeyedTable JsString (Finset JsString)) (identity : EventIdentity) : Bool :=
  match seen.lookup identity.1 with
  | some events => identity.2 ∈ events
  | none => false

def hasSeen (d : Director) (identity : EventIdentity) : Bool := holds d.seenByNamespace identity

/-- Add one identity, with its namespace if it is new. -/
def remember (identity : EventIdentity) (seen : KeyedTable JsString (Finset JsString)) :
    KeyedTable JsString (Finset JsString) :=
  match seen.lookup identity.1 with
  | none => KeyedTable.set identity.1 {identity.2} seen
  | some events => KeyedTable.set identity.1 (insert identity.2 events) seen

/-- Drop one identity, and its namespace with its last one. -/
def forget (identity : EventIdentity) (seen : KeyedTable JsString (Finset JsString)) :
    KeyedTable JsString (Finset JsString) :=
  match seen.lookup identity.1 with
  | none => seen
  | some events =>
    let events := events.erase identity.2
    if events = ∅ then seen.erase identity.1 else KeyedTable.set identity.1 events seen

def recordSeen (identity : EventIdentity) (d : Director) : Director :=
  let seenByNamespace := remember identity d.seenByNamespace
  let seenOrder := d.seenOrder ++ [identity]
  if seenOrder.length ≤ maxTrackedEventIdentities then { d with seenByNamespace, seenOrder }
  else
    match seenOrder with
    | [] => { d with seenByNamespace, seenOrder }
    | oldest :: seenOrder => { d with seenByNamespace := forget oldest seenByNamespace, seenOrder }

structure Speaker where
  personaId : PersonaId
  index : ℕ

/-- The persona at `offset` places from the rotation index, if it may speak now. -/
def eligibleAt (d : Director) (offset : ℕ) : Option Speaker :=
  let index := (d.fallbackIndex + offset) % d.personas.length
  match d.personas[index]? with
  | none => none
  | some personaId =>
    if personaId ∈ d.muted then none
    else
      match d.lastSelectedAt.lookup personaId with
      | none => some ⟨personaId, index⟩
      | some lastSelectedAt =>
        if oneEventCooldown < d.acceptedHumanEventNumber - lastSelectedAt then
          some ⟨personaId, index⟩
        else none

def deterministicEligibleSpeaker (d : Director) : Option Speaker :=
  (List.range d.personas.length).findSome? d.eligibleAt

/-! ## Methods -/

def cancel (d : Director) : Director := { d with cancelled := true }

def setMuted (personaId : PersonaId) (muted : Bool) (d : Director) : Except JsError Director :=
  if personaId ∉ d.personas then .error (.rangeError (ofString "unknown persona: " ++ personaId))
  else if muted then .ok { d with muted := insert personaId d.muted }
  else .ok { d with muted := d.muted.erase personaId }

/-- The checks `schedule` makes of a directed persona before anything else. -/
def requireDirectable (d : Director) : Option PersonaId → Except JsError Unit
  | none => .ok ()
  | some personaId =>
    match requireCanonicalIdentifier (some personaId) "directed persona id" none with
    | .error e => .error e
    | .ok personaId =>
      if personaId ∉ d.personas then
        .error (.rangeError (ofString "unknown persona: " ++ personaId))
      else if personaId ∈ d.muted then
        .error (.rangeError (ofString "muted persona: " ++ personaId))
      else .ok ()

/-- Who speaks: the directed persona, the only unmuted one, or the next in turn. -/
def chooseSpeaker (d : Director) (directedPersonaId : Option PersonaId) : Option Speaker :=
  match directedPersonaId with
  | some personaId => some ⟨personaId, d.personas.idxOf personaId⟩
  | none =>
    match d.personas.filter (· ∉ d.muted) with
    | [onlyUnmuted] => some ⟨onlyUnmuted, d.personas.idxOf onlyUnmuted⟩
    | _ => d.deterministicEligibleSpeaker

/-- Count a human event that was accepted. -/
def accept (d : Director) : Director :=
  { d with acceptedHumanEventNumber := plusOne d.acceptedHumanEventNumber }

/-- Write down a selection. -/
def select (speaker : Speaker) (d : Director) : Director :=
  { d with
    lastSelectedAt := KeyedTable.set speaker.personaId d.acceptedHumanEventNumber d.lastSelectedAt
    fallbackIndex := (speaker.index + 1) % d.personas.length
    autonomousTurns := plusOne d.autonomousTurns }

/-- The part of `schedule` that follows the acceptance of a human event. -/
def scheduleAccepted (d : Director) (wantsResponse : Bool) (directedPersonaId : Option PersonaId) :
    DirectorDecision × Director :=
  if !wantsResponse then (⟨none, .deliberateSilence⟩, d)
  else if d.personas.length = 0 then (⟨none, .noPersona⟩, d)
  else if (d.personas.filter (· ∉ d.muted)).length = 0 then (⟨none, .noEligiblePersona⟩, d)
  else
    match d.chooseSpeaker directedPersonaId with
    | none => (⟨none, .cooldown⟩, d)
    | some speaker =>
      (⟨some speaker.personaId, if directedPersonaId = none then .selected else .directed⟩,
        d.select speaker)

/-- `none` stands for a value that is not a verified event. -/
def schedule (event : Option VerifiedDirectorEvent) (directedPersonaId : Option PersonaId)
    (d : Director) : Except JsError (DirectorDecision × Director) :=
  match d.requireDirectable directedPersonaId with
  | .error e => .error e
  | .ok () =>
    .ok <|
      if d.cancelled then (⟨none, .cancelled⟩, d)
      else
        match event with
        | none => (⟨none, .unverifiedEvent⟩, d)
        | some event =>
          if d.hasSeen event.identity then (⟨none, .duplicate⟩, d)
          else
            let d := d.recordSeen event.identity
            if !event.isHuman then (⟨none, .selfTriggerBlocked⟩, d)
            else
              d.accept.scheduleAccepted event.wantsResponse directedPersonaId

/-! ## Snapshots -/

/-- `DIRECTOR_SNAPSHOT_KEYS`. -/
def snapshotKeys : List JsString :=
  ["acceptedHumanEventNumber", "autonomousTurns", "cancelled", "fallbackIndex",
    "lastSelectedAt", "maxAutonomousTurns", "seen", "version"].map ofString

def snapshotSelection (entry : (_ : PersonaId) × ℕ) : Json ℤ :=
  .arr [.str entry.1, .num entry.2]

def snapshotIdentity (identity : EventIdentity) : Json ℤ :=
  .arr [.str identity.1, .str identity.2]

def snapshot (d : Director) : Json ℤ := .obj
  [(ofString "version", .num 1),
    (ofString "autonomousTurns", .num d.autonomousTurns),
    (ofString "acceptedHumanEventNumber", .num d.acceptedHumanEventNumber),
    (ofString "fallbackIndex", .num d.fallbackIndex),
    (ofString "cancelled", .bool d.cancelled),
    (ofString "maxAutonomousTurns", .num d.maxAutonomousTurns),
    (ofString "lastSelectedAt", .arr (d.lastSelectedAt.entries.map snapshotSelection)),
    (ofString "seen", .arr (d.seenOrder.map snapshotIdentity))]

/-- `Number.isSafeInteger(value) && value >= 0`; `none` stands for `undefined`. -/
def safeNonNegative : Option (Json ℤ) → Option ℕ
  | some (.num n) => if 0 ≤ n ∧ n < safeIntegerBound then some n.toNat else none
  | _ => none

def requireNonNegativeInteger (value : Option (Json ℤ)) (field : String) : Except JsError ℕ :=
  match safeNonNegative value with
  | some n => .ok n
  | none => typeError (field ++ " must be a non-negative safe integer")

/-- The loop over `snapshot.lastSelectedAt`, with the persona's last selections and
the event numbers read so far. -/
def restoreSelections (personas : List PersonaId) (acceptedHumanEventNumber : ℕ) :
    List (Json ℤ) → KeyedTable PersonaId ℕ → Finset ℕ → Except JsError (KeyedTable PersonaId ℕ)
  | [], lastSelectedAt, _ => .ok lastSelectedAt
  | entry :: entries, lastSelectedAt, selectionEventNumbers =>
    match entry with
    | .arr [.str personaId, number] =>
      if personaId ∉ personas ∨ personaId ∈ lastSelectedAt then
        typeError "snapshot lastSelectedAt is invalid"
      else
        match requireNonNegativeInteger (some number) "snapshot event number" with
        | .error e => .error e
        | .ok eventNumber =>
          if eventNumber = 0 ∨ acceptedHumanEventNumber < eventNumber ∨
              eventNumber ∈ selectionEventNumbers then
            typeError "snapshot lastSelectedAt is inconsistent"
          else
            restoreSelections personas acceptedHumanEventNumber entries
              (KeyedTable.set personaId eventNumber lastSelectedAt)
              (insert eventNumber selectionEventNumbers)
    | _ => typeError "snapshot lastSelectedAt is invalid"

/-- The entry with the greatest event number, the first of several. -/
def latestSelection (entries : List ((_ : PersonaId) × ℕ)) : Option ((_ : PersonaId) × ℕ) :=
  match entries with
  | [] => none
  | entry :: entries => some (entries.foldl (fun latest entry =>
      if latest.2 < entry.2 then entry else latest) entry)

/-- The checks between the counters and the selections. -/
def checkSelectionHistory (d : Director) : Except JsError Unit :=
  let size := d.lastSelectedAt.entries.length
  if d.autonomousTurns < size ∨ ¬ (d.autonomousTurns = 0 ↔ size = 0) then
    typeError "snapshot selection history is inconsistent"
  else if d.autonomousTurns = 0 then
    if d.fallbackIndex ≠ 0 then
      typeError "snapshot fallbackIndex is inconsistent with selection history"
    else .ok ()
  else
    match latestSelection d.lastSelectedAt.entries with
    | none => typeError "Reduce of empty array with no initial value"
    | some latest =>
      if latest.2 < d.autonomousTurns then
        typeError "snapshot selection history is inconsistent"
      else if d.fallbackIndex ≠ (d.personas.idxOf latest.1 + 1) % d.personas.length then
        typeError "snapshot fallbackIndex is inconsistent with selection history"
      else .ok ()

/-- The loop over `snapshot.seen`. -/
def restoreSeen : List (Json ℤ) → Director → Except JsError Director
  | [], d => .ok d
  | entry :: entries, d =>
    match entry with
    | .arr [first, second] =>
      match requireCanonicalIdentifier first.str? "snapshot namespace" maxNamespaceLength with
      | .error e => .error e
      | .ok eventNamespace =>
        match requireCanonicalIdentifier second.str? "snapshot eventId" maxEventIdLength with
        | .error e => .error e
        | .ok eventId =>
          if d.hasSeen (eventNamespace, eventId) then
            typeError "snapshot seen identities must be unique"
          else restoreSeen entries (d.recordSeen (eventNamespace, eventId))
    | _ => typeError "snapshot seen identity is invalid"

/-- `#restore`, on a director that is fresh but for its roster and budget. -/
def restoreSnapshot (snapshot : Json ℤ) (d : Director) : Except JsError Director := do
  if (snapshot.member? (ofString "version")).bind Json.num? ≠ some 1 ∨
      join [0] (snapshot.keys.insertionSort fun a b => le a b) ≠ join [0] snapshotKeys then
    typeError "director snapshot version is invalid"
  let autonomousTurns ← requireNonNegativeInteger
    (snapshot.member? (ofString "autonomousTurns")) "snapshot autonomousTurns"
  let acceptedHumanEventNumber ← requireNonNegativeInteger
    (snapshot.member? (ofString "acceptedHumanEventNumber")) "snapshot acceptedHumanEventNumber"
  if acceptedHumanEventNumber < autonomousTurns then
    typeError "snapshot autonomousTurns is inconsistent"
  let fallbackIndex ← requireNonNegativeInteger
    (snapshot.member? (ofString "fallbackIndex")) "snapshot fallbackIndex"
  if if d.personas.length = 0 then fallbackIndex ≠ 0 else d.personas.length ≤ fallbackIndex then
    typeError "snapshot fallbackIndex is outside the roster"
  let cancelled ← match snapshot.member? (ofString "cancelled") with
    | some (.bool cancelled) => .ok cancelled
    | _ => typeError "snapshot cancelled is invalid"
  let (selections, seen) ←
    match snapshot.member? (ofString "lastSelectedAt"), snapshot.member? (ofString "seen") with
    | some (.arr selections), some (.arr seen) =>
      if maxTrackedEventIdentities < seen.length then
        typeError "director snapshot collections are invalid"
      else .ok (selections, seen)
    | _, _ => typeError "director snapshot collections are invalid"
  let lastSelectedAt ← restoreSelections d.personas acceptedHumanEventNumber selections ∅ ∅
  let d := { d with autonomousTurns, acceptedHumanEventNumber, fallbackIndex, cancelled,
                    lastSelectedAt }
  d.checkSelectionHistory
  if seen.length < min acceptedHumanEventNumber maxTrackedEventIdentities then
    typeError "snapshot seen history is inconsistent"
  restoreSeen seen d

/-- The constructor's checks of the roster. -/
def requireRoster (personas : List JsString) : Except JsError (List PersonaId) := do
  let canonicalPersonas ← personas.mapM fun persona =>
    requireCanonicalIdentifier (some persona) "persona id" none
  if canonicalPersonas.Nodup then .ok canonicalPersonas
  else typeError "duplicate persona ids are not allowed"

/-- The constructor's checks of the budget.  `options` is `options.maxAutonomousTurns`,
if it is given. -/
def requireBudget (options : Option ℤ) (snapshot : Option (Json ℤ)) : Except JsError ℕ :=
  let stored := snapshot.bind fun s => s.member? (ofString "maxAutonomousTurns")
  let budget := (stored.filter fun v => !v.isNull).getD
    (.num (options.getD defaultAutonomousTurnBudget))
  match safeNonNegative (some budget) with
  | none => typeError "maxAutonomousTurns must be a non-negative integer"
  | some maxAutonomousTurns =>
    if snapshot.isSome ∧ options.isSome ∧ stored.bind Json.num? ≠ options then
      typeError "snapshot autonomous-turn budget does not match options"
    else .ok maxAutonomousTurns

/-- The constructor. -/
def construct (personas : List JsString) (options : Option ℤ) (snapshot : Option (Json ℤ)) :
    Except JsError Director := do
  let personas ← requireRoster personas
  let maxAutonomousTurns ← requireBudget options snapshot
  match snapshot with
  | none => .ok { personas, maxAutonomousTurns }
  | some snapshot => restoreSnapshot snapshot { personas, maxAutonomousTurns }

/-- `Director.restore`. -/
def restore (personas : List JsString) (snapshot : Json ℤ) (options : Option ℤ) :
    Except JsError Director :=
  construct personas options (some snapshot)

end Director

/-! ## Sequences of calls -/

inductive DirectorCall
  | schedule (event : Option VerifiedDirectorEvent) (directedPersonaId : Option PersonaId)
  | setMuted (personaId : PersonaId) (muted : Bool)
  | cancel

/-- What a call answers. -/
inductive DirectorAnswer
  | decision (decision : DirectorDecision)
  | done
  | thrown (error : JsError)
  deriving DecidableEq, Repr

namespace Director

def perform (d : Director) : DirectorCall → DirectorAnswer × Director
  | .schedule event directedPersonaId =>
    match d.schedule event directedPersonaId with
    | .error e => (.thrown e, d)
    | .ok (decision, d) => (.decision decision, d)
  | .setMuted personaId muted =>
    match d.setMuted personaId muted with
    | .error e => (.thrown e, d)
    | .ok d => (.done, d)
  | .cancel => (.done, d.cancel)

/-- The answers to a sequence of calls, and the director after it. -/
def run (d : Director) : List DirectorCall → List DirectorAnswer × Director
  | [] => ([], d)
  | call :: calls =>
    let rest := (d.perform call).2.run calls
    ((d.perform call).1 :: rest.1, rest.2)

end Director
end GreenRoom.Core
