import GreenRoom.Iphone.RoomRuntime

/-!
# The context of a provider request

What `providerMessages` keeps of a room's history.  The walk goes from the latest message
back and passes over whatever does not fit, the message that is being sent included; the
check at its end only looks at the role of the latest message kept.

## Main definitions

* `Fits` — a message fits beside the prompt.
* `lastFitting` — the latest message of a history that does.
* `AnswersTheMessage` — the context of a turn ends with the message of the turn.

## Main results

* `gather_spec`, `gather_getLast?` — what the walk keeps, and what it keeps last.
* `provider_context` — when the context ends with the message.
-/

namespace GreenRoom.Iphone.RoomRuntime

open JsString GreenRoom.Core

/-- The messages of a history, in order. -/
def messagesOf (events : List EventRecord) : List Message :=
  events.filterMap fun record => record.event.message

def totalBytes (messages : List Message) : ℕ :=
  (messages.map fun message => utf8Length message.content).sum

/-- A text fits beside the prompt of a persona. -/
def Fits (persona : Persona) (text : JsString) : Prop :=
  utf8Length persona.prompt + utf8Length text ≤ maxProviderMessageBytes

instance (persona : Persona) (text : JsString) : Decidable (Fits persona text) :=
  inferInstanceAs (Decidable (_ ≤ _))

/-- The latest message of a history that fits beside the prompt. -/
def lastFitting (persona : Persona) (events : List EventRecord) : Option Message :=
  (messagesOf events).reverse.find? fun message => Fits persona message.content

/-! ## The walk -/

section Walk

variable {sourceEventSequence : ℕ}

theorem messagesOf_cons (record : EventRecord) (records : List EventRecord) :
    messagesOf (record :: records) = record.event.message.toList ++ messagesOf records := by
  rw [messagesOf, List.filterMap_cons]
  cases record.event.message <;> rfl

/-- The walk keeps some of the messages, in order, within both budgets. -/
theorem gather_spec (sourceEventSequence : ℕ) (records : List EventRecord) (bytes : ℕ)
    (recent : List Message)
    (hbytes : bytes ≤ maxProviderMessageBytes)
    (hrecent : recent.length ≤ maxProviderMessages - 1) :
    ∃ kept, gather sourceEventSequence records bytes recent = kept ++ recent ∧
      kept.Sublist (messagesOf records).reverse ∧
      bytes + totalBytes kept ≤ maxProviderMessageBytes ∧
      (kept ++ recent).length ≤ maxProviderMessages - 1 := by
  induction records generalizing bytes recent with
  | nil => exact ⟨[], rfl, List.nil_sublist _, hbytes, hrecent⟩
  | cons record records ih =>
      have hskip : ∀ bytes recent, bytes ≤ maxProviderMessageBytes →
          recent.length ≤ maxProviderMessages - 1 →
          ∃ kept, gather sourceEventSequence records bytes recent = kept ++ recent ∧
            kept.Sublist (messagesOf (record :: records)).reverse ∧
            bytes + totalBytes kept ≤ maxProviderMessageBytes ∧
            (kept ++ recent).length ≤ maxProviderMessages - 1 := by
        intro bytes recent hbytes hrecent
        obtain ⟨kept, heq, hsub, hle, hlen⟩ := ih bytes recent hbytes hrecent
        rw [messagesOf_cons, List.reverse_append]
        exact ⟨kept, heq, hsub.trans (List.sublist_append_left _ _), hle, hlen⟩
      rw [gather]
      split
      · next hlength =>
          split
          · exact hskip bytes recent hbytes hrecent
          · split
            · exact hskip bytes recent hbytes hrecent
            · next message hmessage =>
                dsimp only
                split
                · exact hskip bytes recent hbytes hrecent
                · next hfits =>
                    obtain ⟨kept, heq, hsub, hle, hlen⟩ := ih
                      (bytes + utf8Length message.content) (message :: recent) (by omega)
                      (by rw [List.length_cons]; omega)
                    refine ⟨kept ++ [message], by rw [heq, List.append_cons], ?_, ?_, ?_⟩
                    · rw [messagesOf_cons, hmessage, List.reverse_append]
                      exact hsub.append (List.Sublist.refl _)
                    · rw [totalBytes, List.map_append, List.sum_append, ← totalBytes]
                      simp only [List.map_cons, List.map_nil, List.sum_cons, List.sum_nil]
                      omega
                    · rwa [List.append_assoc]
      · exact ⟨[], rfl, List.nil_sublist _, hbytes, hrecent⟩

/-- **What the walk keeps last** is the first message it meets that fits. -/
theorem gather_getLast? (records : List EventRecord) (bytes : ℕ)
    (hrecords : ∀ record ∈ records, record.sequence ≤ sourceEventSequence) :
    (gather sourceEventSequence records bytes []).getLast? =
      (messagesOf records).find? fun message =>
        bytes + utf8Length message.content ≤ maxProviderMessageBytes := by
  induction records with
  | nil => rfl
  | cons record records ih =>
      have hrest := ih fun r hr => hrecords r (List.mem_cons_of_mem _ hr)
      have hrecord := hrecords record List.mem_cons_self
      rw [gather, if_pos (by decide), if_neg (by omega), messagesOf_cons]
      cases hmessage : record.event.message with
      | none => exact hrest
      | some message =>
          dsimp only [Option.toList_some, List.singleton_append]
          split
          · next hfull =>
              rw [hrest, List.find?_cons_of_neg (by simpa using hfull)]
          · next hfits =>
              obtain ⟨kept, heq, -⟩ :=
                gather_spec sourceEventSequence records (bytes + utf8Length message.content)
                [message] (by omega) (by simp [maxProviderMessages])
              rw [heq, List.getLast?_append_of_ne_nil _ (List.cons_ne_nil _ _),
                List.find?_cons_of_pos (by simpa using hfits)]
              rfl

end Walk

/-! ## Sequences of a history -/

/-- The records are numbered from `n` on. -/
def NumberedFrom : ℕ → List EventRecord → Prop
  | _, [] => True
  | n, record :: records => record.sequence = n ∧ NumberedFrom (n + 1) records

theorem NumberedFrom.bounds {n : ℕ} {records : List EventRecord} (h : NumberedFrom n records) :
    ∀ record ∈ records, record.sequence < n + records.length := by
  induction records generalizing n with
  | nil => simp
  | cons record records ih =>
      rintro r (_ | ⟨_, hr⟩)
      · rw [h.1, List.length_cons]
        omega
      · have := ih h.2 r hr
        rw [List.length_cons]
        omega

theorem NumberedFrom.last {n : ℕ} {records : List EventRecord} (h : NumberedFrom n records)
    {last : EventRecord} (hlast : records.getLast? = some last) :
    last.sequence + 1 = n + records.length := by
  induction records generalizing n with
  | nil => cases hlast
  | cons record records ih =>
      cases records with
      | nil =>
          obtain rfl : record = last := Option.some.inj hlast
          rw [h.1]
          rfl
      | cons next records =>
          have := ih h.2 (by rwa [List.getLast?_cons_cons] at hlast)
          rw [this, List.length_cons (a := record)]
          omega

theorem parseEvent_sequence {personas : List Persona} {value : Json ℤ} {expected : Option ℤ}
    {record : EventRecord} (h : parseEvent personas value expected = .ok record) :
    expected = some (record.sequence : ℤ) := by
  rw [parseEvent] at h
  split at h
  · next parsed hparsed =>
      obtain rfl := Except.ok.inj h
      simp only [Option.bind_eq_bind, Option.bind_eq_some_iff, Option.guard_eq_some', pure,
        Option.some.injEq] at hparsed
      obtain ⟨-, -, sequence, -, -, hexpected, value, -, event, -, rfl⟩ := hparsed
      exact hexpected
  · cases h

theorem parseRows_numbered {personas : List Persona} {rows : List (Option JsString)} {index n : ℕ}
    {first : Option ℤ} {records : List EventRecord}
    (h : parseRows personas rows index first = .ok records) (hindex : index ≠ 0)
    (hfirst : first.map (fun m : ℤ => m + (index : ℤ)) = some (n : ℤ)) :
    NumberedFrom n records := by
  induction rows generalizing index n records with
  | nil =>
      obtain rfl := Except.ok.inj h
      trivial
  | cons row rows ih =>
      cases row with
      | none => cases h
      | some encoded =>
          rw [parseRows] at h
          split at h
          · cases h
          · split at h
            · cases h
            · next value _ =>
                simp only [Except.bind_eq_ok, pure, Except.pure,
                  Except.ok.injEq] at h
                obtain ⟨record, hrecord, rest, hrest, rfl⟩ := h
                have hsequence := parseEvent_sequence hrecord
                rw [hfirst, Option.some.injEq, Nat.cast_inj] at hsequence
                refine ⟨hsequence.symm, ih hrest (by omega) ?_⟩
                obtain ⟨m, rfl, hm⟩ := Option.map_eq_some_iff.mp hfirst
                simp only [Option.map_some, Option.some.injEq]
                push_cast
                omega

/-- The events of a room are numbered one after the other. -/
theorem readRoomEvents_numbered {personas : List Persona}
    {rows : Except JsError (List (Option JsString))} {records : List EventRecord}
    (h : readRoomEvents personas rows = .ok records) : ∃ n, NumberedFrom n records := by
  simp only [readRoomEvents, Except.bind_eq_ok] at h
  obtain ⟨rows, -, h⟩ := h
  split at h
  · cases h
  · cases rows with
    | nil =>
        obtain rfl := Except.ok.inj h
        exact ⟨0, trivial⟩
    | cons row rows =>
        cases row with
        | none => cases h
        | some encoded =>
            rw [parseRows] at h
            split at h
            · cases h
            · split at h
              · cases h
              · next value _ =>
                  simp only [if_pos, Except.bind_eq_ok, pure, Except.pure, Except.ok.injEq] at h
                  obtain ⟨record, hrecord, rest, hrest, rfl⟩ := h
                  have hsequence := parseEvent_sequence hrecord
                  refine ⟨record.sequence, rfl, parseRows_numbered hrest (by omega) ?_⟩
                  obtain ⟨m, hm, hn⟩ := Option.map_eq_some_iff.mp hsequence
                  rw [hm]
                  simp only [Option.map_some, Option.some.injEq]
                  push_cast at hn ⊢
                  omega

/-! ## Turns -/

section Turns

variable {personas : List Persona} {reads : Reads} {uuid : Uuid} {uuids : ℕ → Uuid} {room : Room}
  {text : JsString} {options : MessageOptions} {turn : ScheduledTurn}

/-- The history of a scheduled turn comes before the message of the turn. -/
theorem scheduleTurn_events
    (h : scheduleTurn personas reads uuid room text options = .ok turn) :
    ∀ record ∈ turn.events, record.sequence < turn.context.nextEventSequence := by
  simp only [scheduleTurn, Except.bind_eq_ok] at h
  obtain ⟨_, -, human, -, _, -, requestId, -, selection, -, events, hevents, context, -, _, hnext,
    director, -, target, -, event, -, ⟨decision, director'⟩, -, _, -, h⟩ := h
  obtain rfl := Except.ok.inj h
  rw [requireNextSequence] at hnext
  split at hnext
  · cases hnext
  · next hsequence =>
      rw [not_not] at hsequence
      obtain ⟨n, hnumbered⟩ := readRoomEvents_numbered hevents
      intro record hrecord
      change record.sequence < context.nextEventSequence
      cases hlast : events.getLast? with
      | none =>
          rw [List.getLast?_eq_none_iff] at hlast
          rw [hlast] at hrecord
          cases hrecord
      | some last =>
          rw [hsequence, hlast, Option.elim_some, hnumbered.last hlast]
          exact hnumbered.bounds record hrecord

/-- A context that ends with the message of its turn, and otherwise no turn. -/
def AnswersTheMessage (personas : List Persona) (reads : Reads) (uuids : ℕ → Uuid) (room : Room)
    (text : JsString) (options : MessageOptions) : Prop :=
  ∀ store unresolved turn speaker persona,
    scheduleTurn personas reads (uuids 0) room text options = .ok turn →
    turn.decision.speaker = some speaker → catalogGet personas speaker = some persona →
    (∀ stored, (prepareAtomicTurn personas reads uuids store unresolved room text options).2 =
        some stored →
      ∃ recent, stored.requestPlan = .provider turn.requestId room.id
          turn.context.nextEventSequence persona.slug (⟨.system, persona.prompt⟩ :: recent)
          turn.selection ∧
        recent.Sublist (messagesOf (turn.extended text)) ∧
        recent.length + 1 ≤ maxProviderMessages ∧
        utf8Length persona.prompt + totalBytes recent ≤ maxProviderMessageBytes ∧
        recent.getLast? = some ⟨.user, text⟩) ∧
    (¬ Fits persona text →
      (∃ e, (prepareAtomicTurn personas reads uuids store unresolved room text options).1 =
        .error e) ∧
      (prepareAtomicTurn personas reads uuids store unresolved room text options).2 = none)

theorem messagesOf_extended (turn : ScheduledTurn) (text : JsString) :
    messagesOf (turn.extended text) = messagesOf turn.events ++ [⟨.user, text⟩] := by
  rw [ScheduledTurn.extended, messagesOf, List.filterMap_append]
  rfl

/-- What is kept last: the message of the turn, or else what of the history fits. -/
theorem gather_extended (persona : Persona)
    (h : scheduleTurn personas reads uuid room text options = .ok turn) :
    (gather turn.context.nextEventSequence (turn.extended text).reverse
      (utf8Length persona.prompt) []).getLast? =
      if Fits persona text then some ⟨.user, text⟩ else lastFitting persona turn.events := by
  have hsequences : ∀ record ∈ (turn.extended text).reverse,
      record.sequence ≤ turn.context.nextEventSequence := by
    intro record hrecord
    rw [List.mem_reverse, ScheduledTurn.extended, List.mem_append, List.mem_singleton] at hrecord
    rcases hrecord with hrecord | rfl
    · exact (scheduleTurn_events h record hrecord).le
    · exact le_rfl
  rw [gather_getLast? _ _ hsequences, messagesOf, List.filterMap_reverse, ← messagesOf,
    messagesOf_extended, List.reverse_append, List.reverse_singleton, List.singleton_append]
  by_cases hfits : Fits persona text
  · rw [if_pos hfits, List.find?_cons_of_pos (by simpa [Fits] using hfits)]
  · rw [if_neg hfits, List.find?_cons_of_neg (by simpa [Fits] using hfits)]
    rfl

theorem planTurn_eq {speaker : JsString} {persona : Persona} (room : Room) (text : JsString)
    (hspeaker : turn.decision.speaker = some speaker)
    (hpersona : catalogGet personas speaker = some persona) :
    planTurn personas room text turn =
      (providerMessages persona (turn.extended text) turn.context.nextEventSequence).map
        fun messages => .provider turn.requestId room.id turn.context.nextEventSequence
          persona.slug messages turn.selection := by
  rw [planTurn]
  simp only [hspeaker, hpersona]
  cases providerMessages persona (turn.extended text) turn.context.nextEventSequence <;> rfl

/-- A turn that cannot be planned is rejected, and nothing is stored. -/
theorem prepareAtomicTurn_of_error {store : PreparedTurn → Except JsError Unit}
    {unresolved : Except JsError (Option PreparedCommand)} {e : JsError}
    (hturn : scheduleTurn personas reads (uuids 0) room text options = .ok turn)
    (hplan : planTurn personas room text turn = .error e) :
    prepareAtomicTurn personas reads uuids store unresolved room text options =
      (.error e, none) := by
  simp only [prepareAtomicTurn, hturn, hplan, bind, Except.bind]

/-- Only a planned turn is stored. -/
theorem prepareAtomicTurn_stored {store : PreparedTurn → Except JsError Unit}
    {unresolved : Except JsError (Option PreparedCommand)} {stored : PreparedTurn}
    (hturn : scheduleTurn personas reads (uuids 0) room text options = .ok turn)
    (h : (prepareAtomicTurn personas reads uuids store unresolved room text options).2 =
      some stored) : planTurn personas room text turn = .ok stored.requestPlan := by
  cases hplan : planTurn personas room text turn with
  | error e =>
      rw [prepareAtomicTurn_of_error hturn hplan] at h
      cases h
  | ok plan =>
      simp only [prepareAtomicTurn, hturn, hplan, bind, Except.bind, pure, Except.pure] at h
      split at h
      · cases h
      · split at h
        · cases h; rfl
        · cases h; rfl
        · split at h <;> (cases h; rfl)

/-- A planned turn the database takes is stored. -/
theorem prepareAtomicTurn_planned {plan : RequestPlan}
    (hturn : scheduleTurn personas reads (uuids 0) room text options = .ok turn)
    (hplan : planTurn personas room text turn = .ok plan) :
    (prepareAtomicTurn personas reads uuids (fun _ => .ok ()) (.ok none) room text options).2 =
      some ⟨uuids 1, turn, plan⟩ := by
  simp only [prepareAtomicTurn, hturn, hplan, bind, Except.bind, pure, Except.pure]

/-- A message that is passed over for an earlier one of the human is not answered. -/
theorem not_answersTheMessage {speaker : JsString} {persona : Persona} {message : Message}
    (hturn : scheduleTurn personas reads (uuids 0) room text options = .ok turn)
    (hspeaker : turn.decision.speaker = some speaker)
    (hpersona : catalogGet personas speaker = some persona) (hfits : ¬ Fits persona text)
    (hmessage : lastFitting persona turn.events = some message) (hrole : message.role = .user) :
    ¬ AnswersTheMessage personas reads uuids room text options := by
  intro h
  have hlast := gather_extended persona hturn
  rw [if_neg hfits, hmessage] at hlast
  have hplan := planTurn_eq room text hspeaker hpersona
  rw [providerMessages] at hplan
  dsimp only at hplan
  rw [hlast, Option.map_some, hrole, if_pos rfl, Except.map] at hplan
  obtain ⟨-, hnone⟩ := (h (fun _ => .ok ()) (.ok none) turn speaker persona hturn hspeaker
    hpersona).2 hfits
  rw [prepareAtomicTurn_planned hturn hplan] at hnone
  cases hnone

/-- **The context of a provider request ends with the message being answered** exactly when
the message fits beside the prompt, or the latest message of the history that does is not
one of the human.  The rest holds of every stored plan. -/
theorem provider_context :
    AnswersTheMessage personas reads uuids room text options ↔
      ∀ turn speaker persona,
        scheduleTurn personas reads (uuids 0) room text options = .ok turn →
        turn.decision.speaker = some speaker → catalogGet personas speaker = some persona →
        Fits persona text ∨ ∀ message ∈ lastFitting persona turn.events, message.role ≠ .user := by
  constructor
  · intro h turn speaker persona hturn hspeaker hpersona
    by_contra hnot
    rw [not_or, not_forall] at hnot
    obtain ⟨hfits, message, hmessage⟩ := hnot
    rw [Classical.not_imp, not_not] at hmessage
    exact not_answersTheMessage hturn hspeaker hpersona hfits hmessage.1 hmessage.2 h
  · intro h store unresolved turn speaker persona hturn hspeaker hpersona
    have hlast := gather_extended persona hturn
    have hplan := planTurn_eq room text hspeaker hpersona
    constructor
    · intro stored hstored
      have hstored := prepareAtomicTurn_stored hturn hstored
      rw [hplan, providerMessages] at hstored
      dsimp only at hstored
      split at hstored
      · next huser =>
          rw [Except.map, Except.ok.injEq] at hstored
          have hbytes : utf8Length persona.prompt ≤ maxProviderMessageBytes := by
            obtain ⟨message, hmessage, -⟩ := Option.map_eq_some_iff.mp huser
            rw [hlast] at hmessage
            have hsome : ∃ content, Fits persona content := by
              split at hmessage
              · next hfits => exact ⟨text, hfits⟩
              · exact ⟨message.content, by simpa using List.find?_some hmessage⟩
            obtain ⟨content, hcontent⟩ := hsome
            exact (Nat.le_add_right _ _).trans hcontent
          obtain ⟨kept, hkept, hsub, hle, hlen⟩ := gather_spec turn.context.nextEventSequence
            (turn.extended text).reverse (utf8Length persona.prompt) [] hbytes (Nat.zero_le _)
          rw [List.append_nil] at hkept hlen
          rw [hkept] at hstored huser hlast
          refine ⟨kept, hstored.symm, ?_, ?_, hle, ?_⟩
          · rwa [messagesOf, List.filterMap_reverse, List.reverse_reverse] at hsub
          · simp only [maxProviderMessages] at hlen ⊢
            omega
          · rw [hlast] at huser ⊢
            rcases h turn speaker persona hturn hspeaker hpersona with hfits | hrole
            · rw [if_pos hfits]
            · by_cases hfits : Fits persona text
              · rw [if_pos hfits]
              · rw [if_neg hfits] at huser
                obtain ⟨message, hmessage, hrole'⟩ := Option.map_eq_some_iff.mp huser
                exact absurd hrole' (hrole message hmessage)
      · cases hstored
    · intro hfits
      have hrole := (h turn speaker persona hturn hspeaker hpersona).resolve_left hfits
      rw [if_neg hfits] at hlast
      rw [providerMessages] at hplan
      dsimp only at hplan
      rw [hlast, if_neg, Except.map] at hplan
      · rw [prepareAtomicTurn_of_error hturn hplan]
        exact ⟨⟨_, rfl⟩, rfl⟩
      · intro huser
        obtain ⟨message, hmessage, hrole'⟩ := Option.map_eq_some_iff.mp huser
        exact hrole message hmessage hrole'

end Turns

/-! ## A message that does not fit -/

namespace Long

/-- A persona whose prompt is as long as that of `isaac-newton`. -/
def persona : Persona where
  slug := ofString "isaac-newton"
  prompt := List.replicate 17710 (unit 'x')

/-- 16,384 characters of three bytes each. -/
def text : JsString := List.replicate 16384 0x6F22

def room : Room where
  id := ofString "room-local-default"
  human := some (ofString "human-local-default")

/-- A message nobody was asked to answer. -/
def rows : List (Option JsString) :=
  [some (ofString ("\x7b\"sequence\":1,\"event\":\x7b\"participantId\":\"human-local-default\"," ++
      "\"text\":\"Hello\",\"type\":\"human_message\"\x7d\x7d")),
    some (ofString ("\x7b\"sequence\":2,\"event\":\x7b\"generation\":0,\"reason\":" ++
      "\"deliberate_silence\",\"sourceEventSequence\":1,\"speaker\":null," ++
      "\"type\":\"director_decision\"\x7d\x7d"))]

def selection : ProviderSelection where
  model := ofString "gpt-4.1-mini"
  profileId := ofString "iphone.openai"
  profileRevision := 1
  providerId := ofString "openai"

def context : DirectorContext where
  generation := 0
  nextEventSequence := 3
  personas := [⟨persona.slug, persona.slug, false⟩]
  state := none

def reads : Reads where
  selection := .ok (some selection)
  profile _ := .ok (some ⟨1, true, false⟩)
  events := .ok rows
  context := .ok context

def uuid : Uuid := ⟨ofString "11111111-1111-4111-8111-111111111111", by decide⟩

def events : List EventRecord :=
  [⟨1, .humanMessage (ofString "human-local-default") (ofString "Hello")⟩,
    ⟨2, .directorDecision 0 1 (ofString "deliberate_silence") none⟩]

theorem reads_events : readRoomEvents [persona] reads.events = .ok events := by
  decide +kernel

theorem schedules {text : JsString} (h : ¬ (trim text = [] ∨ 16384 < text.length)) :
    ∃ turn, scheduleTurn [persona] reads uuid room text {} = .ok turn ∧
      turn.decision.speaker = some persona.slug ∧ turn.events = events := by
  simp only [scheduleTurn, requireText, if_neg h, reads_events]
  exact ⟨_, rfl, rfl, rfl⟩

end Long

theorem utf8Length_replicate {u : UInt16} (h : isLead u = false) (n : ℕ) :
    utf8Length (List.replicate n u) = n * unitBytes u := by
  induction n with
  | zero => rw [List.replicate_zero, utf8Length, Nat.zero_mul]
  | succ n ih =>
      cases n with
      | zero => rw [Nat.one_mul]; rfl
      | succ n =>
          rw [List.replicate_succ, List.replicate_succ, utf8Length, h, Bool.false_and,
            if_neg Bool.false_ne_true, ← List.replicate_succ, ih]
          ring

/-- After a message nobody was asked to answer, one that does not fit is passed over, and
the earlier one is answered. -/
theorem provider_context_fails :
    ¬ AnswersTheMessage [Long.persona] Long.reads (fun _ => Long.uuid) Long.room Long.text {} := by
  have htext : ¬ (trim Long.text = [] ∨ 16384 < Long.text.length) := by
    rw [Long.text, List.length_replicate, trim, List.dropWhile_replicate, if_neg (by decide),
      List.reverse_replicate, List.dropWhile_replicate, if_neg (by decide), List.reverse_replicate,
      List.replicate_eq_nil_iff]
    decide
  have hprompt : utf8Length Long.persona.prompt = 17710 := by
    rw [Long.persona, utf8Length_replicate (by decide)]
    rfl
  have hlength : utf8Length Long.text = 49152 := by
    rw [Long.text, utf8Length_replicate (by decide)]
    rfl
  obtain ⟨turn, hturn, hspeaker, hevents⟩ := Long.schedules htext
  have hpersona : catalogGet [Long.persona] Long.persona.slug = some Long.persona := rfl
  have hfits : ¬ Fits Long.persona Long.text := by
    rw [Fits, hprompt, hlength]
    decide
  have hmessage : lastFitting Long.persona turn.events = some ⟨.user, ofString "Hello"⟩ := by
    rw [lastFitting, hevents]
    refine List.find?_cons_of_pos ?_
    rw [decide_eq_true_eq, Fits, hprompt]
    decide
  exact not_answersTheMessage hturn hspeaker hpersona hfits hmessage rfl

end GreenRoom.Iphone.RoomRuntime
