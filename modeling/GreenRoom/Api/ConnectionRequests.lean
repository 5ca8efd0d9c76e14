import GreenRoom.Api.ConnectionSecrets

/-!
# Requests for connections

Requests wait for one another and are served one at a time.  Every call of the database
or of the credential store may fail, with its effect or without it, and between any two
of them the process may end, and with it the request that is served and all that wait.

## Main definitions

* `connectionApi` — the transition system.
* `Meets` — a deletion is served only if it erases all that is stored.

## Main results

* `connection_erasure` — a deletion that is successful leaves no secret if, and only if,
  the state in which it is served is one in which it erases all.
* `enabled_secret_stored` — an enabled connection has the secret that was written last.
-/

namespace GreenRoom.Api

open JsString Providers

inductive ConnectionRequest
  | create (body : Json ℚ)
  | replace (connectionId : JsString) (body : Json ℚ)
  | disable (connectionId : JsString) (body : Json ℚ)
  | delete (connectionId : JsString) (body : Json ℚ)

def ConnectionRequest.program (loopback : Bool) : ConnectionRequest → RouteProgram RouteReply
  | .create body => createConnection loopback body
  | .replace connectionId body => replaceCredential loopback connectionId body
  | .disable connectionId body => disableConnection loopback connectionId body
  | .delete connectionId body => deleteConnection loopback connectionId body

/-- The request deletes the connection `id` at the revision `expected`. -/
def ConnectionRequest.DeletesAt (id : JsString) (expected : ℕ) : ConnectionRequest → Prop
  | .delete connectionId body => expectedRevision connectionId body = .ok (id, expected)
  | _ => False

/-- A request that is served, and the state in which it began to be. -/
structure Serving where
  request : ConnectionRequest
  before : Backend
  program : RouteProgram RouteReply

/-- A request that has been answered. -/
structure Served where
  request : ConnectionRequest
  before : Backend
  reply : RouteReply
  after : Backend

structure ConnectionApi where
  backend : Backend
  waiting : List ConnectionRequest := []
  serving : Option Serving := none
  served : List Served := []

inductive ApiLabel
  | request
  | serve
  | statement
  | answer
  | restart
  deriving DecidableEq, Repr

inductive ApiStep : ConnectionApi → ApiLabel → ConnectionApi → Prop
  | request (s : ConnectionApi) (request : ConnectionRequest) :
      ApiStep s .request { s with waiting := s.waiting ++ [request] }
  /-- `await previous`. -/
  | serve (s : ConnectionApi) (loopback : Bool) (request : ConnectionRequest)
      (rest : List ConnectionRequest) : s.serving = none → s.waiting = request :: rest →
      ApiStep s .serve { s with
        waiting := rest
        serving := some ⟨request, s.backend, request.program loopback⟩ }
  | statement (s : ConnectionApi) (serving : Serving) (program : RouteProgram RouteReply)
      (backend : Backend) : s.serving = some serving →
      serving.program.Advances s.backend program backend →
      ApiStep s .statement { s with backend, serving := some { serving with program } }
  | answer (s : ConnectionApi) (serving : Serving) (reply : RouteReply) :
      s.serving = some serving → serving.program = .pure reply →
      ApiStep s .answer { s with
        serving := none
        served := ⟨serving.request, serving.before, reply, s.backend⟩ :: s.served }
  /-- The process ends, and another one begins. -/
  | restart (s : ConnectionApi) : ApiStep s .restart { s with waiting := [], serving := none }

/-- No secret is stored, and no connection there is has one. -/
structure Backend.Unstored (b : Backend) : Prop where
  kept : connectionProfiles.WellKept b.db.providers
  none : ∀ id row, b.current id = some row → row.profile.credentialRef = none
  empty : b.credentials = ∅

def connectionApi : TransitionSystem ConnectionApi ApiLabel where
  init s := s.backend.Unstored ∧ s = { backend := s.backend }
  step := ApiStep

/-! ## The invariant -/

/-- The request has deleted the connection, and has erased all. -/
def Served.Erases (id : JsString) (served : Served) : Prop :=
  ∃ expected, served.request.DeletesAt id expected ∧ served.reply.isSuccess = true ∧
    Covered served.before id expected

def ConnectionApi.Erased (s : ConnectionApi) (id : JsString) : Prop :=
  ∃ served ∈ s.served, served.Erases id

/-- What a reply to a request that was served from `before` says about the state after it. -/
def Answered (request : ConnectionRequest) (before : Backend) (reply : RouteReply)
    (after : Backend) : Prop :=
  ∀ id expected, request.DeletesAt id expected → reply.isSuccess = true →
    Deletes id expected before after

structure ConnectionApi.Sound (s : ConnectionApi) : Prop where
  backend : s.backend.Sound s.Erased
  serving : ∀ serving, s.serving = some serving →
    serving.program.Guards (Backend.Sound s.Erased) (Answered serving.request serving.before)
    s.backend
  served : ∀ served ∈ s.served, Answered served.request served.before served.reply served.after

theorem ConnectionRequest.guards {D : JsString → Prop} {b : Backend} (hb : b.Sound D)
    (loopback : Bool) (request : ConnectionRequest) :
    (request.program loopback).Guards (Backend.Sound D) (Answered request b) b := by
  cases request with
  | create body => exact (createConnection_guards hb).mono fun _ _ _ _ _ h => h.elim
  | replace connectionId body => exact (replaceCredential_guards hb).mono fun _ _ _ _ _ h => h.elim
  | disable connectionId body => exact (disableConnection_guards hb).mono fun _ _ _ _ _ h => h.elim
  | delete connectionId body => exact deleteConnection_guards hb

theorem Backend.Unstored.sound {b : Backend} (h : b.Unstored) {D : JsString → Prop}
    (hD : ∀ id, ¬ D id) : b.Sound D where
  kept := h.kept
  own id row reference hrow hreference := by
    rw [h.none id row hrow] at hreference
    cases hreference
  near id n hn := by
    rw [h.empty] at hn
    exact absurd hn (AList.notMem_empty _)
  held id row reference hrow _ hreference := by
    rw [h.none id row hrow] at hreference
    cases hreference
  erased id hid := absurd hid (hD id)

theorem sound_inductive : connectionApi.Inductive ConnectionApi.Sound where
  init s hs := by
    obtain ⟨hunstored, hs⟩ := hs
    rw [hs]
    refine ⟨hunstored.sound ?_, (by rintro _ ⟨⟩), (by rintro _ ⟨⟩)⟩
    rintro id ⟨_, ⟨⟩, -⟩
  step s l t h hstep := by
    cases hstep with
    | request request => exact ⟨h.backend, h.serving, h.served⟩
    | serve loopback request rest hnone hwaiting =>
        refine ⟨h.backend, ?_, h.served⟩
        rintro _ ⟨⟩
        exact request.guards h.backend loopback
    | statement serving program backend hserving hadvances =>
        obtain ⟨hguards, hbackend⟩ := (h.serving serving hserving).advance h.backend hadvances
        refine ⟨hbackend, ?_, h.served⟩
        rintro _ ⟨⟩
        exact hguards
    | answer serving reply hserving hreply =>
        have hanswered : Answered serving.request serving.before reply s.backend := by
          have hguards := h.serving serving hserving
          rwa [hreply] at hguards
        refine ⟨⟨h.backend.toStored, ?_⟩, (by rintro _ ⟨⟩), ?_⟩
        · rintro id ⟨served, hmem, expected, hdeletes, hsuccess, hcovered⟩
          rcases List.mem_cons.mp hmem with rfl | hmem
          · obtain ⟨hdeleted, hempty⟩ := hanswered id expected hdeletes hsuccess
            exact ⟨hdeleted, hempty.mpr hcovered⟩
          · exact h.backend.erased id ⟨served, hmem, expected, hdeletes, hsuccess, hcovered⟩
        · intro served hmem
          rcases List.mem_cons.mp hmem with rfl | hmem
          · exact hanswered
          · exact h.served served hmem
    | restart => exact ⟨h.backend, (by rintro _ ⟨⟩), h.served⟩

/-! ## Runs -/

theorem statements_run {ok : ConnectionApi → ApiLabel → Prop} (hok : ∀ s, ok s .statement)
    {x y : RouteProgram RouteReply × Backend}
    (h : Relation.ReflTransGen (fun x y : RouteProgram RouteReply × Backend =>
      x.1.Advances x.2 y.1 y.2) x y) (s : ConnectionApi) (request : ConnectionRequest)
    (before : Backend) :
    ∃ ls, (connectionApi.restrict ok).Run
      { s with backend := x.2, serving := some ⟨request, before, x.1⟩ } ls
      { s with backend := y.2, serving := some ⟨request, before, y.1⟩ } := by
  induction h using Relation.ReflTransGen.head_induction_on with
  | refl => exact ⟨[], .nil _⟩
  | head hstep _ ih =>
      obtain ⟨ls, hrun⟩ := ih
      exact ⟨_, .cons ⟨hok _, .statement _ ⟨request, before, _⟩ _ _ rfl hstep⟩ hrun⟩

/-- A request comes, is served and answered. -/
theorem request_run {ok : ConnectionApi → ApiLabel → Prop}
    (hok : ∀ s l, l ≠ .serve → l ≠ .restart → ok s l)
    {b b' : Backend} {past : List Served} {request : ConnectionRequest} {reply : RouteReply}
    {faults : ℕ → Option RouteError}
    (hserve : ok { backend := b, waiting := [request], served := past } .serve)
    (hrun : (request.program true).run faults 0 b = (.ok reply, b')) :
    ∃ ls, (connectionApi.restrict ok).Run { backend := b, served := past } ls
      { backend := b', served := ⟨request, b, reply, b'⟩ :: past } := by
  obtain ⟨ls, hstatements⟩ := statements_run (fun s => hok s _ (by decide) (by decide))
    (Program.advances_of_run hrun) { backend := b, served := past } request b
  have hanswer :
    ApiStep { backend := b', served := past, serving := some ⟨request, b, .pure reply⟩ }
      .answer { backend := b', served := ⟨request, b, reply, b'⟩ :: past } :=
    .answer { backend := b', served := past, serving := some ⟨request, b, .pure reply⟩ }
      ⟨request, b, .pure reply⟩ reply rfl rfl
  have hserved :
    (connectionApi.restrict ok).Run { backend := b, waiting := [request], served := past }
      (.serve :: (ls ++ [.answer])) { backend := b', served := ⟨request, b, reply, b'⟩ :: past } :=
    .cons ⟨hserve, .serve _ true request [] rfl rfl⟩
      (hstatements.append (.single ⟨hok _ .answer (by decide) (by decide), hanswer⟩))
  have hrequest : ApiStep { backend := b, served := past } .request
      { backend := b, waiting := [request], served := past } := .request _ request
  exact ⟨_, .cons ⟨hok _ .request (by decide) (by decide), hrequest⟩ hserved⟩

namespace CloudKey

def id : JsString := ofString "cloud"

def creation : ConnectionRequest := .create (.obj [(ofString "id", .str id),
  (ofString "definitionId", .str (ofString "openrouter")),
  (ofString "credential", .str (ofString "key-1")),
  (ofString "acknowledgedConnectionRevision", .num 1)])

def replacement : ConnectionRequest := .replace id (.obj [(ofString "expectedRevision", .num 1),
  (ofString "credential", .str (ofString "key-2")),
  (ofString "acknowledgedConnectionRevision", .num 2),
  (ofString "mutationId", .str (ofString "mutation-1"))])

def deletion : ConnectionRequest := .delete id (.obj [(ofString "expectedRevision", .num 1)])

/-- The fourth statement finds the database locked. -/
def locked : ℕ → Option RouteError
  | 3 => some (.thrown (.ofText "database is locked"))
  | _ => none

def created : Except RouteError RouteReply × Backend :=
  (creation.program true).run (fun _ => none) 0 {}

def replaced : Except RouteError RouteReply × Backend :=
  (replacement.program true).run locked 0 created.2

def deleted : Except RouteError RouteReply × Backend :=
  (deletion.program true).run (fun _ => none) 0 created.2

def deletedLate : Except RouteError RouteReply × Backend :=
  (deletion.program true).run (fun _ => none) 0 replaced.2

theorem unstored : ({} : Backend).Unstored where
  kept := .of_empty rfl
  none _ _ h := by cases h
  empty := rfl

/-- A connection is created. -/
theorem created_run {ok : ConnectionApi → ApiLabel → Prop}
    (hok : ∀ s l, l ≠ .serve → l ≠ .restart → ok s l)
    (hserve : ok { backend := {}, waiting := [creation] } .serve) {reply : RouteReply}
    (hreply : created.1 = .ok reply) : (connectionApi.restrict ok).Reachable
      { backend := created.2, served := [⟨creation, {}, reply, created.2⟩] } := by
  obtain ⟨ls, hrun⟩ :=
    request_run hok hserve (Prod.ext hreply rfl : created = (.ok reply, created.2))
  exact ⟨_, ls, ⟨unstored, rfl⟩, hrun⟩

end CloudKey

/-! ## Erasure -/

/-- A deletion is served only in a state in which it erases all that is stored. -/
def Meets (s : ConnectionApi) (label : ApiLabel) : Prop :=
  label = .serve → ∀ request ∈ s.waiting.head?, ∀ id expected, request.DeletesAt id expected →
    Covered s.backend id expected

/-- All deletions that have been served have been so in such a state. -/
structure AllCovered (s : ConnectionApi) : Prop where
  serving : ∀ serving, s.serving = some serving → ∀ id expected,
    serving.request.DeletesAt id expected → Covered serving.before id expected
  served : ∀ served ∈ s.served, ∀ id expected, served.request.DeletesAt id expected →
    Covered served.before id expected

theorem allCovered_inductive : (connectionApi.restrict Meets).Inductive AllCovered where
  init s hs := by
    rw [hs.2]
    exact ⟨by rintro _ ⟨⟩, by rintro _ ⟨⟩⟩
  step s l t h hstep := by
    obtain ⟨hmeets, hstep⟩ := hstep
    cases hstep with
    | request request => exact ⟨h.serving, h.served⟩
    | serve loopback request rest hnone hwaiting =>
        refine ⟨?_, h.served⟩
        rintro _ ⟨⟩
        exact hmeets rfl request (by rw [hwaiting]; rfl)
    | statement serving program backend hserving hadvances =>
        refine ⟨?_, h.served⟩
        rintro _ ⟨⟩
        exact h.serving serving hserving
    | answer serving reply hserving hreply =>
        refine ⟨(by rintro _ ⟨⟩), fun served hmem => ?_⟩
        rcases List.mem_cons.mp hmem with rfl | hmem
        · exact h.serving serving hserving
        · exact h.served served hmem
    | restart => exact ⟨(by rintro _ ⟨⟩), h.served⟩

/-- **Erasure.**  While every deletion is served in a state in which it erases all, no
secret of a connection is stored once a deletion of it has been successful.  A deletion
that is served in another state leaves a secret. -/
theorem connection_erasure (s : ConnectionApi) :
    ((connectionApi.restrict Meets).Reachable s → ∀ served ∈ s.served, ∀ id expected,
      served.request.DeletesAt id expected → served.reply.isSuccess = true →
        ∀ n, credentialReference id n ∉ s.backend.credentials) ∧
    (connectionApi.Reachable s → ∀ served ∈ s.served, ∀ id expected,
      served.request.DeletesAt id expected → served.reply.isSuccess = true →
        ((∀ n, credentialReference id n ∉ served.after.credentials) ↔
          Covered served.before id expected)) := by
  constructor
  · intro hs served hserved id expected hdeletes hsuccess
    have hcovered := (allCovered_inductive.reachable hs).served served hserved id expected hdeletes
    exact ((sound_inductive.reachable hs.of_restrict).backend.erased id
      ⟨served, hserved, expected, hdeletes, hsuccess, hcovered⟩).empty
  · intro hs served hserved id expected hdeletes hsuccess
    exact ((sound_inductive.reachable hs).served served hserved id expected hdeletes
      hsuccess).empty_iff

namespace CloudKey

def createdReply : RouteReply := .connection 201 (some ⟨id, 1, .openrouter, .enabled, true⟩)

def deletedReply : RouteReply := .connection 200 (some ⟨id, 2, .openrouter, .deleted, false⟩)

theorem deletes : deletion.DeletesAt id 1 := rfl

theorem meets_of_ne (s : ConnectionApi) (l : ApiLabel) (h : l ≠ .serve) (_ : l ≠ .restart) :
    Meets s l :=
  fun heq => absurd heq h

end CloudKey

open CloudKey in
/-- A replacement writes its secret and fails; the deletion after it leaves that secret. -/
theorem connection_erasure_fails : ¬ ∀ s, connectionApi.Reachable s → ∀ served ∈ s.served,
    ∀ id expected, served.request.DeletesAt id expected → served.reply.isSuccess = true →
      ∀ n, credentialReference id n ∉ s.backend.credentials := by
  intro h
  have hok : ∀ (s : ConnectionApi) (l : ApiLabel), l ≠ .serve → l ≠ .restart → True :=
    fun _ _ _ _ => trivial
  have hcreated := created_run hok trivial (rfl : created.1 = .ok createdReply)
  obtain ⟨_, hreplaced⟩ := request_run hok trivial
    (rfl : (replacement.program true).run locked 0 created.2 = (_, replaced.2))
  obtain ⟨_, hdeleted⟩ := request_run hok trivial
    (rfl : (deletion.program true).run (fun _ => none) 0 replaced.2 =
      (.ok deletedReply, deletedLate.2))
  refine h _ ((hcreated.run hreplaced).run hdeleted).of_restrict _ List.mem_cons_self id 1 deletes
    rfl 2 ?_
  decide

open CloudKey in
/-- A connection is created and deleted, and its secret is gone. -/
theorem connection_erasure_cloud :
    ∀ n, credentialReference CloudKey.id n ∉ deleted.2.credentials := by
  have hmeets : Meets { backend := {}, waiting := [creation] } .serve := by
    rintro - _ ⟨⟩ _ _ ⟨⟩
  have hcovered : Covered created.2 CloudKey.id 1 := by
    refine ⟨by decide, fun row hrow hstate _ => ?_⟩
    have hcurrent : (created.2.current CloudKey.id).map ProfileRevision.state = some .enabled := rfl
    rw [hrow, Option.map_some, hstate] at hcurrent
    cases hcurrent
  have hcreated := created_run meets_of_ne hmeets (rfl : created.1 = .ok createdReply)
  let s : ConnectionApi := {
    backend := created.2
    waiting := [deletion]
    served := [⟨creation, {}, createdReply, created.2⟩] }
  have hmeets' : Meets s .serve := by
    rintro - _ ⟨⟩ id' expected hdeletes
    obtain ⟨rfl, rfl⟩ := Prod.mk.inj (Except.ok.inj (deletes.symm.trans hdeletes))
    exact hcovered
  obtain ⟨_, hdeleted⟩ := request_run meets_of_ne hmeets'
    (rfl : (deletion.program true).run (fun _ => none) 0 created.2 = (.ok deletedReply, deleted.2))
  exact (connection_erasure _).1 (hcreated.run hdeleted) _ List.mem_cons_self CloudKey.id 1
    deletes rfl

/-! ## Enabled connections -/

/-- **An enabled connection never loses its secret.** -/
theorem enabled_secret_stored {s : ConnectionApi} (hs : connectionApi.Reachable s) (id : JsString)
    (row : ProfileRevision ConnectionProfile) (reference : JsString)
    (hrow : s.backend.current id = some row) (hstate : row.state = .enabled)
    (hreference : row.profile.credentialRef = some reference) :
    ∃ secret, s.backend.credentials.lookup reference = some secret ∧
      s.backend.lastWritten.lookup reference = some secret :=
  (sound_inductive.reachable hs).backend.held id row reference hrow hstate hreference

namespace CloudKey

/-- The replacement is sent again, and nothing fails. -/
def replacedAgain : Except RouteError RouteReply × Backend :=
  (replacement.program true).run (fun _ => none) 0 replaced.2

def replacedReply : RouteReply := .connection 200 (some ⟨id, 2, .openrouter, .enabled, true⟩)

end CloudKey

open CloudKey in
/-- A replacement fails after its secret has been written, and the connection keeps the first
secret; the replacement is sent again, and the connection has the second. -/
theorem enabled_secret_stored_cloud :
    (∃ secret, replaced.2.credentials.lookup (credentialReference CloudKey.id 1) = some secret ∧
      replaced.2.lastWritten.lookup (credentialReference CloudKey.id 1) = some secret) ∧
    ∃ secret, replacedAgain.2.credentials.lookup (credentialReference CloudKey.id 2) = some secret ∧
      replacedAgain.2.lastWritten.lookup (credentialReference CloudKey.id 2) = some secret := by
  have hok : ∀ (s : ConnectionApi) (l : ApiLabel), l ≠ .serve → l ≠ .restart → True :=
    fun _ _ _ _ => trivial
  have hcreated := created_run hok trivial (rfl : created.1 = .ok createdReply)
  obtain ⟨_, hreplaced⟩ := request_run hok trivial
    (rfl : (replacement.program true).run locked 0 created.2 = (_, replaced.2))
  obtain ⟨_, hagain⟩ := request_run hok trivial
    (rfl : (replacement.program true).run (fun _ => none) 0 replaced.2 =
      (.ok replacedReply, replacedAgain.2))
  have hfirst := hcreated.run hreplaced
  have hsecond := hfirst.run hagain
  refine ⟨?_, ?_⟩
  · exact enabled_secret_stored hfirst.of_restrict CloudKey.id _ _ rfl rfl rfl
  · exact enabled_secret_stored hsecond.of_restrict CloudKey.id _ _ rfl rfl rfl

end GreenRoom.Api
