import GreenRoom.Api.ProviderRoutes
import GreenRoom.Db.ProviderStore
import GreenRoom.Lib.Interruption

/-!
# Where the secrets of a connection are

A route moves a connection from one revision to the next and erases what the revisions
around it have left.  Whatever fails, secrets are found at the current revision, at the
one before and, if a replacement has written its secret and not its revision, at the next
one.

## Main definitions

* `Backend.Sound` — the invariant of the two stores.
* `Covered` — a deletion erases all that is stored.

## Main results

* `createConnection_guards`, `replaceCredential_guards`, `disableConnection_guards`,
  `deleteConnection_guards` — what each route keeps at every one of its statements.
-/

namespace GreenRoom.Api

open JsString Providers

namespace Backend

/-- The latest revision of a connection. -/
def current (b : Backend) (id : JsString) : Option (ProfileRevision ConnectionProfile) :=
  b.db.providers.connectionProfileRevisions.newest fun id' _ => id' = id

/-- The revisions whose secret may be stored. -/
def Near (current : Option (ProfileRevision ConnectionProfile)) (n : ℕ) : Prop :=
  match current with
  | none => n = 1
  | some row => 1 ≤ n ∧ row.profile.revision ≤ n + 1 ∧
    (n ≤ row.profile.revision ∨ n = row.profile.revision + 1 ∧ row.state ≠ .deleted)

/-- What the two stores are in whenever a statement has been executed. -/
structure Stored (b : Backend) : Prop where
  kept : connectionProfiles.WellKept b.db.providers
  own : ∀ id row reference, b.current id = some row → row.profile.credentialRef = some reference →
    reference = credentialReference id row.profile.revision
  near : ∀ id n, credentialReference id n ∈ b.credentials → Near (b.current id) n
  held : ∀ id row reference, b.current id = some row → row.state = .enabled →
    row.profile.credentialRef = some reference →
    ∃ secret, b.credentials.lookup reference = some secret ∧
      b.lastWritten.lookup reference = some secret

/-- The connection is deleted, and no secret of it is stored. -/
structure Erased (b : Backend) (id : JsString) : Prop where
  deleted : ∃ row, b.current id = some row ∧ row.state = .deleted
  empty : ∀ n, credentialReference id n ∉ b.credentials

/-- The connections `D` stay erased. -/
structure Sound (D : JsString → Prop) (b : Backend) : Prop extends b.Stored where
  erased : ∀ id, D id → b.Erased id

/-! ## The effects of single statements -/

def erase (b : Backend) (reference : JsString) : Backend :=
  { b with credentials := b.credentials.erase reference }

def write (b : Backend) (reference : JsString) (secret : Secret) : Backend :=
  { b with
    credentials := b.credentials.insert reference secret
    lastWritten := b.lastWritten.insert reference secret }

@[simp] theorem current_write (b : Backend) (reference : JsString) (secret : Secret)
    (id : JsString) : (b.write reference secret).current id = b.current id := rfl

theorem mem_erase {b : Backend} {reference r : JsString} :
    r ∈ (b.erase reference).credentials ↔ r ≠ reference ∧ r ∈ b.credentials :=
  AList.mem_erase

theorem mem_write {b : Backend} {reference r : JsString} {secret : Secret} :
    r ∈ (b.write reference secret).credentials ↔ r = reference ∨ r ∈ b.credentials :=
  AList.mem_insert _

variable {D : JsString → Prop} {b : Backend} {id : JsString}

/-- Only the secret of a current enabled revision must not be erased. -/
theorem Sound.erase (h : b.Sound D) {n : ℕ}
    (hn : ∀ row, b.current id = some row → row.state = .enabled → row.profile.revision ≠ n) :
    (b.erase (credentialReference id n)).Sound D where
  kept := h.kept
  own := h.own
  near id' m hm := h.near id' m (mem_erase.mp hm).2
  held id' row reference hrow hstate hreference := by
    obtain ⟨secret, hsecret, hlast⟩ := h.held id' row reference hrow hstate hreference
    refine ⟨secret, ?_, hlast⟩
    rw [Backend.erase, KeyedTable.lookup_erase, if_neg ?_, hsecret]
    intro heq
    obtain ⟨rfl, hrevision⟩ :=
      credentialReference_injective ((h.own _ _ _ hrow hreference).symm.trans heq)
    exact hn row hrow hstate hrevision
  erased id' hid' :=
    ⟨(h.erased id' hid').deleted, fun m hm => (h.erased id' hid').empty m (mem_erase.mp hm).2⟩

/-- A secret may be written where one may be stored. -/
theorem Sound.write (h : b.Sound D) {n : ℕ} {secret : Secret} (hn : Near (b.current id) n)
    (hid : ¬ D id) : (b.write (credentialReference id n) secret).Sound D where
  kept := h.kept
  own := h.own
  near id' m hm := by
    rcases mem_write.mp hm with heq | hm
    · obtain ⟨rfl, rfl⟩ := credentialReference_injective heq
      exact hn
    · exact h.near id' m hm
  held id' row reference hrow hstate hreference := by
    simp only [Backend.write, KeyedTable.lookup_insert]
    split
    · exact ⟨secret, rfl, rfl⟩
    · exact h.held id' row reference hrow hstate hreference
  erased id' hid' := by
    refine ⟨(h.erased id' hid').deleted, fun m hm => ?_⟩
    rcases mem_write.mp hm with heq | hm
    · obtain ⟨rfl, -⟩ := credentialReference_injective heq
      exact hid hid'
    · exact (h.erased id' hid').empty m hm

theorem current_appended {row : ProfileRevision ConnectionProfile} {db' : Db}
    (h : connectionProfiles.Appended row b.db db') (id' : JsString) :
    ({ b with db := db' } : Backend).current id' =
      if id' = row.profile.id then some row else b.current id' := by
  have htable : db'.providers.connectionProfileRevisions =
      b.db.providers.connectionProfileRevisions.append row.profile.id row := h.table
  unfold current
  rw [htable]
  split
  · next heq =>
      subst heq
      exact RevisionTable.newest_of_id.mpr ⟨_, RevisionTable.latest_append _ _ _⟩
  · next hne =>
      refine Option.ext fun row' => ?_
      rw [RevisionTable.newest_of_id, RevisionTable.newest_of_id]
      exact exists_congr fun m => RevisionTable.latest_append_ne hne _ _ _

/-- A revision is added: its secret is there if it has one, and what is stored is near it. -/
theorem Sound.append (h : b.Sound D) {row : ProfileRevision ConnectionProfile} {db' : Db}
    (happended : connectionProfiles.Appended row b.db db') (hid : ¬ D row.profile.id)
    (hown : ∀ reference, row.profile.credentialRef = some reference →
      reference = credentialReference row.profile.id row.profile.revision)
    (hnear : ∀ n, credentialReference row.profile.id n ∈ b.credentials → Near (some row) n)
    (hheld : ∀ reference, row.profile.credentialRef = some reference →
      ∃ secret, b.credentials.lookup reference = some secret ∧
        b.lastWritten.lookup reference = some secret) :
    ({ b with db := db' } : Backend).Sound D where
  kept := h.kept.appended happended
  own id' row' reference hrow hreference := by
    rw [current_appended happended] at hrow
    split at hrow
    · next heq =>
        obtain rfl := Option.some.inj hrow
        rw [heq]
        exact hown reference hreference
    · exact h.own id' row' reference hrow hreference
  near id' m hm := by
    rw [current_appended happended]
    split
    · next heq => exact hnear m (heq ▸ hm)
    · exact h.near id' m hm
  held id' row' reference hrow hstate hreference := by
    rw [current_appended happended] at hrow
    split at hrow
    · obtain rfl := Option.some.inj hrow
      exact hheld reference hreference
    · exact h.held id' row' reference hrow hstate hreference
  erased id' hid' := by
    refine ⟨?_, (h.erased id' hid').empty⟩
    rw [current_appended happended, if_neg]
    · exact (h.erased id' hid').deleted
    · rintro rfl
      exact hid hid'

/-- A revision is where it says it is. -/
theorem Stored.current_id (h : b.Stored) {row : ProfileRevision ConnectionProfile}
    (hrow : b.current id = some row) : row.profile.id = id := by
  obtain ⟨n, hlatest⟩ := RevisionTable.newest_of_id.mp hrow
  exact (h.kept.keyed _ _ _ hlatest.1).1

theorem Sound.not_erased (h : b.Sound D)
    (hid : ∀ row, b.current id = some row → row.state ≠ .deleted) : ¬ D id := by
  intro hD
  obtain ⟨row, hrow, hdeleted⟩ := (h.erased id hD).deleted
  exact hid row hrow hdeleted

end Backend

/-! ## The statements of the routes -/

open Backend

variable {I : Backend → Prop} {α : Type} {b : Backend}

theorem guards_onDatabase {action : DbProgram α} {Q : α → Backend → Prop}
    (h : ∀ a db', action.Returns b.db a db' → I { b with db := db' } ∧ Q a { b with db := db' }) :
    (onDatabase action).Guards I Q b := by
  refine .statement fun a b' hexec => ?_
  split at hexec
  · next a' db hrun =>
      obtain ⟨rfl, rfl⟩ := Prod.mk.inj (Except.ok.inj hexec)
      exact h _ _ (returns_of_transact hrun)
  · cases hexec

theorem guards_readCurrent {id : JsString}
    {Q : Option (ProfileRevision ConnectionProfile) → Backend → Prop} (hI : I b)
    (h : Q (b.current id) b) : (onDatabase (readCurrentConnectionProfile id)).Guards I Q b := by
  refine guards_onDatabase fun a db' hreturns => ?_
  obtain ⟨rfl, rfl⟩ := Program.returns_query.mp hreturns
  exact ⟨hI, h⟩

theorem guards_orUnavailable {p : RouteProgram α} {Q : α → Backend → Prop} (h : p.Guards I Q b)
    (hI : I b) : (orUnavailable p).Guards I Q b :=
  h.attempt hI fun _ _ _ => trivial

theorem guards_deleteCredential {reference : JsString} {Q : Unit → Backend → Prop} (hI : I b)
    (h : I (b.erase reference)) (hQ : Q () (b.erase reference)) :
    (deleteCredential reference).Guards I Q b := by
  refine .bind (guards_orUnavailable (.statement fun a b' hexec => ?_) hI)
  obtain ⟨-, rfl⟩ := Prod.mk.inj (Except.ok.inj hexec)
  exact ⟨h, hQ⟩

theorem guards_readCredential {reference : JsString} {Q : Option Secret → Backend → Prop} (hI : I b)
    (h : Q (b.credentials.lookup reference) b) : (readCredential reference).Guards I Q b := by
  refine guards_orUnavailable (.statement fun a b' hexec => ?_) hI
  obtain ⟨rfl, rfl⟩ := Prod.mk.inj (Except.ok.inj hexec)
  exact ⟨hI, h⟩

theorem guards_writing {reference : JsString} {secret : Secret} {Q : Unit → Backend → Prop}
    {operation : JsString → Secret → CredentialStore → Except JsError (Unit × CredentialStore)}
    (hoperation : ∀ store u store', operation reference secret store = .ok (u, store') →
      store' = store.insert reference secret)
    (h : I (b.write reference secret)) (hQ : Q () (b.write reference secret)) :
    (writing reference secret operation).Guards I Q b := by
  refine .statement fun a b' hexec => ?_
  split at hexec
  · next credentials hrun =>
      obtain ⟨-, rfl⟩ := Prod.mk.inj (Except.ok.inj hexec)
      rw [hoperation _ _ _ hrun]
      exact ⟨h, hQ⟩
  · cases hexec

theorem guards_writeCredential {reference : JsString} {secret : Secret} {Q : Unit → Backend → Prop}
    (hI : I b) (h : I (b.write reference secret)) (hQ : Q () (b.write reference secret)) :
    (writeCredential reference secret).Guards I Q b := by
  refine .bind (guards_readCredential hI (guards_orUnavailable ?_ hI))
  split
  · refine guards_writing (fun store u store' hput => ?_) h hQ
    unfold CredentialStore.put at hput
    split at hput
    · cases hput
    · exact (Prod.mk.inj (Except.ok.inj hput)).2.symm
  · refine guards_writing (fun store u store' hreplace => ?_) h hQ
    unfold CredentialStore.replace at hreplace
    split at hreplace
    · exact (Prod.mk.inj (Except.ok.inj hreplace)).2.symm
    · cases hreplace

theorem guards_reference {id : JsString} {n : ℕ} {Q : JsString → Backend → Prop}
    (h : 1 ≤ n → Q (credentialReference id n) b) :
    (.ofExcept (reference id n) : RouteProgram JsString).Guards I Q b := by
  refine .ofExcept fun r hr => ?_
  unfold reference at hr
  cases hcheck : canonicalCredentialReference id n with
  | error e =>
      rw [hcheck] at hr
      cases hr
  | ok r' =>
      rw [hcheck] at hr
      obtain rfl := Except.ok.inj hr
      obtain ⟨rfl, hn⟩ := canonicalCredentialReference_ok hcheck
      exact h hn

/-- A route that fails replies with an error. -/
theorem guards_replying {p : RouteProgram RouteReply} {Q : RouteReply → Backend → Prop} (hI : I b)
    (h : p.Guards I Q b) (hQ : ∀ e b, Q (sendError e) b) : (replying p).Guards I Q b :=
  h.attempt hI fun e b _ => hQ e b

/-- What is left after the secret of the revision before has been erased. -/
structure PreviousErased (id : JsString) (expected : ℕ) (b b' : Backend) : Prop where
  db : b'.db = b.db
  erased : credentialReference id (expected - 1) ∉ b'.credentials
  kept : ∀ n, n ≠ expected - 1 →
    (credentialReference id n ∈ b'.credentials ↔ credentialReference id n ∈ b.credentials)

theorem PreviousErased.current {id : JsString} {expected : ℕ} {b b' : Backend}
    (h : PreviousErased id expected b b') (id' : JsString) : b'.current id' = b.current id' := by
  rw [Backend.current, h.db]
  rfl

theorem guards_deletePrevious {D : JsString → Prop} {id : JsString} {expected : ℕ}
    {row : ProfileRevision ConnectionProfile} {Q : Unit → Backend → Prop} (hb : b.Sound D)
    (hrow : b.current id = some row) (hrevision : row.profile.revision = expected)
    (h : ∀ b', b'.Sound D → PreviousErased id expected b b' → Q () b') :
    (deletePrevious id expected).Guards (Sound D) Q b := by
  refine .onlyIf (fun hexpected => .bind (guards_reference fun _ => ?_)) fun hexpected => ?_
  · have hexpected := of_decide_eq_true hexpected
    have hsound : (b.erase (credentialReference id (expected - 1))).Sound D := by
      refine hb.erase fun row' hrow' _ => ?_
      obtain rfl := Option.some.inj (hrow.symm.trans hrow')
      omega
    refine guards_deleteCredential hb hsound (h _ hsound ⟨rfl, ?_, fun n hn => ?_⟩)
    · exact fun hmem => (mem_erase.mp hmem).1 rfl
    · rw [mem_erase, and_iff_right]
      exact fun heq => hn (credentialReference_injective heq).2
  · have hexpected := of_decide_eq_false hexpected
    refine h b hb ⟨rfl, fun hmem => ?_, fun n _ => .rfl⟩
    -- No revision is numbered zero.
    have hnear := hb.near id _ hmem
    rw [hrow] at hnear
    obtain ⟨hpos, -⟩ := hnear
    omega

/-- Only the secrets of the current revision and the next one are left. -/
theorem PreviousErased.near {D : JsString → Prop} {id : JsString} {expected n : ℕ} {b b' : Backend}
    {row : ProfileRevision ConnectionProfile} (h : PreviousErased id expected b b') (hb : b.Sound D)
    (hrow : b.current id = some row) (hrevision : row.profile.revision = expected)
    (hn : credentialReference id n ∈ b'.credentials) : n = expected ∨ n = expected + 1 := by
  have hne : n ≠ expected - 1 := by
    rintro rfl
    exact h.erased hn
  have hnear := hb.near id n ((h.kept n hne).mp hn)
  rw [hrow] at hnear
  obtain ⟨hpos, hle, hle' | ⟨hsucc, -⟩⟩ := hnear <;> omega

/-- What disabling or deleting has done to a connection that was not deleted. -/
theorem transition_appended {id : JsString} {expected : ℕ} {state : ProviderProfileState}
    {row answer : ProfileRevision ConnectionProfile} {db' : Db} (hrow : b.current id = some row)
    (hstate : row.state ≠ .deleted)
    (h : (connectionProfiles.transition id (some expected) state).Returns b.db answer db') :
    answer = ⟨state, connectionProfiles.successor row.profile⟩ ∧
      connectionProfiles.Appended answer b.db db' := by
  obtain ⟨n, hlatest⟩ := RevisionTable.newest_of_id.mp hrow
  obtain ⟨m, row', hlatest', ⟨-, hdeleted, -, -⟩ | ⟨-, -, -, hanswer, happended⟩⟩ :=
    ProfileKind.transition_returns h
  · obtain ⟨-, rfl⟩ := hlatest.unique hlatest'
    exact absurd hdeleted hstate
  · obtain ⟨-, rfl⟩ := hlatest.unique hlatest'
    exact ⟨hanswer, happended⟩

/-- The state after a transition: no secret is asked for, and the leftovers are near. -/
theorem sound_of_transition {D : JsString → Prop} {id : JsString} {expected : ℕ}
    {state : ProviderProfileState} {row answer : ProfileRevision ConnectionProfile} {b b' : Backend}
    {db' : Db} (hb : b.Sound D) (hb' : b'.Sound D) (hprevious : PreviousErased id expected b b')
    (hrow : b.current id = some row) (hrevision : row.profile.revision = expected)
    (hstate : row.state ≠ .deleted)
    (h : (connectionProfiles.transition id (some expected) state).Returns b'.db answer db') :
    ({ b' with db := db' } : Backend).Sound D ∧ answer.state = state ∧
      ({ b' with db := db' } : Backend).current id = some answer := by
  have hrow' : b'.current id = some row := by rwa [hprevious.current]
  have hid := hb.current_id hrow
  obtain ⟨rfl, happended⟩ := transition_appended hrow' hstate h
  refine ⟨hb'.append happended ?_ (by rintro _ ⟨⟩) (fun n hn => ?_) (by rintro _ ⟨⟩), rfl, ?_⟩
  · refine hid ▸ hb.not_erased fun row' hrow' => ?_
    obtain rfl := Option.some.inj (hrow.symm.trans hrow')
    exact hstate
  · change credentialReference row.profile.id n ∈ _ at hn
    rw [hid] at hn
    change 1 ≤ n ∧ row.profile.revision + 1 ≤ n + 1 ∧ (n ≤ row.profile.revision + 1 ∨ _)
    have hpos : 1 ≤ n := by
      have hnear := hb'.near id n hn
      rw [hrow'] at hnear
      exact hnear.1
    rcases hprevious.near hb hrow hrevision hn with rfl | rfl
    · exact ⟨hpos, by omega, .inl (by omega)⟩
    · exact ⟨hpos, by omega, .inl (by omega)⟩
  · rw [current_appended happended]
    exact if_pos hid.symm

/-! ## The routes -/

variable {D : JsString → Prop} {loopback : Bool} {value : Json ℚ} {connectionId : JsString}

theorem createConnection_guards (hb : b.Sound D) :
    (createConnection loopback value).Guards (Sound D) (fun _ _ => True) b := by
  refine guards_replying hb ?_ fun _ _ => trivial
  refine .bind (.require fun _ => .bind (.ofExcept fun body _ => ?_))
  refine .bind (guards_reference fun _ => .bind (guards_readCurrent hb ?_))
  cases hrow : b.current body.id with
  | some existing =>
      refine .bind (.require fun ⟨hrevision, hstate, _⟩ => .bind (guards_readCredential hb ?_))
      refine .bind (.require fun _ => .bind ?_)
      have hwrite : (b.write (credentialReference body.id 1) body.secret).Sound D := by
        refine hb.write ?_ (hb.not_erased fun row' hrow' => ?_)
        · rw [hrow]
          exact ⟨le_rfl, by omega, .inl hrevision.ge⟩
        · rw [← Option.some.inj (hrow.symm.trans hrow'), hstate]
          decide
      exact guards_writeCredential hb hwrite trivial
  | none =>
      have hfresh : ¬ D body.id := hb.not_erased fun row' hrow' => by cases hrow.symm.trans hrow'
      have hwrite : (b.write (credentialReference body.id 1) body.secret).Sound D := by
        refine hb.write ?_ hfresh
        rw [hrow]
        rfl
      refine .bind
        (guards_writeCredential hb hwrite (.bind (guards_onDatabase fun answer db' h => ?_)))
      obtain ⟨rfl, -, -, happended⟩ := ProfileKind.create_returns h
      refine ⟨hwrite.append happended hfresh ?_ (fun n hn => ?_) ?_, trivial⟩
      · rintro reference ⟨⟩
        rfl
      · have hnear := hwrite.near body.id n hn
        rw [current_write, hrow] at hnear
        obtain rfl : n = 1 := hnear
        exact ⟨le_rfl, Nat.le_succ 1, .inl le_rfl⟩
      · rintro reference ⟨⟩
        exact ⟨body.secret, AList.lookup_insert _, AList.lookup_insert _⟩

theorem replaceCredential_guards (hb : b.Sound D) :
    (replaceCredential loopback connectionId value).Guards (Sound D) (fun _ _ => True) b := by
  refine guards_replying hb ?_ fun _ _ => trivial
  refine .bind (.require fun _ => .bind (.ofExcept fun id _ => .bind (.ofExcept fun body _ => ?_)))
  refine .bind (.ofExcept fun replaced _ => .bind (guards_readCurrent hb ?_))
  obtain ⟨expected, mutationId⟩ := replaced
  refine .bind (.orThrow fun row hrow => .bind (.require fun ⟨hstate, _⟩ => ?_))
  refine .bind (guards_reference fun _ => .bind (guards_reference fun (hpos : 1 ≤ expected) => ?_))
  refine .bind (.ofExcept fun secret _ => ?_)
  have hfresh : ¬ D id := hb.not_erased fun row' hrow' => by
    obtain rfl := Option.some.inj (hrow.symm.trans hrow')
    exact hstate
  split
  · next hnext =>
      have hrevision : row.profile.revision = expected + 1 := hnext.1
      have hwrite : (b.write (credentialReference id (expected + 1)) secret).Sound D := by
        refine hb.write ?_ hfresh
        rw [hrow]
        exact ⟨by omega, by omega, .inl hrevision.ge⟩
      refine .bind (.require fun _ => .bind (guards_writeCredential hb hwrite (.bind ?_)))
      refine guards_deleteCredential hwrite (hwrite.erase fun row' hrow' _ => ?_) trivial
      obtain rfl := Option.some.inj (hrow.symm.trans hrow')
      omega
  · refine .bind (.require fun (hrevision : row.profile.revision = expected) => ?_)
    refine .bind (guards_deletePrevious hb hrow hrevision fun b' hb' hprevious => ?_)
    have hrow' : b'.current id = some row := by rwa [hprevious.current]
    have hwrite : (b'.write (credentialReference id (expected + 1)) secret).Sound D := by
      refine hb'.write ?_ hfresh
      rw [hrow']
      exact ⟨by omega, by omega, .inr ⟨by omega, hstate⟩⟩
    refine .bind
      (guards_writeCredential hb' hwrite (.bind (guards_onDatabase fun answer db' h => ?_)))
    obtain ⟨rfl, -, happended⟩ := ProfileKind.revise_returns h
    have happend : ({ b'.write (credentialReference id (expected + 1)) secret with
        db := db' } : Backend).Sound D := by
      refine hwrite.append happended hfresh ?_ (fun n hn => ?_) ?_
      · rintro reference ⟨⟩
        rfl
      · have hexpected : n = expected ∨ n = expected + 1 := by
          rcases mem_write.mp hn with heq | hn
          · exact .inr (credentialReference_injective heq).2
          · exact hprevious.near hb hrow hrevision hn
        change 1 ≤ n ∧ expected + 1 ≤ n + 1 ∧ (n ≤ expected + 1 ∨ _)
        exact ⟨by omega, by omega, .inl (by omega)⟩
      · rintro reference ⟨⟩
        exact ⟨secret, AList.lookup_insert _, AList.lookup_insert _⟩
    refine ⟨happend, .bind (guards_deleteCredential happend (happend.erase ?_) trivial)⟩
    intro row' hrow'' _
    rw [current_appended (b := b'.write _ secret) happended, if_pos rfl] at hrow''
    obtain rfl := Option.some.inj hrow''
    exact Nat.succ_ne_self expected

theorem disableConnection_guards (hb : b.Sound D) :
    (disableConnection loopback connectionId value).Guards (Sound D) (fun _ _ => True) b := by
  refine guards_replying hb ?_ fun _ _ => trivial
  refine .bind (.require fun _ => .bind (.ofExcept fun named _ => .bind (guards_readCurrent hb ?_)))
  obtain ⟨id, expected⟩ := named
  refine .bind (.orThrow fun row hrow => .bind (guards_reference fun hpos => ?_))
  split
  · next hdisabled =>
      refine .bind (guards_deleteCredential hb (hb.erase fun row' hrow' _ => ?_) trivial)
      obtain rfl := Option.some.inj (hrow.symm.trans hrow')
      omega
  · refine .bind (.require fun hcondition => ?_)
    obtain ⟨hrevision, hstate⟩ := hcondition
    refine .bind (guards_deletePrevious hb hrow hrevision ?_)
    intro b' hb' hprevious
    refine .bind (guards_onDatabase fun answer db' h => ?_)
    obtain ⟨hsound, hanswer, hcurrent⟩ :=
      sound_of_transition hb hb' hprevious hrow hrevision (by rw [hstate]; decide) h
    refine ⟨hsound, .bind (guards_deleteCredential hsound (hsound.erase ?_) trivial)⟩
    intro row' hrow' henabled
    obtain rfl := Option.some.inj (hcurrent.symm.trans hrow')
    rw [hanswer] at henabled
    cases henabled

/-- What a deletion at `expected` does not erase is not there: the secret of the revision
after it, and, if the connection is deleted at `expected` already, the secrets of this
revision and the one before. -/
structure Covered (b : Backend) (id : JsString) (expected : ℕ) : Prop where
  next : credentialReference id (expected + 1) ∉ b.credentials
  already : ∀ row, b.current id = some row → row.state = .deleted →
    row.profile.revision = expected →
    credentialReference id expected ∉ b.credentials ∧
      credentialReference id (expected - 1) ∉ b.credentials

/-- What a deletion that is successful leaves. -/
structure Deletes (id : JsString) (expected : ℕ) (b b' : Backend) : Prop where
  deleted : ∃ row, b'.current id = some row ∧ row.state = .deleted
  empty_iff : (∀ n, credentialReference id n ∉ b'.credentials) ↔ Covered b id expected

theorem isSuccess_sendError (e : RouteError) : (sendError e).isSuccess = false := by
  cases e with
  | http error => rfl
  | thrown error =>
      rw [sendError]
      split <;> rfl

theorem deletes_again {id : JsString} {expected : ℕ} {row : ProfileRevision ConnectionProfile}
    (hb : b.Sound D) (hrow : b.current id = some row) (hstate : row.state = .deleted)
    (hrevision : row.profile.revision = expected) : Deletes id expected b b := by
  refine ⟨⟨row, hrow, hstate⟩, fun h => ⟨h _, fun _ _ _ _ => ⟨h _, h _⟩⟩, fun h n hn => ?_⟩
  obtain ⟨hexpected, hprevious⟩ := h.already row hrow hstate hrevision
  have hnear := hb.near id n hn
  rw [hrow] at hnear
  obtain ⟨-, hle, hle' | ⟨-, hstate'⟩⟩ := hnear
  · obtain rfl | rfl : n = expected ∨ n = expected - 1 := by omega
    · exact hexpected hn
    · exact hprevious hn
  · exact hstate' hstate

theorem deletes_late {id : JsString} {expected : ℕ} {row : ProfileRevision ConnectionProfile}
    (hb : b.Sound D) (hrow : b.current id = some row) (hstate : row.state = .deleted)
    (hrevision : row.profile.revision = expected + 1) :
    Deletes id expected b (b.erase (credentialReference id expected)) := by
  refine ⟨⟨row, hrow, hstate⟩, fun h => ⟨fun hnext => ?_, fun row' hrow' _ hrevision' => ?_⟩,
    fun h n hn => ?_⟩
  · refine h (expected + 1) (mem_erase.mpr ⟨fun heq => ?_, hnext⟩)
    exact Nat.succ_ne_self expected (credentialReference_injective heq).2
  · obtain rfl := Option.some.inj (hrow.symm.trans hrow')
    omega
  · obtain ⟨hne, hn⟩ := mem_erase.mp hn
    have hne : n ≠ expected := fun heq => hne (heq ▸ rfl)
    have hnear := hb.near id n hn
    rw [hrow] at hnear
    obtain ⟨-, hle, hle' | ⟨-, hstate'⟩⟩ := hnear
    · obtain rfl : n = expected + 1 := by omega
      exact h.next hn
    · exact hstate' hstate

theorem deletes_now {id : JsString} {expected : ℕ} {row answer : ProfileRevision ConnectionProfile}
    {b' b'' : Backend} (hb : b.Sound D) (hprevious : PreviousErased id expected b b')
    (hrow : b.current id = some row) (hstate : row.state ≠ .deleted)
    (hrevision : row.profile.revision = expected) (hanswer : answer.state = .deleted)
    (hcurrent : b''.current id = some answer) (hcredentials : b''.credentials = b'.credentials) :
    Deletes id expected b (b''.erase (credentialReference id expected)) := by
  have hmem :
    ∀ n, credentialReference id n ∈ (b''.erase (credentialReference id expected)).credentials ↔
      n ≠ expected ∧ credentialReference id n ∈ b'.credentials := by
    intro n
    rw [mem_erase, hcredentials]
    refine and_congr_left fun _ => not_congr ⟨fun heq => ?_, fun heq => heq ▸ rfl⟩
    exact (credentialReference_injective heq).2
  have hnext : expected + 1 ≠ expected - 1 := by omega
  refine ⟨⟨answer, hcurrent, hanswer⟩, fun h => ⟨fun hmem' => ?_, fun row' hrow' hdeleted => ?_⟩,
    fun h n hn => ?_⟩
  · exact h _ ((hmem _).mpr ⟨Nat.succ_ne_self expected, (hprevious.kept _ hnext).mpr hmem'⟩)
  · obtain rfl := Option.some.inj (hrow.symm.trans hrow')
    exact absurd hdeleted hstate
  · obtain ⟨hne, hn⟩ := (hmem n).mp hn
    obtain rfl : n = expected + 1 := (hprevious.near hb hrow hrevision hn).resolve_left hne
    exact h.next ((hprevious.kept _ hnext).mp hn)

theorem deleteConnection_guards (hb : b.Sound D) :
    (deleteConnection loopback connectionId value).Guards (Sound D) (fun reply b' =>
      ∀ id expected, expectedRevision connectionId value = .ok (id, expected) →
        reply.isSuccess = true → Deletes id expected b b') b := by
  refine guards_replying hb ?_ fun e b' id expected _ h => ?_
  swap
  · rw [isSuccess_sendError] at h
    cases h
  refine .bind (.require fun _ =>
    .bind (.ofExcept fun named hnamed => .bind (guards_readCurrent hb ?_)))
  obtain ⟨id, expected⟩ := named
  have hdeletes : ∀ b', Deletes id expected b b' → ∀ id' expected',
      expectedRevision connectionId value = .ok (id', expected') →
        (.connection 200 none : RouteReply).isSuccess = true → Deletes id' expected' b b' := by
    intro b' h id' expected' hnamed' _
    obtain ⟨rfl, rfl⟩ := Prod.mk.inj (Except.ok.inj (hnamed.symm.trans hnamed'))
    exact h
  refine .bind (.orThrow fun row hrow => .bind (guards_reference fun hpos => ?_))
  split
  · next hstate =>
      split
      · next hrevision =>
          refine .bind (guards_deleteCredential hb (hb.erase fun row' hrow' henabled => ?_) ?_)
          · obtain rfl := Option.some.inj (hrow.symm.trans hrow')
            rw [hstate] at henabled
            cases henabled
          · exact hdeletes _ (deletes_late hb hrow hstate hrevision)
      · exact .bind (.require fun hrevision => hdeletes _ (deletes_again hb hrow hstate hrevision))
  · next hstate =>
      refine .bind (.require fun hrevision => .bind (guards_deletePrevious hb hrow hrevision ?_))
      intro b' hb' hprevious
      refine .bind (guards_onDatabase fun answer db' h => ?_)
      obtain ⟨hsound, hanswer, hcurrent⟩ :=
        sound_of_transition hb hb' hprevious hrow hrevision hstate h
      refine ⟨hsound, .bind (guards_deleteCredential hsound (hsound.erase ?_) ?_)⟩
      · intro row' hrow' henabled
        obtain rfl := Option.some.inj (hcurrent.symm.trans hrow')
        rw [hanswer] at henabled
        cases henabled
      · exact hdeletes _ (deletes_now hb hprevious hrow hstate hrevision hanswer hcurrent rfl)

end GreenRoom.Api
