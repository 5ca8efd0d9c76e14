import GreenRoom.Db.Purge

/-!
# What a failing step leaves of a purge

The root is put in quarantine, its tree removed from the leaves up, and at an error the
quarantine gets the root's name back.  Up to the first path removed that undoes all; from
then on the name comes back without what is gone.

## Main definitions

* `Purgeable` — the requests the purge accepts.
* `removalStart` — the number of the step that removes the first path.

## Main results

* `removeQuarantine_commits` — the first path removed is gone for good.
* `purge_restores_iff` — what a purge that throws leaves.
-/

namespace GreenRoom.Db

open JsString Program

/-! ## The accepted requests -/

mutual

/-- Only directories, and files under one name. -/
def Node.Removable : Node → Prop
  | .file links => links = 1
  | .directory entries => EntriesRemovable entries
  | _ => False

def EntriesRemovable : List (String × Node) → Prop
  | [] => True
  | (_, child) :: rest => child.Removable ∧ EntriesRemovable rest

end

structure CanonicalDirectory (path : Location) : Prop where
  normal : path.normal = true
  directory : ∃ details, path.details = some details ∧ details.kind = .directory
  real : path.real = true

/-- The references the database names, where they are good. -/
def storedReferences (request : PurgeRequest) : Option (List JsString) :=
  if DATABASE_FILE ∈ request.tree.held.map Prod.fst then
    (request.profiles.map fun rows => rows.filterMap profileReference).filter fun references =>
      references.Nodup ∧ ∀ reference ∈ references, isCredentialReference reference
  else some []

/-- The paths, as the checks want them. -/
structure PathsChecked (request : PurgeRequest) : Prop where
  markerId : isMarkerId request.markerId = true
  parent : CanonicalDirectory request.allowedParent
  owned : ∃ details, request.allowedParent.details = some details ∧
    details.mode &&& 0o022 = 0 ∧ ∀ user ∈ request.user, details.uid = user
  root : CanonicalDirectory request.root
  inside : strictChild request.allowedParent request.root

/-- The lock file, as the lock wants it. -/
structure LockFree (request : PurgeRequest) : Prop where
  file : request.tree.held.lookup LOCK_FILENAME = some (.file 1)
  owned : ∀ user ∈ request.user, request.lockUid = user
  free : request.lockBusy = false

/-- The tree and its marker, as the checks want them. -/
structure MarkerChecked (request : PurgeRequest) (references : List JsString) : Prop where
  tree : EntriesRemovable request.tree.held
  marker : ∃ marker, request.marker = some marker ∧
    markerReferences request marker = some references
  good : references.Nodup ∧ ∀ reference ∈ references, isCredentialReference reference = true
  stored : storedReferences request = some references
  file : request.tree.held.lookup MARKER_FILE = some (.file 1)

structure Purgeable (request : PurgeRequest) : Prop where
  paths : PathsChecked request
  lock : LockFree request
  marker : ∃ references, MarkerChecked request references

/-! ## Numbers of steps -/

mutual

/-- The steps of validating a tree. -/
def Node.steps : Node → ℕ
  | .directory entries => 2 + entriesSteps entries
  | _ => 1

def entriesSteps : List (String × Node) → ℕ
  | [] => 0
  | (_, child) :: rest => child.steps + entriesSteps rest

end

/-- The steps of removing a tree that come before the first path is removed. -/
def Node.leadSteps : Node → ℕ
  | .directory ((_, child) :: _) => 4 + child.leadSteps
  | .directory [] => 4
  | _ => 3

/-- The first path removed of a tree at `path`. -/
def Node.firstRemoved (path : Path) : Node → Path
  | .directory ((name, child) :: _) => child.firstRemoved (path ++ [name])
  | _ => path

/-- The steps of `checkMarker`. -/
def markerSteps (request : PurgeRequest) : ℕ :=
  12 + entriesSteps request.tree.held +
    if DATABASE_FILE ∈ request.tree.held.map Prod.fst then 3 else 0

/-- The steps taken before the root is renamed. -/
def checkSteps (request : PurgeRequest) : ℕ :=
  23 + markerSteps request

/-- The steps of removing the quarantine that come before the first path is removed. -/
def quarantineSteps (request : PurgeRequest) : ℕ :=
  3 + (Node.directory request.tree.held).steps + (Node.directory request.tree.held).leadSteps

/-- The step that removes the first path. -/
def removalStart (request : PurgeRequest) : ℕ :=
  checkSteps request + 1 + quarantineSteps request

/-! ## Single calls -/

section

variable {s t : PurgeState} {k : ℕ}

@[simp] theorem clean_look {α : Type} {a : Option α} {b : α} :
    (look a).Clean s b k t ↔ a = some b ∧ k = 1 ∧ t = s := by
  rw [look, clean_statement]
  cases a with
  | none => simp
  | some a => simp [and_assoc, and_comm, eq_comm]

@[simp] theorem clean_lookOr {α : Type} {a : Option α} {b : α} {e : PurgeError} :
    (lookOr a e).Clean s b k t ↔ a = some b ∧ k = 1 ∧ t = s := by
  rw [lookOr, clean_attempt fun _ _ _ _ _ => clean_throw, clean_look]

@[simp] theorem clean_call {a : Unit} : call.Clean s a k t ↔ k = 1 ∧ t = s := by
  simp [call]

@[simp] theorem clean_lstatSync {path : Path} {a : Unit} :
    (lstatSync path).Clean s a k t ↔ path ∉ s.removed ∧ k = 1 ∧ t = s := by
  rw [lstatSync, clean_statement]
  split
  · next h => simp [h]
  · next h => simp [h, and_comm, eq_comm]

@[simp] theorem clean_readdirSync {path : Path} {a : Unit} :
    (readdirSync path).Clean s a k t ↔ path ∉ s.removed ∧ k = 1 ∧ t = s := clean_lstatSync

@[simp] theorem clean_existsSync {read : PurgeState → Bool} {b : Bool} :
    (existsSync read).Clean s b k t ↔ b = read s ∧ k = 1 ∧ t = s := by
  constructor
  · rintro (_ | ⟨⟨⟩, ⟨⟩⟩ | ⟨⟨⟩, _⟩)
    exact ⟨rfl, rfl, rfl⟩
  · rintro ⟨rfl, rfl, rfl⟩
    exact .done rfl (.pure _ _)

@[simp] theorem clean_sameIdentity {path : Path} {b : Bool} :
    (sameIdentity path).Clean s b k t ↔ b = decide (path ∉ s.removed) ∧ k = 1 ∧ t = s := by
  constructor
  · intro h
    obtain _ | ⟨hexec, h⟩ | ⟨hexec, h⟩ := h
    · beta_reduce at hexec
      split at hexec
      · cases hexec
      · next hpath =>
          cases hexec
          cases h
          exact ⟨by simp [hpath], rfl, rfl⟩
    · beta_reduce at hexec
      split at hexec
      · next hpath =>
          cases h
          exact ⟨by simp [hpath], rfl, rfl⟩
      · cases hexec
  · rintro ⟨rfl, rfl, rfl⟩
    by_cases hpath : path ∈ t.removed
    · rw [decide_eq_false (not_not_intro hpath)]
      exact .failed (if_pos hpath) (.pure _ _)
    · rw [decide_eq_true hpath]
      exact .done (if_neg hpath) (.pure _ _)

@[simp] theorem clean_sameParent {b : Bool} :
    sameParent.Clean s b k t ↔ b = true ∧ k = 1 ∧ t = s := by
  constructor
  · rintro (_ | ⟨⟨⟩, ⟨⟩⟩ | ⟨⟨⟩, _⟩)
    exact ⟨rfl, rfl, rfl⟩
  · rintro ⟨rfl, rfl, rfl⟩
    exact .done rfl (.pure _ _)

@[simp] theorem clean_orRebound_sameIdentity {path : Path} {a : Unit} :
    (orRebound (sameIdentity path)).Clean s a k t ↔ path ∉ s.removed ∧ k = 1 ∧ t = s := by
  simp only [orRebound, clean_bind, clean_sameIdentity, clean_require]
  constructor
  · rintro ⟨_, _, _, _, ⟨rfl, rfl, rfl⟩, ⟨hpath, rfl, rfl⟩, rfl⟩
    exact ⟨of_decide_eq_true hpath, rfl, rfl⟩
  · rintro ⟨hpath, rfl, rfl⟩
    exact ⟨_, _, _, _, ⟨rfl, rfl, rfl⟩, ⟨decide_eq_true hpath, rfl, rfl⟩, rfl⟩

@[simp] theorem clean_orRebound_sameParent {a : Unit} :
    (orRebound sameParent).Clean s a k t ↔ k = 1 ∧ t = s := by
  simp only [orRebound, clean_bind, clean_sameParent, clean_require]
  constructor
  · rintro ⟨_, _, _, _, ⟨rfl, rfl, rfl⟩, ⟨-, rfl, rfl⟩, rfl⟩
    exact ⟨rfl, rfl⟩
  · rintro ⟨rfl, rfl⟩
    exact ⟨_, _, _, _, ⟨rfl, rfl, rfl⟩, ⟨rfl, rfl, rfl⟩, rfl⟩

theorem lstatSync_clean {path : Path} (h : path ∉ s.removed) : (lstatSync path).Clean s () 1 s :=
  clean_lstatSync.mpr ⟨h, rfl, rfl⟩

theorem sameIdentity_clean {path : Path} (h : path ∉ s.removed) :
    (orRebound (sameIdentity path)).Clean s () 1 s :=
  clean_orRebound_sameIdentity.mpr ⟨h, rfl, rfl⟩

theorem releaseLock_clean (s : PurgeState) : releaseLock.Clean s () 2 s :=
  clean_finallyDo.mpr
    ⟨1, s, 1, clean_call.mpr ⟨rfl, rfl⟩, clean_call.mpr ⟨rfl, rfl⟩, rfl⟩

theorem syncPath_clean (s : PurgeState) : syncPath.Clean s () 3 s :=
  clean_bind.mpr ⟨(), 1, s, 2, clean_call.mpr ⟨rfl, rfl⟩, releaseLock_clean s, rfl⟩

end

theorem lstatSync_strict (path : Path) : (lstatSync path).Strict := by
  refine .statement fun s b s' h => ?_
  split at h
  · cases h
  · cases h
    rfl

theorem sameIdentity_strict (path : Path) : (orRebound (sameIdentity path)).Strict := by
  refine .stmt (fun s b s' h => ?_) (fun b => .pure ()) fun e => ⟨_, rfl⟩
  split at h
  · cases h
  · cases h
    rfl

theorem sameParent_strict : (orRebound sameParent).Strict := by
  refine .stmt (fun s b s' h => ?_) (fun b => .pure ()) fun e => ⟨_, rfl⟩
  cases h
  rfl

/-! ## Validating a tree -/

mutual

theorem validatePurgeTree_clean {s t : PurgeState} {a : Unit} {k : ℕ} (hs : s.removed = [])
    (path : Path) : (node : Node) → ((validatePurgeTree path node).Clean s a k t ↔
      node.Removable ∧ k = node.steps ∧ t = s)
  | .file links => by
      simp only [validatePurgeTree, clean_bind, clean_lstatSync, clean_require, hs, Node.steps,
        Node.Removable]
      constructor
      · rintro ⟨_, _, _, _, ⟨-, rfl, rfl⟩, ⟨hlinks, rfl, rfl⟩, rfl⟩
        exact ⟨hlinks, rfl, rfl⟩
      · rintro ⟨hlinks, rfl, rfl⟩
        exact ⟨(), 1, t, 0, ⟨List.not_mem_nil, rfl, rfl⟩, ⟨hlinks, rfl, rfl⟩, rfl⟩
  | .symbolicLink => by simp [validatePurgeTree, clean_bind, Node.Removable]
  | .special => by simp [validatePurgeTree, clean_bind, Node.Removable]
  | .directory entries => by
      simp only [validatePurgeTree, clean_bind, clean_lstatSync, clean_readdirSync, hs,
        Node.steps, Node.Removable]
      constructor
      · rintro ⟨_, _, _, _, ⟨-, rfl, rfl⟩, ⟨_, _, _, _, ⟨-, rfl, rfl⟩, h, rfl⟩, rfl⟩
        obtain ⟨hentries, rfl, rfl⟩ := (validateEntries_clean hs path entries).mp h
        exact ⟨hentries, by omega, rfl⟩
      · rintro ⟨hentries, rfl, rfl⟩
        exact ⟨(), 1, t, _, ⟨List.not_mem_nil, rfl, rfl⟩, ⟨(), 1, t, _,
          ⟨hs ▸ List.not_mem_nil, rfl, rfl⟩,
          (validateEntries_clean hs path entries).mpr ⟨hentries, rfl, rfl⟩, rfl⟩, by omega⟩

theorem validateEntries_clean {s t : PurgeState} {a : Unit} {k : ℕ} (hs : s.removed = [])
    (path : Path) : (entries : List (String × Node)) →
      ((validateEntries path entries).Clean s a k t ↔
        EntriesRemovable entries ∧ k = entriesSteps entries ∧ t = s)
  | [] => by
      rw [validateEntries, EntriesRemovable, entriesSteps, true_and]
      exact clean_pure.trans (and_iff_right rfl)
  | (name, child) :: rest => by
      simp only [validateEntries, clean_bind, EntriesRemovable, entriesSteps]
      constructor
      · rintro ⟨_, _, _, _, hchild, hrest, rfl⟩
        obtain ⟨hc, rfl, rfl⟩ := (validatePurgeTree_clean hs _ child).mp hchild
        obtain ⟨hr, rfl, rfl⟩ := (validateEntries_clean hs path rest).mp hrest
        exact ⟨⟨hc, hr⟩, rfl, rfl⟩
      · rintro ⟨⟨hchild, hrest⟩, rfl, rfl⟩
        exact ⟨(), _, t, _, (validatePurgeTree_clean hs _ child).mpr ⟨hchild, rfl, rfl⟩,
          (validateEntries_clean hs path rest).mpr ⟨hrest, rfl, rfl⟩, rfl⟩

end

mutual

theorem validatePurgeTree_strict (path : Path) : (node : Node) →
    (validatePurgeTree path node).Strict
  | .file _ => (lstatSync_strict path).bind fun _ => .require _ _
  | .symbolicLink => (lstatSync_strict path).bind fun _ => .throw _
  | .special => (lstatSync_strict path).bind fun _ => .throw _
  | .directory entries => (lstatSync_strict path).bind fun _ =>
      (lstatSync_strict path).bind fun _ => validateEntries_strict path entries

theorem validateEntries_strict (path : Path) : (entries : List (String × Node)) →
    (validateEntries path entries).Strict
  | [] => .pure ()
  | (name, child) :: rest => (validatePurgeTree_strict (path ++ [name]) child).bind fun _ =>
      validateEntries_strict path rest

end

mutual

/-- Only a tree that can be removed passes, whatever fails. -/
theorem validatePurgeTree_returns {s t : PurgeState} {a : Unit} (path : Path) :
    (node : Node) → (validatePurgeTree path node).Returns s a t → node.Removable
  | .file links => fun h => by
      rw [validatePurgeTree, returns_bind] at h
      obtain ⟨_, _, -, h⟩ := h
      exact (returns_require.mp h).1
  | .symbolicLink => fun h => by
      rw [validatePurgeTree, returns_bind] at h
      obtain ⟨_, _, -, h⟩ := h
      exact absurd h returns_throw
  | .special => fun h => by
      rw [validatePurgeTree, returns_bind] at h
      obtain ⟨_, _, -, h⟩ := h
      exact absurd h returns_throw
  | .directory entries => fun h => by
      simp only [validatePurgeTree, returns_bind] at h
      obtain ⟨_, _, -, _, _, -, h⟩ := h
      exact validateEntries_returns path entries h

theorem validateEntries_returns {s t : PurgeState} {a : Unit} (path : Path) :
    (entries : List (String × Node)) → (validateEntries path entries).Returns s a t →
      EntriesRemovable entries
  | [] => fun _ => trivial
  | (name, child) :: rest => fun h => by
      rw [validateEntries, returns_bind] at h
      obtain ⟨_, _, hchild, hrest⟩ := h
      exact ⟨validatePurgeTree_returns _ child hchild, validateEntries_returns path rest hrest⟩

end

/-! ## Removing a tree -/

/-- What is removed stays removed. -/
def Grows (s t : PurgeState) : Prop := ∀ path ∈ s.removed, path ∈ t.removed

theorem Grows.refl (s : PurgeState) : Grows s s := fun _ h => h

theorem unlinkSync_grows (path : Path) : (unlinkSync path).Always Grows := by
  refine .statement fun s b s' h => ?_
  split at h
  · cases h
  · cases h
    exact fun p hp => List.mem_append_left _ hp

theorem rmdirSync_grows (path : Path) (entries : List (String × Node)) :
    (rmdirSync path entries).Always Grows := by
  refine .statement fun s b s' h => ?_
  split at h
  · cases h
  · cases h
    exact fun p hp => List.mem_append_left _ hp

theorem lstatSync_grows (path : Path) : (lstatSync path).Always Grows :=
  (lstatSync_strict path).readOnly.always Grows.refl

theorem sameIdentity_grows (path : Path) : (orRebound (sameIdentity path)).Always Grows :=
  (sameIdentity_strict path).readOnly.always Grows.refl

mutual

theorem removeIdentityCheckedTree_grows (path : Path) : (node : Node) →
    (removeIdentityCheckedTree path node).Always Grows
  | .file _ => (sameIdentity_grows path).bind fun _ => (lstatSync_grows path).bind fun _ =>
      (Always.require _ _).bind fun _ => (sameIdentity_grows path).bind fun _ =>
        unlinkSync_grows path
  | .symbolicLink => (sameIdentity_grows path).bind fun _ =>
      (lstatSync_grows path).bind fun _ => .throw _
  | .special => (sameIdentity_grows path).bind fun _ =>
      (lstatSync_grows path).bind fun _ => .throw _
  | .directory entries => (sameIdentity_grows path).bind fun _ =>
      (lstatSync_grows path).bind fun _ => (lstatSync_grows path).bind fun _ =>
        (removeEntries_grows path entries).bind fun _ => (sameIdentity_grows path).bind fun _ =>
          rmdirSync_grows path entries

theorem removeEntries_grows (path : Path) : (entries : List (String × Node)) →
    (removeEntries path entries).Always Grows
  | [] => .pure ()
  | (name, child) :: rest => (lstatSync_grows _).bind fun _ =>
      (removeIdentityCheckedTree_grows (path ++ [name]) child).bind fun _ =>
        removeEntries_grows path rest

end

section

variable {s : PurgeState} {Done : PurgeState → Prop} {k : ℕ} {path : Path}

theorem after_sameIdentity {p : PurgeProgram Unit} (hs : s.removed = [])
    (h : p.CommitsAt .filesystem s k Done) :
    (orRebound (sameIdentity path) >>= fun _ => p).CommitsAt .filesystem s (1 + k) Done :=
  .bind_right (sameIdentity_strict path) (sameIdentity_clean (hs ▸ List.not_mem_nil)) h

theorem after_lstatSync {p : PurgeProgram Unit} (hs : s.removed = [])
    (h : p.CommitsAt .filesystem s k Done) :
    (lstatSync path >>= fun _ => p).CommitsAt .filesystem s (1 + k) Done :=
  .bind_right (lstatSync_strict path) (lstatSync_clean (hs ▸ List.not_mem_nil)) h

theorem after_sameParent {p : PurgeProgram Unit} (h : p.CommitsAt .filesystem s k Done) :
    (orRebound sameParent >>= fun _ => p).CommitsAt .filesystem s (1 + k) Done :=
  .bind_right sameParent_strict (clean_orRebound_sameParent.mpr ⟨rfl, rfl⟩ :
    (orRebound sameParent).Clean s () 1 s) h

/-- A path removed stays removed by what follows. -/
theorem removed_before {α β : Type} {p : PurgeProgram α} {f : α → PurgeProgram β}
    (hp : p.CommitsAt .filesystem s k fun t => path ∈ t.removed)
    (hf : ∀ a, (f a).Always Grows) :
    (p >>= f).CommitsAt .filesystem s k fun t => path ∈ t.removed :=
  hp.bind_left fun a => (hf a).mono fun _ _ h => h path

end

/-- A tree that can be removed loses its first path at its step, and keeps all before. -/
theorem removeIdentityCheckedTree_commits {s : PurgeState} (hs : s.removed = [])
    (path : Path) : (node : Node) → node.Removable →
      (removeIdentityCheckedTree path node).CommitsAt .filesystem s node.leadSteps
        fun t => node.firstRemoved path ∈ t.removed
  | .file links, hlinks => by
      have hunlink : (unlinkSync path).CommitsAt .filesystem s 0
          fun t => path ∈ t.removed :=
        .statement (t := { s with removed := s.removed ++ [path] })
          (if_neg (hs ▸ List.not_mem_nil)) (by simp)
      have hlinks : links = 1 := hlinks
      rw [removeIdentityCheckedTree, require, if_pos hlinks]
      exact after_sameIdentity hs (after_lstatSync hs (after_sameIdentity hs hunlink))
  | .directory [], _ => by
      have hrmdir : (rmdirSync path []).CommitsAt .filesystem s 0
          fun t => path ∈ t.removed :=
        .statement (t := { s with removed := s.removed ++ [path] })
          (if_neg (by simp [hs])) (by simp)
      rw [removeIdentityCheckedTree, removeEntries]
      exact after_sameIdentity hs (after_lstatSync hs (after_lstatSync hs
        (after_sameIdentity hs hrmdir)))
  | .directory ((name, child) :: rest), hnode => by
      have hchild := removeIdentityCheckedTree_commits hs (path ++ [name]) child hnode.1
      have hentries : (removeEntries path ((name, child) :: rest)).CommitsAt .filesystem s
          (1 + child.leadSteps) fun t => child.firstRemoved (path ++ [name]) ∈ t.removed :=
        after_lstatSync hs (removed_before hchild fun _ => removeEntries_grows path rest)
      have hsteps : (Node.directory ((name, child) :: rest)).leadSteps =
          1 + (1 + (1 + (1 + child.leadSteps))) := by
        rw [Node.leadSteps]
        omega
      rw [hsteps]
      exact after_sameIdentity hs (after_lstatSync hs (after_lstatSync hs
        (removed_before hentries fun _ =>
          (sameIdentity_grows path).bind fun _ => rmdirSync_grows path _)))

/-! ## The undisturbed removal -/

mutual

theorem Node.prefix_of_mem_paths {path p : Path} : (node : Node) → p ∈ node.paths path →
    path <+: p
  | .file _, h => by
      rw [List.mem_singleton.mp h]
  | .symbolicLink, h => by
      rw [List.mem_singleton.mp h]
  | .special, h => by
      rw [List.mem_singleton.mp h]
  | .directory entries, h => by
      rcases List.mem_append.mp h with h | h
      · obtain ⟨entry, -, hp⟩ := prefix_of_mem_entryPaths entries h
        exact (List.prefix_append _ _).trans hp
      · rw [List.mem_singleton.mp h]

theorem prefix_of_mem_entryPaths {path p : Path} : (entries : List (String × Node)) →
    p ∈ entryPaths path entries → ∃ entry ∈ entries, path ++ [entry.1] <+: p
  | [], h => absurd h List.not_mem_nil
  | (name, child) :: rest, h => by
      rcases List.mem_append.mp h with h | h
      · exact ⟨(name, child), List.mem_cons_self, child.prefix_of_mem_paths h⟩
      · obtain ⟨entry, hentry, hp⟩ := prefix_of_mem_entryPaths rest h
        exact ⟨entry, List.mem_cons_of_mem _ hentry, hp⟩

end

theorem Node.mem_paths_self (path : Path) (node : Node) : path ∈ node.paths path := by
  cases node <;> simp [Node.paths]

theorem mem_entryPaths {path : Path} {entry : String × Node} :
    {entries : List (String × Node)} → entry ∈ entries →
      path ++ [entry.1] ∈ entryPaths path entries
  | (name, child) :: rest, h => by
      rw [entryPaths, List.mem_append]
      rcases List.mem_cons.mp h with rfl | h
      · exact .inl (child.mem_paths_self _)
      · exact .inr (mem_entryPaths h)

/-- Two entries with a path under both have one name. -/
theorem eq_of_prefix {path p : Path} {name name' : String} (h : path ++ [name] <+: p)
    (h' : path ++ [name'] <+: p) : name = name' := by
  have hfront := List.prefix_of_prefix_length_le h h' (by simp)
  simpa using hfront

mutual

/-- Undisturbed, a tree nothing of which is gone is removed. -/
theorem removeIdentityCheckedTree_clean {s : PurgeState} (path : Path) : (node : Node) →
    node.Removable → node.Distinct → (∀ p ∈ s.removed, ¬ path <+: p) →
      ∃ k, (removeIdentityCheckedTree path node).Clean s () k
        { s with removed := s.removed ++ node.paths path }
  | .file links, hlinks, _, hs => by
      have hpath : path ∉ s.removed := fun h => hs path h (List.prefix_refl _)
      have hsame := sameIdentity_clean hpath
      have hlstat := lstatSync_clean hpath
      have hunlink : (unlinkSync path).Clean s () 1 { s with removed := s.removed ++ [path] } :=
        clean_statement.mpr ⟨if_neg hpath, rfl⟩
      have hlinks : links = 1 := hlinks
      rw [removeIdentityCheckedTree, require, if_pos hlinks]
      exact ⟨_, hsame.bind (hlstat.bind (hsame.bind hunlink))⟩
  | .directory entries, hremovable, hdistinct, hs => by
      have hpath : path ∉ s.removed := fun h => hs path h (List.prefix_refl _)
      have hsame := sameIdentity_clean hpath
      have hlstat := lstatSync_clean hpath
      obtain ⟨k, hentries⟩ := removeEntries_clean path entries hremovable hdistinct.1 hdistinct.2
        fun p hp entry _ h => hs p hp ((List.prefix_append _ _).trans h)
      have hpath' : path ∉ s.removed ++ entryPaths path entries := by
        rw [List.mem_append, not_or]
        refine ⟨hpath, fun h => ?_⟩
        obtain ⟨entry, -, hp⟩ := prefix_of_mem_entryPaths entries h
        simpa using hp.length_le
      have hempty : ¬ (path ∈ s.removed ++ entryPaths path entries ∨
          ∃ entry ∈ entries, path ++ [entry.1] ∉ s.removed ++ entryPaths path entries) := by
        rintro (h | ⟨entry, hentry, h⟩)
        · exact hpath' h
        · exact h (List.mem_append_right _ (mem_entryPaths hentry))
      have hrmdir : (rmdirSync path entries).Clean
          { s with removed := s.removed ++ entryPaths path entries } () 1
          { s with removed := s.removed ++ entryPaths path entries ++ [path] } :=
        clean_statement.mpr ⟨if_neg hempty, rfl⟩
      rw [removeIdentityCheckedTree, Node.paths, ← List.append_assoc]
      exact ⟨_, hsame.bind (hlstat.bind (hlstat.bind (hentries.bind
        ((sameIdentity_clean hpath').bind hrmdir))))⟩

theorem removeEntries_clean {s : PurgeState} (path : Path) : (entries : List (String × Node)) →
    EntriesRemovable entries → (entries.map Prod.fst).Nodup → DistinctEntries entries →
      (∀ p ∈ s.removed, ∀ entry ∈ entries, ¬ path ++ [entry.1] <+: p) →
        ∃ k, (removeEntries path entries).Clean s () k
          { s with removed := s.removed ++ entryPaths path entries }
  | [], _, _, _, _ => ⟨0, by simpa [removeEntries, entryPaths] using Clean.pure () s⟩
  | (name, child) :: rest, hremovable, hnodup, hdistinct, hs => by
      rw [List.map_cons, List.nodup_cons] at hnodup
      have hpath : path ++ [name] ∉ s.removed := fun h =>
        hs _ h (name, child) List.mem_cons_self (List.prefix_refl _)
      have hlstat := lstatSync_clean hpath
      obtain ⟨k, hchild⟩ := removeIdentityCheckedTree_clean (path ++ [name]) child hremovable.1
        hdistinct.1 fun p hp => hs p hp (name, child) List.mem_cons_self
      have hs' : ∀ p ∈ s.removed ++ child.paths (path ++ [name]), ∀ entry ∈ rest,
          ¬ path ++ [entry.1] <+: p := by
        intro p hp entry hentry hfront
        rcases List.mem_append.mp hp with hp | hp
        · exact hs p hp entry (List.mem_cons_of_mem _ hentry) hfront
        · have hname := eq_of_prefix (child.prefix_of_mem_paths hp) hfront
          exact hnodup.1 (List.mem_map.mpr ⟨entry, hentry, hname.symm⟩)
      obtain ⟨l, hrest⟩ := removeEntries_clean
        (s := { s with removed := s.removed ++ child.paths (path ++ [name]) })
        path rest hremovable.2 hnodup.2 hdistinct.2 hs'
      rw [removeEntries, entryPaths, ← List.append_assoc]
      exact ⟨_, hlstat.bind (hchild.bind hrest)⟩

end

/-! ## The checks -/

section

variable {request : PurgeRequest} {s t : PurgeState} {k : ℕ}

theorem clean_look_bind {α β : Type} {a : Option α} {f : α → PurgeProgram β} {b : β} :
    (look a >>= f).Clean s b k t ↔ ∃ x, a = some x ∧ ∃ j, (f x).Clean s b j t ∧ k = 1 + j :=
  clean_bind_reads fun _ _ _ => clean_look

theorem clean_lookOr_bind {α β : Type} {a : Option α} {e : PurgeError} {f : α → PurgeProgram β}
    {b : β} : (lookOr a e >>= f).Clean s b k t ↔
      ∃ x, a = some x ∧ ∃ j, (f x).Clean s b j t ∧ k = 1 + j :=
  clean_bind_reads fun _ _ _ => clean_lookOr

theorem clean_call_bind {β : Type} {f : Unit → PurgeProgram β} {b : β} :
    (call >>= f).Clean s b k t ↔ ∃ j, (f ()).Clean s b j t ∧ k = 1 + j := by
  rw [call, clean_look_bind]
  exact ⟨fun ⟨_, _, h⟩ => h, fun h => ⟨(), rfl, h⟩⟩

theorem clean_sameParent_bind {β : Type} {f : Unit → PurgeProgram β} {b : β} :
    (orRebound sameParent >>= f).Clean s b k t ↔ ∃ j, (f ()).Clean s b j t ∧ k = 1 + j := by
  rw [clean_bind_reads (Q := fun _ => True) (n := 1) fun _ _ _ => by simp]
  exact ⟨fun ⟨_, _, h⟩ => h, fun h => ⟨(), trivial, h⟩⟩

theorem assertCanonicalDirectory_clean {path : Location} {code : String} {a : Unit} :
    (assertCanonicalDirectory path code).Clean s a k t ↔
      CanonicalDirectory path ∧ k = 2 ∧ t = s := by
  simp only [assertCanonicalDirectory, clean_require_bind, clean_lookOr_bind, clean_look_bind,
    clean_require, Option.some.injEq]
  constructor
  · rintro ⟨hnormal, details, hdetails, _, ⟨-, hkind, _, rfl, _, ⟨hreal, rfl, rfl⟩, rfl⟩, rfl⟩
    exact ⟨⟨hnormal, ⟨details, hdetails, hkind⟩, hreal⟩, rfl, rfl⟩
  · rintro ⟨⟨hnormal, ⟨details, hdetails, hkind⟩, hreal⟩, rfl, rfl⟩
    have hlink : details.kind ≠ .symbolicLink := by
      rw [hkind]
      decide
    exact ⟨hnormal, details, hdetails, 1, ⟨hlink, hkind, _, rfl, 0, ⟨hreal, rfl, rfl⟩, rfl⟩, rfl⟩

theorem assertCanonicalDirectory_bind {path : Location} {code : String} {β : Type}
    {f : Unit → PurgeProgram β} {b : β} :
    (assertCanonicalDirectory path code >>= f).Clean s b k t ↔
      CanonicalDirectory path ∧ ∃ j, (f ()).Clean s b j t ∧ k = 2 + j := by
  rw [clean_bind_reads fun _ _ _ => assertCanonicalDirectory_clean]
  exact ⟨fun ⟨_, h⟩ => h, fun h => ⟨(), h⟩⟩

theorem checkPaths_clean {a : Unit} :
    (checkPaths request).Clean s a k t ↔ PathsChecked request ∧ k = 6 ∧ t = s := by
  simp only [checkPaths, clean_require_bind, clean_lookOr_bind, clean_look_bind, clean_require,
    assertCanonicalDirectory_bind]
  constructor
  · rintro ⟨hmarker, hparent, _, ⟨details, hdetails, _, ⟨howned, hnormal, _, _, _,
      ⟨-, hroot, _, ⟨hinside, rfl, rfl⟩, rfl⟩, rfl⟩, rfl⟩, rfl⟩
    exact ⟨⟨hmarker, hparent, ⟨details, hdetails, howned⟩, hroot, hinside⟩, rfl, rfl⟩
  · rintro ⟨⟨hmarker, hparent, ⟨details, hdetails, howned⟩, hroot, hinside⟩, rfl, rfl⟩
    obtain ⟨rootDetails, hrootDetails, hkind⟩ := hroot.directory
    have hlink : rootDetails.kind ≠ .symbolicLink := by
      rw [hkind]
      decide
    exact ⟨hmarker, hparent, 4, ⟨details, hdetails, 3, ⟨howned, hroot.normal, rootDetails,
      hrootDetails, 2, ⟨hlink, hroot, 0, ⟨hinside, rfl, rfl⟩, rfl⟩, rfl⟩, rfl⟩, rfl⟩

theorem assertCanonicalDataRoot_clean {path : Location} {a : Unit} :
    (assertCanonicalDataRoot path).Clean s a k t ↔
      (path.normal = true ∧ path.details.isSome ∧ path.real = true) ∧ k = 4 ∧ t = s := by
  simp only [assertCanonicalDataRoot, clean_require_bind, clean_look_bind, clean_require,
    Option.some.injEq, Option.isSome_iff_exists]
  constructor
  · rintro ⟨hnormal, details, hdetails, _, ⟨_, rfl, _, ⟨-, _, -, _, ⟨_, rfl, _,
      ⟨hreal, rfl, rfl⟩, rfl⟩, rfl⟩, rfl⟩, rfl⟩
    exact ⟨⟨hnormal, ⟨details, hdetails⟩, hreal⟩, rfl, rfl⟩
  · rintro ⟨⟨hnormal, ⟨details, hdetails⟩, hreal⟩, rfl, rfl⟩
    exact ⟨hnormal, details, hdetails, 3, ⟨_, rfl, 2, ⟨hreal, details, hdetails, 1, ⟨_, rfl, 0,
      ⟨hreal, rfl, rfl⟩, rfl⟩, rfl⟩, rfl⟩, rfl⟩

theorem openLock_clean {links : ℕ} : (openLock request).Clean s links k t ↔
    request.tree.held.lookup LOCK_FILENAME = some (.file links) ∧ k = 1 ∧ t = s := by
  unfold openLock
  split
  · next n h => simp [h]
  · next h => simp [h, clean_bind]
  · next h h' =>
      simp only [clean_look, reduceCtorEq, false_and, false_iff, not_and]
      exact fun hfile => absurd hfile (h links)

theorem checkLock_clean {links : ℕ} {a : Unit} : (checkLock request links).Clean s a k t ↔
    (links = 1 ∧ (∀ user ∈ request.user, request.lockUid = user) ∧ request.lockBusy = false) ∧
      k = 3 ∧ t = s := by
  simp only [checkLock, clean_call_bind, clean_require_bind, clean_require]
  constructor
  · rintro ⟨_, ⟨hlinks, huser, _, ⟨_, ⟨hbusy, rfl, rfl⟩, rfl⟩, rfl⟩, rfl⟩
    exact ⟨⟨hlinks, huser, hbusy⟩, rfl, rfl⟩
  · rintro ⟨⟨hlinks, huser, hbusy⟩, rfl, rfl⟩
    exact ⟨2, ⟨hlinks, huser, 1, ⟨0, ⟨hbusy, rfl, rfl⟩, rfl⟩, rfl⟩, rfl⟩

theorem recordLock_clean {a : Unit} : recordLock.Clean s a k t ↔ k = 3 ∧ t = s := by
  simp only [recordLock, clean_call_bind, clean_call]
  constructor
  · rintro ⟨_, ⟨_, ⟨rfl, rfl⟩, rfl⟩, rfl⟩
    exact ⟨rfl, rfl⟩
  · rintro ⟨rfl, rfl⟩
    exact ⟨2, ⟨1, ⟨rfl, rfl⟩, rfl⟩, rfl⟩

theorem acquireDataRootWriterLock_clean {a : Unit} :
    (acquireDataRootWriterLock request).Clean s a k t ↔
      (request.root.normal = true ∧ request.root.details.isSome ∧ request.root.real = true) ∧
        LockFree request ∧ k = 17 ∧ t = s := by
  have hcheck : ∀ links a i u, ((checkLock request links).attempt fun e => do
      call
      .throw e).Clean s a i u ↔ _ := fun links a i u =>
    (clean_attempt fun e s a k t h => by simp [clean_bind] at h).trans checkLock_clean
  have hrecord : ∀ a i u, (recordLock.attempt fun e => do
      call.attempt fun _ => .pure ()
      call
      .throw e).Clean s a i u ↔ _ := fun a i u =>
    (clean_attempt fun e s a k t h => by simp [clean_bind] at h).trans recordLock_clean
  simp only [acquireDataRootWriterLock, clean_call_bind,
    clean_bind_reads fun _ _ _ => assertCanonicalDataRoot_clean,
    clean_bind_reads fun _ _ _ => openLock_clean, clean_bind_reads (hcheck _), hrecord]
  constructor
  · rintro ⟨_, hroot, _, ⟨_, ⟨_, -, _, ⟨_, ⟨links, hfile, _, ⟨_, ⟨rfl, huser, hbusy⟩, _,
      ⟨rfl, rfl⟩, rfl⟩, rfl⟩, rfl⟩, rfl⟩, rfl⟩, rfl⟩
    exact ⟨hroot, ⟨hfile, huser, hbusy⟩, rfl, rfl⟩
  · rintro ⟨hroot, ⟨hfile, huser, hbusy⟩, rfl, rfl⟩
    exact ⟨(), hroot, 13, ⟨12, ⟨(), hroot, 8, ⟨7, ⟨1, hfile, 6, ⟨(), ⟨rfl, huser, hbusy⟩, 3,
      ⟨rfl, rfl⟩, rfl⟩, rfl⟩, rfl⟩, rfl⟩, rfl⟩, rfl⟩

/-- The rows read with the database open. -/
theorem readReferences_clean {references : List JsString} :
    (do
      let rows ← look request.profiles
      let references := rows.filterMap profileReference
      require (references.Nodup ∧ ∀ reference ∈ references, isCredentialReference reference)
        (.code "purge_credential_reference_invalid")
      .pure references : PurgeProgram (List JsString)).Clean s references k t ↔
      ((request.profiles.map fun rows => rows.filterMap profileReference).filter
        fun references => references.Nodup ∧
          ∀ reference ∈ references, isCredentialReference reference) = some references ∧
        k = 1 ∧ t = s := by
  simp only [clean_look_bind, clean_require_bind, Option.filter_eq_some_iff,
    Option.map_eq_some_iff, decide_eq_true_eq]
  constructor
  · rintro ⟨rows, hrows, _, ⟨hgood, ⟨⟩⟩, rfl⟩
    exact ⟨⟨⟨rows, hrows, rfl⟩, hgood⟩, rfl, rfl⟩
  · rintro ⟨⟨⟨rows, hrows, rfl⟩, hgood⟩, rfl, rfl⟩
    exact ⟨rows, hrows, 0, ⟨hgood, .pure _ _⟩, rfl⟩

theorem rootCredentialReferences_clean {references : List JsString} :
    (rootCredentialReferences request).Clean s references k t ↔
      storedReferences request = some references ∧
        k = (1 + if DATABASE_FILE ∈ request.tree.held.map Prod.fst then 3 else 0) ∧ t = s := by
  simp only [rootCredentialReferences, storedReferences,
    clean_bind_reads fun _ _ _ => clean_existsSync, exists_eq_left, decide_eq_true_eq]
  split
  · simp only [clean_call_bind, clean_finallyDo, readReferences_clean, clean_call]
    constructor
    · rintro ⟨_, ⟨_, ⟨_, _, _, ⟨hrows, rfl, rfl⟩, ⟨rfl, rfl⟩, rfl⟩, rfl⟩, rfl⟩
      exact ⟨hrows, rfl, rfl⟩
    · rintro ⟨hrows, rfl, rfl⟩
      exact ⟨3, ⟨2, ⟨1, t, 1, ⟨hrows, rfl, rfl⟩, ⟨rfl, rfl⟩, rfl⟩, rfl⟩, rfl⟩
  · constructor
    · rintro ⟨_, ⟨⟩, rfl⟩
      exact ⟨rfl, rfl, rfl⟩
    · rintro ⟨⟨⟩, rfl, rfl⟩
      exact ⟨0, .pure _ _, rfl⟩

theorem file_one {node : Node} (h : (node matches .file 1) = true) : node = .file 1 := by
  split at h
  · rfl
  · cases h

theorem checkMarker_clean {references : List JsString} (hs : s.removed = []) :
    (checkMarker request).Clean s references k t ↔
      MarkerChecked request references ∧ k = markerSteps request ∧ t = s := by
  have hpath : ∀ path, path ∉ s.removed := fun path => hs ▸ List.not_mem_nil
  simp only [checkMarker, clean_bind_reads fun _ _ _ => clean_lstatSync, clean_call_bind,
    clean_bind_reads fun _ _ _ => validatePurgeTree_clean hs _ _, clean_lookOr_bind,
    clean_orThrow_bind, clean_require_bind, clean_look_bind,
    clean_bind_reads fun _ _ _ => rootCredentialReferences_clean,
    clean_sameParent_bind, clean_bind_reads fun _ _ _ => clean_orRebound_sameIdentity,
    clean_bind_reads fun _ _ _ => clean_existsSync]
  constructor
  · rintro ⟨_, -, _, ⟨_, ⟨_, htree, _, ⟨marker, hmarker, _, ⟨_, hreferences, hgood, _, hstored, _,
      ⟨rfl, _, hfile, _, ⟨hone, _, -, _, ⟨_, ⟨_, -, _, ⟨_, -, _, ⟨_, rfl, _, ⟨-, ⟨⟩⟩, rfl⟩, rfl⟩,
      rfl⟩, rfl⟩, rfl⟩, rfl⟩, rfl⟩, rfl⟩, rfl⟩, rfl⟩, rfl⟩
    refine ⟨⟨htree, ⟨marker, hmarker, hreferences⟩, hgood, hstored, ?_⟩, ?_, rfl⟩
    · rw [hfile, file_one hone]
    · rw [markerSteps, Node.steps]
      omega
  · rintro ⟨⟨htree, ⟨marker, hmarker, hreferences⟩, hgood, hstored, hfile⟩, rfl, rfl⟩
    refine ⟨(), hpath _, _, ⟨_, ⟨(), htree, _, ⟨marker, hmarker, _, ⟨references, hreferences,
      hgood, references, hstored, _, ⟨rfl, .file 1, hfile, _, ⟨rfl, (), hpath _, _, ⟨_,
      ⟨(), hpath _, _, ⟨(), hpath _, _, ⟨false, rfl, 0, ⟨rfl, .pure _ _⟩, rfl⟩, rfl⟩, rfl⟩,
      rfl⟩, rfl⟩, rfl⟩, rfl⟩, rfl⟩, rfl⟩, rfl⟩, ?_⟩
    rw [markerSteps, Node.steps]
    omega

end

/-! ## What only reads -/

theorem look_readOnly {α : Type} (a : Option α) : (look a).ReadOnly := by
  refine .stmt (fun s b s' h => ?_) fun r => ?_
  · split at h
    · cases h
      rfl
    · cases h
  · cases r
    · exact .throw _
    · exact .pure _

theorem lookOr_readOnly {α : Type} (a : Option α) (e : PurgeError) : (lookOr a e).ReadOnly :=
  (look_readOnly a).attempt fun _ => .throw _

theorem call_readOnly : call.ReadOnly := look_readOnly _

theorem existsSync_readOnly (read : PurgeState → Bool) : (existsSync read).ReadOnly :=
  (ReadOnly.query read).attempt fun _ => .pure _

theorem releaseLock_readOnly : releaseLock.ReadOnly := call_readOnly.finallyDo call_readOnly

theorem syncPath_readOnly : syncPath.ReadOnly :=
  call_readOnly.bind fun _ => releaseLock_readOnly

theorem assertCanonicalDirectory_readOnly (path : Location) (code : String) :
    (assertCanonicalDirectory path code).ReadOnly :=
  (ReadOnly.require _ _).bind fun _ => (lookOr_readOnly _ _).bind fun _ =>
    (ReadOnly.require _ _).bind fun _ => (ReadOnly.require _ _).bind fun _ =>
      (look_readOnly _).bind fun _ => .require _ _

theorem checkPaths_readOnly (request : PurgeRequest) : (checkPaths request).ReadOnly :=
  (ReadOnly.require _ _).bind fun _ => (assertCanonicalDirectory_readOnly _ _).bind fun _ =>
    (look_readOnly _).bind fun _ => (ReadOnly.require _ _).bind fun _ =>
      (ReadOnly.require _ _).bind fun _ => (lookOr_readOnly _ _).bind fun _ =>
        (ReadOnly.require _ _).bind fun _ =>
          (assertCanonicalDirectory_readOnly _ _).bind fun _ => .require _ _

theorem assertCanonicalDataRoot_readOnly (path : Location) :
    (assertCanonicalDataRoot path).ReadOnly :=
  (ReadOnly.require _ _).bind fun _ => (look_readOnly _).bind fun _ =>
    (look_readOnly _).bind fun _ => (ReadOnly.require _ _).bind fun _ =>
      (look_readOnly _).bind fun _ => (look_readOnly _).bind fun _ => .require _ _

theorem openLock_readOnly (request : PurgeRequest) : (openLock request).ReadOnly := by
  unfold openLock
  split
  · exact look_readOnly _
  · exact (look_readOnly _).bind fun _ => .throw _
  · exact look_readOnly _

theorem checkLock_readOnly (request : PurgeRequest) (links : ℕ) :
    (checkLock request links).ReadOnly :=
  call_readOnly.bind fun _ => (ReadOnly.require _ _).bind fun _ =>
    (ReadOnly.require _ _).bind fun _ => call_readOnly.bind fun _ => call_readOnly.bind fun _ =>
      .require _ _

theorem acquireDataRootWriterLock_readOnly (request : PurgeRequest) :
    (acquireDataRootWriterLock request).ReadOnly :=
  (assertCanonicalDataRoot_readOnly _).bind fun _ => call_readOnly.bind fun _ =>
    (assertCanonicalDataRoot_readOnly _).bind fun _ => call_readOnly.bind fun _ =>
      (openLock_readOnly request).bind fun links =>
        ((checkLock_readOnly request links).attempt fun _ =>
          call_readOnly.bind fun _ => .throw _).bind fun _ =>
            (call_readOnly.bind fun _ => call_readOnly.bind fun _ => call_readOnly).attempt
              fun _ => (call_readOnly.attempt fun _ => .pure _).bind fun _ =>
                call_readOnly.bind fun _ => .throw _

theorem rootCredentialReferences_readOnly (request : PurgeRequest) :
    (rootCredentialReferences request).ReadOnly := by
  refine (existsSync_readOnly _).bind fun there => ?_
  split
  · exact call_readOnly.bind fun _ => ((look_readOnly _).bind fun _ =>
      (ReadOnly.require _ _).bind fun _ => .pure _).finallyDo call_readOnly
  · exact .pure _

theorem checkMarker_readOnly (request : PurgeRequest) : (checkMarker request).ReadOnly :=
  (lstatSync_strict _).readOnly.bind fun _ => call_readOnly.bind fun _ =>
    (validatePurgeTree_strict _ _).readOnly.bind fun _ => (lookOr_readOnly _ _).bind fun _ =>
      (ReadOnly.orThrow _ _).bind fun _ => (ReadOnly.require _ _).bind fun _ =>
        (rootCredentialReferences_readOnly request).bind fun _ =>
          (ReadOnly.require _ _).bind fun _ => (look_readOnly _).bind fun _ =>
            (ReadOnly.require _ _).bind fun _ => (lstatSync_strict _).readOnly.bind fun _ =>
              sameParent_strict.readOnly.bind fun _ =>
                (sameIdentity_strict _).readOnly.bind fun _ =>
                  (sameIdentity_strict _).readOnly.bind fun _ =>
                    (existsSync_readOnly _).bind fun _ =>
                      (ReadOnly.require _ _).bind fun _ => .pure _

/-! ## The quarantine -/

section

variable {request : PurgeRequest} {s : PurgeState}

theorem DistinctEntries.append : {entries entries' : List (String × Node)} →
    DistinctEntries entries → DistinctEntries entries' → DistinctEntries (entries ++ entries')
  | [], _, _, h' => h'
  | _ :: _, _, h, h' => ⟨h.1, h.2.append h'⟩

theorem DataRoot.held_distinct (root : DataRoot) : (Node.directory root.held).Distinct := by
  obtain ⟨hnodup, hentries⟩ := root.distinct
  unfold DataRoot.held
  split
  · exact root.distinct
  · next h =>
      refine ⟨?_, hentries.append ⟨trivial, trivial⟩⟩
      rw [List.map_append, List.nodup_append]
      refine ⟨hnodup, List.nodup_singleton _, fun name hname other hother heq => h ?_⟩
      rw [List.map_singleton, List.mem_singleton] at hother
      obtain rfl : name = LOCK_FILENAME := heq.trans hother
      exact hname

theorem Node.firstRemoved_mem (path : Path) : (node : Node) →
    node.firstRemoved path ∈ node.paths path
  | .file _ => List.mem_singleton_self _
  | .symbolicLink => List.mem_singleton_self _
  | .special => List.mem_singleton_self _
  | .directory [] => List.mem_singleton_self _
  | .directory ((name, child) :: _) =>
      List.mem_append_left _ (List.mem_append_left _ (child.firstRemoved_mem (path ++ [name])))

/-- The first path removed is one of the root's own: there is at least the marker. -/
theorem firstRemoved_mem_paths (h : request.tree.held.lookup MARKER_FILE = some (.file 1)) :
    (Node.directory request.tree.held).firstRemoved [] ∈ request.tree.paths := by
  unfold DataRoot.held at h ⊢
  unfold DataRoot.paths
  split at h
  · next hlock =>
      rw [if_pos hlock]
      exact Node.firstRemoved_mem _ _
  · next hlock =>
      rw [if_neg hlock]
      cases hentries : request.tree.entries with
      | nil =>
          rw [hentries] at h
          have hname : (MARKER_FILE == LOCK_FILENAME) = false := by decide
          simp [List.lookup_cons, hname] at h
      | cons entry rest =>
          exact Node.firstRemoved_mem [] (.directory (entry :: rest))

theorem removeQuarantine_commits (hs : s.removed = [])
    (htree : EntriesRemovable request.tree.held) :
    (removeQuarantine request).CommitsAt .filesystem s
      (3 + (Node.directory request.tree.held).steps +
        (Node.directory request.tree.held).leadSteps)
      fun t => (Node.directory request.tree.held).firstRemoved [] ∈ t.removed := by
  have hremove := removeIdentityCheckedTree_commits hs [] (.directory request.tree.held) htree
  have hvalidate : (validatePurgeTree [] (.directory request.tree.held)).Clean s () _ s :=
    (validatePurgeTree_clean hs [] _).mpr ⟨htree, rfl, rfl⟩
  have htail : (validatePurgeTree [] (.directory request.tree.held) >>= fun _ =>
      removeIdentityCheckedTree [] (.directory request.tree.held) >>= fun _ =>
        syncPath).CommitsAt .filesystem s _ _ :=
    .bind_right (validatePurgeTree_strict [] _) hvalidate
      (removed_before hremove fun _ => syncPath_readOnly.always Grows.refl)
  have hsteps : 3 + (Node.directory request.tree.held).steps +
      (Node.directory request.tree.held).leadSteps =
      1 + (1 + (1 + ((Node.directory request.tree.held).steps +
        (Node.directory request.tree.held).leadSteps))) := by omega
  rw [hsteps]
  exact after_sameIdentity hs (after_sameParent (after_sameIdentity hs htail))

theorem removeQuarantine_clean (hs : s.removed = [])
    (htree : EntriesRemovable request.tree.held) :
    ∃ k t, (removeQuarantine request).Clean s () k t := by
  obtain ⟨k, hremove⟩ := removeIdentityCheckedTree_clean (s := s) []
    (.directory request.tree.held) htree request.tree.held_distinct (by simp [hs])
  have hsame := @sameIdentity_clean s [] (by simp [hs])
  have hparent : (orRebound sameParent).Clean s () 1 s :=
    clean_orRebound_sameParent.mpr ⟨rfl, rfl⟩
  have hvalidate : (validatePurgeTree [] (.directory request.tree.held)).Clean s () _ s :=
    (validatePurgeTree_clean hs [] _).mpr ⟨htree, rfl, rfl⟩
  exact ⟨_, _, hsame.bind (hparent.bind (hsame.bind (hvalidate.bind
    (hremove.bind (syncPath_clean _)))))⟩

theorem restoreRoot_clean (hs : s.removed = []) (hplace : s.place = .quarantine) :
    ∃ k, restoreRoot.Clean s () k { s with place := .root } := by
  have hsame : (sameIdentity []).Clean s true 1 s :=
    clean_sameIdentity.mpr ⟨by simp [hs], rfl, rfl⟩
  have hfree : (existsSync fun s => s.place = .root).Clean s false 1 s :=
    clean_existsSync.mpr ⟨by simp [hplace], rfl, rfl⟩
  have hparent : sameParent.Clean s true 1 s := clean_sameParent.mpr ⟨rfl, rfl, rfl⟩
  have hrename : (renameSync .root).Clean s () 1 { s with place := .root } :=
    clean_statement.mpr ⟨rfl, rfl⟩
  exact ⟨_, hsame.bind (hfree.bind (hparent.bind (hrename.bind (syncPath_clean _))))⟩

end

/-! ## The purge -/

theorem deleteCredentials_clean (s : PurgeState) : (references : List JsString) →
    ∃ k t, (deleteCredentials references).Clean s () k t
  | [] => ⟨0, s, .pure _ _⟩
  | reference :: rest => by
      have hdelete : (deleteCredential reference).Clean s () 1
          { s with deleted := s.deleted ++ [reference] } := clean_statement.mpr ⟨rfl, rfl⟩
      obtain ⟨k, t, hrest⟩ := deleteCredentials_clean
        { s with deleted := s.deleted ++ [reference] } rest
      exact ⟨_, t, hdelete.bind hrest⟩

theorem finishPurge_clean (s : PurgeState) (references : List JsString) :
    ∃ a k t, (finishPurge references).Clean s a k t := by
  obtain ⟨k, t, hdelete⟩ := deleteCredentials_clean s references
  exact ⟨_, _, t, hdelete.bind (.pure _ t)⟩

theorem deleteCredentials_grows : (references : List JsString) →
    (deleteCredentials references).Always Grows
  | [] => .pure ()
  | _ :: rest => (Always.statement fun s b s' h => by cases h; exact Grows.refl _).bind fun _ =>
      deleteCredentials_grows rest

theorem restoreName_grows (e : PurgeError) : (restoreName e).Always Grows := by
  have hsame : (sameIdentity []).ReadOnly :=
    ((lstatSync_strict []).readOnly.bind fun _ => .pure _).attempt fun _ => .pure _
  have hparent : sameParent.ReadOnly :=
    (call_readOnly.bind fun _ => .pure _).attempt fun _ => .pure _
  have hrename : (renameSync .root).Always Grows :=
    .statement fun s b s' h => by cases h; exact Grows.refl _
  refine Always.bind (p := restoreRoot) ?_ fun _ => .throw e
  refine (hsame.always Grows.refl).bind fun same => ?_
  split
  · refine ((existsSync_readOnly _).always Grows.refl).bind fun occupied => ?_
    split
    · refine (hparent.always Grows.refl).bind fun parent => ?_
      split
      · exact hrename.bind fun _ => syncPath_readOnly.always Grows.refl
      · exact .pure _
    · exact .pure _
  · exact .pure _

section

variable {request : PurgeRequest} {failing : ℕ}

theorem intact_start : Intact request {} := ⟨rfl, fun _ _ => List.not_mem_nil, rfl⟩

theorem renameSync_clean (s : PurgeState) (place : Place) :
    (renameSync place).Clean s () 1 { s with place := place } := clean_statement.mpr ⟨rfl, rfl⟩

/-- A fault past the first path removed leaves it removed. -/
theorem purgeLocked_late {references : List JsString}
    (hmarker : MarkerChecked request references) {n : ℕ}
    (hfault : n + markerSteps request + 1 + quarantineSteps request < failing) :
    (Node.directory request.tree.held).firstRemoved [] ∈
      ((purgeLocked request).execute failing .filesystem n {}).2.2.removed := by
  have hcheck := (checkMarker_clean (s := {}) rfl).mpr ⟨hmarker, rfl, rfl⟩
  have hrename := renameSync_clean {} .quarantine
  have hcommits := removeQuarantine_commits (s := { place := .quarantine }) rfl hmarker.tree
  rw [purgeLocked, execute_bind_ok (hcheck.execute (by omega)),
    execute_bind_ok (hrename.execute (by omega))]
  have hdone : _ ∈ ((removeQuarantine request).execute failing .filesystem _ _).2.2.removed :=
    hcommits.late failing _ (.inr hfault)
  have hrestored := done_attempt hdone fun e =>
    (restoreName_grows e).mono fun s t (h : Grows s t) => h _
  have hfinish : (finishPurge references).Always Grows :=
    (deleteCredentials_grows references).bind fun _ => .pure _
  exact done_bind hrestored fun _ => hfinish.mono fun s t (h : Grows s t) => h _

/-- Past the last fault the quarantine is removed and the purge returns. -/
theorem quarantine_returns (htree : EntriesRemovable request.tree.held)
    (references : List JsString) {n : ℕ} (hn : failing < n) :
    ∃ a m t, failing < m ∧ ((removeQuarantine request).attempt restoreName >>= fun _ =>
      finishPurge references).execute failing .filesystem n { place := .quarantine } =
        (.ok a, m, t) := by
  obtain ⟨k, t, hremove⟩ := removeQuarantine_clean (s := { place := .quarantine }) rfl htree
  have hattempt : ((removeQuarantine request).attempt restoreName).Clean _ () k t :=
    hremove.attempt
  obtain ⟨a, l, u, hfinish⟩ := finishPurge_clean t references
  exact ⟨a, _, u, by omega, (hattempt.bind hfinish).execute (.inl hn)⟩

/-- An error before the first path is removed leaves the root under its name again. -/
theorem quarantine_restored (htree : EntriesRemovable request.tree.held)
    {β : Type} (f : Unit → PurgeProgram β) {n : ℕ} (hn : n ≤ failing)
    (hfault : failing ≤ n + quarantineSteps request) :
    ∃ e m, ((removeQuarantine request).attempt restoreName >>= f).execute failing .filesystem n
      { place := .quarantine } = (.error e, m, {}) := by
  obtain ⟨e, m, hm, hremove⟩ :=
    (removeQuarantine_commits (s := { place := .quarantine }) rfl htree).early failing n hn hfault
  obtain ⟨k, hrestore⟩ := restoreRoot_clean (s := { place := .quarantine }) rfl rfl
  have hrestored : (restoreName e).execute failing .filesystem m { place := .quarantine } =
      (.error e, m + k, {}) := execute_bind_ok (hrestore.execute (.inl hm))
  refine ⟨e, m + k, execute_bind_error ?_⟩
  rw [execute_attempt, hremove]
  exact hrestored

/-- A purge that throws by then has its root back, or never moved it. -/
theorem purgeLocked_early {n m : ℕ} {t : PurgeState} {r : Except PurgeError LifecycleEvidence}
    (h : (purgeLocked request).execute failing .filesystem n {} = (r, m, t))
    (hr : failing < m → ∃ e, r = .error e)
    (hfault : (∃ references, MarkerChecked request references) → n ≤ failing →
      failing ≤ n + markerSteps request + 1 + quarantineSteps request) :
    Intact request t := by
  rw [purgeLocked, execute_bind] at h
  rcases hcheck : (checkMarker request).execute failing .filesystem n {} with
    ⟨e | references, m₁, s₁⟩
  · obtain rfl := (checkMarker_readOnly request).execute hcheck
    rw [hcheck] at h
    obtain rfl : {} = t := congrArg (fun x => x.2.2) h
    exact intact_start
  obtain rfl := (checkMarker_readOnly request).execute hcheck
  rw [hcheck] at h
  dsimp only at h
  by_cases hrename : failing = m₁
  · -- the rename fails
    have hfail : (renameSync .quarantine).execute failing .filesystem m₁ {} =
        (.error .filesystem, m₁ + 1, {}) := by
      rw [renameSync, Program.statement, Program.execute, if_pos hrename.symm]
      rfl
    rw [execute_bind_error hfail] at h
    obtain rfl : {} = t := congrArg (fun x => x.2.2) h
    exact intact_start
  rw [execute_bind_ok ((renameSync_clean {} .quarantine).execute (by omega))] at h
  rcases Nat.lt_or_ge failing m₁ with hlt | hge
  · -- the fault has been met and passed over, and nothing throws any more
    have htree : EntriesRemovable request.tree.held := by
      have hreturns := returns_of_execute hcheck
      simp only [checkMarker, returns_bind] at hreturns
      obtain ⟨_, _, -, _, _, -, _, _, hvalidate, -⟩ := hreturns
      exact validatePurgeTree_returns [] (.directory request.tree.held) hvalidate
    obtain ⟨a, m₂, u, hm, hok⟩ := quarantine_returns htree references (Nat.lt_succ_of_lt hlt)
    rw [hok] at h
    cases h
    obtain ⟨e, he⟩ := hr hm
    cases he
  · have hclean := clean_of_execute hcheck (.inr hge)
    obtain ⟨hmarker, hsteps, -⟩ := (checkMarker_clean rfl).mp hclean
    have hle := le_execute hcheck
    have hlast := hfault ⟨references, hmarker⟩ (by omega)
    have hstart : m₁ + 1 ≤ failing := by omega
    have hend : failing ≤ m₁ + 1 + quarantineSteps request := by omega
    obtain ⟨e, m₂, hrestored⟩ := quarantine_restored hmarker.tree
      (fun _ => finishPurge references) hstart hend
    obtain rfl : {} = t := congrArg (fun x => x.2.2) (hrestored.symm.trans h)
    exact intact_start

end

/-- A root with its marker and the lock's file, without a database. -/
def smallRequest : PurgeRequest :=
  let location (names : List String) : Location :=
    { normal := true, names, details := some ⟨.directory, 0o700, 501⟩, real := true }
  { markerId := ofString "0123456789abcdef0123456789abcdef"
    allowedParent := location ["private", "tmp"]
    root := location ["private", "tmp", "root"]
    tree :=
      ⟨[(MARKER_FILE, .file 1), (LOCK_FILENAME, .file 1)], by decide, trivial, trivial, trivial⟩
    user := some 501
    lockUid := 501
    lockBusy := false
    marker := some (.obj [
      (ofString "schemaVersion", .num 1), (ofString "bundleIdentifier", .str BUNDLE_IDENTIFIER),
      (ofString "markerId", .str (ofString "0123456789abcdef0123456789abcdef")),
      (ofString "credentialReferences", .arr [])])
    profiles := none }

/-- What a purge of it leaves where unlinking the second file fails. -/
theorem smallRequest_second : (purgeDisposableDataRoot smallRequest).execute 57 .filesystem 0 {} =
    (.error .filesystem, 67, { removed := [[MARKER_FILE]] }) := by
  rfl

end GreenRoom.Db
