import GreenRoom.Lib.Execution
import GreenRoom.Lib.Json
import GreenRoom.Providers.CredentialStore

/-!
# Purging a disposable data root

`purgeDisposableDataRoot` of `db/lifecycle.ts` and the writer lock it holds meanwhile, of
`runtime/data-root-lock.ts`.  Every call of the filesystem is a statement that may fail, and so
is every deletion of a credential, which comes last and counts among the failing steps; between
the calls nobody else touches the tree, so that an identity read twice is the same as long as
its path is there.  The calls change where the root lies, which paths of it are
gone and which credentials are deleted; the record the lock writes into its own file is
not followed.

## Main definitions

* `Node`, `DataRoot` — the tree under a data root, no two entries of a directory with one
  name.
* `PurgeRequest` — what the purge is asked for and what it finds.
* `validatePurgeTree`, `removeIdentityCheckedTree`, `purgeDisposableDataRoot`
* `Intact` — the root at its path with all its contents, and no credential deleted.
-/

namespace GreenRoom.Db

open JsString Providers

/-! ## The tree -/

/-- What `lstat` tells of a path, and what a directory lists. -/
inductive Node
  | file (links : ℕ)
  | symbolicLink
  | special
  | directory (entries : List (String × Node))
  deriving Repr

/-- A path under the root, by its names; the root itself is `[]`. -/
abbrev Path := List String

mutual

/-- The paths of the tree at `path`, a directory after what it holds. -/
def Node.paths (path : Path) : Node → List Path
  | .directory entries => entryPaths path entries ++ [path]
  | _ => [path]

def entryPaths (path : Path) : List (String × Node) → List Path
  | [] => []
  | (name, child) :: rest => child.paths (path ++ [name]) ++ entryPaths path rest

end

mutual

/-- No directory has two entries with one name. -/
def Node.Distinct : Node → Prop
  | .directory entries => (entries.map Prod.fst).Nodup ∧ DistinctEntries entries
  | _ => True

def DistinctEntries : List (String × Node) → Prop
  | [] => True
  | (_, child) :: rest => child.Distinct ∧ DistinctEntries rest

end

/-- The directory a root is. -/
structure DataRoot where
  entries : List (String × Node)
  distinct : (Node.directory entries).Distinct

def DATABASE_FILE : String := "greenroom.sqlite"

def MARKER_FILE : String := ".greenroom-disposable-root.json"

def LOCK_FILENAME : String := ".greenroom-writer.lock"

def BUNDLE_IDENTIFIER : JsString := ofString "net.greenroomai.GreenRoom"

/-- The paths of the root. -/
def DataRoot.paths (root : DataRoot) : List Path := (Node.directory root.entries).paths []

/-- The entries while the lock is held: opening the lock creates its file if there is none,
and a new entry is listed last. -/
def DataRoot.held (root : DataRoot) : List (String × Node) :=
  if LOCK_FILENAME ∈ root.entries.map Prod.fst then root.entries
  else root.entries ++ [(LOCK_FILENAME, .file 1)]

/-! ## What the purge finds -/

inductive Kind
  | file
  | symbolicLink
  | special
  | directory
  deriving DecidableEq, Repr

structure Details where
  kind : Kind
  mode : ℕ
  uid : ℕ
  deriving DecidableEq, Repr

/-- An absolute or other path and what is there. -/
structure Location where
  /-- `isAbsolute(path) && resolve(path) === path`. -/
  normal : Bool
  /-- Its names, where it is normal. -/
  names : List String
  details : Option Details
  /-- `realpathSync(path) === path`. -/
  real : Bool
  deriving DecidableEq, Repr

structure PurgeRequest where
  markerId : JsString
  allowedParent : Location
  root : Location
  tree : DataRoot
  /-- `process.getuid()`, where there is one. -/
  user : Option ℕ
  /-- Whose the lock file is, and whether another writer holds the lock. -/
  lockUid : ℕ
  lockBusy : Bool
  /-- The marker file read as JSON. -/
  marker : Option (Json ℤ)
  /-- `profile_json` of the newest enabled revisions, by profile; `none` if the database
  cannot be read. -/
  profiles : Option (List (Json ℤ))

structure LifecycleEvidence where
  code : String
  schemaVersion : ℕ
  credentialReferenceCount : ℕ
  externalPathsTouched : ℕ
  deriving DecidableEq, Repr

inductive PurgeError
  /-- `fail(code)`. -/
  | code (code : String)
  /-- Another error of the code's own. -/
  | message (message : String)
  | dataRootInUse
  /-- A call that failed. -/
  | filesystem
  deriving DecidableEq, Repr

inductive Place
  | root
  | quarantine
  deriving DecidableEq, Repr

structure PurgeState where
  /-- Where the tree lies. -/
  place : Place := .root
  /-- The paths unlinked. -/
  removed : List Path := []
  /-- The credentials deleted. -/
  deleted : List JsString := []
  deriving DecidableEq, Repr

abbrev PurgeProgram := Program PurgeState PurgeError

open Program

/-! ## Calls of the filesystem -/

/-- A call that answers `a`, or fails if there is none. -/
def look {α : Type} (a : Option α) : PurgeProgram α :=
  statement fun s => match a with
    | some a => .ok (a, s)
    | none => .error .filesystem

/-- `try { look } catch { throw e }`. -/
def lookOr {α : Type} (a : Option α) (e : PurgeError) : PurgeProgram α :=
  (look a).attempt fun _ => .throw e

/-- A call that answers nothing and changes nothing that is followed. -/
def call : PurgeProgram Unit := look (some ())

/-- `existsSync`: no, where it fails. -/
def existsSync (read : PurgeState → Bool) : PurgeProgram Bool :=
  (query read).attempt fun _ => .pure false

/-- `lstatSync` of a path of the tree. -/
def lstatSync (path : Path) : PurgeProgram Unit :=
  statement fun s => if path ∈ s.removed then .error .filesystem else .ok ((), s)

def readdirSync (path : Path) : PurgeProgram Unit := lstatSync path

def unlinkSync (path : Path) : PurgeProgram Unit :=
  statement fun s => if path ∈ s.removed then .error .filesystem
    else .ok ((), { s with removed := s.removed ++ [path] })

/-- A directory that is not empty is not removed. -/
def rmdirSync (path : Path) (entries : List (String × Node)) : PurgeProgram Unit :=
  statement fun s =>
    if path ∈ s.removed ∨ ∃ entry ∈ entries, path ++ [entry.1] ∉ s.removed then
      .error .filesystem
    else .ok ((), { s with removed := s.removed ++ [path] })

def renameSync (target : Place) : PurgeProgram Unit :=
  statement fun s => .ok ((), { s with place := target })

/-- `sameIdentity` of a path of the tree. -/
def sameIdentity (path : Path) : PurgeProgram Bool :=
  (do lstatSync path; .pure true).attempt fun _ => .pure false

/-- `sameIdentity` of the allowed parent. -/
def sameParent : PurgeProgram Bool :=
  (do call; .pure true).attempt fun _ => .pure false

/-- `if (!same) fail("purge_root_rebound")`. -/
def orRebound (same : PurgeProgram Bool) : PurgeProgram Unit := do
  let b ← same
  require (b = true) (.code "purge_root_rebound")

/-- Open, `fsync`, and close whatever happens. -/
def syncPath : PurgeProgram Unit := do
  call
  finallyDo call call

/-! ## The checks -/

/-- `/^[0-9a-f]{32}$/`. -/
def isMarkerId (s : JsString) : Bool :=
  s.length = 32 && s.all fun u => isDigit u || (unit 'a' ≤ u && u ≤ unit 'f')

/-- `/^credential:[a-z][a-z0-9]*(?:[._-][a-z0-9]+)*:[1-9][0-9]{0,9}$/`. -/
def isCredentialReference (s : JsString) : Bool :=
  let scheme := ofString "credential:"
  let rest := s.drop scheme.length
  let id := rest.takeWhile (· ≠ unit ':')
  let revision := rest.drop (id.length + 1)
  s.take scheme.length = scheme && isIdText id && rest.drop id.length ≠ [] &&
    revision.head? ≠ some (unit '0') && revision ≠ [] && revision.length ≤ 10 &&
    revision.all isDigit

def assertCanonicalDirectory (path : Location) (code : String) : PurgeProgram Unit := do
  require (path.normal = true) (.code (code ++ "_noncanonical"))
  let details ← lookOr path.details (.code (code ++ "_missing"))
  require (details.kind ≠ .symbolicLink) (.code (code ++ "_symlink"))
  require (details.kind = .directory) (.code (code ++ "_invalid"))
  let real ← look (some path.real)
  require (real = true) (.code (code ++ "_noncanonical"))

/-- `path` is under `parent`. -/
def strictChild (parent child : Location) : Prop :=
  parent.names <+: child.names ∧ parent.names ≠ child.names

instance (parent child : Location) : Decidable (strictChild parent child) := by
  unfold strictChild
  infer_instance

/-- The checks made before the lock is taken. -/
def checkPaths (request : PurgeRequest) : PurgeProgram Unit := do
  require (isMarkerId request.markerId = true) (.code "purge_marker_id_invalid")
  assertCanonicalDirectory request.allowedParent "purge_parent"
  let details ← look request.allowedParent.details
  require (details.mode &&& 0o022 = 0 ∧ ∀ user ∈ request.user, details.uid = user)
    (.code "purge_parent_permissions_invalid")
  require (request.root.normal = true) (.code "purge_root_noncanonical")
  let rootDetails ← lookOr request.root.details (.code "purge_root_missing")
  require (rootDetails.kind ≠ .symbolicLink) (.code "purge_root_symlink")
  assertCanonicalDirectory request.root "purge_root"
  require (strictChild request.allowedParent request.root) (.code "purge_root_outside_parent")

/-! ## The writer lock -/

/-- For a path that is there. -/
def assertCanonicalDataRoot (path : Location) : PurgeProgram Unit := do
  require (path.normal = true) (.message "data root must be an absolute normalized path")
  let _ ← look path.details
  let real ← look (some path.real)
  require (real = true)
    (.message "data root must be canonical and not a symlink (including existing parents)")
  let _ ← look path.details
  let real ← look (some path.real)
  require (real = true) (.message "data root must be canonical and not a symlink")

/-- Opening the lock file; a link to elsewhere is not followed. -/
def openLock (request : PurgeRequest) : PurgeProgram ℕ :=
  match request.tree.held.lookup LOCK_FILENAME with
  | some (.file links) => look (some links)
  | some .symbolicLink => do
    let _ ← look (none : Option Unit)
    .throw (.message "data root writer lock path must be a regular file, not a symlink")
  | _ => look none

/-- The checks of the open lock file, up to `flock`. -/
def checkLock (request : PurgeRequest) (links : ℕ) : PurgeProgram Unit := do
  call
  require (links = 1) (.message "data root writer lock must be an unlinked regular file")
  require (∀ user ∈ request.user, request.lockUid = user)
    (.message "data root writer lock must be owned by the current user")
  call
  call
  require (request.lockBusy = false) .dataRootInUse

/-- Truncate the lock file, write its record and `fsync`. -/
def recordLock : PurgeProgram Unit := do
  call
  call
  call

def acquireDataRootWriterLock (request : PurgeRequest) : PurgeProgram Unit := do
  assertCanonicalDataRoot request.root
  call
  assertCanonicalDataRoot request.root
  call
  let links ← openLock request
  (checkLock request links).attempt fun e => do
    call
    .throw e
  recordLock.attempt fun e => do
    call.attempt fun _ => .pure ()
    call
    .throw e

/-- `release()`. -/
def releaseLock : PurgeProgram Unit := finallyDo call call

/-! ## Validating and removing the tree -/

mutual

def validatePurgeTree (path : Path) : Node → PurgeProgram Unit
  | .symbolicLink => do
    lstatSync path
    .throw (.code "purge_symlink_rejected")
  | .file links => do
    lstatSync path
    require (links = 1) (.code "purge_hardlink_rejected")
  | .special => do
    lstatSync path
    .throw (.code "purge_special_file_rejected")
  | .directory entries => do
    lstatSync path
    readdirSync path
    validateEntries path entries

def validateEntries (path : Path) : List (String × Node) → PurgeProgram Unit
  | [] => .pure ()
  | (name, child) :: rest => do
    validatePurgeTree (path ++ [name]) child
    validateEntries path rest

end

mutual

def removeIdentityCheckedTree (path : Path) : Node → PurgeProgram Unit
  | .directory entries => do
    orRebound (sameIdentity path)
    lstatSync path
    readdirSync path
    removeEntries path entries
    orRebound (sameIdentity path)
    rmdirSync path entries
  | .file links => do
    orRebound (sameIdentity path)
    lstatSync path
    require (links = 1) (.code "purge_root_rebound")
    orRebound (sameIdentity path)
    unlinkSync path
  | _ => do
    orRebound (sameIdentity path)
    lstatSync path
    .throw (.code "purge_root_rebound")

/-- The loop over a directory's entries, each with its identity read first. -/
def removeEntries (path : Path) : List (String × Node) → PurgeProgram Unit
  | [] => .pure ()
  | (name, child) :: rest => do
    lstatSync (path ++ [name])
    removeIdentityCheckedTree (path ++ [name]) child
    removeEntries path rest

end

/-! ## The purge -/

/-- `JSON.parse(profile_json).credentialRef`, where it is text. -/
def profileReference (profile : Json ℤ) : Option JsString :=
  (profile.member? (ofString "credentialRef")).bind Json.str?

def rootCredentialReferences (request : PurgeRequest) : PurgeProgram (List JsString) := do
  let there ← existsSync fun _ => decide (DATABASE_FILE ∈ request.tree.held.map Prod.fst)
  if there then
    call
    finallyDo
      (do
        let rows ← look request.profiles
        let references := rows.filterMap profileReference
        require (references.Nodup ∧ ∀ reference ∈ references, isCredentialReference reference)
          (.code "purge_credential_reference_invalid")
        .pure references)
      call
  else .pure []

/-- The references the marker names, if it is the marker asked for. -/
def markerReferences (request : PurgeRequest) (marker : Json ℤ) : Option (List JsString) :=
  if marker.keys.Perm [ofString "schemaVersion", ofString "bundleIdentifier",
        ofString "markerId", ofString "credentialReferences"] ∧
      marker.member? (ofString "schemaVersion") = some (.num 1) ∧
      marker.member? (ofString "bundleIdentifier") = some (.str BUNDLE_IDENTIFIER) ∧
      marker.member? (ofString "markerId") = some (.str request.markerId) then
    match marker.member? (ofString "credentialReferences") with
    | some (.arr elements) => elements.mapM Json.str?
    | _ => none
  else none

/-- The checks made while the lock is held, the last before the root is moved. -/
def checkMarker (request : PurgeRequest) : PurgeProgram (List JsString) := do
  lstatSync []
  call
  validatePurgeTree [] (.directory request.tree.held)
  let marker ← lookOr request.marker (.code "purge_marker_invalid")
  let references ← orThrow (markerReferences request marker) (.code "purge_marker_invalid")
  require (references.Nodup ∧ ∀ reference ∈ references, isCredentialReference reference)
    (.code "purge_credential_reference_invalid")
  let stored ← rootCredentialReferences request
  require (stored = references) (.code "purge_credential_reference_mismatch")
  let details ← look (request.tree.held.lookup MARKER_FILE)
  require (details matches .file 1) (.code "purge_marker_invalid")
  lstatSync [MARKER_FILE]
  orRebound sameParent
  orRebound (sameIdentity [])
  orRebound (sameIdentity [MARKER_FILE])
  let taken ← existsSync fun _ => false
  require (taken = false) (.code "purge_quarantine_exists")
  .pure references

/-- Validate and remove the quarantined tree. -/
def removeQuarantine (request : PurgeRequest) : PurgeProgram Unit := do
  orRebound (sameIdentity [])
  orRebound sameParent
  orRebound (sameIdentity [])
  validatePurgeTree [] (.directory request.tree.held)
  removeIdentityCheckedTree [] (.directory request.tree.held)
  syncPath

/-- Give the root its name back, where the quarantine is still the root and the name free. -/
def restoreRoot : PurgeProgram Unit := do
  let same ← sameIdentity []
  if same then
    let occupied ← existsSync fun s => s.place = .root
    if !occupied then
      let parent ← sameParent
      if parent then
        renameSync .root
        syncPath

/-- `catch (error) { …; throw error; }`. -/
def restoreName (e : PurgeError) : PurgeProgram Unit := do
  restoreRoot
  .throw e

/-- `credentialStore.delete(reference)`. -/
def deleteCredential (reference : JsString) : PurgeProgram Unit :=
  write fun s => { s with deleted := s.deleted ++ [reference] }

def deleteCredentials : List JsString → PurgeProgram Unit
  | [] => .pure ()
  | reference :: rest => do
    deleteCredential reference
    deleteCredentials rest

/-- Delete the credentials, and report. -/
def finishPurge (references : List JsString) : PurgeProgram LifecycleEvidence := do
  deleteCredentials references
  .pure ⟨"lifecycle_purge_ok", 1, references.length, 0⟩

/-- What is done under the lock. -/
def purgeLocked (request : PurgeRequest) : PurgeProgram LifecycleEvidence := do
  let references ← checkMarker request
  renameSync .quarantine
  (removeQuarantine request).attempt restoreName
  finishPurge references

def purgeDisposableDataRoot (request : PurgeRequest) : PurgeProgram LifecycleEvidence := do
  checkPaths request
  acquireDataRootWriterLock request
  finallyDo (purgeLocked request) releaseLock

/-- The root lies at its path with all its contents, and no credential is deleted. -/
structure Intact (request : PurgeRequest) (s : PurgeState) : Prop where
  place : s.place = .root
  contents : ∀ path ∈ request.tree.paths, path ∉ s.removed
  credentials : s.deleted = []

instance (request : PurgeRequest) (s : PurgeState) : Decidable (Intact request s) :=
  decidable_of_iff (s.place = .root ∧ (∀ path ∈ request.tree.paths, path ∉ s.removed) ∧
    s.deleted = []) ⟨fun h => ⟨h.1, h.2.1, h.2.2⟩, fun h => ⟨h.1, h.2, h.3⟩⟩

end GreenRoom.Db
