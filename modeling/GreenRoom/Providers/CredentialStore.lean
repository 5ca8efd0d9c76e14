import GreenRoom.Lib.KeyedTable
import GreenRoom.Providers.ProfileContracts

/-!
# The credential store

`providers/credential-store.ts`: secrets under references, each the name of one revision
of a connection.

## Main definitions

* `canonicalCredentialReference` — the reference of a connection revision.
* `CredentialStore.get`, `put`, `replace`, `delete`

## Main results

* `credentialReference_injective` — different revisions have different references.
-/

namespace GreenRoom.Providers

open JsString

def isLowerLetter (u : UInt16) : Bool := unit 'a' ≤ u && u ≤ unit 'z'

def isLowerAlphanumeric (u : UInt16) : Bool := isLowerLetter u || isDigit u

def asciiLower (u : UInt16) : UInt16 := if unit 'A' ≤ u && u ≤ unit 'Z' then u + 32 else u

def isAlphanumeric (u : UInt16) : Bool := isLowerAlphanumeric (asciiLower u)

def isIdSeparator (u : UInt16) : Bool := u = unit '.' || u = unit '_' || u = unit '-'

/-- `[a-z0-9]*(?:[._-][a-z0-9]+)*`, where a separator may come first only if `next`. -/
def isIdRest (next : Bool) : JsString → Bool
  | [] => next
  | u :: rest => if isLowerAlphanumeric u then isIdRest true rest
    else isIdSeparator u && next && isIdRest false rest

/-- `/^[a-z][a-z0-9]*(?:[._-][a-z0-9]+)*$/`. -/
def isIdText : JsString → Bool
  | [] => false
  | u :: rest => isLowerLetter u && isIdRest true rest

/-- A secret, by its text. -/
abbrev Secret := JsString

def canonicalCredentialReference (connectionId : JsString) (revision : ℕ) :
    Except JsError JsString :=
  if isIdText connectionId ∧ 1 ≤ revision ∧ revision ≤ maxRevision then
    .ok (credentialReference connectionId revision)
  else .error (.typeError (ofString "credential_reference_invalid"))

/-- Secrets under their references. -/
abbrev CredentialStore := KeyedTable JsString Secret

namespace CredentialStore

def get (reference : JsString) (store : CredentialStore) :
    Except JsError (Option Secret × CredentialStore) :=
  .ok (store.lookup reference, store)

def put (reference : JsString) (secret : Secret) (store : CredentialStore) :
    Except JsError (Unit × CredentialStore) :=
  if reference ∈ store then .error (.ofText "credential_already_exists")
  else .ok ((), store.insert reference secret)

def replace (reference : JsString) (secret : Secret) (store : CredentialStore) :
    Except JsError (Unit × CredentialStore) :=
  if reference ∈ store then .ok ((), store.insert reference secret)
  else .error (.ofText "credential_missing")

def delete (reference : JsString) (store : CredentialStore) :
    Except JsError (Bool × CredentialStore) :=
  .ok (decide (reference ∈ store), store.erase reference)

end CredentialStore

/-! ## References -/

theorem canonicalCredentialReference_ok {connectionId reference : JsString} {revision : ℕ}
    (h : canonicalCredentialReference connectionId revision = .ok reference) :
    reference = credentialReference connectionId revision ∧ 1 ≤ revision := by
  unfold canonicalCredentialReference at h
  split at h
  · next hcheck => exact ⟨(Except.ok.inj h).symm, hcheck.2.1⟩
  · cases h

theorem credentialReference_eq (id : JsString) (revision : ℕ) :
    credentialReference id revision =
      ofString "credential" ++ (ofString ":" ++ (id ++ (ofString ":" ++ ofNat revision))) := by
  simp [credentialReference, join, List.intercalate, List.intersperse]

/-- What follows the last colon are the digits of the revision. -/
theorem append_ofNat_inj {id id' : JsString} {m n : ℕ}
    (h : id ++ (ofString ":" ++ ofNat m) = id' ++ (ofString ":" ++ ofNat n)) :
    id = id' ∧ m = n := by
  have hdigits : ∀ n : ℕ, unit ':' ∉ ofNat n := fun n hmem => by
    have := isDigit_of_mem_ofNat hmem
    revert this
    decide
  change id ++ unit ':' :: ofNat m = id' ++ unit ':' :: ofNat n at h
  rcases List.append_eq_append_iff.mp h with ⟨rest, hid, hrest⟩ | ⟨rest, hid, hrest⟩
  · cases rest with
    | nil =>
        rw [List.append_nil] at hid
        exact ⟨hid.symm, ofNat_injective (List.cons.inj hrest).2⟩
    | cons u rest =>
        have hmem : unit ':' ∈ ofNat m := by
          rw [(List.cons.inj hrest).2]
          simp
        exact absurd hmem (hdigits m)
  · cases rest with
    | nil =>
        rw [List.append_nil] at hid
        exact ⟨hid, ofNat_injective (List.cons.inj hrest).2.symm⟩
    | cons u rest =>
        have hmem : unit ':' ∈ ofNat n := by
          rw [(List.cons.inj hrest).2]
          simp
        exact absurd hmem (hdigits n)

/-- **Different revisions have different references.** -/
theorem credentialReference_injective {id id' : JsString} {m n : ℕ}
    (h : credentialReference id m = credentialReference id' n) : id = id' ∧ m = n := by
  rw [credentialReference_eq, credentialReference_eq] at h
  exact append_ofNat_inj (List.append_cancel_left (List.append_cancel_left h))

end GreenRoom.Providers
