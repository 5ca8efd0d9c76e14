import GreenRoom.Lib.JsError
import GreenRoom.Lib.JsonOrder
import GreenRoom.Lib.Traverse
import Mathlib.Data.Rat.Defs

/-!
# Plain data

`providers/plain-data.ts`, and the reading of fields of `providers/profile-contracts.ts`: a
parser is handed a value it knows nothing of, and reads it through the descriptors of its
own properties, so that no accessor runs.  Values are trees: a parser goes through
named fields only and never comes back to a value.

## Main definitions

* `Unknown`, `Descriptor` — a value and what it says of a property.
* `Unknown.ofJson` — what `JSON.parse` makes.
* `dataFields` — the fields of a plain object.

## Main results

* `dataFields_of_same` — the fields of an object that is plain data, in any order.
-/

namespace GreenRoom.Providers

open JsString

inductive PropertyKey
  | string (s : JsString)
  | symbol
  deriving DecidableEq, Repr

mutual

/-- A value of unknown type. -/
inductive Unknown
  | undefined
  | null
  | bool (b : Bool)
  /-- A finite number; the two zeros are one. -/
  | num (x : ℚ)
  /-- `NaN` and the infinities. -/
  | nonFinite
  | str (s : JsString)
  | bigint
  | symbol
  | function
  /-- With its own properties; `ordinary` if `isOrdinaryDataObject` holds of it. -/
  | object (ordinary : Bool) (own : List (PropertyKey × Descriptor))
  /-- With its own properties but for `length`; `ordinary` if `isOrdinaryDataArray` holds
  of it. -/
  | array (ordinary : Bool) (length : ℕ) (own : List (PropertyKey × Descriptor))

/-- What `Object.getOwnPropertyDescriptor` tells. -/
inductive Descriptor
  | data (value : Unknown) (enumerable : Bool)
  | accessor

end

mutual

/-- What `JSON.parse` makes of the text of a value. -/
def Unknown.ofJson : Json ℚ → Unknown
  | .null => .null
  | .bool b => .bool b
  | .num x => .num x
  | .str s => .str s
  | .arr elements => .array true elements.length (ofElements 0 elements)
  | .obj members => .object true (ofMembers members)

def Unknown.ofElements (index : ℕ) : List (Json ℚ) → List (PropertyKey × Descriptor)
  | [] => []
  | v :: vs => (.string (ofNat index), .data (ofJson v) true) :: ofElements (index + 1) vs

def Unknown.ofMembers : List (JsString × Json ℚ) → List (PropertyKey × Descriptor)
  | [] => []
  | (k, v) :: ms => (.string k, .data (ofJson v) true) :: ofMembers ms

end

/-! ## Fields -/

/-- One step of the loop over the own keys. -/
def dataField (allowed : List String) (label : String) :
    PropertyKey × Descriptor → Except JsError (JsString × Unknown)
  | (.string key, .data value true) =>
    if key ∈ allowed.map ofString then .ok (key, value)
    else .error (.typeError (ofString (label ++ " contains an unknown or invalid field")))
  | _ => .error (.typeError (ofString (label ++ " contains an unknown or invalid field")))

def dataFields (value : Unknown) (required optional : List String) (label : String) :
    Except JsError (List (JsString × Unknown)) :=
  match value with
  | .object true own => do
    let fields ← own.mapM (dataField (required ++ optional) label)
    if ∃ key ∈ required, ofString key ∉ fields.map Prod.fst then
      throw (.typeError (ofString (label ++ " is missing a required field")))
    return fields
  | _ => .error (.typeError (ofString (label ++ " must be a plain object")))

/-- `fields.get(key)`. -/
def get (fields : List (JsString × Unknown)) (key : String) : Unknown :=
  (fields.lookup (ofString key)).getD .undefined

/-- A member as a field. -/
def fieldOf (member : JsString × Json ℚ) : JsString × Unknown := (member.1, .ofJson member.2)

theorem mapM_dataField {allowed : List String} {label : String}
    {members : List (JsString × Json ℚ)}
    (h : ∀ key ∈ members.map Prod.fst, key ∈ allowed.map ofString) :
    (Unknown.ofMembers members).mapM (dataField allowed label) = .ok (members.map fieldOf) := by
  induction members with
  | nil => rfl
  | cons m ms ih =>
      obtain ⟨k, v⟩ := m
      have hk : k ∈ allowed.map ofString := h k List.mem_cons_self
      have hms := ih fun key hkey => h key (List.mem_cons_of_mem _ hkey)
      rw [Unknown.ofMembers, List.mapM_cons, hms, dataField, if_pos hk]
      rfl

theorem lookup_map_fieldOf (members : List (JsString × Json ℚ)) (key : JsString) :
    (members.map fieldOf).lookup key = (members.lookup key).map .ofJson := by
  induction members with
  | nil => rfl
  | cons m ms ih =>
      obtain ⟨k, v⟩ := m
      rw [List.map_cons, fieldOf, List.lookup_cons, List.lookup_cons, ih]
      cases key == k <;> rfl

/-- **The fields of an object that is plain data**: an object with the given members, in
any order, is read as them. -/
theorem dataFields_of_same {w : Json ℚ} {members : List (JsString × Json ℚ)}
    (h : Json.Same w (.obj members)) (names required optional : List String)
    (hnames : members.map Prod.fst = names.map ofString) (hnodup : (names.map ofString).Nodup)
    (hallowed : names ⊆ required ++ optional)
    (hrequired : required ⊆ names) (label : String) :
    ∃ fields, dataFields (.ofJson w) required optional label = .ok fields ∧
      List.Forall₂ (fun key m => ∃ v, get fields key = .ofJson v ∧ Json.Same v m.2) names
        members ∧
      ∀ key, ofString key ∉ names.map ofString → get fields key = .undefined := by
  obtain ⟨ms, rfl, hkeys, hlookup⟩ := h.of_obj (hnames ▸ hnodup)
  rw [hnames] at hkeys
  have hread := @mapM_dataField (required ++ optional) label ms fun key hkey =>
    List.map_subset ofString hallowed (hkeys.mem_iff.mp hkey)
  have hfields : (ms.map fieldOf).map Prod.fst = ms.map Prod.fst := by
    rw [List.map_map]
    rfl
  refine ⟨ms.map fieldOf, ?_, ?_, fun key hfree => ?_⟩
  · have hall : ¬ ∃ key ∈ required, ofString key ∉ (ms.map fieldOf).map Prod.fst := by
      rintro ⟨key, hkey, hmissing⟩
      rw [hfields] at hmissing
      exact hmissing (hkeys.mem_iff.mpr (List.mem_map_of_mem (hrequired hkey)))
    rw [Unknown.ofJson, dataFields, hread]
    exact if_neg hall
  · have hread : ∀ key v, (ofString key, v) ∈ members →
        ∃ v', get (ms.map fieldOf) key = .ofJson v' ∧ Json.Same v' v := by
      intro key v hmem
      obtain ⟨v', hv', hsame⟩ := hlookup _ v hmem
      refine ⟨v', ?_, hsame⟩
      rw [get, lookup_map_fieldOf, hv']
      rfl
    have hpairs : List.Forall₂ (fun key (m : JsString × Json ℚ) => m.1 = ofString key) names
        members := by
      have hsame : List.Forall₂ (· = ·) (names.map ofString) (members.map Prod.fst) :=
        hnames ▸ List.forall₂_same.mpr fun _ _ => rfl
      rw [List.forall₂_map_left_iff, List.forall₂_map_right_iff] at hsame
      exact hsame.imp fun _ _ h => h.symm
    refine (List.forall₂_and_mem hpairs).imp fun key m hm => ?_
    obtain ⟨hkey, hmem⟩ := hm
    exact hread key m.2 (hkey ▸ hmem)
  · have hnone : (ms.map fieldOf).lookup (ofString key) = none := by
      rw [List.lookup_eq_none_iff]
      intro m hm
      have hm : m.1 ∈ ms.map Prod.fst := hfields ▸ List.mem_map_of_mem hm
      have hne : ofString key ≠ m.1 := fun heq => hfree (heq ▸ hkeys.mem_iff.mp hm)
      simpa using hne
    rw [get, hnone]
    rfl

end GreenRoom.Providers
