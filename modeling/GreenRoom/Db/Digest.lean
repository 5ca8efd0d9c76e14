import GreenRoom.Db.CanonicalJson
import GreenRoom.Db.Events

/-!
# What a canonical text determines

Canonical JSON is the text of a value whose members have been sorted, so it reads
back: values with the same canonical text have the same members.

## Main results

* `stringify_sorted` — canonical JSON is the text of the sorted value.
* `canonicalJson_of_isJson` — it is what the encoder of JavaScript values gives.
* `member_of_canonicalJson` — values with the same text have the same members.
-/

namespace GreenRoom

open JsString

mutual

/-- **Canonical JSON is the text of the sorted value.** -/
theorem stringify_sorted : ∀ v : Json ℤ,
    Json.stringify integerFormat v.sorted = canonicalJson v
  | .null => rfl
  | .bool b => rfl
  | .num x => rfl
  | .str s => rfl
  | .arr elements => by
      rw [Json.sorted, Json.stringify_arr, stringify_sortedElements]
      rfl
  | .obj members => by
      rw [Json.sorted, Json.stringify_obj]
      change _ = unit '\x7b' :: join [unit ','] (((canonicalJson.canonicalizeMembers
        members).insertionSort fun a b => le a.1 b.1).map Prod.snd) ++ [unit '\x7d']
      have hsort : (Json.byName (Json.sortedMembers members)).map
          (fun m => (m.1, Json.memberText integerFormat m)) =
          ((Json.sortedMembers members).map fun m =>
            (m.1, Json.memberText integerFormat m)).insertionSort fun a b => le a.1 b.1 :=
        List.map_insertionSort _ _ _ _ fun _ _ _ _ => Iff.rfl
      rw [← stringify_sortedMembers members, ← hsort, List.map_map]
      rfl

theorem stringify_sortedElements : ∀ elements : List (Json ℤ),
    (Json.sortedElements elements).map (Json.stringify integerFormat) =
      canonicalJson.canonicalizeElements elements
  | [] => rfl
  | v :: vs => by
      rw [Json.sortedElements, List.map_cons, stringify_sorted v, stringify_sortedElements vs]
      rfl

theorem stringify_sortedMembers : ∀ members : List (JsString × Json ℤ),
    (Json.sortedMembers members).map (fun m => (m.1, Json.memberText integerFormat m)) =
      canonicalJson.canonicalizeMembers members
  | [] => rfl
  | (k, v) :: ms => by
      rw [Json.sortedMembers, List.map_cons, stringify_sortedMembers ms, Json.memberText,
        stringify_sorted v]
      rfl

end

/-- What a program holds as a JSON value is encoded by its canonical JSON. -/
theorem canonicalJson_of_isJson {heap : Canonical.Heap ℤ}
    {value : Canonical.Value ℤ heap.size} {v : Json ℤ} (h : heap.IsJson value v) :
    Canonical.canonicalJson integerFormat heap value = .ok (canonicalJson v) := by
  rw [← stringify_sorted]
  exact Canonical.canonicalJson_eq_ok.mpr ⟨v, h, rfl⟩

/-! ## Members -/

/-- Sorting moves members, and sorts inside them. -/
theorem member_sorted {members : List (JsString × Json ℤ)} (h : (members.map Prod.fst).Nodup)
    (k : JsString) : (Json.obj members).sorted.member? k =
      ((Json.obj members).member? k).map Json.sorted := by
  have hperm := Json.byName_perm (Json.sortedMembers members)
  rw [Json.sortedMembers_eq] at hperm
  have hnodup : ((Json.byName (members.map Json.sortedMember)).map Prod.fst).Nodup := by
    rw [(hperm.map Prod.fst).nodup_iff, List.map_map]
    exact h
  refine Option.ext fun w => ?_
  rw [Json.sorted, Json.sortedMembers_eq, Json.member?, Json.member?, Json.lookup_iff_mem hnodup,
    hperm.mem_iff, List.mem_map, Option.map_eq_some_iff]
  simp only [Json.lookup_iff_mem h]
  constructor
  · rintro ⟨⟨k', v⟩, hmem, heq⟩
    obtain ⟨rfl, rfl⟩ := Prod.mk.inj heq
    exact ⟨v, hmem, rfl⟩
  · rintro ⟨v, hmem, rfl⟩
    exact ⟨(k, v), hmem, rfl⟩

theorem sorted_of_canonicalJson {v w : Json ℤ} (hv : v.Distinct) (hw : w.Distinct)
    (h : canonicalJson v = canonicalJson w) : v.sorted = w.sorted := by
  have hparse := Json.parse_stringify_sorted integerFormat hv
  rw [stringify_sorted, h, ← stringify_sorted, Json.parse_stringify_sorted integerFormat hw]
    at hparse
  exact (Option.some.inj hparse).symm

/-- **Values with the same canonical text have the same members.** -/
theorem member_of_canonicalJson {ms ms' : List (JsString × Json ℤ)} (hms : (Json.obj ms).Distinct)
    (hms' : (Json.obj ms').Distinct) (h : canonicalJson (.obj ms) = canonicalJson (.obj ms'))
    (k : JsString) :
    ((Json.obj ms).member? k).map Json.sorted = ((Json.obj ms').member? k).map Json.sorted := by
  rw [← member_sorted hms.1, ← member_sorted hms'.1, sorted_of_canonicalJson hms hms' h]

end GreenRoom
