import GreenRoom.Lib.JsError
import GreenRoom.Lib.JsonOrder
import GreenRoom.Lib.Traverse
import Mathlib.Data.Fintype.Card

/-!
# Canonical JSON of JavaScript values

`canonicalJson` of `db/events.ts` and `canonicalJSON` of `ios-web/room-runtime.js`, over the
values JavaScript has: objects lie in a heap, so that a value may hold itself or one
object twice.  Numbers are finite, the two zeros one, or not finite.

## Main definitions

* `Heap`, `Value` — what a program holds.
* `Heap.json?` — the JSON value a value unfolds to, if it does.
* `canonicalize`, `canonicalJson` — the server's encoder.
* `canonicalJSON` — the encoder of the iPhone runtime.

## Main results

* `canonicalJson_eq_ok` — exactly the JSON values are encoded, by the text of the sorted value.
* `canonicalJSON_of_json?` — the other encoder gives the same text.
* `canonical_json_identifies`
-/

universe u

namespace GreenRoom.Canonical

open JsString

/-! ## Values -/

/-- Values that refer to `size` objects. -/
inductive Value (ν : Type u) (size : ℕ)
  | undefined
  | null
  | bool (b : Bool)
  | num (x : ν)
  /-- `NaN` and the infinities. -/
  | nonFinite
  | str (s : JsString)
  | bigint
  | symbol
  | function
  | ref (r : Fin size)

/-- What the encoders see of an object: the elements of an array, a hole being `none`, or
the own enumerable properties, by string names. -/
inductive Object (ν : Type u) (size : ℕ)
  | array (elements : List (Option (Value ν size)))
  /-- With `Object.prototype`. -/
  | plain (properties : List (JsString × Value ν size))
  /-- With another prototype, or none. -/
  | other (properties : List (JsString × Value ν size))

/-- The objects of a program; no property has the name of another. -/
structure Heap (ν : Type u) where
  size : ℕ
  object : Fin size → Object ν size
  distinct : ∀ r properties, object r = .plain properties → (properties.map Prod.fst).Nodup

variable {ν : Type u}

/-- The JSON value that is no object, if the value is one. -/
def Value.primitive? {size : ℕ} : Value ν size → Option (Json ν)
  | .null => some .null
  | .bool b => some (.bool b)
  | .num x => some (.num x)
  | .str s => some (.str s)
  | _ => none

/-- The value unfolded to JSON, through at most `depth` objects; `none` if it is not
JSON or goes deeper. -/
def Heap.json? (heap : Heap ν) : ℕ → Value ν heap.size → Option (Json ν)
  | depth + 1, .ref r =>
    match heap.object r with
    | .array elements => (elements.mapM fun item : Option (Value ν heap.size) =>
        item.bind (heap.json? depth)).map .arr
    | .plain properties =>
      (properties.mapM fun p => (heap.json? depth p.2).map fun v => (p.1, v)).map .obj
    | .other _ => none
  | _, value => value.primitive?

/-- The value is the JSON value `v`. -/
def Heap.IsJson (heap : Heap ν) (value : Value ν heap.size) (v : Json ν) : Prop :=
  ∃ depth, heap.json? depth value = some v

/-! ## The server's encoder -/

/-- The properties in the order of their names: `Object.keys(record).sort()`. -/
def sortProperties {size : ℕ} (properties : List (JsString × Value ν size)) :
    List (JsString × Value ν size) :=
  properties.insertionSort fun a b => le a.1 b.1

/-- How many objects have not been seen. -/
def Heap.unseen (heap : Heap ν) (seen : List (Fin heap.size)) : ℕ :=
  (Finset.univ.filter (· ∉ seen)).card

theorem Heap.unseen_cons_lt (heap : Heap ν) {seen : List (Fin heap.size)} {r : Fin heap.size}
    (h : r ∉ seen) : heap.unseen (r :: seen) < heap.unseen seen := by
  refine Finset.card_lt_card (Finset.ssubset_iff_subset_ne.mpr ⟨fun q hq => ?_, fun heq => ?_⟩)
  · rw [Finset.mem_filter, List.mem_cons, not_or] at hq
    exact Finset.mem_filter.mpr ⟨hq.1, hq.2.2⟩
  · have hr : r ∈ Finset.univ.filter (· ∉ seen) := Finset.mem_filter.mpr ⟨Finset.mem_univ r, h⟩
    rw [← heq, Finset.mem_filter] at hr
    exact hr.2 List.mem_cons_self

def canonicalize (F : NumberFormat ν) (heap : Heap ν) (seen : List (Fin heap.size)) :
    Value ν heap.size → Except JsError JsString
  | .null => .ok (ofString "null")
  | .str s => .ok (Json.quote s)
  | .bool b => .ok (ofString (if b then "true" else "false"))
  | .num x => .ok (F.print x)
  | .nonFinite => .error (.typeError (ofString "Event JSON numbers must be finite"))
  | .undefined | .bigint | .symbol | .function =>
    .error (.typeError (ofString "Event values must be valid JSON"))
  | .ref r =>
    if _h : r ∈ seen then
      .error (.typeError (ofString "Event JSON must not contain cycles"))
    else
      match heap.object r with
      | .array elements => do
        let parts ← elements.mapM fun item =>
          canonicalize F heap (r :: seen) (item.getD .undefined)
        return unit '[' :: join [unit ','] parts ++ [unit ']']
      | .other _ => .error (.typeError (ofString "Event JSON objects must be plain objects"))
      | .plain properties => do
        let entries ← (sortProperties properties).mapM fun p => do
          let text ← canonicalize F heap (r :: seen) p.2
          return Json.quote p.1 ++ unit ':' :: text
        return unit '\x7b' :: join [unit ','] entries ++ [unit '\x7d']
termination_by heap.unseen seen
decreasing_by
  · exact heap.unseen_cons_lt ‹_›
  · exact heap.unseen_cons_lt ‹_›

/-- `canonicalJson(value)`. -/
def canonicalJson (F : NumberFormat ν) (heap : Heap ν) (value : Value ν heap.size) :
    Except JsError JsString :=
  canonicalize F heap [] value

/-! ## The encoder of the iPhone runtime -/

/-- `JSON.stringify` of a value that is no object; `none` is `undefined`. -/
def stringifyPrimitive (F : NumberFormat ν) {size : ℕ} :
    Value ν size → Except JsError (Option JsString)
  | .null | .nonFinite => .ok (some (ofString "null"))
  | .bool b => .ok (some (ofString (if b then "true" else "false")))
  | .num x => .ok (some (F.print x))
  | .str s => .ok (some (Json.quote s))
  | .bigint => .error (.typeError (ofString "Do not know how to serialize a BigInt"))
  | _ => .ok none

/-- `canonicalJSON(value)`, with room for `stack` calls. -/
def canonicalJSON (F : NumberFormat ν) (heap : Heap ν) :
    ℕ → Value ν heap.size → Except JsError (Option JsString)
  | 0, _ => .error (.rangeError (ofString "Maximum call stack size exceeded"))
  | stack + 1, .ref r => do
    let entriesOf (properties : List (JsString × Value ν heap.size)) :=
      (sortProperties properties).mapM fun p => do
        let text ← canonicalJSON F heap stack p.2
        return Json.quote p.1 ++ unit ':' :: text.getD (ofString "undefined")
    match heap.object r with
    | .array elements =>
      -- `map` skips holes, and `join` writes nothing for what is undefined
      let parts ← elements.mapM fun item =>
        item.elim (.ok none) fun value => canonicalJSON F heap stack value
      return some (unit '[' :: join [unit ','] (parts.map (·.getD [])) ++ [unit ']'])
    | .plain properties | .other properties =>
      let entries ← entriesOf properties
      return some (unit '\x7b' :: join [unit ','] entries ++ [unit '\x7d'])
  | _ + 1, value => stringifyPrimitive F value

/-! ## JSON values -/

section

variable {F : NumberFormat ν} {heap : Heap ν}

/-- What holds of a JSON value if it holds of what is inside. -/
theorem Heap.json?_rec {motive : ℕ → Value ν heap.size → Json ν → Prop}
    (primitive : ∀ d value v, value.primitive? = some v → motive d value v)
    (array : ∀ d r elements vs, heap.object r = .array elements →
      List.Forall₂ (fun item v => ∃ value, item = some value ∧
        heap.json? d value = some v ∧ motive d value v) elements vs →
      motive (d + 1) (.ref r) (.arr vs))
    (plain : ∀ d r properties ms, heap.object r = .plain properties →
      List.Forall₂ (fun p m => p.1 = m.1 ∧ heap.json? d p.2 = some m.2 ∧ motive d p.2 m.2)
        properties ms → motive (d + 1) (.ref r) (.obj ms))
    {d : ℕ} {value : Value ν heap.size} {v : Json ν} (h : heap.json? d value = some v) :
    motive d value v := by
  induction d generalizing value v with
  | zero => exact primitive _ _ _ (by rwa [Heap.json?] at h; simp)
  | succ d ih =>
      cases value with
      | ref r =>
          rw [Heap.json?] at h
          split at h
          · next elements hobject =>
              obtain ⟨vs, hvs, rfl⟩ := Option.map_eq_some_iff.mp h
              refine array d r elements vs hobject ((List.mapM_eq_some_iff.mp hvs).imp ?_)
              intro item v hv
              obtain ⟨value, rfl, hv⟩ := Option.bind_eq_some_iff.mp hv
              exact ⟨value, rfl, hv, ih hv⟩
          · next properties hobject =>
              obtain ⟨ms, hms, rfl⟩ := Option.map_eq_some_iff.mp h
              refine plain d r properties ms hobject ((List.mapM_eq_some_iff.mp hms).imp ?_)
              intro p m hm
              obtain ⟨v, hv, rfl⟩ := Option.map_eq_some_iff.mp hm
              exact ⟨rfl, hv, ih hv⟩
          · cases h
      | _ => exact primitive _ _ _ h

theorem Heap.json?_primitive {d : ℕ} {value : Value ν heap.size} {v : Json ν}
    (h : value.primitive? = some v) : heap.json? d value = some v := by
  cases value with
  | ref r => cases h
  | _ => rw [Heap.json?, h]; simp

theorem Heap.json?_array {d : ℕ} {r : Fin heap.size}
    {elements : List (Option (Value ν heap.size))} {vs : List (Json ν)}
    (hobject : heap.object r = .array elements)
    (h : List.Forall₂ (fun item v => ∃ value, item = some value ∧ heap.json? d value = some v)
      elements vs) : heap.json? (d + 1) (.ref r) = some (.arr vs) := by
  rw [Heap.json?, hobject]
  refine Option.map_eq_some_iff.mpr ⟨vs, List.mapM_eq_some_iff.mpr (h.imp ?_), rfl⟩
  rintro _ v ⟨value, rfl, hv⟩
  exact hv

theorem Heap.json?_plain {d : ℕ} {r : Fin heap.size}
    {properties : List (JsString × Value ν heap.size)} {ms : List (JsString × Json ν)}
    (hobject : heap.object r = .plain properties)
    (h : List.Forall₂ (fun p m => p.1 = m.1 ∧ heap.json? d p.2 = some m.2) properties ms) :
    heap.json? (d + 1) (.ref r) = some (.obj ms) := by
  rw [Heap.json?, hobject]
  refine Option.map_eq_some_iff.mpr ⟨ms, List.mapM_eq_some_iff.mpr (h.imp ?_), rfl⟩
  rintro p m ⟨hk, hv⟩
  exact Option.map_eq_some_iff.mpr ⟨m.2, hv, by rw [hk]⟩

/-- Deeper unfolding finds the same. -/
theorem Heap.json?_mono {d d' : ℕ} {value : Value ν heap.size} {v : Json ν}
    (h : heap.json? d value = some v) (hd : d ≤ d') : heap.json? d' value = some v := by
  revert d'
  refine Heap.json?_rec (motive := fun d value v =>
    ∀ {d'}, d ≤ d' → heap.json? d' value = some v) ?_ ?_ ?_ h
  · intro d value v hv d' _
    exact Heap.json?_primitive hv
  · intro d r elements vs hobject hall d' hd
    obtain ⟨d', rfl⟩ : ∃ e, d' = e + 1 := ⟨d' - 1, by omega⟩
    refine Heap.json?_array hobject (hall.imp ?_)
    rintro item v ⟨value, hitem, -, ih⟩
    exact ⟨value, hitem, ih (by omega)⟩
  · intro d r properties ms hobject hall d' hd
    obtain ⟨d', rfl⟩ : ∃ e, d' = e + 1 := ⟨d' - 1, by omega⟩
    refine Heap.json?_plain hobject (hall.imp ?_)
    rintro p m ⟨hk, -, ih⟩
    exact ⟨hk, ih (by omega)⟩

/-- A value is one JSON value. -/
theorem Heap.IsJson.unique {value : Value ν heap.size} {v w : Json ν}
    (h : heap.IsJson value v) (h' : heap.IsJson value w) : v = w := by
  obtain ⟨d, hd⟩ := h
  obtain ⟨d', hd'⟩ := h'
  have hv := Heap.json?_mono hd (Nat.le_max_left d d')
  rw [Heap.json?_mono hd' (Nat.le_max_right d d')] at hv
  exact (Option.some.inj hv).symm

/-- No object of a heap has two properties of one name. -/
theorem Heap.IsJson.distinct {value : Value ν heap.size} {v : Json ν}
    (h : heap.IsJson value v) : v.Distinct := by
  obtain ⟨d, hd⟩ := h
  refine Heap.json?_rec (motive := fun _ _ v => v.Distinct) ?_ ?_ ?_ hd
  · intro d value v hv
    cases value <;> cases hv <;> trivial
  · intro d r elements vs hobject hall
    clear hobject
    induction hall with
    | nil => trivial
    | cons hitem _ ih =>
        obtain ⟨_, -, -, hv⟩ := hitem
        exact ⟨hv, ih⟩
  · intro d r properties ms hobject hall
    refine ⟨?_, Json.distinctMembers_forall.mpr ?_⟩
    · rw [← List.map_eq_map_of_forall₂ (hall.imp fun p m h => h.1)]
      exact heap.distinct r properties hobject
    · exact List.forall_mem_of_forall₂ (hall.imp fun p m h => h.2.2)

/-! ## The server's encoder -/

/-- A JSON value that lies inside no object seen is encoded. -/
theorem canonicalize_of_json? {d : ℕ} {value : Value ν heap.size} {v : Json ν}
    (h : heap.json? d value = some v) : ∀ seen : List (Fin heap.size),
      (∀ r ∈ seen, ∀ w, heap.IsJson (.ref r) w → sizeOf v < sizeOf w) →
        canonicalize F heap seen value = .ok (Json.stringify F v.sorted) := by
  refine Heap.json?_rec (motive := fun _ value v => ∀ seen : List (Fin heap.size),
      (∀ r ∈ seen, ∀ w, heap.IsJson (.ref r) w → sizeOf v < sizeOf w) →
        canonicalize F heap seen value = .ok (Json.stringify F v.sorted)) ?_ ?_ ?_ h
  · intro d value v hv seen _
    cases value with
    | bool b => cases hv; cases b <;> rw [canonicalize] <;> rfl
    | _ => cases hv <;> rw [canonicalize] <;> rfl
  · intro d r elements vs hobject hall seen hseen
    have hself : heap.IsJson (.ref r) (.arr vs) :=
      ⟨d + 1, Heap.json?_array hobject (hall.imp fun item v ⟨value, hitem, hv, _⟩ =>
        ⟨value, hitem, hv⟩)⟩
    have hr : r ∉ seen := fun hr => absurd (hseen r hr _ hself) (Nat.lt_irrefl _)
    have hparts : elements.mapM (fun item =>
        canonicalize F heap (r :: seen) (item.getD .undefined)) =
          .ok (vs.map fun v => Json.stringify F v.sorted) := by
      refine List.mapM_eq_ok_iff.mpr (List.forall₂_map_right_iff.mpr
        ((List.forall₂_and_mem hall).imp ?_))
      rintro item v ⟨⟨value, rfl, -, ih⟩, hmem⟩
      have hlt : sizeOf v < sizeOf (Json.arr vs) := by
        have := List.sizeOf_lt_of_mem hmem
        rw [Json.arr.sizeOf_spec]
        omega
      refine ih (r :: seen) fun s hs w hw => ?_
      rcases List.mem_cons.mp hs with rfl | hs
      · rw [hw.unique hself]
        exact hlt
      · exact hlt.trans (hseen s hs w hw)
    rw [canonicalize, dif_neg hr, hobject]
    simp only [hparts]
    rw [Json.sorted, Json.sortedElements_eq, Json.stringify_arr, List.map_map]
    rfl
  · intro d r properties ms hobject hall seen hseen
    have hself : heap.IsJson (.ref r) (.obj ms) :=
      ⟨d + 1, Heap.json?_plain hobject (hall.imp fun p m h => ⟨h.1, h.2.1⟩)⟩
    have hr : r ∉ seen := fun hr => absurd (hseen r hr _ hself) (Nat.lt_irrefl _)
    have hentries : (sortProperties properties).mapM (fun p => do
        let text ← canonicalize F heap (r :: seen) p.2
        return Json.quote p.1 ++ unit ':' :: text) =
          .ok ((Json.byName ms).map fun m => Json.memberText F (Json.sortedMember m)) := by
      have hsorted := List.forall₂_insertionSort (r := fun s t => le s t = true)
        (fun p m h => h.1.1) (List.forall₂_and_mem hall)
      refine List.mapM_eq_ok_iff.mpr (List.forall₂_map_right_iff.mpr (hsorted.imp ?_))
      rintro p m ⟨⟨hk, -, ih⟩, hmem⟩
      have hlt : sizeOf m.2 < sizeOf (Json.obj ms) := by
        have := List.sizeOf_lt_of_mem hmem
        obtain ⟨k, v⟩ := m
        rw [Prod.mk.sizeOf_spec] at this
        rw [Json.obj.sizeOf_spec]
        change sizeOf v < _
        omega
      have htext := ih (r :: seen) fun s hs w hw => by
        rcases List.mem_cons.mp hs with rfl | hs
        · rw [hw.unique hself]
          exact hlt
        · exact hlt.trans (hseen s hs w hw)
      rw [htext, hk]
      rfl
    rw [canonicalize, dif_neg hr, hobject]
    simp only [hentries]
    rw [Json.sorted, Json.byName_sortedMembers, Json.stringify_obj, List.map_map]
    rfl

/-- An array of JSON values is one. -/
theorem isJson_array {r : Fin heap.size} {elements : List (Option (Value ν heap.size))}
    (hobject : heap.object r = .array elements)
    (h : ∀ item ∈ elements, ∃ value v, item = some value ∧ heap.IsJson value v) :
    ∃ v, heap.IsJson (.ref r) v := by
  have hmono (item : Option (Value ν heap.size)) (d d' : ℕ) (v : Json ν)
      (hv : item.bind (heap.json? d) = some v) (hd : d ≤ d') :
      item.bind (heap.json? d') = some v := by
    obtain ⟨value, rfl, hv⟩ := Option.bind_eq_some_iff.mp hv
    exact Heap.json?_mono hv hd
  obtain ⟨d, vs, hvs⟩ := List.exists_mapM_eq_some hmono fun item hitem => by
    obtain ⟨value, v, rfl, d, hv⟩ := h item hitem
    exact ⟨d, v, hv⟩
  refine ⟨.arr vs, d + 1, Heap.json?_array hobject ((List.mapM_eq_some_iff.mp hvs).imp ?_)⟩
  exact fun item v hv => Option.bind_eq_some_iff.mp hv

/-- A plain object of JSON values is one. -/
theorem isJson_plain {r : Fin heap.size} {properties : List (JsString × Value ν heap.size)}
    (hobject : heap.object r = .plain properties)
    (h : ∀ p ∈ properties, ∃ v, heap.IsJson p.2 v) : ∃ v, heap.IsJson (.ref r) v := by
  let unfolded (d : ℕ) (p : JsString × Value ν heap.size) : Option (JsString × Json ν) :=
    (heap.json? d p.2).map fun v => (p.1, v)
  have hmono (p : JsString × Value ν heap.size) (d d' : ℕ) (m : JsString × Json ν)
      (hm : unfolded d p = some m) (hd : d ≤ d') : unfolded d' p = some m := by
    obtain ⟨v, hv, rfl⟩ := Option.map_eq_some_iff.mp hm
    exact Option.map_eq_some_iff.mpr ⟨v, Heap.json?_mono hv hd, rfl⟩
  obtain ⟨d, ms, hms⟩ := List.exists_mapM_eq_some hmono fun p hp => by
    obtain ⟨v, d, hv⟩ := h p hp
    exact ⟨d, (p.1, v), Option.map_eq_some_iff.mpr ⟨v, hv, rfl⟩⟩
  refine ⟨.obj ms, d + 1, Heap.json?_plain hobject ((List.mapM_eq_some_iff.mp hms).imp ?_)⟩
  intro p m hm
  obtain ⟨v, hv, rfl⟩ := Option.map_eq_some_iff.mp hm
  exact ⟨rfl, hv⟩

/-- Only JSON values are encoded. -/
theorem isJson_of_canonicalize {seen : List (Fin heap.size)} {value : Value ν heap.size}
    {text : JsString} (h : canonicalize F heap seen value = .ok text) :
    ∃ v, heap.IsJson value v := by
  fun_induction canonicalize F heap seen value generalizing text with
  | case1 => exact ⟨_, 0, rfl⟩
  | case2 => exact ⟨_, 0, rfl⟩
  | case3 => exact ⟨_, 0, rfl⟩
  | case4 => exact ⟨_, 0, rfl⟩
  | case11 seen r hr elements hobject ih =>
      obtain ⟨parts, hparts, -⟩ := Except.bind_eq_ok.mp h
      refine isJson_array hobject fun item hitem => ?_
      obtain ⟨text, htext⟩ := List.exists_of_forall₂ (List.mapM_eq_ok_iff.mp hparts) hitem
      obtain ⟨v, hv⟩ := ih item htext
      cases item with
      | none => exact absurd htext (by simp [canonicalize])
      | some value => exact ⟨value, v, rfl, hv⟩
  | case13 seen r hr properties hobject ih =>
      obtain ⟨entries, hentries, -⟩ := Except.bind_eq_ok.mp h
      refine isJson_plain hobject fun p hp => ?_
      have hp' : p ∈ sortProperties properties := (List.mem_insertionSort _).mpr hp
      obtain ⟨text, htext⟩ := List.exists_of_forall₂ (List.mapM_eq_ok_iff.mp hentries) hp'
      obtain ⟨text, htext, -⟩ := Except.bind_eq_ok.mp htext
      exact ih p htext
  | _ => cases h

/-- **Exactly the JSON values are encoded**, each by the text of the sorted value. -/
theorem canonicalJson_eq_ok {value : Value ν heap.size} {text : JsString} :
    canonicalJson F heap value = .ok text ↔
      ∃ v, heap.IsJson value v ∧ text = Json.stringify F v.sorted := by
  have hencoded {v : Json ν} (hv : heap.IsJson value v) :
      canonicalJson F heap value = .ok (Json.stringify F v.sorted) := by
    obtain ⟨d, hd⟩ := hv
    exact canonicalize_of_json? hd [] fun r hr => absurd hr List.not_mem_nil
  constructor
  · intro h
    obtain ⟨v, hv⟩ := isJson_of_canonicalize h
    rw [hencoded hv] at h
    exact ⟨v, hv, (Except.ok.inj h).symm⟩
  · rintro ⟨v, hv, rfl⟩
    exact hencoded hv

/-! ## The encoder of the iPhone runtime -/

/-- With room enough, the iPhone runtime encodes a JSON value by the same text. -/
theorem canonicalJSON_of_json? {d : ℕ} {value : Value ν heap.size} {v : Json ν}
    (h : heap.json? d value = some v) : ∀ stack, d < stack →
      canonicalJSON F heap stack value = .ok (some (Json.stringify F v.sorted)) := by
  refine Heap.json?_rec (motive := fun d value v => ∀ stack, d < stack →
      canonicalJSON F heap stack value = .ok (some (Json.stringify F v.sorted))) ?_ ?_ ?_ h
  · intro d value v hv stack hstack
    obtain ⟨stack, rfl⟩ : ∃ n, stack = n + 1 := ⟨stack - 1, by omega⟩
    cases value with
    | bool b => cases hv; cases b <;> rfl
    | _ => cases hv <;> rfl
  · intro d r elements vs hobject hall stack hstack
    obtain ⟨stack, rfl⟩ : ∃ n, stack = n + 1 := ⟨stack - 1, by omega⟩
    have hparts : (elements.mapM fun item =>
        item.elim (.ok none) fun value => canonicalJSON F heap stack value) =
          .ok (vs.map fun v => some (Json.stringify F v.sorted)) := by
      refine List.mapM_eq_ok_iff.mpr (List.forall₂_map_right_iff.mpr (hall.imp ?_))
      rintro item v ⟨value, rfl, -, ih⟩
      exact ih stack (by omega)
    rw [canonicalJSON, hobject]
    simp only [hparts]
    rw [Json.sorted, Json.sortedElements_eq, Json.stringify_arr, List.map_map]
    change Except.ok (some (unit '[' :: join [unit ','] ((vs.map _).map _) ++ _)) = _
    rw [List.map_map]
    rfl
  · intro d r properties ms hobject hall stack hstack
    obtain ⟨stack, rfl⟩ : ∃ n, stack = n + 1 := ⟨stack - 1, by omega⟩
    have hentries : (sortProperties properties).mapM (fun p => do
        let text ← canonicalJSON F heap stack p.2
        return Json.quote p.1 ++ unit ':' :: text.getD (ofString "undefined")) =
          .ok ((Json.byName ms).map fun m => Json.memberText F (Json.sortedMember m)) := by
      have hsorted := List.forall₂_insertionSort (r := fun s t => le s t = true)
        (fun p m h => h.1) hall
      refine List.mapM_eq_ok_iff.mpr (List.forall₂_map_right_iff.mpr (hsorted.imp ?_))
      rintro p m ⟨hk, -, ih⟩
      rw [ih stack (by omega), hk]
      rfl
    rw [canonicalJSON, hobject]
    simp only [hentries]
    rw [Json.sorted, Json.byName_sortedMembers, Json.stringify_obj, List.map_map]
    rfl

/-- **Canonical JSON identifies values.**  A JSON value is encoded by a text that reads back as
the value up to the order of members, and by one text with another exactly if the two are
the same up to that order; nothing else is encoded; and with room enough the iPhone
runtime gives every JSON value the same text. -/
theorem canonical_json_identifies (F : NumberFormat ν) :
    (∀ (heap : Heap ν) value v, heap.IsJson value v →
      ∃ text w, canonicalJson F heap value = .ok text ∧ Json.parse F text = some w ∧
        Json.Same w v) ∧
    (∀ (heap heap' : Heap ν) value value' v w, heap.IsJson value v → heap'.IsJson value' w →
      (canonicalJson F heap value = canonicalJson F heap' value' ↔ Json.Same v w)) ∧
    (∀ (heap : Heap ν) value, (¬ ∃ v, heap.IsJson value v) →
      ∃ e, canonicalJson F heap value = .error e) ∧
    ∀ (heap : Heap ν) value v, heap.IsJson value v → ∃ depth, ∀ stack, depth < stack →
      canonicalJSON F heap stack value = (canonicalJson F heap value).map some := by
  have hencoded {heap : Heap ν} {value : Value ν heap.size} {v : Json ν}
      (h : heap.IsJson value v) :
      canonicalJson F heap value = .ok (Json.stringify F v.sorted) :=
    canonicalJson_eq_ok.mpr ⟨v, h, rfl⟩
  refine ⟨fun heap value v h => ?_, fun heap heap' value value' v w h h' => ?_,
    fun heap value h => ?_, fun heap value v h => ?_⟩
  · exact ⟨_, v.sorted, hencoded h, Json.parse_stringify_sorted F h.distinct, v.sorted_same⟩
  · rw [hencoded h, hencoded h', ← Json.sorted_eq_iff h.distinct]
    constructor
    · intro htext
      have hparse := Json.parse_stringify_sorted F h.distinct
      rw [Except.ok.inj htext, Json.parse_stringify_sorted F h'.distinct] at hparse
      exact (Option.some.inj hparse).symm
    · intro hsorted
      rw [hsorted]
  · cases hvalue : canonicalJson F heap value with
    | error e => exact ⟨e, rfl⟩
    | ok text =>
        obtain ⟨v, hv, -⟩ := canonicalJson_eq_ok.mp hvalue
        exact absurd ⟨v, hv⟩ h
  · rw [hencoded h]
    obtain ⟨d, hd⟩ := h
    exact ⟨d, fun stack hstack => canonicalJSON_of_json? hd stack hstack⟩

end

/-- One plain object with two properties, in either order. -/
def pairHeap (swapped : Bool) : Heap ℤ where
  size := 1
  object _ := .plain (if swapped then [(ofString "b", .null), (ofString "a", .num 1)]
    else [(ofString "a", .num 1), (ofString "b", .null)])
  distinct := by
    intro r properties h
    cases h
    cases swapped <;> decide

theorem canonical_json_identifies_pair :
    canonicalJson integerFormat (pairHeap false) (.ref (0 : Fin 1)) =
      canonicalJson integerFormat (pairHeap true) (.ref (0 : Fin 1)) :=
  ((canonical_json_identifies integerFormat).2.1 (pairHeap false) (pairHeap true)
    (.ref (0 : Fin 1)) (.ref (0 : Fin 1)) _ _ ⟨1, rfl⟩ ⟨1, rfl⟩).mpr
      (.obj (.swap _ _ _) (.cons _ .null (.cons _ (.num 1) .nil)))

end GreenRoom.Canonical
