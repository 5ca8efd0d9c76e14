import GreenRoom.Lib.JsonRoundTrip
import Mathlib.Data.List.Sort
import Mathlib.Data.List.Perm.Basic

/-!
# JSON values up to the order of members

Two values are the same up to the order of members if, at every depth, the members
of one are those of the other in some order.  Sorting all members by their names
picks one value of each class.

## Main definitions

* `Json.Same` — equality up to the order of members, at every depth.
* `Json.sorted` — the value with all members in the order of their names.
* `Json.names` — the names of all members.

## Main results

* `Json.sorted_same` — sorting only reorders.
* `Json.sorted_eq_iff` — two values sort to one exactly if they are the same.
* `Json.parse_stringify_sorted` — the text of a sorted value reads back.
* `Json.Same.of_obj` — what is the same as an object has the same members.
-/

universe u

namespace JsString

theorem le_antisymm {s t : JsString} (h : le s t) (h' : le t s) : s = t := by
  induction s generalizing t with
  | nil =>
      cases t with
      | nil => rfl
      | cons v t => cases h'
  | cons u s ih =>
      cases t with
      | nil => cases h
      | cons v t =>
          simp only [le, Bool.or_eq_true, Bool.and_eq_true, decide_eq_true_eq] at h h'
          rcases h with h | ⟨rfl, h⟩
          · rcases h' with h' | ⟨rfl, -⟩
            · exact absurd (UInt16.lt_trans h h') (UInt16.lt_irrefl _)
            · exact absurd h (UInt16.lt_irrefl _)
          · rcases h' with h' | ⟨-, h'⟩
            · exact absurd h' (UInt16.lt_irrefl _)
            · rw [ih h h']

end JsString

namespace Json

open JsString

variable {ν : Type u}

mutual

/-- Equality up to the order of members, at every depth. -/
inductive Same : Json ν → Json ν → Prop
  | null : Same .null .null
  | bool (b : Bool) : Same (.bool b) (.bool b)
  | num (x : ν) : Same (.num x) (.num x)
  | str (s : JsString) : Same (.str s) (.str s)
  | arr {vs ws : List (Json ν)} : SameElements vs ws → Same (.arr vs) (.arr ws)
  | obj {ms ms' ns : List (JsString × Json ν)} : ms.Perm ms' → SameMembers ms' ns →
      Same (.obj ms) (.obj ns)

inductive SameElements : List (Json ν) → List (Json ν) → Prop
  | nil : SameElements [] []
  | cons {v w : Json ν} {vs ws : List (Json ν)} : Same v w → SameElements vs ws →
      SameElements (v :: vs) (w :: ws)

inductive SameMembers : List (JsString × Json ν) → List (JsString × Json ν) → Prop
  | nil : SameMembers [] []
  | cons (k : JsString) {v w : Json ν} {ms ns : List (JsString × Json ν)} : Same v w →
      SameMembers ms ns → SameMembers ((k, v) :: ms) ((k, w) :: ns)

end

/-- Members in the order of their names. -/
def byName (members : List (JsString × Json ν)) : List (JsString × Json ν) :=
  members.insertionSort fun a b => le a.1 b.1

mutual

/-- The value with all members in the order of their names. -/
def sorted : Json ν → Json ν
  | .arr elements => .arr (sortedElements elements)
  | .obj members => .obj (byName (sortedMembers members))
  | .null => .null
  | .bool b => .bool b
  | .num x => .num x
  | .str s => .str s

def sortedElements : List (Json ν) → List (Json ν)
  | [] => []
  | v :: vs => v.sorted :: sortedElements vs

def sortedMembers : List (JsString × Json ν) → List (JsString × Json ν)
  | [] => []
  | (k, v) :: ms => (k, v.sorted) :: sortedMembers ms

end

/-- A member with its value sorted. -/
def sortedMember (m : JsString × Json ν) : JsString × Json ν := (m.1, m.2.sorted)

theorem sortedElements_eq (elements : List (Json ν)) :
    sortedElements elements = elements.map sorted := by
  induction elements with
  | nil => rfl
  | cons v vs ih => rw [sortedElements, ih, List.map_cons]

theorem sortedMembers_eq (members : List (JsString × Json ν)) :
    sortedMembers members = members.map sortedMember := by
  induction members with
  | nil => rfl
  | cons m ms ih => rw [sortedMembers, ih, List.map_cons, sortedMember]

theorem byName_perm (members : List (JsString × Json ν)) : (byName members).Perm members :=
  List.perm_insertionSort _ _

theorem byName_pairwise (members : List (JsString × Json ν)) :
    (byName members).Pairwise fun a b => le a.1 b.1 := by
  have : Std.Total fun a b : JsString × Json ν => (le a.1 b.1 : Prop) :=
    ⟨fun a b => le_total a.1 b.1⟩
  have : IsTrans (JsString × Json ν) fun a b => (le a.1 b.1 : Prop) :=
    ⟨fun _ _ _ h h' => le_trans h h'⟩
  exact List.pairwise_insertionSort _ _

/-- There is one way to sort members with distinct names. -/
theorem byName_eq_of_perm {ms ns : List (JsString × Json ν)} (h : ms.Perm ns)
    (hms : (ms.map Prod.fst).Nodup) : byName ms = byName ns := by
  have hsort : (byName ms).Perm (byName ns) :=
    (byName_perm ms).trans (h.trans (byName_perm ns).symm)
  refine List.Perm.eq_of_pairwise (fun a b ha hb hab hba => ?_) (byName_pairwise ms)
    (byName_pairwise ns) hsort
  have ha' := (byName_perm ms).mem_iff.mp ha
  have hb' := h.mem_iff.mpr ((byName_perm ns).mem_iff.mp hb)
  exact List.inj_on_of_nodup_map hms ha' hb' (le_antisymm hab hba)

/-- Sorting values and sorting members may be done in any order. -/
theorem byName_sortedMembers (members : List (JsString × Json ν)) :
    byName (sortedMembers members) = (byName members).map sortedMember := by
  rw [sortedMembers_eq]
  have hsort : (byName members).map sortedMember = byName (members.map sortedMember) :=
    List.map_insertionSort _ _ _ _ fun _ _ _ _ => Iff.rfl
  exact hsort.symm

/-! ## Sorting reorders -/

mutual

theorem sorted_same : (v : Json ν) → Same v.sorted v
  | .null => .null
  | .bool b => .bool b
  | .num x => .num x
  | .str s => .str s
  | .arr elements => .arr (sortedElements_same elements)
  | .obj members => .obj (byName_perm _) (sortedMembers_same members)

theorem sortedElements_same : (vs : List (Json ν)) → SameElements (sortedElements vs) vs
  | [] => .nil
  | v :: vs => .cons v.sorted_same (sortedElements_same vs)

theorem sortedMembers_same : (ms : List (JsString × Json ν)) → SameMembers (sortedMembers ms) ms
  | [] => .nil
  | (k, v) :: ms => .cons k v.sorted_same (sortedMembers_same ms)

end

/-! ## One sorted value for each class -/

theorem distinctMembers_forall {members : List (JsString × Json ν)} :
    DistinctMembers members ↔ ∀ m ∈ members, m.2.Distinct := by
  induction members with
  | nil => simp [DistinctMembers]
  | cons m ms ih => simp [DistinctMembers, ih]

mutual

theorem distinct_sorted : (v : Json ν) → v.Distinct → v.sorted.Distinct
  | .null, _ | .bool _, _ | .num _, _ | .str _, _ => trivial
  | .arr elements, h => distinct_sortedElements elements h
  | .obj members, h => by
      have hperm := byName_perm (sortedMembers members)
      refine ⟨?_, distinctMembers_forall.mpr fun m hm => ?_⟩
      · rw [(hperm.map Prod.fst).nodup_iff, sortedMembers_eq, List.map_map]
        exact h.1
      · exact distinctMembers_forall.mp (distinct_sortedMembers members h.2) m
          (hperm.mem_iff.mp hm)

theorem distinct_sortedElements : (vs : List (Json ν)) → DistinctElements vs →
    DistinctElements (sortedElements vs)
  | [], _ => trivial
  | v :: vs, h => ⟨distinct_sorted v h.1, distinct_sortedElements vs h.2⟩

theorem distinct_sortedMembers : (ms : List (JsString × Json ν)) → DistinctMembers ms →
    DistinctMembers (sortedMembers ms)
  | [], _ => trivial
  | (_, v) :: ms, h => ⟨distinct_sorted v h.1, distinct_sortedMembers ms h.2⟩

end

/-- The text of a sorted value reads back. -/
theorem parse_stringify_sorted (F : NumberFormat ν) {v : Json ν} (h : v.Distinct) :
    parse F (stringify F v.sorted) = some v.sorted :=
  parse_stringify F (distinct_sorted v h)

mutual

/-- What is the same sorts to one value. -/
theorem Same.sorted_eq : {v w : Json ν} → Same v w → v.Distinct → v.sorted = w.sorted
  | _, _, .null, _ | _, _, .bool _, _ | _, _, .num _, _ | _, _, .str _, _ => rfl
  | .arr _, .arr _, .arr h, hv => by rw [sorted, sorted, SameElements.sorted_eq h hv]
  | .obj ms, .obj ns, @Same.obj _ _ ms' _ hperm h, hv => by
      have hdistinct : DistinctMembers ms' :=
        distinctMembers_forall.mpr fun m hm =>
          distinctMembers_forall.mp hv.2 m (hperm.mem_iff.mpr hm)
      rw [sorted, sorted, ← SameMembers.sorted_eq h hdistinct, sortedMembers_eq,
        sortedMembers_eq]
      congr 1
      refine byName_eq_of_perm (hperm.map _) ?_
      rw [List.map_map]
      exact hv.1

theorem SameElements.sorted_eq : {vs ws : List (Json ν)} → SameElements vs ws →
    DistinctElements vs → sortedElements vs = sortedElements ws
  | _, _, .nil, _ => rfl
  | _ :: _, _ :: _, .cons h h', hv => by
      rw [sortedElements, sortedElements, Same.sorted_eq h hv.1, SameElements.sorted_eq h' hv.2]

theorem SameMembers.sorted_eq : {ms ns : List (JsString × Json ν)} → SameMembers ms ns →
    DistinctMembers ms → sortedMembers ms = sortedMembers ns
  | _, _, .nil, _ => rfl
  | _ :: _, _ :: _, .cons k h h', hv => by
      rw [sortedMembers, sortedMembers, Same.sorted_eq h hv.1, SameMembers.sorted_eq h' hv.2]

end

theorem sameMembers_of_forall₂ {ms ns : List (JsString × Json ν)}
    (hsame : ∀ m ∈ ms, ∀ w : Json ν, m.2.sorted = w.sorted → Same m.2 w)
    (h : List.Forall₂ (fun n m => sortedMember n = sortedMember m) ns ms) :
    SameMembers ms ns := by
  induction h with
  | nil => exact .nil
  | @cons n m ns ms hnm _ ih =>
      obtain ⟨hk, hv⟩ := Prod.mk.inj hnm
      obtain ⟨k, v⟩ := m
      obtain ⟨k', w⟩ := n
      obtain rfl : k' = k := hk
      exact .cons k' (hsame _ List.mem_cons_self w hv.symm)
        (ih fun m hm => hsame m (List.mem_cons_of_mem _ hm))

mutual

/-- What sorts to one value is the same. -/
theorem same_of_sorted_eq : (v w : Json ν) → v.sorted = w.sorted → Same v w
  | .null, w, h => by
      cases w <;> cases h
      exact .null
  | .bool b, w, h => by
      cases w <;> cases h
      exact .bool b
  | .num x, w, h => by
      cases w <;> cases h
      exact .num x
  | .str s, w, h => by
      cases w <;> cases h
      exact .str s
  | .arr vs, w, h => by
      cases w with
      | arr ws => exact .arr (same_of_sortedElements_eq vs ws (Json.arr.inj h))
      | _ => cases h
  | .obj ms, w, h => by
      cases w with
      | obj ns =>
          have hperm : (sortedMembers ms).Perm (sortedMembers ns) :=
            (byName_perm _).symm.trans (Json.obj.inj h ▸ byName_perm _)
          rw [sortedMembers_eq, sortedMembers_eq] at hperm
          have hself : List.Forall₂ (fun x m => x = sortedMember m) (ms.map sortedMember) ms :=
            List.forall₂_map_left_iff.mpr (List.forall₂_same.mpr fun _ _ => rfl)
          obtain ⟨ms', hall, hms'⟩ := List.perm_comp_forall₂ hperm.symm hself
          refine .obj hms'.symm (sameMembers_of_forall₂ (fun m hm => ?_)
            (List.forall₂_map_left_iff.mp hall))
          exact same_of_member_sorted_eq ms m (hms'.mem_iff.mp hm)
      | _ => cases h

theorem same_of_sortedElements_eq : (vs ws : List (Json ν)) →
    sortedElements vs = sortedElements ws → SameElements vs ws
  | [], ws, h => by
      cases ws with
      | nil => exact .nil
      | cons w ws => cases h
  | v :: vs, ws, h => by
      cases ws with
      | nil => cases h
      | cons w ws =>
          rw [sortedElements, sortedElements, List.cons.injEq] at h
          exact .cons (same_of_sorted_eq v w h.1) (same_of_sortedElements_eq vs ws h.2)

theorem same_of_member_sorted_eq : (ms : List (JsString × Json ν)) → ∀ m ∈ ms, ∀ w : Json ν,
    m.2.sorted = w.sorted → Same m.2 w
  | (k, v) :: ms, m, hm, w, h => by
      rcases List.mem_cons.mp hm with rfl | hm
      · exact same_of_sorted_eq v w h
      · exact same_of_member_sorted_eq ms m hm w h

end

/-- **Two values sort to one exactly if they are the same up to the order of members.** -/
theorem sorted_eq_iff {v w : Json ν} (hv : v.Distinct) : v.sorted = w.sorted ↔ Same v w :=
  ⟨same_of_sorted_eq v w, fun h => h.sorted_eq hv⟩

/-! ## Members -/

theorem lookup_iff_mem {α : Type u} {members : List (JsString × α)}
    (h : (members.map Prod.fst).Nodup) {k : JsString} {v : α} :
    members.lookup k = some v ↔ (k, v) ∈ members := by
  induction members with
  | nil => simp
  | cons m ms ih =>
      obtain ⟨k', v'⟩ := m
      rw [List.map_cons, List.nodup_cons] at h
      rw [List.lookup_cons, List.mem_cons, Prod.mk.injEq]
      by_cases hk : k = k'
      · subst hk
        have hfree : (k, v) ∉ ms := fun hm => h.1 (List.mem_map.mpr ⟨(k, v), hm, rfl⟩)
        simp [hfree, eq_comm]
      · have hb : (k == k') = false := by simpa using hk
        simp [hb, hk, ih h.2]

theorem SameMembers.keys_eq {ms ns : List (JsString × Json ν)} (h : SameMembers ms ns) :
    ms.map Prod.fst = ns.map Prod.fst := by
  induction ms generalizing ns with
  | nil =>
      cases h
      rfl
  | cons m ms ih =>
      cases h with
      | cons k hv h => rw [List.map_cons, List.map_cons, ih h]

theorem SameMembers.exists_mem {ms ns : List (JsString × Json ν)} (h : SameMembers ms ns)
    {k : JsString} {w : Json ν} (hmem : (k, w) ∈ ns) : ∃ v, (k, v) ∈ ms ∧ Same v w := by
  induction ms generalizing ns with
  | nil =>
      cases h
      cases hmem
  | cons m ms ih =>
      cases h with
      | @cons k' v w' _ ns hv h =>
          rcases List.mem_cons.mp hmem with heq | hmem
          · obtain ⟨rfl, rfl⟩ := Prod.mk.inj heq
            exact ⟨v, List.mem_cons_self, hv⟩
          · obtain ⟨v, hm, hsame⟩ := ih h hmem
            exact ⟨v, List.mem_cons_of_mem _ hm, hsame⟩

/-- What is the same as an object has the same members. -/
theorem Same.of_obj {v : Json ν} {ns : List (JsString × Json ν)} (h : Same v (.obj ns))
    (hnodup : (ns.map Prod.fst).Nodup) : ∃ ms, v = .obj ms ∧
      (ms.map Prod.fst).Perm (ns.map Prod.fst) ∧
      ∀ k w, (k, w) ∈ ns → ∃ v, ms.lookup k = some v ∧ Same v w := by
  cases h with
  | @obj ms ms' _ hperm hsame =>
      have hkeys : (ms.map Prod.fst).Perm (ns.map Prod.fst) :=
        hsame.keys_eq ▸ hperm.map Prod.fst
      refine ⟨ms, rfl, hkeys, fun k w hmem => ?_⟩
      obtain ⟨v, hv, hvw⟩ := hsame.exists_mem hmem
      exact ⟨v, (lookup_iff_mem (hkeys.nodup_iff.mpr hnodup)).mpr (hperm.mem_iff.mpr hv), hvw⟩

theorem Same.of_str {v : Json ν} {s : JsString} (h : Same v (.str s)) : v = .str s := by
  cases h
  rfl

theorem Same.of_num {v : Json ν} {x : ν} (h : Same v (.num x)) : v = .num x := by
  cases h
  rfl

/-- There is one way to write a list of texts. -/
theorem Same.of_arr_str {v : Json ν} {texts : List JsString}
    (h : Same v (.arr (texts.map .str))) : v = .arr (texts.map .str) := by
  cases h with
  | @arr vs _ h =>
      congr 1
      induction texts generalizing vs with
      | nil =>
          cases h
          rfl
      | cons s texts ih =>
          cases h with
          | cons hv h => rw [hv.of_str, ih h, List.map_cons]

/-! ## Names -/

mutual

/-- The names of members, at every depth. -/
def names : Json ν → List JsString
  | .arr elements => namesOfElements elements
  | .obj members => namesOfMembers members
  | .null | .bool _ | .num _ | .str _ => []

def namesOfElements : List (Json ν) → List JsString
  | [] => []
  | v :: vs => v.names ++ namesOfElements vs

def namesOfMembers : List (JsString × Json ν) → List JsString
  | [] => []
  | (k, v) :: ms => k :: (v.names ++ namesOfMembers ms)

end

/-! ## Texts -/

/-- A name with the text of its member. -/
def memberText (F : NumberFormat ν) (m : JsString × Json ν) : JsString :=
  quote m.1 ++ unit ':' :: stringify F m.2

theorem stringifyElements_eq (F : NumberFormat ν) (elements : List (Json ν)) :
    stringifyElements F elements = join [unit ','] (elements.map (stringify F)) := by
  induction elements with
  | nil => rfl
  | cons v vs ih =>
      cases vs with
      | nil => simp [stringifyElements, join, List.intercalate]
      | cons w vs =>
          rw [stringifyElements, ih]
          simp [join, List.intercalate]

theorem stringifyMembers_eq (F : NumberFormat ν) (members : List (JsString × Json ν)) :
    stringifyMembers F members = join [unit ','] (members.map (memberText F)) := by
  induction members with
  | nil => rfl
  | cons m ms ih =>
      obtain ⟨k, v⟩ := m
      cases ms with
      | nil => simp [stringifyMembers, join, List.intercalate, memberText]
      | cons m ms =>
          rw [stringifyMembers, ih]
          simp [join, List.intercalate, memberText]

theorem stringify_arr (F : NumberFormat ν) (elements : List (Json ν)) :
    stringify F (.arr elements) =
      unit '[' :: join [unit ','] (elements.map (stringify F)) ++ [unit ']'] := by
  rw [stringify, stringifyElements_eq]

theorem stringify_obj (F : NumberFormat ν) (members : List (JsString × Json ν)) :
    stringify F (.obj members) =
      unit '\x7b' :: join [unit ','] (members.map (memberText F)) ++ [unit '\x7d'] := by
  rw [stringify, stringifyMembers_eq]

end Json
