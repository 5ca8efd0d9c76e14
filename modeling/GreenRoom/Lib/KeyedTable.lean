import Mathlib.Data.List.AList

/-!
# Keyed tables

A dictionary, or a database table with a primary key, is Mathlib's association
list without repeated keys.  This file adds what an update statement and a
counting query need: rewriting rows in place, and counting the rows that meet a
condition.

## Main definitions

* `KeyedTable κ ρ` — rows `ρ` under keys `κ`, no key twice.
* `KeyedTable.modify` — rewrite every row, keys unchanged.
* `KeyedTable.set` — give a key its row, in the place it has or else at the end.
* `KeyedTable.count` — the number of rows meeting a condition.
-/

universe u v

/-- Rows of type `ρ` under keys of type `κ`; no key occurs twice. -/
abbrev KeyedTable (κ : Type u) (ρ : Type v) := AList fun _ : κ => ρ

namespace KeyedTable

variable {κ : Type u} {ρ : Type v}

/-- Rewrite every row, knowing its key. -/
def modify (f : κ → ρ → ρ) (t : KeyedTable κ ρ) : KeyedTable κ ρ where
  entries := t.entries.map fun e => ⟨e.1, f e.1 e.2⟩
  nodupKeys := by
    have h : (t.entries.map fun e : (_ : κ) × ρ => (⟨e.1, f e.1 e.2⟩ : (_ : κ) × ρ)).keys =
        t.entries.keys := by
      simp [List.keys, Function.comp_def]
    rw [List.NodupKeys, h]
    exact t.nodupKeys

/-- The number of rows that meet `p`. -/
def count (p : ρ → Bool) (t : KeyedTable κ ρ) : ℕ := t.entries.countP fun e => p e.2

@[simp] theorem count_empty (p : ρ → Bool) : count p (∅ : KeyedTable κ ρ) = 0 := rfl

variable [DecidableEq κ]

private theorem dlookup_cons (k k' : κ) (r : ρ) (l : List ((_ : κ) × ρ)) :
    List.dlookup k (⟨k', r⟩ :: l) = if k = k' then some r else l.dlookup k := by
  by_cases h : k = k'
  · subst h; simp
  · rw [List.dlookup_cons_ne l _ h, if_neg h]

private theorem kerase_cons (k k' : κ) (r : ρ) (l : List ((_ : κ) × ρ)) :
    List.kerase k (⟨k', r⟩ :: l) = if k = k' then l else ⟨k', r⟩ :: l.kerase k := by
  by_cases h : k = k' <;> simp [List.kerase, h]

@[simp] theorem lookup_modify (f : κ → ρ → ρ) (t : KeyedTable κ ρ) (k : κ) :
    (modify f t).lookup k = (t.lookup k).map (f k) := by
  have h : ∀ l : List ((_ : κ) × ρ),
      (l.map fun e => (⟨e.1, f e.1 e.2⟩ : (_ : κ) × ρ)).dlookup k = (l.dlookup k).map (f k) := by
    intro l
    induction l with
    | nil => simp
    | cons e l ih =>
        obtain ⟨k', r⟩ := e
        rw [List.map_cons, dlookup_cons, dlookup_cons, ih]
        by_cases hk : k = k'
        · subst hk; simp
        · simp [hk]
  exact h t.entries

/-- A row is found under its key. -/
theorem mem_entries_iff {t : KeyedTable κ ρ} {k : κ} {r : ρ} :
    (⟨k, r⟩ : (_ : κ) × ρ) ∈ t.entries ↔ t.lookup k = some r := by
  rw [← Option.mem_def, AList.mem_lookup_iff]

/-- Rewriting every row to itself. -/
theorem modify_self {f : κ → ρ → ρ} {t : KeyedTable κ ρ}
    (h : ∀ k r, t.lookup k = some r → f k r = r) : modify f t = t := by
  refine AList.ext ?_
  refine (List.map_congr_left fun e he => ?_).trans (List.map_id _)
  obtain ⟨k, r⟩ := e
  rw [h k r (mem_entries_iff.mp he)]
  rfl

theorem lookup_insert (t : KeyedTable κ ρ) (k k' : κ) (r : ρ) :
    (t.insert k r).lookup k' = if k' = k then some r else t.lookup k' := by
  by_cases h : k' = k
  · subst h
    rw [if_pos rfl, AList.lookup_insert]
  · rw [if_neg h, AList.lookup_insert_ne h]

theorem lookup_erase (t : KeyedTable κ ρ) (k k' : κ) :
    (t.erase k).lookup k' = if k' = k then none else t.lookup k' := by
  by_cases h : k' = k
  · subst h
    rw [if_pos rfl, AList.lookup_erase]
  · rw [if_neg h, AList.lookup_erase_ne h]

/-- Give `k` the row `r`: a key that is there keeps its place, a new one comes last. -/
def set (k : κ) (r : ρ) (t : KeyedTable κ ρ) : KeyedTable κ ρ :=
  if h : k ∈ t then modify (fun k' r' => if k' = k then r else r') t
  else
    { entries := t.entries ++ [⟨k, r⟩]
      nodupKeys := by
        rw [AList.mem_keys] at h
        rw [List.NodupKeys, List.keys, List.map_append, List.nodup_append]
        refine ⟨t.nodupKeys, List.nodup_singleton _, ?_⟩
        intro a ha b hb hab
        rw [List.map_singleton, List.mem_singleton] at hb
        subst hab hb
        exact h ha }

theorem lookup_set (t : KeyedTable κ ρ) (k k' : κ) (r : ρ) :
    (set k r t).lookup k' = if k' = k then some r else t.lookup k' := by
  unfold set
  split
  · next h =>
      rw [lookup_modify]
      by_cases hk : k' = k
      · obtain ⟨r', hr⟩ := Option.isSome_iff_exists.mp (AList.lookup_isSome.mpr (hk ▸ h))
        rw [if_pos hk, hr, Option.map_some, if_pos hk]
      · simp [hk]
  · next h =>
      have hnone := AList.lookup_eq_none.mpr h
      simp only [AList.lookup, List.dlookup_append, dlookup_cons, List.dlookup_nil] at hnone ⊢
      by_cases hk : k' = k
      · subst hk
        simp [hnone]
      · simp [hk]

theorem entries_set_of_notMem {t : KeyedTable κ ρ} {k : κ} (h : k ∉ t) (r : ρ) :
    (set k r t).entries = t.entries ++ [⟨k, r⟩] := by
  rw [set, dif_neg h]

/-- Setting one key adds at most one row. -/
theorem length_set_le (t : KeyedTable κ ρ) (k : κ) (r : ρ) :
    (set k r t).entries.length ≤ t.entries.length + 1 := by
  unfold set
  split
  · simp [modify]
  · simp

theorem eq_empty_of_lookup {t : KeyedTable κ ρ} (h : ∀ k, t.lookup k = none) : t = ∅ := by
  refine AList.ext (List.eq_nil_iff_forall_not_mem.mpr ?_)
  rintro ⟨k, r⟩ hmem
  rw [mem_entries_iff, h k] at hmem
  cases hmem

/-! ## Counting -/

/-- Erasing a key removes exactly its row from the count. -/
theorem count_erase (p : ρ → Bool) (t : KeyedTable κ ρ) (k : κ) :
    count p t = count p (t.erase k) + if (t.lookup k).any p then 1 else 0 := by
  have h : ∀ l : List ((_ : κ) × ρ), l.countP (fun e => p e.2) =
      (l.kerase k).countP (fun e => p e.2) + if (l.dlookup k).any p then 1 else 0 := by
    intro l
    induction l with
    | nil => simp
    | cons e l ih =>
        obtain ⟨k', r⟩ := e
        rw [kerase_cons, dlookup_cons, List.countP_cons]
        by_cases hk : k = k'
        · simp [hk]
        · rw [if_neg hk, if_neg hk, List.countP_cons, ih]
          omega
  exact h t.entries

/-- Writing a row under a key replaces the row that was there in the count. -/
theorem count_insert (p : ρ → Bool) (t : KeyedTable κ ρ) (k : κ) (r : ρ) :
    count p (t.insert k r) = count p (t.erase k) + if p r then 1 else 0 := by
  unfold count
  rw [AList.entries_insert, List.countP_cons]
  rfl

/-- What is counted depends on what is looked up only. -/
theorem count_eq_of_lookup {α : Type*} {f : ρ → α} {p : α → Bool} {t t' : KeyedTable κ ρ}
    (h : ∀ k, (t'.lookup k).map f = (t.lookup k).map f) :
    count (fun r => p (f r)) t' = count (fun r => p (f r)) t := by
  have hnodup : ∀ t : KeyedTable κ ρ, (t.entries.map fun e => (e.1, f e.2)).Nodup := by
    intro t
    refine List.Nodup.of_map Prod.fst ?_
    rw [List.map_map]
    exact t.nodupKeys
  have hmem : ∀ (t : KeyedTable κ ρ) (k : κ) (a : α),
      (k, a) ∈ (t.entries.map fun e => (e.1, f e.2)) ↔ (t.lookup k).map f = some a := by
    intro t k a
    rw [List.mem_map, Option.map_eq_some_iff]
    constructor
    · rintro ⟨⟨k', r⟩, he, heq⟩
      obtain ⟨rfl, rfl⟩ := Prod.mk.inj heq
      exact ⟨r, mem_entries_iff.mp he, rfl⟩
    · rintro ⟨r, hr, rfl⟩
      exact ⟨⟨k, r⟩, mem_entries_iff.mpr hr, rfl⟩
  have hcount : ∀ t : KeyedTable κ ρ, count (fun r => p (f r)) t =
      (t.entries.map fun e => (e.1, f e.2)).countP fun x => p x.2 := by
    intro t
    rw [List.countP_map]
    rfl
  rw [hcount t', hcount t]
  refine (List.perm_ext_iff_of_nodup (hnodup t') (hnodup t)).mpr ?_ |>.countP_eq _
  rintro ⟨k, a⟩
  rw [hmem, hmem, h]

end KeyedTable
