import GreenRoom.Lib.KeyedTable
import Mathlib.Data.List.MinMax

/-!
# Tables of revisions

A table in which rows are never changed, only added: a row is keyed by the thing it
describes and by the number of its revision.  A thing's revisions are numbered from
one without a gap, and its newest row is what holds of it now.

## Main definitions

* `RevisionTable ι ρ` — rows under an identifier and a number.
* `RevisionTable.last`, `next` — the number of the newest revision, and the one after.
* `RevisionTable.append` — add the next revision.
* `RevisionTable.newest` — the row of the greatest number among those that meet a condition.
* `RevisionTable.Contiguous` — the revisions of everything are numbered `1..n`.
* `RevisionTable.Latest` — the newest row of a thing, with its number.
* `RevisionTable.Extends` — rows have only been added.

## Main results

* `Contiguous.append` — appending keeps the numbering.
* `newest_of_id` — the newest row of a thing is its latest.
* `newest_append_of_true`, `newest_append_of_false` — the newest row after one more.
-/

/-- Rows of type `ρ`, each under what it is about and its number. -/
abbrev RevisionTable (ι ρ : Type) := KeyedTable (ι × ℕ) ρ

namespace RevisionTable

open KeyedTable

variable {ι ρ : Type} {t t' : RevisionTable ι ρ} {id id' : ι} {n : ℕ} {row row' : ρ}

/-- `ORDER BY revision DESC LIMIT 1`, among the rows that meet a condition. -/
def newest (t : RevisionTable ι ρ) (condition : ι → ρ → Bool) : Option ρ :=
  ((t.entries.filter fun e => condition e.1.1 e.2).argmax fun e => e.1.2).map Sigma.snd

variable [DecidableEq ι]

/-- `max(revision)`, of the rows about `id`. -/
def last (t : RevisionTable ι ρ) (id : ι) : Option ℕ :=
  ((t.entries.filter fun e => e.1.1 = id).map fun e => e.1.2).max?

/-- `COALESCE(max(revision) + 1, 1)`. -/
def next (t : RevisionTable ι ρ) (id : ι) : ℕ := ((t.last id).map (· + 1)).getD 1

/-- The revisions of `id` are numbered `1..n` where `n` is the greatest number. -/
def Contiguous (t : RevisionTable ι ρ) : Prop :=
  ∀ id n, (id, n) ∈ t ↔ 1 ≤ n ∧ n < t.next id

/-- Add the next revision of `id`. -/
def append (t : RevisionTable ι ρ) (id : ι) (row : ρ) : RevisionTable ι ρ :=
  t.insert (id, t.next id) row

/-- `row` is the newest row about `id`, and has number `n`. -/
def Latest (t : RevisionTable ι ρ) (id : ι) (n : ℕ) (row : ρ) : Prop :=
  t.lookup (id, n) = some row ∧ t.last id = some n

/-- Rows have been added, and none changed. -/
def Extends (t t' : RevisionTable ι ρ) : Prop :=
  ∀ k row, t.lookup k = some row → t'.lookup k = some row

/-! ## The greatest number -/

theorem mem_iff_exists {k : ι × ℕ} : k ∈ t ↔ ∃ row, t.lookup k = some row := by
  rw [← AList.lookup_isSome, Option.isSome_iff_exists]

private theorem mem_numbers :
    n ∈ (t.entries.filter fun e => e.1.1 = id).map (fun e => e.1.2) ↔ (id, n) ∈ t := by
  rw [mem_iff_exists, List.mem_map]
  constructor
  · rintro ⟨⟨⟨id', m⟩, row⟩, hmem, rfl⟩
    rw [List.mem_filter, mem_entries_iff, decide_eq_true_eq] at hmem
    obtain ⟨hrow, rfl⟩ := hmem
    exact ⟨row, hrow⟩
  · rintro ⟨row, hrow⟩
    exact ⟨⟨(id, n), row⟩, List.mem_filter.mpr ⟨mem_entries_iff.mpr hrow, by simp⟩, rfl⟩

theorem last_eq_some : t.last id = some n ↔ (id, n) ∈ t ∧ ∀ m, (id, m) ∈ t → m ≤ n := by
  rw [last, List.max?_eq_some_iff, mem_numbers]
  simp only [mem_numbers]

theorem last_eq_none : t.last id = none ↔ ∀ n, (id, n) ∉ t := by
  rw [last, List.max?_eq_none_iff, List.eq_nil_iff_forall_not_mem]
  simp only [mem_numbers]

theorem next_eq_one (h : t.last id = none) : t.next id = 1 := by
  rw [next, h]
  rfl

theorem next_eq_succ (h : t.last id = some n) : t.next id = n + 1 := by
  rw [next, h]
  rfl

theorem next_pos (t : RevisionTable ι ρ) (id : ι) : 1 ≤ t.next id := by
  cases hlast : t.last id with
  | none => exact (next_eq_one hlast).ge
  | some n =>
      rw [next_eq_succ hlast]
      omega

theorem lt_next_of_mem (h : (id, n) ∈ t) : n < t.next id := by
  cases hlast : t.last id with
  | none => exact absurd h (last_eq_none.mp hlast n)
  | some m =>
      rw [next_eq_succ hlast]
      exact Nat.lt_succ_of_le ((last_eq_some.mp hlast).2 n h)

theorem next_notMem (t : RevisionTable ι ρ) (id : ι) : (id, t.next id) ∉ t :=
  fun h => Nat.lt_irrefl _ (lt_next_of_mem h)

/-! ## The newest row -/

theorem Latest.unique {m : ℕ} (h : t.Latest id n row) (h' : t.Latest id m row') :
    m = n ∧ row' = row := by
  obtain rfl : m = n := Option.some.inj (h'.2.symm.trans h.2)
  exact ⟨rfl, Option.some.inj (h'.1.symm.trans h.1)⟩

/-- A newest row meets the condition, and no row meeting it has a greater number. -/
theorem of_newest {condition : ι → ρ → Bool} (h : t.newest condition = some row) :
    ∃ id n, t.lookup (id, n) = some row ∧ condition id row = true ∧
      ∀ id' m row', t.lookup (id', m) = some row' → condition id' row' = true → m ≤ n := by
  obtain ⟨⟨⟨id, n⟩, row⟩, hmax, rfl⟩ := Option.map_eq_some_iff.mp h
  have hmem := List.argmax_mem hmax
  rw [List.mem_filter, mem_entries_iff] at hmem
  refine ⟨id, n, hmem.1, hmem.2, fun id' m row' hrow hcondition => ?_⟩
  have hrow' : (⟨(id', m), row'⟩ : (_ : ι × ℕ) × ρ) ∈
      t.entries.filter fun e => condition e.1.1 e.2 :=
    List.mem_filter.mpr ⟨mem_entries_iff.mpr hrow, hcondition⟩
  exact List.le_of_mem_argmax hrow' hmax

theorem newest_eq_none {condition : ι → ρ → Bool} :
    t.newest condition = none ↔
      ∀ id n row, t.lookup (id, n) = some row → condition id row = false := by
  rw [newest, Option.map_eq_none_iff, List.argmax_eq_none, List.filter_eq_nil_iff]
  constructor
  · intro h id n row hrow
    exact Bool.eq_false_iff.mpr (h ⟨(id, n), row⟩ (mem_entries_iff.mpr hrow))
  · rintro h ⟨⟨id, n⟩, row⟩ hmem
    exact Bool.eq_false_iff.mp (h id n row (mem_entries_iff.mp hmem))

/-- The newest row about `id` is its latest. -/
theorem newest_of_id : t.newest (fun id' _ => id' = id) = some row ↔ ∃ n, t.Latest id n row := by
  constructor
  · intro h
    obtain ⟨id', n, hrow, hid, hmax⟩ := of_newest h
    obtain rfl := of_decide_eq_true hid
    refine ⟨n, hrow, last_eq_some.mpr ⟨mem_iff_exists.mpr ⟨row, hrow⟩, fun m hm => ?_⟩⟩
    obtain ⟨row', hrow'⟩ := mem_iff_exists.mp hm
    exact hmax id' m row' hrow' (decide_eq_true rfl)
  · rintro ⟨n, hlatest⟩
    cases h : t.newest fun id' _ => id' = id with
    | none => exact absurd (newest_eq_none.mp h id n row hlatest.1) (by simp)
    | some row' =>
        obtain ⟨id', m, hrow, hid, hmax⟩ := of_newest h
        obtain rfl := of_decide_eq_true hid
        have hlast : t.last id' = some m :=
          last_eq_some.mpr ⟨mem_iff_exists.mpr ⟨row', hrow⟩, fun k hk => by
            obtain ⟨row'', hrow''⟩ := mem_iff_exists.mp hk
            exact hmax id' k row'' hrow'' (decide_eq_true rfl)⟩
        rw [(Latest.unique hlatest ⟨hrow, hlast⟩).2]

/-! ## Adding rows -/

theorem Extends.refl (t : RevisionTable ι ρ) : t.Extends t := fun _ _ h => h

theorem Extends.trans {t'' : RevisionTable ι ρ} (h : t.Extends t') (h' : t'.Extends t'') :
    t.Extends t'' :=
  fun k row hrow => h' k row (h k row hrow)

theorem Extends.mem {k : ι × ℕ} (h : t.Extends t') (hk : k ∈ t) : k ∈ t' := by
  obtain ⟨row, hrow⟩ := mem_iff_exists.mp hk
  exact mem_iff_exists.mpr ⟨row, h k row hrow⟩

theorem mem_append {k : ι × ℕ} :
    k ∈ t.append id row ↔ k = (id, t.next id) ∨ k ∈ t := AList.mem_insert _

theorem lookup_append (t : RevisionTable ι ρ) (id : ι) (row : ρ) (k : ι × ℕ) :
    (t.append id row).lookup k = if k = (id, t.next id) then some row else t.lookup k :=
  lookup_insert _ _ _ _

theorem extends_append (t : RevisionTable ι ρ) (id : ι) (row : ρ) :
    t.Extends (t.append id row) := by
  intro k row' hrow
  rw [lookup_append, if_neg]
  · exact hrow
  · rintro rfl
    exact next_notMem t id (mem_iff_exists.mpr ⟨row', hrow⟩)

theorem last_append (t : RevisionTable ι ρ) (id : ι) (row : ρ) :
    (t.append id row).last id = some (t.next id) := by
  refine last_eq_some.mpr ⟨mem_append.mpr (.inl rfl), fun m hm => ?_⟩
  rcases mem_append.mp hm with h | h
  · exact (Prod.mk.inj h).2.le
  · exact (lt_next_of_mem h).le

theorem last_append_ne (h : id' ≠ id) (row : ρ) :
    (t.append id row).last id' = t.last id' := by
  have hmem : ∀ m, (id', m) ∈ t.append id row ↔ (id', m) ∈ t := fun m => by
    rw [mem_append, or_iff_right]
    exact fun heq => h (Prod.mk.inj heq).1
  cases hlast : t.last id' with
  | none => exact last_eq_none.mpr fun m hm => last_eq_none.mp hlast m ((hmem m).mp hm)
  | some m =>
      refine last_eq_some.mpr ⟨(hmem m).mpr (last_eq_some.mp hlast).1, fun k hk => ?_⟩
      exact (last_eq_some.mp hlast).2 k ((hmem k).mp hk)

/-- The row added is the newest one. -/
theorem latest_append (t : RevisionTable ι ρ) (id : ι) (row : ρ) :
    (t.append id row).Latest id (t.next id) row :=
  ⟨by rw [lookup_append, if_pos rfl], last_append t id row⟩

/-- What is newest of another thing stays so. -/
theorem latest_append_ne (h : id' ≠ id) (m : ℕ) (row row' : ρ) :
    (t.append id row).Latest id' m row' ↔ t.Latest id' m row' := by
  have hkey : (id', m) ≠ (id, t.next id) := fun heq => h (Prod.mk.inj heq).1
  rw [Latest, Latest, lookup_append, if_neg hkey, last_append_ne h]

theorem entries_append (t : RevisionTable ι ρ) (id : ι) (row : ρ) :
    (t.append id row).entries = ⟨(id, t.next id), row⟩ :: t.entries :=
  AList.entries_insert_of_notMem (next_notMem t id)

/-- A row that does not meet the condition changes nothing. -/
theorem newest_append_of_false {condition : ι → ρ → Bool} (h : condition id row = false) :
    (t.append id row).newest condition = t.newest condition := by
  rw [newest, entries_append, List.filter_cons_of_neg (by simp [h])]
  rfl

/-- A row that meets the condition, as only rows about the same thing did before. -/
theorem newest_append_of_true {condition : ι → ρ → Bool} (h : condition id row = true)
    (hsame : ∀ id' m row', t.lookup (id', m) = some row' → condition id' row' = true → id' = id) :
    (t.append id row).newest condition = some row := by
  have hadded := (latest_append t id row).1
  cases hnewest : (t.append id row).newest condition with
  | none =>
      rw [newest_eq_none.mp hnewest _ _ _ hadded] at h
      cases h
  | some row' =>
      obtain ⟨id', n, hrow, hcondition, hmax⟩ := of_newest hnewest
      have hle := hmax _ _ _ hadded h
      rw [lookup_append] at hrow
      split at hrow
      · exact hrow.symm
      · have hid := hsame id' n row' hrow hcondition
        subst hid
        have hlt := lt_next_of_mem (mem_iff_exists.mpr ⟨row', hrow⟩)
        omega

/-- Appending keeps the numbering without gaps. -/
theorem Contiguous.append (h : t.Contiguous) (id : ι) (row : ρ) :
    (t.append id row).Contiguous := by
  intro id' m
  rw [mem_append]
  by_cases hid : id' = id
  · subst hid
    rw [next_eq_succ (last_append t id' row), h id' m, Prod.mk.injEq, eq_self, true_and]
    have hpos := next_pos t id'
    omega
  · have hkey : (id', m) ≠ (id, t.next id) := fun heq => hid (Prod.mk.inj heq).1
    rw [or_iff_right hkey, h id' m, next, next, last_append_ne hid]

theorem contiguous_empty : Contiguous (∅ : RevisionTable ι ρ) := by
  intro id n
  have hlast : last (∅ : RevisionTable ι ρ) id = none :=
    last_eq_none.mpr fun m => AList.notMem_empty _
  rw [next_eq_one hlast]
  exact iff_of_false (AList.notMem_empty _) (by omega)

end RevisionTable
