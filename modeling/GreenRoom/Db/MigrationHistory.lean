import GreenRoom.Db.Migrations
import GreenRoom.Lib.Checks

/-!
# The record of migrations

A record is accepted, by a migration and by a restore alike, when it is a prefix of the
migrations of the directory.  A migration that succeeds completes it.

## Main definitions

* `numbered` — the migrations of a directory, by number, as they are recorded.
* `Consecutive` — they are numbered from one without a gap.

## Main results

* `loadMigrations_ok`, `currentMigrationInventory_ok` — both read the same migrations.
* `checkHistory_ok`, `verifyCompatibleSchema_ok` — both accept the prefixes of them.
* `applyMigrations_returns` — what is recorded after a migration.
* `migration_and_verification_agree`
-/

namespace GreenRoom.Migrations

open JsString

/-! ## Numbers -/

/-- Numbered from one without a gap. -/
def Consecutive (migrations : List AppliedMigration) : Prop :=
  migrations.map AppliedMigration.version = List.range' 1 migrations.length

theorem checkNumbering_ok {index : ℕ} {versions : List ℕ} :
    checkNumbering index versions = .ok () ↔
    versions = List.range' (index + 1) versions.length := by
  induction versions generalizing index with
  | nil => exact iff_of_true rfl rfl
  | cons version versions ih =>
      rw [checkNumbering, List.length_cons, List.range'_succ, List.cons.injEq]
      split
      · next hne => exact iff_of_false nofun fun h => hne h.1
      · next heq => rw [ih, and_iff_right (not_not.mp heq)]

section Consecutive

variable {migrations : List AppliedMigration}

theorem Consecutive.version (h : Consecutive migrations) {k : ℕ} {migration : AppliedMigration}
    (hget : migrations[k]? = some migration) : migration.version = k + 1 := by
  have hk := (List.getElem?_eq_some_iff.mp hget).1
  have hversion := congrArg (·[k]?) h
  simp only [List.getElem?_map, hget, Option.map_some, List.getElem?_range' hk] at hversion
  have := Option.some.inj hversion
  omega

theorem Consecutive.pairwise (h : Consecutive migrations) :
    migrations.Pairwise fun a b => a.version < b.version := by
  have hrange : (List.range' 1 migrations.length).Pairwise (· < ·) := List.pairwise_lt_range'
  rw [← h] at hrange
  exact List.pairwise_map.mp hrange

end Consecutive

/-- Two orders of migrations by number are one, if no number occurs twice. -/
theorem eq_of_versions {l l' : List AppliedMigration} (hperm : l.Perm l')
    (hl : l.Pairwise fun a b => a.version ≤ b.version)
    (hl' : l'.Pairwise fun a b => a.version < b.version) : l = l' := by
  refine hperm.eq_of_pairwise (fun a b ha hb hle hle' => ?_) hl (hl'.imp Nat.le_of_lt)
  have hsame : l'.Pairwise fun a b => a.version = b.version → a = b :=
    hl'.imp fun hlt heq => absurd heq hlt.ne
  have : Std.Symm fun a b : AppliedMigration => a.version = b.version → a = b :=
    ⟨fun _ _ h heq => (h heq.symm).symm⟩
  exact List.Pairwise.forall_of_forall (fun _ _ _ => rfl) hsame (hperm.mem_iff.mp ha) hb
    (Nat.le_antisymm hle hle')

/-! ## Names -/

theorem isMigrationName_suffix {name : JsString} (h : isMigrationName name) :
    (ofString ".sql").isSuffixOf name := by
  simp only [isMigrationName, Bool.and_eq_true, decide_eq_true_eq] at h
  rw [List.isSuffixOf_iff_suffix, ← h.2]
  exact List.drop_suffix _ _

/-- Names are collated by their numbers. -/
theorem versionOf_le {a b : JsString} (ha : isMigrationName a) (hb : isMigrationName b)
    (h : le a b) : versionOf a ≤ versionOf b := by
  simp only [isMigrationName, Bool.and_eq_true, decide_eq_true_eq] at ha hb
  obtain ⟨⟨⟨⟨halength, hadigits⟩, -⟩, -⟩, -⟩ := ha
  obtain ⟨⟨⟨⟨hblength, hbdigits⟩, -⟩, -⟩, -⟩ := hb
  match a, b, halength, hblength with
  | a₁ :: a₂ :: a₃ :: a₄ :: _, b₁ :: b₂ :: b₃ :: b₄ :: _, _, _ =>
      simp only [List.take_succ_cons, List.take_zero, List.all_cons, List.all_nil, Bool.and_true,
        Bool.and_eq_true, isDigit, decide_eq_true_eq] at hadigits hbdigits
      simp only [versionOf, digitsValue, List.take_succ_cons, List.take_zero, List.map_cons,
        List.map_nil, List.reverse_cons, List.reverse_nil, List.nil_append, List.cons_append,
        Nat.ofDigits_cons, Nat.ofDigits_nil]
      simp only [le, Bool.or_eq_true, Bool.and_eq_true, decide_eq_true_eq, UInt16.lt_iff_toNat_lt,
        ← UInt16.toNat_inj, UInt16.le_iff_toNat_le, UInt16.toNat_ofNat] at h hadigits hbdigits
      omega

/-! ## The migrations of a directory -/

section Directory

variable {σ : Type} (runtime : MigrationRuntime σ)

/-- A file as it is recorded. -/
def recordOf (entry : MigrationFile) : AppliedMigration where
  version := versionOf entry.name
  name := entry.name
  checksum := runtime.sha256 entry.bytes

def migrationFiles (entries : List MigrationFile) : List MigrationFile :=
  entries.filter fun entry => entry.isFile && isMigrationName entry.name

/-- The migrations of a directory, by number. -/
def numbered (entries : List MigrationFile) : List AppliedMigration :=
  ((migrationFiles entries).map (recordOf runtime)).insertionSort
    fun left right => left.version ≤ right.version

theorem mem_migrationFiles {entries : List MigrationFile} {entry : MigrationFile} :
    entry ∈ migrationFiles entries ↔
      entry ∈ entries ∧ entry.isFile ∧ isMigrationName entry.name := by
  rw [migrationFiles, List.mem_filter, Bool.and_eq_true]

/-- Every script of the directory is named like a migration. -/
def WellNamed (entries : List MigrationFile) : Prop :=
  ∀ entry ∈ entries, entry.isFile → (ofString ".sql").isSuffixOf entry.name →
    isMigrationName entry.name

/-- The files are UTF-8: their texts have their bytes. -/
def Utf8 (entries : List MigrationFile) : Prop :=
  ∀ entry ∈ entries, runtime.encode (runtime.decode entry.bytes) = entry.bytes

/-- A migration as it is loaded from a file. -/
def migrationOf (entry : MigrationFile) : Migration where
  toAppliedMigration := recordOf runtime entry
  sql := runtime.decode entry.bytes

variable {runtime} {entries : List MigrationFile}

theorem mapM_loadMigration {files : List MigrationFile}
    (hnames : ∀ entry ∈ files, isMigrationName entry.name) (hutf8 : Utf8 runtime files) :
    files.mapM (loadMigration runtime) = .ok (files.map (migrationOf runtime)) := by
  induction files with
  | nil => rfl
  | cons entry files ih =>
      have hentry : loadMigration runtime entry = .ok (migrationOf runtime entry) := by
        rw [loadMigration, if_neg (not_not.mpr (hnames entry List.mem_cons_self))]
        dsimp only
        rw [hutf8 entry List.mem_cons_self]
        rfl
      rw [List.mapM_cons, hentry, ih (fun e he => hnames e (List.mem_cons_of_mem _ he))
        fun e he => hutf8 e (List.mem_cons_of_mem _ he)]
      rfl

theorem filter_wellNamed (hnames : WellNamed entries) :
    (entries.filter fun entry => entry.isFile && (ofString ".sql").isSuffixOf entry.name) =
      migrationFiles entries := by
  refine List.filter_congr fun entry hentry => ?_
  rw [Bool.eq_iff_iff, Bool.and_eq_true, Bool.and_eq_true]
  exact ⟨fun ⟨hfile, hsuffix⟩ => ⟨hfile, hnames entry hentry hfile hsuffix⟩,
    fun ⟨hfile, hname⟩ => ⟨hfile, isMigrationName_suffix hname⟩⟩

/-- **What a migration loads.** -/
theorem loadMigrations_ok (hnames : WellNamed entries) (hutf8 : Utf8 runtime entries) :
    (∀ migrations, loadMigrations runtime entries = .ok migrations →
      migrations.map Migration.toAppliedMigration = numbered runtime entries ∧
        Consecutive (numbered runtime entries) ∧
        ∀ migration ∈ migrations, ∃ entry ∈ entries, migration.sql = runtime.decode entry.bytes) ∧
    (Consecutive (numbered runtime entries) →
      ∃ migrations, loadMigrations runtime entries = .ok migrations) := by
  have hload := @mapM_loadMigration _ runtime (migrationFiles entries)
    (fun entry hentry => (mem_migrationFiles.mp hentry).2.2)
    (fun entry hentry => hutf8 entry (mem_migrationFiles.mp hentry).1)
  have hsorted : (((migrationFiles entries).map (migrationOf runtime)).insertionSort
      fun left right => left.version ≤ right.version).map Migration.toAppliedMigration =
        numbered runtime entries := by
    rw [numbered, List.map_insertionSort _ (fun left right => left.version ≤ right.version)
      Migration.toAppliedMigration _ fun _ _ _ _ => Iff.rfl, List.map_map]
    rfl
  have hversions : ((((migrationFiles entries).map (migrationOf runtime)).insertionSort
      fun left right => left.version ≤ right.version).map fun migration => migration.version) =
        (numbered runtime entries).map AppliedMigration.version := by
    rw [← hsorted, List.map_map]
    rfl
  have hcheck : checkNumbering 0 ((numbered runtime entries).map AppliedMigration.version) =
      .ok () ↔ Consecutive (numbered runtime entries) := by
    rw [checkNumbering_ok, List.length_map]
    rfl
  rw [loadMigrations, filter_wellNamed hnames, hload]
  simp only [bind, Except.bind, hversions]
  constructor
  · intro migrations h
    split at h
    · cases h
    · next hnumbering =>
        cases h
        refine ⟨hsorted, hcheck.mp hnumbering, fun migration hmigration => ?_⟩
        rw [List.mem_insertionSort] at hmigration
        obtain ⟨entry, hentry, rfl⟩ := List.mem_map.mp hmigration
        exact ⟨entry, (mem_migrationFiles.mp hentry).1, rfl⟩
  · intro hconsecutive
    rw [hcheck.mpr hconsecutive]
    exact ⟨_, rfl⟩

/-! ## The inventory of a restore -/

theorem inventoryFrom_ok {index : ℕ} {files : List MigrationFile}
    {available : List AppliedMigration} (hlinks : ∀ entry ∈ files, entry.isFile ∧ entry.links = 1) :
    inventoryFrom runtime index files = .ok available ↔
      available = files.map (recordOf runtime) ∧
        available.map AppliedMigration.version = List.range' (index + 1) available.length := by
  induction files generalizing index available with
  | nil =>
      constructor
      · intro h
        cases h
        exact ⟨rfl, rfl⟩
      · rintro ⟨rfl, -⟩
        rfl
  | cons entry files ih =>
      have hrest := fun e he => hlinks e (List.mem_cons_of_mem entry he)
      have hentry : ¬ (¬ entry.isFile = true ∨ entry.links ≠ 1) := by
        obtain ⟨hfile, hlink⟩ := hlinks entry List.mem_cons_self
        exact fun h => h.elim (fun hno => hno hfile) fun hno => hno hlink
      rw [inventoryFrom, List.map_cons, if_neg hentry]
      split
      · next hversion =>
          refine iff_of_false nofun ?_
          rintro ⟨rfl, hversions⟩
          rw [List.map_cons, List.length_cons, List.range'_succ, List.cons.injEq] at hversions
          exact hversion hversions.1
      · next hversion =>
          constructor
          · intro h
            obtain ⟨rest, hinventory, rfl⟩ : ∃ rest,
                inventoryFrom runtime (index + 1) files = .ok rest ∧
                  recordOf runtime entry :: rest = available := by
              cases hrest : inventoryFrom runtime (index + 1) files with
              | error e =>
                  rw [hrest] at h
                  cases h
              | ok rest =>
                  rw [hrest] at h
                  exact ⟨rest, rfl, Except.ok.inj h⟩
            obtain ⟨rfl, hversions⟩ := (ih hrest).mp hinventory
            refine ⟨rfl, ?_⟩
            rw [List.map_cons, List.length_cons, List.range'_succ, hversions]
            exact congrArg (· :: _) (not_not.mp hversion)
          · rintro ⟨rfl, hversions⟩
            rw [List.map_cons, List.length_cons, List.range'_succ, List.cons.injEq] at hversions
            rw [(ih hrest).mpr ⟨rfl, hversions.2⟩]
            rfl

instance : Std.Total fun left right => collates left right where
  total left right := le_total left.name right.name

instance : IsTrans MigrationFile fun left right => collates left right where
  trans _ _ _ h h' := le_trans h h'

instance : Std.Total fun left right : AppliedMigration => left.version ≤ right.version where
  total left right := Nat.le_total left.version right.version

instance : IsTrans AppliedMigration fun left right => left.version ≤ right.version where
  trans _ _ _ h h' := Nat.le_trans h h'

/-- The files by name are the files by number. -/
theorem map_collated (entries : List MigrationFile) :
    (((migrationFiles entries).insertionSort fun left right => collates left right).map
        (recordOf runtime)).Perm (numbered runtime entries) ∧
      (((migrationFiles entries).insertionSort fun left right => collates left right).map
        (recordOf runtime)).Pairwise fun a b => a.version ≤ b.version := by
  constructor
  · have hleft := (List.perm_insertionSort (fun left right => collates left right)
      (migrationFiles entries)).map (recordOf runtime)
    have hright := List.perm_insertionSort
      (fun left right : AppliedMigration => left.version ≤ right.version)
      ((migrationFiles entries).map (recordOf runtime))
    exact hleft.trans hright.symm
  · have hsorted := List.pairwise_insertionSort (fun left right => collates left right)
      (migrationFiles entries)
    refine List.pairwise_map.mpr (hsorted.imp_of_mem fun ha hb hle => ?_)
    rw [List.mem_insertionSort] at ha hb
    exact versionOf_le (mem_migrationFiles.mp ha).2.2 (mem_migrationFiles.mp hb).2.2 hle

theorem pairwise_numbered (entries : List MigrationFile) :
    (numbered runtime entries).Pairwise fun a b => a.version ≤ b.version :=
  List.pairwise_insertionSort _ _

/-- **What a restore reads.** -/
theorem currentMigrationInventory_ok {directory : MigrationsDirectory}
    (hcanonical : directory.canonicalPath)
    (hlinks : ∀ entry ∈ directory.entries, entry.isFile → entry.links = 1)
    {available : List AppliedMigration} :
    currentMigrationInventory runtime directory = .ok available ↔
      available = numbered runtime directory.entries ∧
        Consecutive (numbered runtime directory.entries) := by
  have hfiles : ∀ entry ∈ (migrationFiles directory.entries).insertionSort
      fun left right => collates left right, entry.isFile ∧ entry.links = 1 := by
    intro entry hentry
    rw [List.mem_insertionSort] at hentry
    obtain ⟨hmem, hfile, -⟩ := mem_migrationFiles.mp hentry
    exact ⟨hfile, hlinks entry hmem hfile⟩
  obtain ⟨hperm, hpairwise⟩ := @map_collated _ runtime directory.entries
  rw [currentMigrationInventory, if_neg (not_not.mpr hcanonical)]
  rw [show (directory.entries.filter fun entry => entry.isFile && isMigrationName entry.name) =
    migrationFiles directory.entries from rfl, inventoryFrom_ok hfiles]
  constructor
  · rintro ⟨rfl, hversions⟩
    have hconsecutive : Consecutive _ := hversions
    have heq := eq_of_versions hperm.symm (pairwise_numbered _) hconsecutive.pairwise
    rw [heq]
    exact ⟨rfl, hconsecutive⟩
  · rintro ⟨rfl, hconsecutive⟩
    have heq := eq_of_versions hperm hpairwise hconsecutive.pairwise
    exact ⟨heq.symm, hconsecutive⟩

/-! ## What is accepted -/

theorem isPrefix_cons_drop {α : Type} {l : List α} {a : α} {rest : List α} {k : ℕ} :
    a :: rest <+: l.drop k ↔ l[k]? = some a ∧ rest <+: l.drop (k + 1) := by
  rw [← List.head?_drop, ← List.tail_drop]
  cases l.drop k with
  | nil => simp
  | cons b l => simp [List.cons_prefix_cons, eq_comm]

/-- A migration accepts the prefixes. -/
theorem checkHistory_ok {migrations : List Migration} {all : List AppliedMigration}
    (hall : migrations.map Migration.toAppliedMigration = all) (hconsecutive : Consecutive all)
    {index : ℕ} {recorded : List AppliedMigration} :
    checkHistory migrations index recorded = .ok () ↔ recorded <+: all.drop index := by
  induction recorded generalizing index with
  | nil => exact iff_of_true rfl List.nil_prefix
  | cons row recorded ih =>
      rw [checkHistory, isPrefix_cons_drop]
      split
      · next hne =>
          exact iff_of_false nofun fun ⟨hget, _⟩ => hne (hconsecutive.version hget)
      · next heq =>
          have hversion := not_not.mp heq
          split
          · next hfind =>
              refine iff_of_false nofun fun ⟨hget, _⟩ => ?_
              rw [List.find?_eq_none] at hfind
              have hmem := List.mem_of_getElem? hget
              rw [← hall, List.mem_map] at hmem
              obtain ⟨migration, hmigration, rfl⟩ := hmem
              exact hfind migration hmigration (decide_eq_true rfl)
          · next expected hfind =>
              have hfound : expected.version = row.version := by simpa using List.find?_some hfind
              have hexpected : all[index]? = some expected.toAppliedMigration := by
                have hmem := List.mem_of_find?_eq_some hfind
                have hmap : expected.toAppliedMigration ∈ all := by
                  rw [← hall]
                  exact List.mem_map_of_mem hmem
                obtain ⟨k, hk⟩ := List.getElem?_of_mem hmap
                have hk' := hconsecutive.version hk
                obtain rfl : k = index := by omega
                exact hk
              have hsame : all[index]? = some row ↔
                  row.name = expected.name ∧ row.checksum = expected.checksum := by
                rw [hexpected, Option.some.injEq]
                constructor
                · rintro rfl
                  exact ⟨rfl, rfl⟩
                · rintro ⟨hname, hchecksum⟩
                  exact AppliedMigration.ext hfound hname.symm hchecksum.symm
              rw [hsame]
              split
              · next hname => exact iff_of_false nofun fun h => hname h.1.1
              · next hname =>
                  split
                  · next hchecksum => exact iff_of_false nofun fun h => hchecksum h.1.2
                  · next hchecksum =>
                      rw [ih, and_iff_right ⟨not_not.mp hname, not_not.mp hchecksum⟩]

/-- So does a restore. -/
theorem verifyCompatibleSchema_ok {directory : MigrationsDirectory}
    {recorded : List AppliedMigration} :
    verifyCompatibleSchema runtime recorded directory = .ok () ↔
      ∃ available, currentMigrationInventory runtime directory = .ok available ∧
        recorded <+: available := by
  have hzip : ∀ available : List AppliedMigration, recorded.length ≤ available.length →
      ((recorded.zip available).any (fun pair => pair.1.version ≠ pair.2.version ||
        pair.1.name ≠ pair.2.name || pair.1.checksum ≠ pair.2.checksum) = false ↔
        recorded <+: available) := by
    intro available hlength
    induction recorded generalizing available with
    | nil => exact iff_of_true rfl List.nil_prefix
    | cons row recorded ih =>
        cases available with
        | nil => simp at hlength
        | cons other available =>
            rw [List.zip_cons_cons, List.any_cons, Bool.or_eq_false_iff,
              ih available (by simpa using hlength), List.cons_prefix_cons]
            refine and_congr_left fun _ => ?_
            simp only [ne_eq, decide_not, Bool.or_eq_false_iff, Bool.not_eq_false',
              decide_eq_true_eq]
            constructor
            · rintro ⟨⟨hversion, hname⟩, hchecksum⟩
              exact AppliedMigration.ext hversion hname hchecksum
            · rintro rfl
              exact ⟨⟨rfl, rfl⟩, rfl⟩
  rw [verifyCompatibleSchema]
  cases currentMigrationInventory runtime directory with
  | error e => exact iff_of_false nofun (by simp)
  | ok available =>
      simp only [Except.ok.injEq, exists_eq_left']
      split
      · next hlonger =>
          exact iff_of_false nofun fun hfront => absurd hfront.length_le (not_le.mpr hlonger)
      · next hlength =>
          rw [← hzip available (not_lt.mp hlength)]
          split
          · next hdifferent =>
              exact iff_of_false nofun fun hsame => Bool.false_ne_true (hsame.symm.trans hdifferent)
          · next hsame => exact iff_of_true rfl (Bool.eq_false_of_not_eq_true hsame)

end Directory

/-! ## Migrating -/

section Migrate

variable {σ : Type} {runtime : MigrationRuntime σ}

/-- The record of a database. -/
def history (database : MigrationDatabase σ) : List AppliedMigration :=
  database.table.elim [] MigrationTable.rows

theorem place_append {rows : List AppliedMigration} {row : AppliedMigration}
    (h : ∀ other ∈ rows, other.version < row.version) :
    MigrationTable.place row rows = rows ++ [row] := by
  have hleft : rows.filter (·.version < row.version) = rows :=
    List.filter_eq_self.mpr fun other hother => decide_eq_true (h other hother)
  have hright : rows.filter (row.version < ·.version) = [] := by
    refine List.filter_eq_nil_iff.mpr fun other hother => ?_
    rw [decide_eq_true_eq]
    exact Nat.not_lt_of_lt (h other hother)
  rw [MigrationTable.place, hleft, hright]

/-- A script that leaves the record alone. -/
def LeavesRecord (runtime : MigrationRuntime σ) (sql : JsString) : Prop :=
  ∀ before after, runtime.exec sql before = .ok after → after.table = before.table

theorem applyMigration_returns {migration : Migration} {s s' : MigrationDatabase σ} {u : Unit}
    {rows : List AppliedMigration} (hleaves : LeavesRecord runtime migration.sql)
    (hrows : s.table.map MigrationTable.rows = some rows)
    (hlast : ∀ other ∈ rows, other.version < migration.version)
    (h : (applyMigration runtime migration).Returns s u s') :
    s'.table.map MigrationTable.rows = some (rows ++ [migration.toAppliedMigration]) := by
  rcases Program.Returns.attempt h with h | ⟨e, s₁, h⟩
  · obtain ⟨_, s₁, hexec, hrecord⟩ := Program.returns_bind.mp h
    rw [Program.returns_statement] at hexec hrecord
    have htable : s₁.table = s.table := by
      cases hrun : runtime.exec migration.sql s with
      | error e =>
          rw [hrun] at hexec
          cases hexec
      | ok after =>
          rw [hrun] at hexec
          cases hexec
          exact hleaves s s₁ hrun
    obtain ⟨table, htable', rfl⟩ := Option.map_eq_some_iff.mp hrows
    rw [recordMigration, htable, htable', Option.bind_some] at hrecord
    split at hrecord
    · cases hrecord
    · next table' hinsert =>
        cases hrecord
        rw [MigrationTable.insert] at hinsert
        split at hinsert
        · cases hinsert
          exact congrArg some (place_append hlast)
        · cases hinsert
  · exact absurd h Program.returns_throw

/-- **The pending migrations are recorded**, one after the other. -/
theorem applyPending_returns {applied all : List AppliedMigration} {todo : List Migration}
    {k : ℕ} {s s' : MigrationDatabase σ} {u : Unit} (hconsecutive : Consecutive all)
    (hfront : applied <+: all) (htodo : todo.map Migration.toAppliedMigration = all.drop k)
    (hleaves : ∀ migration ∈ todo, LeavesRecord runtime migration.sql)
    (hrows : s.table.map MigrationTable.rows = some (all.take (max k applied.length)))
    (h : (applyPending runtime applied todo).Returns s u s') :
    s'.table.map MigrationTable.rows = some all := by
  induction todo generalizing k s with
  | nil =>
      cases h
      have hk : all.length ≤ k := by
        have hlength := congrArg List.length htodo
        rw [List.length_drop, List.map_nil, List.length_nil] at hlength
        omega
      rwa [List.take_of_length_le (by omega)] at hrows
  | cons migration todo ih =>
      obtain ⟨_, s₁, hfirst, hrest⟩ := Program.returns_bind.mp h
      have hget : all[k]? = some migration.toAppliedMigration := by
        rw [← List.head?_drop, ← htodo]
        rfl
      have hnext : todo.map Migration.toAppliedMigration = all.drop (k + 1) := by
        rw [← List.tail_drop, ← htodo]
        rfl
      have hversion := hconsecutive.version hget
      have hdone : (applied.any fun recorded => recorded.version = migration.version) = true ↔
          k < applied.length := by
        rw [List.any_eq_true]
        constructor
        · rintro ⟨recorded, hmem, heq⟩
          obtain ⟨i, hi⟩ := List.getElem?_of_mem hmem
          have hlt := (List.getElem?_eq_some_iff.mp hi).1
          obtain ⟨more, rfl⟩ := hfront
          have hrecorded := hconsecutive.version
            ((List.getElem?_append_left hlt).trans hi)
          rw [of_decide_eq_true heq] at hrecorded
          omega
        · intro hlt
          refine ⟨applied[k], List.getElem_mem hlt, decide_eq_true ?_⟩
          obtain ⟨more, rfl⟩ := hfront
          rw [List.getElem?_append_left hlt, List.getElem?_eq_getElem hlt] at hget
          rw [Option.some.inj hget]
      refine ih hnext (fun m hm => hleaves m (List.mem_cons_of_mem _ hm)) ?_ hrest
      rw [Program.returns_onlyIf, Bool.not_eq_true', Bool.not_eq_false'] at hfirst
      rcases hfirst with ⟨hpending, hfirst⟩ | ⟨happlied, rfl⟩
      · have hk : applied.length ≤ k := by
          rw [← Bool.not_eq_true, hdone] at hpending
          omega
        have hk' : k < all.length := (List.getElem?_eq_some_iff.mp hget).1
        rw [max_eq_left hk] at hrows
        have hlast : ∀ other ∈ all.take k, other.version < migration.version := by
          intro other hother
          obtain ⟨i, hi⟩ := List.getElem?_of_mem hother
          have hlt : i < k := by
            have := (List.getElem?_eq_some_iff.mp hi).1
            rw [List.length_take] at this
            omega
          rw [List.getElem?_take_of_lt hlt] at hi
          have := hconsecutive.version hi
          omega
        have happly := applyMigration_returns (hleaves migration List.mem_cons_self) hrows hlast
          hfirst
        rw [happly, max_eq_left (by omega), List.take_add_one, hget]
        rfl
      · have hk : k < applied.length := hdone.mp happlied
        rw [hrows, max_eq_right (by omega), max_eq_right (by omega)]

/-- **What is recorded after a migration.** -/
theorem applyMigrations_returns {migrations : List Migration} {all : List AppliedMigration}
    {s s' : MigrationDatabase σ} {u : Unit}
    (hall : migrations.map Migration.toAppliedMigration = all) (hconsecutive : Consecutive all)
    (hleaves : ∀ migration ∈ migrations, LeavesRecord runtime migration.sql)
    (h : (applyMigrations runtime migrations).Returns s u s') :
    s'.table.map MigrationTable.rows = some all := by
  rw [applyMigrations, Program.returns_bind] at h
  obtain ⟨applied, s₁, hread, h⟩ := h
  rw [Program.returns_statement, selectApplied] at hread
  split at hread
  · cases hread
  · next table htable =>
      cases hread
      rw [Program.returns_bind] at h
      obtain ⟨_, s₂, hcheck, h⟩ := h
      obtain ⟨haccepted, rfl⟩ := Program.returns_ofExcept.mp hcheck
      have hfront := (checkHistory_ok hall hconsecutive).mp haccepted
      rw [List.drop_zero] at hfront
      refine applyPending_returns (k := 0) hconsecutive hfront (by rw [hall, List.drop_zero])
        hleaves ?_ h
      rw [htable, Option.map_some, Nat.zero_max]
      exact congrArg some (List.prefix_iff_eq_take.mp hfront)

/-- Nothing is pending when everything is recorded. -/
theorem applyPending_nothing {applied : List AppliedMigration} {todo : List Migration}
    (h : ∀ migration ∈ todo, migration.toAppliedMigration ∈ applied) :
    applyPending runtime applied todo = Program.pure () := by
  induction todo with
  | nil => rfl
  | cons migration todo ih =>
      have hany : (applied.any fun recorded => recorded.version = migration.version) = true :=
        List.any_eq_true.mpr ⟨_, h migration List.mem_cons_self, decide_eq_true rfl⟩
      rw [applyPending, hany, ih fun m hm => h m (List.mem_cons_of_mem _ hm)]
      rfl

/-- The check a migration makes of the record. -/
def Accepts (runtime : MigrationRuntime σ) (entries : List MigrationFile)
    (recorded : List AppliedMigration) : Prop :=
  ∃ migrations, loadMigrations runtime entries = .ok migrations ∧
    checkHistory migrations 0 recorded = .ok ()

theorem accepts_iff {entries : List MigrationFile} (hnames : WellNamed entries)
    (hutf8 : Utf8 runtime entries) {recorded : List AppliedMigration} :
    Accepts runtime entries recorded ↔
      Consecutive (numbered runtime entries) ∧ recorded <+: numbered runtime entries := by
  obtain ⟨hloaded, hload⟩ := loadMigrations_ok hnames hutf8
  constructor
  · rintro ⟨migrations, hmigrations, hcheck⟩
    obtain ⟨hall, hconsecutive, -⟩ := hloaded migrations hmigrations
    exact ⟨hconsecutive, (checkHistory_ok hall hconsecutive).mp hcheck⟩
  · rintro ⟨hconsecutive, hfront⟩
    obtain ⟨migrations, hmigrations⟩ := hload hconsecutive
    obtain ⟨hall, -, -⟩ := hloaded migrations hmigrations
    exact ⟨migrations, hmigrations, (checkHistory_ok hall hconsecutive).mpr hfront⟩

/-- A migration that fails leaves the database as it was, but for an empty table. -/
theorem migrate_error {tableError : Option MigrationFailure} {faults : Faults MigrationFailure}
    {directory : MigrationsDirectory} {s s' : MigrationDatabase σ} {e : MigrationFailure}
    (h : migrate runtime tableError faults directory s = (.error e, s')) :
    s' = s ∨ s' = withTable s := by
  rw [migrate] at h
  split at h
  · exact .inl (Prod.mk.inj h).2.symm
  · split at h
    · exact .inl (Prod.mk.inj h).2.symm
    · exact .inr (transact_error h)

/-- **A migration that succeeds completes the record.** -/
theorem migrate_ok {tableError : Option MigrationFailure} {faults : Faults MigrationFailure}
    {directory : MigrationsDirectory} {s s' : MigrationDatabase σ}
    (hnames : WellNamed directory.entries) (hutf8 : Utf8 runtime directory.entries)
    (hleaves : ∀ entry ∈ directory.entries, LeavesRecord runtime (runtime.decode entry.bytes))
    (h : migrate runtime tableError faults directory s = (.ok (), s')) :
    Consecutive (numbered runtime directory.entries) ∧
      s'.table.map MigrationTable.rows = some (numbered runtime directory.entries) := by
  rw [migrate] at h
  split at h
  · cases (Prod.mk.inj h).1
  · next migrations hload =>
      split at h
      · cases (Prod.mk.inj h).1
      · obtain ⟨hall, hconsecutive, hscripts⟩ := (loadMigrations_ok hnames hutf8).1 _ hload
        refine ⟨hconsecutive, applyMigrations_returns hall hconsecutive
          (fun migration hmigration => ?_) (returns_of_transact h)⟩
        obtain ⟨entry, hentry, hsql⟩ := hscripts migration hmigration
        exact hsql ▸ hleaves entry hentry

/-- With a complete record there is nothing to do. -/
theorem migrate_again {directory : MigrationsDirectory} {s : MigrationDatabase σ}
    (hnames : WellNamed directory.entries) (hutf8 : Utf8 runtime directory.entries)
    (hconsecutive : Consecutive (numbered runtime directory.entries))
    (hrows : s.table.map MigrationTable.rows = some (numbered runtime directory.entries)) :
    migrate runtime none {} directory s = (.ok (), s) ∧
      ∀ tableError faults, (migrate runtime tableError faults directory s).2 = s := by
  obtain ⟨hloaded, hload⟩ := loadMigrations_ok hnames hutf8
  obtain ⟨migrations, hmigrations⟩ := hload hconsecutive
  obtain ⟨hall, -, -⟩ := hloaded migrations hmigrations
  obtain ⟨table, htable, hnumbered⟩ := Option.map_eq_some_iff.mp hrows
  have hwith : withTable s = s := by
    rw [withTable, htable, Option.getD_some, ← htable]
  have hread : selectApplied s = .ok (numbered runtime directory.entries, s) := by
    rw [selectApplied, htable, ← hnumbered]
  have hcheck : checkHistory migrations 0 (numbered runtime directory.entries) = .ok () :=
    (checkHistory_ok hall hconsecutive).mpr (List.prefix_refl _)
  have hnothing : applyPending runtime (numbered runtime directory.entries) migrations =
      Program.pure () :=
    applyPending_nothing fun migration hmigration => hall ▸ List.mem_map_of_mem hmigration
  constructor
  · rw [migrate, hmigrations]
    dsimp only
    rw [hwith, transact, withImmediateTransaction]
    simp only [applyMigrations, Program.statement, bind, Program.bind, Program.run,
      hread, hcheck, hnothing, Program.ofExcept]
  · intro tableError faults
    rw [migrate, hmigrations]
    dsimp only
    split
    · rfl
    · rw [hwith]
      cases hresult : transact faults (applyMigrations runtime migrations) s with
      | mk result after =>
          cases result with
          | error e => exact transact_error hresult
          | ok u =>
              have hreturns := returns_of_transact hresult
              rw [applyMigrations, Program.returns_bind] at hreturns
              obtain ⟨applied, s₁, happlied, h⟩ := hreturns
              rw [Program.returns_statement, hread] at happlied
              cases happlied
              rw [Program.returns_bind] at h
              obtain ⟨_, s₂, hof, h⟩ := h
              obtain ⟨-, rfl⟩ := Program.returns_ofExcept.mp hof
              rw [hnothing] at h
              cases h
              rfl

end Migrate

/-! ## Agreement -/

section Agreement

variable {σ : Type}

/-- For a directory that is named by its canonical path, whose scripts are UTF-8 files of one
link, all named like migrations, and leave the record alone: a restore accepts a record when
a migration does, and both do when the directory is numbered without a gap and the record is a
prefix of its migrations.  A migration that succeeds makes the record that of the directory
and another one changes nothing; one that fails leaves the database as it was, but for an
empty table. -/
theorem migration_and_verification_agree (runtime : MigrationRuntime σ)
    (directory : MigrationsDirectory) (hcanonical : directory.canonicalPath)
    (hnames : WellNamed directory.entries)
    (hlinks : ∀ entry ∈ directory.entries, entry.isFile → entry.links = 1)
    (hutf8 : Utf8 runtime directory.entries)
    (hleaves : ∀ entry ∈ directory.entries, LeavesRecord runtime (runtime.decode entry.bytes)) :
    (∀ recorded,
      (verifyCompatibleSchema runtime recorded directory = .ok () ↔
        Accepts runtime directory.entries recorded) ∧
      (Accepts runtime directory.entries recorded ↔
        Consecutive (numbered runtime directory.entries) ∧
          recorded <+: numbered runtime directory.entries)) ∧
    ∀ tableError faults database after,
      (migrate runtime tableError faults directory database = (.ok (), after) →
        history after = numbered runtime directory.entries ∧
        migrate runtime none {} directory after = (.ok (), after) ∧
        ∀ tableError' faults', (migrate runtime tableError' faults' directory after).2 = after) ∧
      ∀ e, migrate runtime tableError faults directory database = (.error e, after) →
        after = database ∨ after = withTable database := by
  refine ⟨fun recorded => ⟨?_, accepts_iff hnames hutf8⟩,
    fun tableError faults database after => ⟨fun h => ?_, fun e => migrate_error⟩⟩
  · rw [accepts_iff hnames hutf8, verifyCompatibleSchema_ok]
    simp only [currentMigrationInventory_ok hcanonical hlinks]
    constructor
    · rintro ⟨available, ⟨rfl, hconsecutive⟩, hfront⟩
      exact ⟨hconsecutive, hfront⟩
    · rintro ⟨hconsecutive, hfront⟩
      exact ⟨_, ⟨rfl, hconsecutive⟩, hfront⟩
  · obtain ⟨hconsecutive, hrows⟩ := migrate_ok hnames hutf8 hleaves h
    obtain ⟨hagain, hunchanged⟩ := migrate_again hnames hutf8 hconsecutive hrows
    obtain ⟨table, htable, hnumbered⟩ := Option.map_eq_some_iff.mp hrows
    refine ⟨?_, hagain, hunchanged⟩
    rw [history, htable]
    exact hnumbered

end Agreement

/-! ## Directories -/

namespace Scripts

/-- A runtime in which one script empties the record and the others do nothing. -/
def runtime : MigrationRuntime Unit where
  sha256 bytes := List.replicate 63 (unit '0') ++ ofNat (bytes.length % 10)
  decode bytes := bytes.map UInt8.toUInt16
  encode text := text.map UInt16.toUInt8
  exec sql database :=
    .ok (if sql = ofString "DELETE FROM schema_migrations" then
      { database with table := some .empty }
    else database)

def script (name sql : String) : MigrationFile where
  name := ofString name
  isFile := true
  links := 1
  bytes := (ofString sql).map UInt16.toUInt8

def fresh : MigrationDatabase Unit := { table := none, rest := () }

/-- Two migrations, in the order of another listing. -/
def plain : MigrationsDirectory where
  canonicalPath := true
  entries := [script "0002-room.sql" "SELECT 2", script "0001-first.sql" "SELECT 1"]

def emptying : MigrationsDirectory where
  canonicalPath := true
  entries := [script "0001-first.sql" "SELECT 1",
    script "0002-reset.sql" "DELETE FROM schema_migrations"]

def noted : MigrationsDirectory where
  canonicalPath := true
  entries := [script "notes.sql" "SELECT 1"]

/-- The second migration is missing. -/
def gapped : MigrationsDirectory where
  canonicalPath := true
  entries := [script "0001-first.sql" "SELECT 1", script "0003-cast.sql" "SELECT 3"]

def linked : MigrationsDirectory where
  canonicalPath := false
  entries := [script "0001-first.sql" "SELECT 1"]

end Scripts

open Scripts in
theorem migration_and_verification_agree_plain :
    verifyCompatibleSchema runtime ((numbered runtime plain.entries).take 1) plain = .ok () ∧
      (migrate runtime none {} plain fresh).1 = .ok () := by
  have hnames : WellNamed plain.entries := by
    unfold WellNamed
    decide
  have hutf8 : Utf8 runtime plain.entries := by
    unfold Utf8
    decide
  have hconsecutive : Consecutive (numbered runtime plain.entries) := by
    unfold Consecutive
    decide
  have hother : ∀ entry ∈ plain.entries,
      runtime.decode entry.bytes ≠ ofString "DELETE FROM schema_migrations" := by
    decide
  have hleaves : ∀ entry ∈ plain.entries, LeavesRecord runtime (runtime.decode entry.bytes) := by
    intro entry hentry before after h
    have hskip : runtime.exec (runtime.decode entry.bytes) before = .ok before :=
      congrArg Except.ok (if_neg (hother entry hentry))
    rw [hskip] at h
    rw [← Except.ok.inj h]
  have hagree := migration_and_verification_agree runtime plain rfl hnames (by decide) hutf8
    hleaves
  exact ⟨((hagree.1 _).1.trans (hagree.1 _).2).mpr ⟨hconsecutive, List.take_prefix _ _⟩, rfl⟩

open Scripts in
/-- A script may empty the record, and then the record is not that of the directory.  A file
that is no migration, or a path that is not canonical, is refused by one of the two alone.  A
directory with a gap is refused by both, also for a record that is a prefix of it. -/
theorem migration_and_verification_disagree :
    ((migrate runtime none {} emptying fresh).1 = .ok () ∧
      history (migrate runtime none {} emptying fresh).2 ≠ numbered runtime emptying.entries) ∧
    (verifyCompatibleSchema runtime [] noted = .ok () ∧
      loadMigrations runtime noted.entries = .error (.invalidFilename (ofString "notes.sql"))) ∧
    (verifyCompatibleSchema runtime [] linked = .error .rootNoncanonical ∧
      Accepts runtime linked.entries []) ∧
    ((numbered runtime gapped.entries).take 1 <+: numbered runtime gapped.entries ∧
      verifyCompatibleSchema runtime ((numbered runtime gapped.entries).take 1) gapped ≠ .ok () ∧
      ¬ Accepts runtime gapped.entries ((numbered runtime gapped.entries).take 1)) := by
  refine ⟨⟨rfl, by decide⟩, ⟨rfl, rfl⟩, ⟨rfl, _, rfl, rfl⟩, List.take_prefix _ _, nofun, ?_⟩
  rintro ⟨migrations, hload, -⟩
  cases hload

end GreenRoom.Migrations
