import GreenRoom.Db.Transaction
import GreenRoom.Lib.PyStr
import GreenRoom.Lib.JsString
import Mathlib.Data.List.Sort

/-!
# Migrations

`loadMigrations` and `migrate` of `db/migrate.ts`, and `currentMigrationInventory` and
`verifyCompatibleSchema` of `db/lifecycle.ts`.  The files of a directory are numbered
scripts; the database records those it has run, and a backup the record it was made with.

## Main definitions

* `MigrationTable` — the table `schema_migrations`, in the order of its key.
* `MigrationRuntime` — the hash function, the text of a file, and what a script does.
* `loadMigrations`, `checkHistory`, `migrate`.
* `currentMigrationInventory`, `verifyCompatibleSchema`.
-/

namespace GreenRoom

open JsString

@[ext]
structure AppliedMigration where
  version : ℕ
  name : JsString
  checksum : JsString
  deriving DecidableEq

structure Migration extends AppliedMigration where
  sql : JsString

/-- A directory entry with what a look at the file shows. -/
structure MigrationFile where
  name : JsString
  isFile : Bool
  links : ℕ
  bytes : Bytes

/-- A directory and whether the path that names it is its canonical one. -/
structure MigrationsDirectory where
  canonicalPath : Bool
  entries : List MigrationFile

inductive MigrationFailure
  | invalidFilename (name : JsString)
  | notConsecutive
  | notAPrefix
  | unknownNewer (version : ℕ)
  | nameMismatch (version : ℕ)
  | checksumMismatch (version : ℕ)
  | failedToApply (version : ℕ)
  | database
  deriving DecidableEq

/-! ## The table -/

/-- `schema_migrations`: the version is its key. -/
structure MigrationTable where
  rows : List AppliedMigration
  ordered : rows.Pairwise fun a b => a.version < b.version

namespace MigrationTable

def empty : MigrationTable := ⟨[], List.Pairwise.nil⟩

/-- The rows before and after a key, and a row between them. -/
def place (row : AppliedMigration) (rows : List AppliedMigration) : List AppliedMigration :=
  rows.filter (·.version < row.version) ++ row :: rows.filter (row.version < ·.version)

theorem ordered_place (row : AppliedMigration) {rows : List AppliedMigration}
    (h : rows.Pairwise fun a b => a.version < b.version) :
    (place row rows).Pairwise fun a b => a.version < b.version := by
  rw [place, List.pairwise_append, List.pairwise_cons]
  refine ⟨h.filter _, ⟨fun b hb => of_decide_eq_true (List.mem_filter.mp hb).2, h.filter _⟩, ?_⟩
  intro a ha b hb
  have hleft : a.version < row.version := of_decide_eq_true (List.mem_filter.mp ha).2
  rcases List.mem_cons.mp hb with rfl | hb
  · exact hleft
  · have hright : row.version < b.version := of_decide_eq_true (List.mem_filter.mp hb).2
    exact hleft.trans hright

/-- `INSERT INTO schema_migrations`, under the checks of the table. -/
def insert (row : AppliedMigration) (table : MigrationTable) : Option MigrationTable :=
  if 1 ≤ row.version ∧ row.checksum.length = 64 ∧
      ∀ other ∈ table.rows, other.version ≠ row.version ∧ other.name ≠ row.name then
    some ⟨place row table.rows, ordered_place row table.ordered⟩
  else none

end MigrationTable

/-- The table, if it is there, and everything else. -/
structure MigrationDatabase (σ : Type) where
  table : Option MigrationTable
  rest : σ

structure MigrationRuntime (σ : Type) where
  sha256 : Bytes → JsString
  /-- `readFileSync(path, "utf8")`. -/
  decode : Bytes → JsString
  /-- What a text is hashed as. -/
  encode : JsString → Bytes
  /-- `database.exec(sql)`. -/
  exec : JsString → MigrationDatabase σ → Except MigrationFailure (MigrationDatabase σ)

namespace Migrations

variable {σ : Type} (runtime : MigrationRuntime σ)

/-! ## The directory -/

/-- `[a-z0-9-]`. -/
def isStemUnit (u : UInt16) : Bool := (0x61 ≤ u && u ≤ 0x7A) || isDigit u || u = unit '-'

/-- `/^\d{4}-[a-z0-9-]+\.sql$/`. -/
def isMigrationName (name : JsString) : Bool :=
  10 ≤ name.length && (name.take 4).all isDigit && name[4]? = some (unit '-') &&
    ((name.drop 5).take (name.length - 9)).all isStemUnit &&
    name.drop (name.length - 4) = ofString ".sql"

/-- The number at the start of a migration's name. -/
def versionOf (name : JsString) : ℕ := digitsValue (name.take 4)

def loadMigration (file : MigrationFile) : Except MigrationFailure Migration :=
  if ¬ isMigrationName file.name then throw (.invalidFilename file.name)
  else
    let sql := runtime.decode file.bytes
    .ok {
      version := versionOf file.name
      name := file.name
      checksum := runtime.sha256 (runtime.encode sql)
      sql := sql }

/-- Each is numbered one more than its index. -/
def checkNumbering : ℕ → List ℕ → Except MigrationFailure Unit
  | _, [] => .ok ()
  | index, version :: versions =>
    if version ≠ index + 1 then throw .notConsecutive else checkNumbering (index + 1) versions

def loadMigrations (entries : List MigrationFile) : Except MigrationFailure (List Migration) := do
  let files := entries.filter fun entry =>
    entry.isFile && (ofString ".sql").isSuffixOf entry.name
  let loaded ← files.mapM (loadMigration runtime)
  let migrations := loaded.insertionSort fun left right => left.version ≤ right.version
  checkNumbering 0 (migrations.map fun migration => migration.version)
  return migrations

/-! ## The database -/

/-- The loop over the migrations that are recorded. -/
def checkHistory (migrations : List Migration) :
    ℕ → List AppliedMigration → Except MigrationFailure Unit
  | _, [] => .ok ()
  | index, recorded :: applied =>
    if recorded.version ≠ index + 1 then throw .notAPrefix
    else
      match migrations.find? fun migration => migration.version = recorded.version with
      | none => throw (.unknownNewer recorded.version)
      | some expected =>
        if recorded.name ≠ expected.name then throw (.nameMismatch recorded.version)
        else if recorded.checksum ≠ expected.checksum then
          throw (.checksumMismatch recorded.version)
        else checkHistory migrations (index + 1) applied

/-- `SELECT version, name, checksum FROM schema_migrations ORDER BY version`. -/
def selectApplied (database : MigrationDatabase σ) :
    Except MigrationFailure (List AppliedMigration × MigrationDatabase σ) :=
  match database.table with
  | none => .error .database
  | some table => .ok (table.rows, database)

def recordMigration (row : AppliedMigration) (database : MigrationDatabase σ) :
    Except MigrationFailure (Unit × MigrationDatabase σ) :=
  match database.table.bind (MigrationTable.insert row) with
  | none => .error .database
  | some table => .ok ((), { database with table := some table })

/-- One script and its record; a failure is told with the version. -/
def applyMigration (migration : Migration) :
    Program (MigrationDatabase σ) MigrationFailure Unit :=
  Program.attempt (fun _ => Program.throw (.failedToApply migration.version)) do
    Program.statement fun database => (runtime.exec migration.sql database).map fun s => ((), s)
    Program.statement (recordMigration migration.toAppliedMigration)

def applyPending (applied : List AppliedMigration) :
    List Migration → Program (MigrationDatabase σ) MigrationFailure Unit
  | [] => Program.pure ()
  | migration :: migrations => do
    Program.onlyIf (!applied.any fun recorded => recorded.version = migration.version)
      (applyMigration runtime migration)
    applyPending applied migrations

def applyMigrations (migrations : List Migration) :
    Program (MigrationDatabase σ) MigrationFailure Unit := do
  let applied ← Program.statement selectApplied
  Program.ofExcept (checkHistory migrations 0 applied)
  applyPending runtime applied migrations

/-- `CREATE TABLE IF NOT EXISTS schema_migrations`. -/
def withTable (database : MigrationDatabase σ) : MigrationDatabase σ :=
  { database with table := some (database.table.getD .empty) }

/-- The table is created, or that fails, before the transaction. -/
def migrate (tableError : Option MigrationFailure) (faults : Faults MigrationFailure)
    (directory : MigrationsDirectory) (database : MigrationDatabase σ) :
    Except MigrationFailure Unit × MigrationDatabase σ :=
  match loadMigrations runtime directory.entries with
  | .error e => (.error e, database)
  | .ok migrations =>
    match tableError with
    | some e => (.error e, database)
    | none => transact faults (applyMigrations runtime migrations) (withTable database)

/-! ## Restoring a backup -/

inductive LifecycleFailure
  | rootNoncanonical | migrationsInvalid | schemaNewer | schemaIncompatible
  deriving DecidableEq

/-- The names of migrations are collated like their code units. -/
def collates (left right : MigrationFile) : Bool := le left.name right.name

def inventoryFrom : ℕ → List MigrationFile → Except LifecycleFailure (List AppliedMigration)
  | _, [] => .ok []
  | index, entry :: entries =>
    if versionOf entry.name ≠ index + 1 then .error .migrationsInvalid
    else if ¬ entry.isFile ∨ entry.links ≠ 1 then .error .migrationsInvalid
    else
      (inventoryFrom (index + 1) entries).map fun inventory =>
        { version := versionOf entry.name
          name := entry.name
          checksum := runtime.sha256 entry.bytes } :: inventory

def currentMigrationInventory (directory : MigrationsDirectory) :
    Except LifecycleFailure (List AppliedMigration) :=
  if ¬ directory.canonicalPath then .error .rootNoncanonical
  else
    inventoryFrom runtime 0
      ((directory.entries.filter fun entry => entry.isFile && isMigrationName entry.name)
        |>.insertionSort fun left right => collates left right)

def verifyCompatibleSchema (recorded : List AppliedMigration) (directory : MigrationsDirectory) :
    Except LifecycleFailure Unit :=
  match currentMigrationInventory runtime directory with
  | .error e => .error e
  | .ok available =>
    if available.length < recorded.length then .error .schemaNewer
    else if (recorded.zip available).any (fun (left, right) =>
        left.version ≠ right.version || left.name ≠ right.name ||
          left.checksum ≠ right.checksum) then
      .error .schemaIncompatible
    else .ok ()

end Migrations

end GreenRoom
