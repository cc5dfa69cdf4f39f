import Mathlib.Data.List.Sort
import Shelley.Db.Schema

/-! # Schema migrations

`DB.Migrate` lists the embedded `schema` directory, keeps the files whose names match
`^(\d{3})-.*\.sql$`, sorts them, reads the numbers recorded in the `migrations` table, and runs
every migration whose number it did not read: it executes the file's SQL in one write scope,
then records the number with an `INSERT` in another.

The files' SQL is not modelled: `SchemaSql` says, for each file, whether it creates the
`migrations` table and which error SQLite reports for it on a given database. Besides the
ledger, the database keeps the files whose SQL has been committed (`applied`), so that what a
run did can be compared with what it recorded.

A run only appends to both (`MigrationDb.Extends`). Every number it records is that of a file
it applied (`LedgerInv`), but the two write scopes are not atomic together: a failed `INSERT`
leaves its file applied and unrecorded, and a later run executes the file again. A table check
that fails for another reason than a missing table is taken for an empty ledger, whatever the
ledger holds (`migrate_tableCheck_fault`). Since the names start with three digits, the order of
`sort.Strings` is the order of the numbers, and a run applies files in that order
(`migrate_applied_sorted`). -/

namespace Shelley.Db

/-! ## The migration files -/

/-- An entry of the embedded `schema` directory (`fs.DirEntry`): its name and `IsDir`. -/
structure DirEntry where
  name : String
  isDir : Bool
deriving DecidableEq, Repr

/-- `migrationPattern.MatchString(name)` for `^(\d{3})-.*\.sql$`: three ASCII digits (RE2's
`\d`), a dash, then characters other than a newline (`.` does not match `\n`) that end in
`.sql` at the end of the name. -/
def matchesMigrationPattern (name : String) : Bool :=
  match name.toList with
  | d₁ :: d₂ :: d₃ :: '-' :: rest =>
    d₁.isDigit && d₂.isDigit && d₃.isDigit && !rest.contains '\n' &&
      ".sql".toList.isSuffixOf rest
  | _ => false

/-- `migrationPattern.FindStringSubmatch(name)`: the match, which is the whole name since the
pattern is anchored at both ends, and its group, the three digits. -/
def findStringSubmatch (name : String) : List String :=
  if matchesMigrationPattern name then [name, String.mk (name.toList.take 3)] else []

/-- The value of a string of decimal digits. -/
def digitsValue (ds : List Char) : Nat :=
  ds.foldl (fun n d => 10 * n + (d.toNat - '0'.toNat)) 0

/-- `strconv.Atoi` on the strings `Migrate` gives it: a non-empty string of ASCII digits is its
value, anything else a syntax error. (`Atoi` also takes a sign, which `\d{3}` cannot hold.) -/
def atoi (s : String) : Except DbError Nat :=
  if s.toList ≠ [] ∧ s.toList.all Char.isDigit = true then .ok (digitsValue s.toList)
  else .error (.other ("strconv.Atoi: parsing " ++ s.quote ++ ": invalid syntax"))

/-- The number a migration file's name carries: the value of its first three characters. -/
def migrationNumberOf (name : String) : Nat := digitsValue (name.toList.take 3)

/-- `a <= b` on Go strings, which compares bytes. On UTF-8 the order of the bytes is the order
of the code points, compared here rune by rune. -/
def runesLE : List Char → List Char → Bool
  | [], _ => true
  | _ :: _, [] => false
  | a :: as, b :: bs => a.toNat < b.toNat || (a.toNat == b.toNat && runesLE as bs)

/-- The migrations `Migrate` runs, in order: the entries that are not directories and match the
pattern, sorted by `sort.Strings`. -/
def migrationFiles (entries : List DirEntry) : List String :=
  ((entries.filter fun e => !e.isDir && matchesMigrationPattern e.name).map (·.name)).insertionSort
    fun a b => runesLE a.toList b.toList

/-! ## The database -/

/-- What a migration file's SQL does, as far as `Migrate` can observe: whether it creates the
`migrations` table, and the error SQLite reports when the file is executed on a database where
the given files have been applied (an `ALTER TABLE ... ADD COLUMN` executed twice fails, a
`CREATE TABLE IF NOT EXISTS` does not). -/
structure SchemaSql where
  createsLedger : String → Bool
  sqlError : String → List String → Option String

/-- The database as `Migrate` sees it: the files whose SQL has been committed, in order, and the
rows `(migration_number, migration_name)` of the `migrations` table. -/
structure MigrationDb where
  applied : List String := []
  ledger : List (Nat × String) := []
deriving DecidableEq, Repr

/-- Whether the `migrations` table exists: a file that creates it has been applied. -/
def MigrationDb.tableExists (sql : SchemaSql) (db : MigrationDb) : Bool :=
  db.applied.any sql.createsLedger

/-- The numbers recorded in `migrations`. -/
def MigrationDb.recorded (db : MigrationDb) : List Nat := db.ledger.map Prod.fst

/-- The numbers of the files whose SQL has been applied. -/
def MigrationDb.appliedNumbers (db : MigrationDb) : List Nat := db.applied.map migrationNumberOf

/-! ## The statements

Modelled from the spec, like the statements of the message store: the `migrations` table is
"keyed by integer number parsed from the migration file name", and `Pool.Exec` is a write scope
around its statement. -/

/-- `SELECT name FROM sqlite_master WHERE type='table' AND name='migrations'`, scanned into
`tableName`: `sql.ErrNoRows` when there is no such table. -/
def checkLedgerTable (sql : SchemaSql) (db : MigrationDb) : Except DbError String :=
  if db.tableExists sql then .ok "migrations" else .error (.sql .noRows)

/-- The body of the read scope that loads the executed migrations:
`SELECT migration_number FROM migrations`, every row scanned. -/
def loadExecutedMigrations (sql : SchemaSql) (db : MigrationDb) : Except DbError (List Nat) :=
  if db.tableExists sql then .ok db.recorded
  else
    .error (.wrap "failed to query executed migrations" (.sql (.logic "no such table: migrations")))

/-- Modelled from the spec: a file's SQL, run by `Pool.Exec`. -/
def execMigrationSql (sql : SchemaSql) (filename : String) (db : MigrationDb) :
    Except DbError (Unit × MigrationDb) :=
  match sql.sqlError filename db.applied with
  | some text => .error (.sql (.logic text))
  | none => .ok ((), { db with applied := db.applied ++ [filename] })

/-- Modelled from the spec:
`INSERT INTO migrations (migration_number, migration_name) VALUES (?, ?)`. -/
def insertMigration (sql : SchemaSql) (number : Nat) (name : String) (db : MigrationDb) :
    Except DbError (Unit × MigrationDb) :=
  if db.tableExists sql then
    if number ∈ db.recorded then .error (.sql (.unique "migrations.migration_number"))
    else .ok ((), { db with ledger := db.ledger ++ [(number, name)] })
  else .error (.sql (.logic "no such table: migrations"))

/-! ## `Migrate` -/

/-- `DB.executeMigration`: the file's SQL in one write scope. Reading an embedded file that
`ReadDir` listed cannot fail. -/
def executeMigration (sql : SchemaSql) (fault : Option String) (filename : String)
    (db : MigrationDb) : Except DbError Unit × MigrationDb :=
  match tx fault (execMigrationSql sql filename) db with
  | (.error e, db') => (.error (.wrap ("failed to execute migration " ++ filename) e), db')
  | (.ok (), db') => (.ok (), db')

/-- The database operations of a run, each of which may fail on its own. -/
inductive MigrateOp where
  | tableCheck
  | ledgerRead
  | exec (file : String)
  | record (file : String)
deriving DecidableEq, Repr

/-- The body of `Migrate`'s loop for one migration; `executed` holds the numbers of
`executedMigrations`. -/
def migrationStep (sql : SchemaSql) (fault : MigrateOp → Option String) (executed : List Nat)
    (migration : String) (db : MigrationDb) : Except DbError Unit × MigrationDb :=
  match findStringSubmatch migration with
  | [_, digits] =>
    match atoi digits with
    | .error e => (.error (.wrap ("failed to parse migration number from " ++ migration) e), db)
    | .ok migrationNumber =>
      if migrationNumber ∈ executed then (.ok (), db)
      else
        match executeMigration sql (fault (.exec migration)) migration db with
        | (.error e, db') => (.error (.wrap ("failed to execute migration " ++ migration) e), db')
        | (.ok (), db') =>
          match tx (fault (.record migration)) (insertMigration sql migrationNumber migration) db'
            with
          | (.error e, db'') =>
            (.error
              (.wrap ("failed to record migration " ++ migration ++ " in migrations table") e),
              db'')
          | (.ok (), db'') => (.ok (), db'')
  | _ => (.error (.other ("invalid migration filename format: " ++ migration)), db)

/-- `Migrate`'s loop over the sorted migrations; it returns at the first error. -/
def runMigrations (sql : SchemaSql) (fault : MigrateOp → Option String) (executed : List Nat) :
    List String → MigrationDb → Except DbError Unit × MigrationDb
  | [], db => (.ok (), db)
  | migration :: rest, db =>
    match migrationStep sql fault executed migration db with
    | (.ok (), db') => runMigrations sql fault executed rest db'
    | (.error e, db') => (.error e, db')

/-- `DB.Migrate`; `fault` says which of its database operations fail, and how. Listing the
embedded directory cannot fail. A failed table check leaves `executedMigrations` empty whatever
the error: `sql.ErrNoRows` falls through both branches, and any other error takes the branch
that logs that the table was not found. -/
def migrate (sql : SchemaSql) (entries : List DirEntry) (fault : MigrateOp → Option String)
    (db : MigrationDb) : Except DbError Unit × MigrationDb :=
  let migrations := migrationFiles entries
  match rx (fault .tableCheck) (checkLedgerTable sql) db with
  | .ok _ =>
    match rx (fault .ledgerRead) (loadExecutedMigrations sql) db with
    | .error e => (.error (.wrap "failed to load executed migrations" e), db)
    | .ok executed => runMigrations sql fault executed migrations db
  | .error _ => runMigrations sql fault [] migrations db

/-- A sequence of `Migrate` runs on one database, each meeting its own failures: what each run
returned, and the database after the last. -/
def migrateRuns (sql : SchemaSql) (entries : List DirEntry) :
    List (MigrateOp → Option String) → MigrationDb → List (Except DbError Unit) × MigrationDb
  | [], db => ([], db)
  | fault :: faults, db =>
    let run := migrate sql entries fault db
    let rest := migrateRuns sql entries faults run.2
    (run.1 :: rest.1, rest.2)

/-- Whether a run returned the error of a failed ledger `INSERT` for `migration`. -/
def isRecordFailure (migration : String) : Except DbError Unit → Bool
  | .error (.wrap context _) =>
    context == "failed to record migration " ++ migration ++ " in migrations table"
  | _ => false

/-! ## One migration -/

section
variable {sql : SchemaSql} {fault : MigrateOp → Option String} {executed : List Nat}
  {m : String} {db : MigrationDb}

/-- A name the pattern matches starts with three digits. -/
theorem digits_of_matches (h : matchesMigrationPattern m = true) :
    m.toList.take 3 ≠ [] ∧ (m.toList.take 3).all Char.isDigit = true := by
  unfold matchesMigrationPattern at h
  split at h
  · rename_i d₁ d₂ d₃ rest heq
    simp only [Bool.and_eq_true] at h
    have htake : m.toList.take 3 = [d₁, d₂, d₃] := by rw [heq]; rfl
    rw [htake]
    simp [h.1.1.1.1, h.1.1.1.2, h.1.1.2]
  · cases h

theorem findStringSubmatch_of_matches (h : matchesMigrationPattern m = true) :
    findStringSubmatch m = [m, String.mk (m.toList.take 3)] := by
  simp [findStringSubmatch, h]

theorem atoi_migrationDigits (h : matchesMigrationPattern m = true) :
    atoi (String.mk (m.toList.take 3)) = .ok (migrationNumberOf m) := by
  obtain ⟨hne, hall⟩ := digits_of_matches h
  simp only [atoi, String.toList]
  rw [if_pos ⟨hne, hall⟩]
  rfl

theorem matches_of_mem_migrationFiles {entries : List DirEntry} (h : m ∈ migrationFiles entries) :
    matchesMigrationPattern m = true := by
  simp only [migrationFiles, List.mem_insertionSort, List.mem_map, List.mem_filter,
    Bool.and_eq_true] at h
  obtain ⟨e, ⟨-, -, he⟩, rfl⟩ := h
  exact he

theorem execMigrationSql_ok {u : Unit} {db' : MigrationDb}
    (h : execMigrationSql sql m db = .ok (u, db')) :
    db' = { db with applied := db.applied ++ [m] } := by
  unfold execMigrationSql at h
  split at h
  · cases h
  · cases h; rfl

theorem insertMigration_ok {n : Nat} {u : Unit} {db' : MigrationDb}
    (h : insertMigration sql n m db = .ok (u, db')) :
    db.tableExists sql = true ∧ n ∉ db.recorded ∧
      db' = { db with ledger := db.ledger ++ [(n, m)] } := by
  unfold insertMigration at h
  split_ifs at h with ht hn
  cases h
  exact ⟨ht, hn, rfl⟩

/-- `executeMigration` fails and changes nothing, or applies the file. -/
theorem executeMigration_cases (sql : SchemaSql) (f : Option String) (m : String)
    (db : MigrationDb) :
    (∃ e, executeMigration sql f m db =
      (.error (.wrap ("failed to execute migration " ++ m) e), db)) ∨
    executeMigration sql f m db = (.ok (), { db with applied := db.applied ++ [m] }) := by
  unfold executeMigration
  rcases tx_cases f (execMigrationSql sql m) db with ⟨u, db', -, hb, ht⟩ | ⟨e, ht⟩ <;>
    rw [ht]
  · exact .inr (by rw [execMigrationSql_ok hb])
  · exact .inl ⟨e, rfl⟩

/-- **What the loop's body does** with a migration the pattern matches: it skips it, fails to
execute it, executes it and fails to record it, or executes and records it. -/
theorem migrationStep_cases (sql : SchemaSql) (fault : MigrateOp → Option String)
    (executed : List Nat) (db : MigrationDb) (h : matchesMigrationPattern m = true) :
    (migrationNumberOf m ∈ executed ∧ migrationStep sql fault executed m db = (.ok (), db)) ∨
    (migrationNumberOf m ∉ executed ∧ ∃ e, migrationStep sql fault executed m db =
      (.error (.wrap ("failed to execute migration " ++ m) e), db)) ∨
    (migrationNumberOf m ∉ executed ∧ ∃ e, migrationStep sql fault executed m db =
      (.error (.wrap ("failed to record migration " ++ m ++ " in migrations table") e),
        { db with applied := db.applied ++ [m] })) ∨
    (migrationNumberOf m ∉ executed ∧ migrationNumberOf m ∉ db.recorded ∧
      (db.applied ++ [m]).any sql.createsLedger = true ∧
      migrationStep sql fault executed m db =
        (.ok (), ⟨db.applied ++ [m], db.ledger ++ [(migrationNumberOf m, m)]⟩)) := by
  unfold migrationStep
  rw [findStringSubmatch_of_matches h]
  simp only [atoi_migrationDigits h]
  by_cases hex : migrationNumberOf m ∈ executed
  · exact .inl ⟨hex, if_pos hex⟩
  rw [if_neg hex]
  rcases executeMigration_cases sql (fault (.exec m)) m db with ⟨e, he⟩ | he <;>
    simp only [he]
  · exact .inr (.inl ⟨hex, _, rfl⟩)
  rcases tx_cases (fault (.record m)) (insertMigration sql (migrationNumberOf m) m)
    { db with applied := db.applied ++ [m] } with ⟨u, db'', -, hb, ht⟩ | ⟨e, ht⟩ <;>
    simp only [ht]
  · obtain ⟨htab, hrec, rfl⟩ := insertMigration_ok hb
    exact .inr (.inr (.inr ⟨hex, hrec, htab, rfl⟩))
  · exact .inr (.inr (.inl ⟨hex, e, rfl⟩))

end

/-! ## What a run only appends -/

/-- `db'` is `db` with files applied and rows recorded after its own. -/
def MigrationDb.Extends (db db' : MigrationDb) : Prop :=
  db.applied <+: db'.applied ∧ db.ledger <+: db'.ledger

namespace MigrationDb.Extends

theorem refl (db : MigrationDb) : db.Extends db := ⟨List.prefix_refl _, List.prefix_refl _⟩

theorem trans {a b c : MigrationDb} (h₁ : a.Extends b) (h₂ : b.Extends c) : a.Extends c :=
  ⟨h₁.1.trans h₂.1, h₁.2.trans h₂.2⟩

theorem append_applied (db : MigrationDb) (files : List String) :
    db.Extends { db with applied := db.applied ++ files } :=
  ⟨List.prefix_append _ _, List.prefix_refl _⟩

theorem recorded {db db' : MigrationDb} (h : db.Extends db') {n : Nat} (hn : n ∈ db.recorded) :
    n ∈ db'.recorded :=
  (h.2.map Prod.fst).subset hn

theorem tableExists {sql : SchemaSql} {db db' : MigrationDb} (h : db.Extends db')
    (ht : db.tableExists sql = true) : db'.tableExists sql = true := by
  simp only [MigrationDb.tableExists, List.any_eq_true] at ht ⊢
  obtain ⟨f, hf, hc⟩ := ht
  exact ⟨f, h.1.subset hf, hc⟩

end MigrationDb.Extends

section
variable {sql : SchemaSql} {fault : MigrateOp → Option String} {executed : List Nat}

theorem runMigrations_cons_ok {m : String} {ms : List String} {db db' : MigrationDb}
    (h : migrationStep sql fault executed m db = (.ok (), db')) :
    runMigrations sql fault executed (m :: ms) db = runMigrations sql fault executed ms db' := by
  simp [runMigrations, h]

theorem runMigrations_cons_error {m : String} {ms : List String} {db db' : MigrationDb}
    {e : DbError} (h : migrationStep sql fault executed m db = (.error e, db')) :
    runMigrations sql fault executed (m :: ms) db = (.error e, db') := by
  simp [runMigrations, h]

/-- A relation between databases that holds of each step of the loop, reflexive and
transitive, holds of the whole loop. -/
theorem runMigrations_rel {R : MigrationDb → MigrationDb → Prop} (hrefl : ∀ db, R db db)
    (htrans : ∀ a b c, R a b → R b c → R a c)
    (hstep : ∀ m db, matchesMigrationPattern m = true →
      R db (migrationStep sql fault executed m db).2)
    {ms : List String} (hms : ∀ m ∈ ms, matchesMigrationPattern m = true) (db : MigrationDb) :
    R db (runMigrations sql fault executed ms db).2 := by
  induction ms generalizing db with
  | nil => exact hrefl db
  | cons m ms ih =>
    obtain ⟨hm, hms⟩ := List.forall_mem_cons.mp hms
    have h₁ := hstep m db hm
    rcases hs : migrationStep sql fault executed m db with ⟨e | ⟨⟩, db'⟩ <;> rw [hs] at h₁
    · rw [runMigrations_cons_error hs]; exact h₁
    · rw [runMigrations_cons_ok hs]
      exact htrans _ _ _ h₁ (ih hms db')

theorem extends_migrationStep {m : String} (db : MigrationDb)
    (h : matchesMigrationPattern m = true) :
    db.Extends (migrationStep sql fault executed m db).2 := by
  rcases migrationStep_cases sql fault executed db h with
    ⟨-, hs⟩ | ⟨-, e, hs⟩ | ⟨-, e, hs⟩ | ⟨-, -, -, hs⟩ <;> rw [hs]
  · exact .refl db
  · exact .refl db
  · exact .append_applied db [m]
  · exact ⟨List.prefix_append _ _, List.prefix_append _ _⟩

theorem extends_runMigrations (sql : SchemaSql) (fault : MigrateOp → Option String)
    (executed : List Nat) {ms : List String} (hms : ∀ m ∈ ms, matchesMigrationPattern m = true)
    (db : MigrationDb) : db.Extends (runMigrations sql fault executed ms db).2 :=
  runMigrations_rel .refl (fun _ _ _ => .trans) (fun _ db h => extends_migrationStep db h) hms db

/-- A successful loop leaves every migration it went over either among `executed` or recorded. -/
theorem runMigrations_ok_recorded {ms : List String} {db db' : MigrationDb}
    (hms : ∀ m ∈ ms, matchesMigrationPattern m = true)
    (h : runMigrations sql fault executed ms db = (.ok (), db')) :
    ∀ m ∈ ms, migrationNumberOf m ∈ executed ∨ migrationNumberOf m ∈ db'.recorded := by
  induction ms generalizing db with
  | nil => simp
  | cons m ms ih =>
    obtain ⟨hm, hms'⟩ := List.forall_mem_cons.mp hms
    rcases migrationStep_cases sql fault executed db hm with
      ⟨hex, hs⟩ | ⟨-, e, hs⟩ | ⟨-, e, hs⟩ | ⟨-, -, -, hs⟩
    · rw [runMigrations_cons_ok hs] at h
      exact List.forall_mem_cons.mpr ⟨.inl hex, ih hms' h⟩
    · rw [runMigrations_cons_error hs] at h; cases h
    · rw [runMigrations_cons_error hs] at h; cases h
    · rw [runMigrations_cons_ok hs] at h
      have hext := extends_runMigrations sql fault executed hms'
        ⟨db.applied ++ [m], db.ledger ++ [(migrationNumberOf m, m)]⟩
      rw [h] at hext
      refine List.forall_mem_cons.mpr ⟨.inr (hext.recorded ?_), ih hms' h⟩
      simp [MigrationDb.recorded]

/-- A loop over migrations that are all among `executed` changes nothing. -/
theorem runMigrations_skip {ms : List String}
    (hms : ∀ m ∈ ms, matchesMigrationPattern m = true ∧ migrationNumberOf m ∈ executed)
    (db : MigrationDb) : runMigrations sql fault executed ms db = (.ok (), db) := by
  induction ms with
  | nil => rfl
  | cons m ms ih =>
    obtain ⟨⟨hm, hex⟩, hms⟩ := List.forall_mem_cons.mp hms
    rcases migrationStep_cases sql fault executed db hm with
      ⟨-, hs⟩ | ⟨hn, -⟩ | ⟨hn, -⟩ | ⟨hn, -⟩
    · rw [runMigrations_cons_ok hs]
      exact ih hms
    all_goals exact absurd hex hn

end

/-! ## The ledger and the applied files -/

/-- Every recorded number is that of an applied file. -/
def MigrationDb.RecordsApplied (db : MigrationDb) : Prop :=
  ∀ n ∈ db.recorded, n ∈ db.appliedNumbers

/-- What every database that `Migrate` runs reach from an empty one satisfies. -/
structure LedgerInv (sql : SchemaSql) (db : MigrationDb) : Prop where
  /-- Rows are recorded only into an existing table, which no migration drops. -/
  table : db.recorded ≠ [] → db.tableExists sql = true
  /-- A number is recorded only after its file was applied. -/
  applied : db.RecordsApplied

theorem LedgerInv.empty (sql : SchemaSql) : LedgerInv sql {} :=
  ⟨fun h => absurd rfl h, fun _ h => by simp [MigrationDb.recorded] at h⟩

section
variable {sql : SchemaSql} {fault : MigrateOp → Option String} {executed : List Nat}

theorem recordsApplied_migrationStep {m : String} {db : MigrationDb}
    (h : matchesMigrationPattern m = true) (hdb : db.RecordsApplied) :
    (migrationStep sql fault executed m db).2.RecordsApplied := by
  rcases migrationStep_cases sql fault executed db h with
    ⟨-, hs⟩ | ⟨-, e, hs⟩ | ⟨-, e, hs⟩ | ⟨-, -, -, hs⟩ <;> rw [hs] <;>
    intro n hn <;> simp only [MigrationDb.recorded, MigrationDb.appliedNumbers, List.map_append,
      List.mem_append, List.map_cons, List.map_nil, List.mem_singleton] at hn ⊢
  · exact hdb n hn
  · exact hdb n hn
  · exact .inl (hdb n hn)
  · rcases hn with hn | rfl
    · exact .inl (hdb n hn)
    · exact .inr rfl

theorem ledgerInv_migrationStep {m : String} {db : MigrationDb}
    (h : matchesMigrationPattern m = true) (hdb : LedgerInv sql db) :
    LedgerInv sql (migrationStep sql fault executed m db).2 := by
  refine ⟨?_, recordsApplied_migrationStep h hdb.applied⟩
  rcases migrationStep_cases sql fault executed db h with
    ⟨-, hs⟩ | ⟨-, e, hs⟩ | ⟨-, e, hs⟩ | ⟨-, -, htab, hs⟩ <;> rw [hs]
  · exact hdb.table
  · exact hdb.table
  · exact fun hne => (MigrationDb.Extends.append_applied db [m]).tableExists (hdb.table hne)
  · exact fun _ => htab

/-- **Atomicity up to the failed `INSERT`.** A file applied and unrecorded after the loop was so
before it, or is the file whose `INSERT` failed, the error the loop returns. -/
theorem runMigrations_unrecorded {ms : List String}
    (hms : ∀ m ∈ ms, matchesMigrationPattern m = true) (db : MigrationDb) (n : Nat)
    (hn : n ∈ (runMigrations sql fault executed ms db).2.appliedNumbers)
    (hr : n ∉ (runMigrations sql fault executed ms db).2.recorded) :
    (n ∈ db.appliedNumbers ∧ n ∉ db.recorded) ∨
    ∃ m e, migrationNumberOf m = n ∧ (runMigrations sql fault executed ms db).1 =
      .error (.wrap ("failed to record migration " ++ m ++ " in migrations table") e) := by
  induction ms generalizing db with
  | nil => exact .inl ⟨hn, hr⟩
  | cons m ms ih =>
    obtain ⟨hm, hms'⟩ := List.forall_mem_cons.mp hms
    rcases migrationStep_cases sql fault executed db hm with
      ⟨-, hs⟩ | ⟨-, e, hs⟩ | ⟨-, e, hs⟩ | ⟨-, -, -, hs⟩
    · rw [runMigrations_cons_ok hs] at hn hr ⊢
      exact ih hms' db hn hr
    · rw [runMigrations_cons_error hs] at hn hr ⊢
      exact .inl ⟨hn, hr⟩
    · rw [runMigrations_cons_error hs] at hn hr ⊢
      simp only [MigrationDb.appliedNumbers, List.map_append, List.mem_append, List.map_cons,
        List.map_nil, List.mem_singleton] at hn
      rcases hn with hn | rfl
      · exact .inl ⟨hn, hr⟩
      · exact .inr ⟨m, e, rfl, rfl⟩
    · rw [runMigrations_cons_ok hs] at hn hr ⊢
      rcases ih hms' _ hn hr with ⟨hn', hr'⟩ | hfail
      · simp only [MigrationDb.appliedNumbers, MigrationDb.recorded, List.map_append,
          List.mem_append, List.map_cons, List.map_nil, List.mem_singleton, not_or] at hn' hr'
        exact .inl ⟨hn'.resolve_right hr'.2, hr'.1⟩
      · exact .inr hfail

/-- **At most once per loop.** Over migrations with distinct names, the loop applies a file at
most once, only when its number is not among `executed`, and then either records it or returns
the failure of its `INSERT`. -/
theorem runMigrations_count {ms : List String} (hnodup : ms.Nodup)
    (hms : ∀ m ∈ ms, matchesMigrationPattern m = true) (db : MigrationDb) (f : String) :
    (runMigrations sql fault executed ms db).2.applied.count f = db.applied.count f ∨
    (runMigrations sql fault executed ms db).2.applied.count f = db.applied.count f + 1 ∧
      f ∈ ms ∧ migrationNumberOf f ∉ executed ∧
      (migrationNumberOf f ∈ (runMigrations sql fault executed ms db).2.recorded ∨
        isRecordFailure f (runMigrations sql fault executed ms db).1 = true) := by
  induction ms generalizing db with
  | nil => exact .inl rfl
  | cons m ms ih =>
    obtain ⟨hm, hnd⟩ := List.nodup_cons.mp hnodup
    obtain ⟨hmatch, hms'⟩ := List.forall_mem_cons.mp hms
    rcases migrationStep_cases sql fault executed db hmatch with
      ⟨-, hs⟩ | ⟨-, e, hs⟩ | ⟨hex, e, hs⟩ | ⟨hex, -, -, hs⟩
    · rw [runMigrations_cons_ok hs]
      exact (ih hnd hms' db).imp_right
        fun ⟨h₁, h₂, h₃⟩ => ⟨h₁, List.mem_cons_of_mem m h₂, h₃⟩
    · rw [runMigrations_cons_error hs]
      exact .inl rfl
    · rw [runMigrations_cons_error hs]
      by_cases hf : f = m
      · subst hf
        exact .inr ⟨by simp, List.mem_cons_self f ms, hex, .inr (by simp [isRecordFailure])⟩
      · exact .inl (by simp [List.count_singleton', Ne.symm hf])
    · rw [runMigrations_cons_ok hs]
      by_cases hf : f = m
      · -- the file is applied here and never again in this loop
        subst hf
        have h := (ih hnd hms' ⟨db.applied ++ [f], db.ledger ++ [(migrationNumberOf f, f)]⟩
          ).resolve_right fun h => hm h.2.1
        have hext := extends_runMigrations sql fault executed hms'
          ⟨db.applied ++ [f], db.ledger ++ [(migrationNumberOf f, f)]⟩
        exact .inr ⟨by simpa using h, List.mem_cons_self f ms, hex,
          .inl (hext.recorded (by simp [MigrationDb.recorded]))⟩
      · have hc : (db.applied ++ [m]).count f = db.applied.count f := by
          simp [List.count_singleton', Ne.symm hf]
        rcases ih hnd hms' ⟨db.applied ++ [m], db.ledger ++ [(migrationNumberOf m, m)]⟩ with
          h | ⟨h₁, h₂, h₃⟩
        · exact .inl (h.trans hc)
        · exact .inr ⟨h₁.trans (by rw [hc]), List.mem_cons_of_mem m h₂, h₃⟩

end

/-! ## Two migration files

The examples run two files. `001-base.sql`, not in this repository's sources, creates the tables,
the ledger among them, and fails when executed twice; `016-settings.sql` is
`CREATE TABLE IF NOT EXISTS settings (...)`, which never fails. -/

/-- The SQL of `001-base.sql` and `016-settings.sql`. -/
def settingsSchema : SchemaSql where
  createsLedger file := file == "001-base.sql"
  sqlError file applied :=
    if file = "001-base.sql" ∧ file ∈ applied then some "table conversations already exists"
    else none

/-- The embedded directory holding the two files, as `ReadDir` lists them. -/
def settingsEntries : List DirEntry :=
  [⟨"016-settings.sql", false⟩, ⟨"001-base.sql", false⟩]

/-- The failures of a run whose ledger `INSERT` for `016-settings.sql` is cancelled. -/
def settingsRecordCancelled : MigrateOp → Option String :=
  fun op => if op = .record "016-settings.sql" then some "context canceled" else none

/-! ## One run -/

section
variable {sql : SchemaSql} {entries : List DirEntry} {fault : MigrateOp → Option String}
  {db : MigrationDb}

/-- **What a run does**: it fails to load the ledger and changes nothing, or runs the loop with
the recorded numbers, or, when its table check failed or found no table, with none. -/
theorem migrate_cases (sql : SchemaSql) (entries : List DirEntry)
    (fault : MigrateOp → Option String) (db : MigrationDb) :
    (∃ e, migrate sql entries fault db = (.error e, db)) ∨
    migrate sql entries fault db =
      runMigrations sql fault db.recorded (migrationFiles entries) db ∨
    ((fault .tableCheck).isSome ∨ db.tableExists sql = false) ∧
      migrate sql entries fault db = runMigrations sql fault [] (migrationFiles entries) db := by
  unfold migrate
  rcases htc : fault .tableCheck with _ | text
  · by_cases ht : db.tableExists sql
    · rcases hlr : fault .ledgerRead with _ | text'
      · exact .inr (.inl (by simp [rx, checkLedgerTable, loadExecutedMigrations, ht]))
      · exact .inl ⟨.wrap "failed to load executed migrations" (.sql (.env text')),
          by simp [rx, checkLedgerTable, ht]⟩
    · exact .inr (.inr ⟨.inr (by simpa using ht), by simp [rx, checkLedgerTable, ht]⟩)
  · exact .inr (.inr ⟨.inl rfl, rfl⟩)

theorem matches_migrationFiles (entries : List DirEntry) :
    ∀ m ∈ migrationFiles entries, matchesMigrationPattern m = true :=
  fun _ h => matches_of_mem_migrationFiles h

/-- A relation that every step of the loop establishes, reflexive and transitive, holds between
the database before a run and after it. -/
theorem migrate_rel {R : MigrationDb → MigrationDb → Prop} (hrefl : ∀ db, R db db)
    (htrans : ∀ a b c, R a b → R b c → R a c)
    (hstep : ∀ executed m db, matchesMigrationPattern m = true →
      R db (migrationStep sql fault executed m db).2) (db : MigrationDb) :
    R db (migrate sql entries fault db).2 := by
  rcases migrate_cases sql entries fault db with ⟨e, h⟩ | h | ⟨-, h⟩ <;> rw [h]
  · exact hrefl db
  all_goals exact runMigrations_rel hrefl htrans (hstep _) (matches_migrationFiles entries) db

theorem extends_migrate (sql : SchemaSql) (entries : List DirEntry)
    (fault : MigrateOp → Option String) (db : MigrationDb) :
    db.Extends (migrate sql entries fault db).2 :=
  migrate_rel .refl (fun _ _ _ => .trans) (fun _ _ db h => extends_migrationStep db h) db

theorem LedgerInv.migrate (h : LedgerInv sql db) : LedgerInv sql (migrate sql entries fault db).2 :=
  migrate_rel (R := fun a b => LedgerInv sql a → LedgerInv sql b) (fun _ => id)
    (fun _ _ _ h₁ h₂ => h₂ ∘ h₁) (fun _ _ _ hm => ledgerInv_migrationStep hm) db h

theorem recordsApplied_migrate (h : db.RecordsApplied) :
    (migrate sql entries fault db).2.RecordsApplied :=
  migrate_rel (R := fun a b => a.RecordsApplied → b.RecordsApplied) (fun _ => id)
    (fun _ _ _ h₁ h₂ => h₂ ∘ h₁) (fun _ _ _ hm => recordsApplied_migrationStep hm) db h

/-- A run that returns `nil` leaves the number of every migration file recorded. -/
theorem migrate_ok_recorded (h : (migrate sql entries fault db).1 = .ok ()) :
    ∀ m ∈ migrationFiles entries,
      migrationNumberOf m ∈ (migrate sql entries fault db).2.recorded := by
  have hext := extends_migrate sql entries fault db
  rcases migrate_cases sql entries fault db with ⟨e, hr⟩ | hr | ⟨-, hr⟩ <;>
    rw [hr] at h hext ⊢
  · cases h
  · intro m hm
    exact (runMigrations_ok_recorded (matches_migrationFiles entries) (Prod.ext h rfl) m hm).elim
      hext.recorded id
  · intro m hm
    exact (runMigrations_ok_recorded (matches_migrationFiles entries) (Prod.ext h rfl) m hm
      ).resolve_left (List.not_mem_nil _)

/-- On a database that records every migration file, a run that returns `nil` changes nothing. -/
theorem migrate_ok_of_recorded
    (hall : ∀ m ∈ migrationFiles entries, migrationNumberOf m ∈ db.recorded)
    (h : (migrate sql entries fault db).1 = .ok ()) : (migrate sql entries fault db).2 = db := by
  rcases migrate_cases sql entries fault db with ⟨e, hr⟩ | hr | ⟨-, hr⟩
  · rw [hr]
  · rw [hr, runMigrations_skip fun m hm => ⟨matches_of_mem_migrationFiles hm, hall m hm⟩]
  · rw [hr] at h ⊢
    rcases hf : migrationFiles entries with _ | ⟨m, ms⟩
    · rfl
    · rw [hf] at h
      have hm : m ∈ migrationFiles entries := hf ▸ List.mem_cons_self m ms
      rcases migrationStep_cases sql fault [] db (matches_of_mem_migrationFiles hm) with
        ⟨hex, -⟩ | ⟨-, e, hs⟩ | ⟨-, e, hs⟩ | ⟨-, hn, -, -⟩
      · cases hex
      · rw [runMigrations_cons_error hs] at h; cases h
      · rw [runMigrations_cons_error hs] at h; cases h
      · exact absurd (hall m hm) hn

/-- **At most once per run.** When its table check does not fail, a run applies a file at most
once, only when its number is not recorded, and then records it or returns the failure of its
`INSERT`. -/
theorem migrate_count (htc : fault .tableCheck = none) (hinv : LedgerInv sql db)
    (hnodup : (migrationFiles entries).Nodup) (f : String) :
    (migrate sql entries fault db).2.applied.count f = db.applied.count f ∨
    (migrate sql entries fault db).2.applied.count f = db.applied.count f + 1 ∧
      migrationNumberOf f ∉ db.recorded ∧
      (migrationNumberOf f ∈ (migrate sql entries fault db).2.recorded ∨
        isRecordFailure f (migrate sql entries fault db).1 = true) := by
  have hrun : (∃ e, migrate sql entries fault db = (.error e, db)) ∨
      migrate sql entries fault db =
        runMigrations sql fault db.recorded (migrationFiles entries) db := by
    rcases migrate_cases sql entries fault db with h | h | ⟨hno, h⟩
    · exact .inl h
    · exact .inr h
    · -- no table was found, so nothing is recorded
      have hnil : db.recorded = [] := by
        rcases hno with h | h
        · simp [htc] at h
        · by_contra hne; simp [hinv.table hne] at h
      exact .inr (hnil ▸ h)
  rcases hrun with ⟨e, hr⟩ | hr <;> rw [hr]
  · exact .inl rfl
  · exact (runMigrations_count hnodup (matches_migrationFiles entries) db f).imp_right
      fun ⟨h₁, _, h₂⟩ => ⟨h₁, h₂⟩

/-- **A failed table check reads as an empty ledger.** Whatever the error, a run whose table
check fails runs the first migration again although its number is recorded, and never gets past
it. When the write scope and the file's SQL succeed on the migrated database, the file is applied
a second time and its `INSERT` fails; otherwise its execution fails and nothing changes. -/
theorem migrate_tableCheck_fault {text m : String} {ms : List String}
    (htc : fault .tableCheck = some text) (hfiles : migrationFiles entries = m :: ms)
    (hrec : migrationNumberOf m ∈ db.recorded) :
    (fault (.exec m) = none ∧ sql.sqlError m db.applied = none ∧
      ∃ e, migrate sql entries fault db =
        (.error (.wrap ("failed to record migration " ++ m ++ " in migrations table") e),
          { db with applied := db.applied ++ [m] })) ∨
    ((fault (.exec m)).isSome ∨ (sql.sqlError m db.applied).isSome) ∧
      ∃ e, migrate sql entries fault db =
        (.error (.wrap ("failed to execute migration " ++ m) e), db) := by
  have hm : matchesMigrationPattern m = true :=
    matches_of_mem_migrationFiles (hfiles ▸ List.mem_cons_self m ms)
  have hrun : migrate sql entries fault db = runMigrations sql fault [] (m :: ms) db := by
    simp only [migrate, rx, htc]
    rw [hfiles]
  rw [hrun]
  cases hf : fault (.exec m) with
  | some t =>
    refine .inr ⟨.inl rfl, .wrap ("failed to execute migration " ++ m) (.sql (.env t)),
      runMigrations_cons_error ?_⟩
    simp only [migrationStep, findStringSubmatch_of_matches hm, atoi_migrationDigits hm,
      List.not_mem_nil, if_false, executeMigration, tx, hf]
  | none =>
    cases hq : sql.sqlError m db.applied with
    | some t =>
      refine .inr ⟨.inr rfl, .wrap ("failed to execute migration " ++ m) (.sql (.logic t)),
        runMigrations_cons_error ?_⟩
      simp only [migrationStep, findStringSubmatch_of_matches hm, atoi_migrationDigits hm,
        List.not_mem_nil, if_false, executeMigration, tx, hf, execMigrationSql, hq]
    | none =>
      -- the file is applied again; its number is recorded, so the `INSERT` fails
      have hexec : executeMigration sql (fault (.exec m)) m db =
          (.ok (), { db with applied := db.applied ++ [m] }) := by
        simp only [executeMigration, tx, hf, execMigrationSql, hq]
      refine .inl ⟨rfl, rfl, ?_⟩
      rcases tx_cases (fault (.record m)) (insertMigration sql (migrationNumberOf m) m)
        { db with applied := db.applied ++ [m] } with ⟨_, _, -, hb, -⟩ | ⟨e, ht⟩
      · exact absurd hrec (insertMigration_ok hb).2.1
      · refine ⟨e, runMigrations_cons_error ?_⟩
        simp only [migrationStep, findStringSubmatch_of_matches hm, atoi_migrationDigits hm,
          List.not_mem_nil, if_false, hexec, ht]

/-- On a migrated database (`001-base.sql` and `016-settings.sql` applied and recorded) whose
table check finds the database locked, `001-base.sql` runs again and its SQL fails. -/
theorem migrate_tableCheck_fault_locked :
    let fault : MigrateOp → Option String :=
      fun op => if op = .tableCheck then some "database is locked" else none
    let db : MigrationDb :=
      { applied := ["001-base.sql", "016-settings.sql"]
        ledger := [(1, "001-base.sql"), (16, "016-settings.sql")] }
    (fault .tableCheck = some "database is locked" ∧
      migrationFiles settingsEntries = ["001-base.sql", "016-settings.sql"] ∧
      migrationNumberOf "001-base.sql" ∈ db.recorded) ∧
    ((fault (.exec "001-base.sql") = none ∧ settingsSchema.sqlError "001-base.sql" db.applied = none ∧
      ∃ e, migrate settingsSchema settingsEntries fault db =
        (.error (.wrap ("failed to record migration " ++ "001-base.sql" ++ " in migrations table") e),
          { db with applied := db.applied ++ ["001-base.sql"] })) ∨
    ((fault (.exec "001-base.sql")).isSome ∨
        (settingsSchema.sqlError "001-base.sql" db.applied).isSome) ∧
      ∃ e, migrate settingsSchema settingsEntries fault db =
        (.error (.wrap ("failed to execute migration " ++ "001-base.sql") e), db)) := by
  intro fault db
  have htc : fault .tableCheck = some "database is locked" := rfl
  have hfiles : migrationFiles settingsEntries = ["001-base.sql", "016-settings.sql"] := rfl
  have hrec : migrationNumberOf "001-base.sql" ∈ db.recorded := List.mem_cons_self _ _
  exact ⟨⟨htc, hfiles, hrec⟩, migrate_tableCheck_fault htc hfiles hrec⟩

end

/-! ## The order of the migrations

`sort.Strings` orders the names byte by byte. The names the pattern keeps start with three
digits, so that order is the order of their numbers, and a run applies files in that order
(`migrate_applied_sorted`). -/

theorem runesLE_total : ∀ a b : List Char, runesLE a b = true ∨ runesLE b a = true
  | [], _ => .inl rfl
  | _ :: _, [] => .inr rfl
  | x :: a, y :: b => by
    simp only [runesLE, Bool.or_eq_true, Bool.and_eq_true, decide_eq_true_eq, beq_iff_eq]
    rcases Nat.lt_trichotomy x.toNat y.toNat with h | h | h
    · exact .inl (.inl h)
    · rcases runesLE_total a b with h' | h'
      exacts [.inl (.inr ⟨h, h'⟩), .inr (.inr ⟨h.symm, h'⟩)]
    · exact .inr (.inl h)

theorem runesLE_trans :
    ∀ {a b c : List Char}, runesLE a b = true → runesLE b c = true → runesLE a c = true
  | [], _, _, _, _ => rfl
  | _ :: _, [], _, h, _ => by simp [runesLE] at h
  | _ :: _, _ :: _, [], _, h => by simp [runesLE] at h
  | x :: a, y :: b, z :: c, h₁, h₂ => by
    simp only [runesLE, Bool.or_eq_true, Bool.and_eq_true, decide_eq_true_eq, beq_iff_eq]
      at h₁ h₂ ⊢
    rcases h₁ with h₁ | ⟨e₁, h₁⟩ <;> rcases h₂ with h₂ | ⟨e₂, h₂⟩
    · exact .inl (by omega)
    · exact .inl (by omega)
    · exact .inl (by omega)
    · exact .inr ⟨e₁.trans e₂, runesLE_trans h₁ h₂⟩

/-- A digit is `'0'` plus its value. -/
theorem toNat_of_isDigit {c : Char} (h : c.isDigit = true) : ∃ v ≤ 9, c.toNat = v + 48 := by
  simp only [Char.isDigit, Bool.and_eq_true, decide_eq_true_eq] at h
  have hlo : 48 ≤ c.toNat := h.1
  have hhi : c.toNat ≤ 57 := h.2
  exact ⟨c.toNat - 48, by omega, by omega⟩

/-- A name the pattern matches: three digits and a dash, then the rest. -/
theorem shape_of_matches {m : String} (h : matchesMigrationPattern m = true) :
    ∃ d₁ d₂ d₃ rest, m.toList = d₁ :: d₂ :: d₃ :: '-' :: rest ∧
      d₁.isDigit = true ∧ d₂.isDigit = true ∧ d₃.isDigit = true := by
  unfold matchesMigrationPattern at h
  split at h
  · rename_i d₁ d₂ d₃ rest heq
    simp only [Bool.and_eq_true] at h
    exact ⟨d₁, d₂, d₃, rest, heq, h.1.1.1.1, h.1.1.1.2, h.1.1.2⟩
  · cases h

/-- Of two names the pattern matches, the one `sort.Strings` puts first has the smaller or the
same number. -/
theorem migrationNumberOf_le_of_runesLE {a b : String} (ha : matchesMigrationPattern a = true)
    (hb : matchesMigrationPattern b = true) (h : runesLE a.toList b.toList = true) :
    migrationNumberOf a ≤ migrationNumberOf b := by
  obtain ⟨d₁, d₂, d₃, ra, hat, hd₁, hd₂, hd₃⟩ := shape_of_matches ha
  obtain ⟨e₁, e₂, e₃, rb, hbt, he₁, he₂, he₃⟩ := shape_of_matches hb
  obtain ⟨x₁, -, hx₁⟩ := toNat_of_isDigit hd₁
  obtain ⟨x₂, hx₂', hx₂⟩ := toNat_of_isDigit hd₂
  obtain ⟨x₃, hx₃', hx₃⟩ := toNat_of_isDigit hd₃
  obtain ⟨y₁, -, hy₁⟩ := toNat_of_isDigit he₁
  obtain ⟨y₂, -, hy₂⟩ := toNat_of_isDigit he₂
  obtain ⟨y₃, -, hy₃⟩ := toNat_of_isDigit he₃
  have h0 : '0'.toNat = 48 := rfl
  simp only [hat, hbt, runesLE, Bool.or_eq_true, Bool.and_eq_true, decide_eq_true_eq,
    beq_iff_eq, hx₁, hx₂, hx₃, hy₁, hy₂, hy₃] at h
  simp only [migrationNumberOf, hat, hbt, List.take, digitsValue, List.foldl, h0, hx₁, hx₂,
    hx₃, hy₁, hy₂, hy₃, Nat.add_sub_cancel]
  rcases h with h | ⟨h₁, h | ⟨h₂, h | ⟨h₃, -⟩⟩⟩ <;> omega

/-- The migrations of a run are in the order of their numbers. -/
theorem sorted_migrationFiles (entries : List DirEntry) :
    (migrationFiles entries).Sorted fun a b => migrationNumberOf a ≤ migrationNumberOf b := by
  haveI : IsTotal String fun a b => runesLE a.toList b.toList = true :=
    ⟨fun a b => runesLE_total a.toList b.toList⟩
  haveI : IsTrans String fun a b => runesLE a.toList b.toList = true :=
    ⟨fun _ _ _ => runesLE_trans⟩
  exact (List.sorted_insertionSort _ _).imp_of_mem fun ha hb h =>
    migrationNumberOf_le_of_runesLE (matches_of_mem_migrationFiles ha)
      (matches_of_mem_migrationFiles hb) h

/-- The files a loop applies are some of its migrations, in their order. -/
theorem runMigrations_applied {sql : SchemaSql} {fault : MigrateOp → Option String}
    {executed : List Nat} {ms : List String} (hms : ∀ m ∈ ms, matchesMigrationPattern m = true)
    (db : MigrationDb) :
    ∃ new, (runMigrations sql fault executed ms db).2.applied = db.applied ++ new ∧
      new.Sublist ms := by
  induction ms generalizing db with
  | nil => exact ⟨[], by simp [runMigrations], List.nil_sublist _⟩
  | cons m ms ih =>
    obtain ⟨hm, hms⟩ := List.forall_mem_cons.mp hms
    rcases migrationStep_cases sql fault executed db hm with
      ⟨-, hs⟩ | ⟨-, e, hs⟩ | ⟨-, e, hs⟩ | ⟨-, -, -, hs⟩
    · rw [runMigrations_cons_ok hs]
      obtain ⟨new, h, hsub⟩ := ih hms db
      exact ⟨new, h, hsub.cons m⟩
    · rw [runMigrations_cons_error hs]
      exact ⟨[], by simp, List.nil_sublist _⟩
    · rw [runMigrations_cons_error hs]
      exact ⟨[m], rfl, List.singleton_sublist.2 (List.mem_cons_self _ _)⟩
    · rw [runMigrations_cons_ok hs]
      obtain ⟨new, h, hsub⟩ := ih hms _
      exact ⟨m :: new, by rw [h]; simp, hsub.cons₂ m⟩

/-- **Migrations in order.** Whatever the directory lists, whatever fails and whatever the
database holds, a run applies files in the order of their numbers. -/
theorem migrate_applied_sorted (sql : SchemaSql) (entries : List DirEntry)
    (fault : MigrateOp → Option String) (db : MigrationDb) :
    ∃ new, (migrate sql entries fault db).2.applied = db.applied ++ new ∧
      new.Sorted fun a b => migrationNumberOf a ≤ migrationNumberOf b := by
  rcases migrate_cases sql entries fault db with ⟨e, h⟩ | h | ⟨-, h⟩ <;> rw [h]
  · exact ⟨[], by simp, List.sorted_nil⟩
  all_goals
    obtain ⟨new, happ, hsub⟩ := runMigrations_applied (matches_migrationFiles entries) db
    exact ⟨new, happ, (sorted_migrationFiles entries).sublist hsub⟩

/-! ## Sequences of runs -/

section
variable {sql : SchemaSql} {entries : List DirEntry}

/-- A relation that every run establishes, reflexive and transitive, holds between the database
before a sequence of runs and after it. -/
theorem migrateRuns_rel {R : MigrationDb → MigrationDb → Prop} (hrefl : ∀ db, R db db)
    (htrans : ∀ a b c, R a b → R b c → R a c)
    (hrun : ∀ fault db, R db (migrate sql entries fault db).2)
    (faults : List (MigrateOp → Option String)) (db : MigrationDb) :
    R db (migrateRuns sql entries faults db).2 := by
  induction faults generalizing db with
  | nil => exact hrefl db
  | cons fault faults ih => exact htrans _ _ _ (hrun fault db) (ih _)

theorem extends_migrateRuns (faults : List (MigrateOp → Option String)) (db : MigrationDb) :
    db.Extends (migrateRuns sql entries faults db).2 :=
  migrateRuns_rel .refl (fun _ _ _ => .trans) (extends_migrate sql entries) faults db

theorem LedgerInv.migrateRuns (faults : List (MigrateOp → Option String)) {db : MigrationDb}
    (h : LedgerInv sql db) : LedgerInv sql (migrateRuns sql entries faults db).2 :=
  migrateRuns_rel (R := fun a b => LedgerInv sql a → LedgerInv sql b) (fun _ => id)
    (fun _ _ _ h₁ h₂ => h₂ ∘ h₁) (fun _ _ h => h.migrate) faults db h

/-- The bound of one run on the executions of a file: one for its number recorded, one for
every failure to record it. -/
theorem migrate_count_bound {fault : MigrateOp → Option String} {db : MigrationDb}
    (htc : fault .tableCheck = none) (hinv : LedgerInv sql db)
    (hnodup : (migrationFiles entries).Nodup) (f : String) (c : Nat)
    (hc : db.applied.count f ≤ (if migrationNumberOf f ∈ db.recorded then 1 else 0) + c) :
    (migrate sql entries fault db).2.applied.count f ≤
      (if migrationNumberOf f ∈ (migrate sql entries fault db).2.recorded then 1 else 0) +
        (c + if isRecordFailure f (migrate sql entries fault db).1 then 1 else 0) := by
  have hext := extends_migrate sql entries fault db
  rcases migrate_count htc hinv hnodup f with h | ⟨h, hn, hr | hr⟩ <;> rw [h]
  · by_cases hf : migrationNumberOf f ∈ db.recorded
    · simp only [hf, hext.recorded hf, if_true] at hc ⊢; omega
    · simp only [hf, if_false] at hc; split_ifs <;> omega
  · simp only [hn, hr, if_false, if_true] at hc ⊢; omega
  · simp only [hn, hr, if_false, if_true] at hc ⊢; split_ifs <;> omega

theorem migrateRuns_count (hnodup : (migrationFiles entries).Nodup) (f : String) :
    ∀ (faults : List (MigrateOp → Option String)) (db : MigrationDb) (c : Nat),
      (∀ fault ∈ faults, fault .tableCheck = none) → LedgerInv sql db →
      db.applied.count f ≤ (if migrationNumberOf f ∈ db.recorded then 1 else 0) + c →
      (migrateRuns sql entries faults db).2.applied.count f ≤
        (if migrationNumberOf f ∈ (migrateRuns sql entries faults db).2.recorded then 1 else 0) +
          c + (migrateRuns sql entries faults db).1.countP (isRecordFailure f)
  | [], db, c, _, _, hc => by simpa [migrateRuns] using hc
  | fault :: faults, db, c, htc, hinv, hc => by
    have htc' := List.forall_mem_cons.mp htc
    have := migrateRuns_count hnodup f faults _ _ htc'.2 hinv.migrate
      (migrate_count_bound htc'.1 hinv hnodup f c hc)
    simp only [migrateRuns, List.countP_cons]
    omega

end

/-! ## The migrations ledger -/

/-- **Recording lags applying.** Every number recorded after a run is that of an applied file,
if it was so before the run. A file applied and unrecorded after the run was so before it, or is
the migration whose ledger `INSERT` failed after its SQL was executed, and the run returns that
failure. -/
theorem migrate_applied_recorded (sql : SchemaSql) (entries : List DirEntry)
    (fault : MigrateOp → Option String) (db : MigrationDb) (hdb : db.RecordsApplied) :
    (migrate sql entries fault db).2.RecordsApplied ∧
    ∀ n ∈ (migrate sql entries fault db).2.appliedNumbers,
      n ∉ (migrate sql entries fault db).2.recorded →
      (n ∈ db.appliedNumbers ∧ n ∉ db.recorded) ∨
      ∃ m e, migrationNumberOf m = n ∧ (migrate sql entries fault db).1 =
        .error (.wrap ("failed to record migration " ++ m ++ " in migrations table") e) := by
  refine ⟨recordsApplied_migrate hdb, fun n hn hr => ?_⟩
  rcases migrate_cases sql entries fault db with ⟨e, h⟩ | h | ⟨-, h⟩ <;> rw [h] at hn hr ⊢
  · exact .inl ⟨hn, hr⟩
  all_goals exact runMigrations_unrecorded (matches_migrationFiles entries) db n hn hr

theorem migrate_applied_recorded_witness :
    ({} : MigrationDb).RecordsApplied ∧
      (migrate settingsSchema settingsEntries settingsRecordCancelled {}).2.RecordsApplied := by
  have h : ({} : MigrationDb).RecordsApplied := fun _ hn => by simp [MigrationDb.recorded] at hn
  exact ⟨h,
    (migrate_applied_recorded settingsSchema settingsEntries settingsRecordCancelled {} h).1⟩

/-- A first run whose `INSERT` for `016-settings.sql` is cancelled applies both files and records
only `001`. -/
theorem migrate_applied_recorded_counterexample :
    (migrate settingsSchema settingsEntries settingsRecordCancelled {}).1.toBool = false ∧
      (migrate settingsSchema settingsEntries settingsRecordCancelled {}).2.appliedNumbers = [1, 16] ∧
      (migrate settingsSchema settingsEntries settingsRecordCancelled {}).2.recorded = [1] := by
  decide

/-- **Migrating again.** Over migration files with distinct numbers and a sequence of runs in
which no table check fails, a file's SQL is executed at most once, and once more for every run
that returned the failure of its ledger `INSERT`. A run that returns `nil` leaves every file's
number recorded, and every later run that returns `nil` changes nothing. -/
theorem migrate_idempotent (sql : SchemaSql) (entries : List DirEntry)
    (hdistinct : ((migrationFiles entries).map migrationNumberOf).Nodup) :
    (∀ db : MigrationDb, LedgerInv sql db → ∀ faults : List (MigrateOp → Option String),
      (∀ fault ∈ faults, fault .tableCheck = none) →
      ∀ f, (migrateRuns sql entries faults db).2.applied.count f ≤
        db.applied.count f + 1 + (migrateRuns sql entries faults db).1.countP (isRecordFailure f)) ∧
    ∀ (db : MigrationDb) (fault : MigrateOp → Option String)
      (later : List (MigrateOp → Option String)) (fault' : MigrateOp → Option String),
      (migrate sql entries fault db).1 = .ok () →
      (∀ m ∈ migrationFiles entries,
        migrationNumberOf m ∈ (migrate sql entries fault db).2.recorded) ∧
      ((migrate sql entries fault' (migrateRuns sql entries later (migrate sql entries fault db).2).2).1
          = .ok () →
        (migrate sql entries fault' (migrateRuns sql entries later (migrate sql entries fault db).2).2).2
          = (migrateRuns sql entries later (migrate sql entries fault db).2).2) := by
  refine ⟨fun db hinv faults htc f => ?_, fun db fault later fault' h => ?_⟩
  · have := migrateRuns_count hdistinct.of_map f faults db (db.applied.count f) htc hinv
      (Nat.le_add_left _ _)
    split_ifs at this <;> omega
  · have hall := migrate_ok_recorded h
    refine ⟨hall, migrate_ok_of_recorded fun m hm => ?_⟩
    exact (extends_migrateRuns later _).recorded (hall m hm)

/-- The bound is reached: a run whose `INSERT` for `016-settings.sql` is cancelled, then a run
without failures, execute that file twice. -/
theorem migrate_idempotent_witness :
    ((migrationFiles settingsEntries).map migrationNumberOf).Nodup ∧
      (migrateRuns settingsSchema settingsEntries [settingsRecordCancelled, fun _ => none]
          {}).2.applied.count "016-settings.sql" ≤
        ({} : MigrationDb).applied.count "016-settings.sql" + 1 +
          (migrateRuns settingsSchema settingsEntries [settingsRecordCancelled, fun _ => none]
            {}).1.countP (isRecordFailure "016-settings.sql") := by
  have hfiles : (migrationFiles settingsEntries).map migrationNumberOf = [1, 16] := by decide
  have h : ((migrationFiles settingsEntries).map migrationNumberOf).Nodup := by rw [hfiles]; simp
  exact ⟨h, (migrate_idempotent settingsSchema settingsEntries h).1 {} (LedgerInv.empty _) _
    (by decide) _⟩

/-- The first run fails at the cancelled `INSERT`, the second succeeds, and between them the SQL
of `016-settings.sql` is executed twice. -/
theorem migrate_idempotent_counterexample :
    (migrateRuns settingsSchema settingsEntries [settingsRecordCancelled, fun _ => none]
        {}).1.map Except.toBool = [false, true] ∧
      (migrateRuns settingsSchema settingsEntries [settingsRecordCancelled, fun _ => none]
        {}).2.applied.count "016-settings.sql" = 2 := by
  decide

end Shelley.Db
