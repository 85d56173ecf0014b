import KnowledgeBase.Library.Text
import KnowledgeBase.Store.Database

/-!
# Migrations

The chain of migrations of the primary database. A migration brings its own transaction, in which the runner records it
in the ledger and which it commits; the line comments of its script are taken out before the engine sees it. The
statements of a script are those the engine reads in it, and may fail; an attempt may be cut off between any two.
-/

namespace KnowledgeBase

/-! ### line comments -/

/-- Where the scanner is: outside of string literals, in one, or in a line comment it leaves out. -/
inductive Scan
  | plain
  | string
  | comment
  deriving DecidableEq

def stripFrom : Scan → Text → Text
  | _, [] => []
  | .string, '\'' :: '\'' :: rest => '\'' :: '\'' :: stripFrom .string rest
  | .string, c :: rest => c :: stripFrom (if c = '\'' then .plain else .string) rest
  | .plain, c :: rest =>
    if c = '\'' then c :: stripFrom .string rest
    else if c = '-' && rest.head? = some '-' then stripFrom .comment rest
    else c :: stripFrom .plain rest
  | .comment, c :: rest => if c = '\n' then c :: stripFrom .plain rest else stripFrom .comment rest

/-- `strip_sql_line_comments`. -/
def stripSqlLineComments (sql : Text) : Text := stripFrom .plain sql

/-! ### the engine -/

/-- The schema and the ledger, by migration id. -/
structure MigrationStore (σ : Type) where
  schema : σ
  ledger : List (String × String)

/-- The statements of a script, and those of the runner. -/
inductive SqlStatement (σ : Type)
  | begin
  | change (effect : σ → Option σ)
  | record (migrationId checksum : String)
  | commit

/-- A connection: what is committed, and the transaction that is open. -/
structure MigrationConnection (σ : Type) where
  committed : MigrationStore σ
  working : Option (MigrationStore σ) := none

variable {σ : Type}

namespace MigrationConnection

/-- A write, in the open transaction or else committed at once. -/
def write (c : MigrationConnection σ) (f : MigrationStore σ → Option (MigrationStore σ)) :
    Option (MigrationConnection σ) :=
  match c.working with
  | some store => (f store).map fun store => { c with working := some store }
  | none => (f c.committed).map fun store => { c with committed := store }

/-- One statement, or the failure of it. -/
def execute (c : MigrationConnection σ) : SqlStatement σ → Option (MigrationConnection σ)
  | .begin => if c.working.isSome then none else some { c with working := some c.committed }
  | .change effect => c.write fun store => (effect store.schema).map fun schema => { store with schema := schema }
  | .record migrationId checksum => c.write fun store =>
    if (store.ledger.lookup migrationId).isSome then none
    else some { store with ledger := (migrationId, checksum) :: store.ledger }
  | .commit => c.working.map fun store => ⟨store, none⟩

end MigrationConnection

/-- How an attempt ends: with every migration applied, with an exception, or cut off. -/
inductive AttemptEnd
  | applied
  | raised (error : MkbError)
  | interrupted
  deriving DecidableEq

/-- What the engine raises where a statement fails. -/
def engineError : MkbError := ⟨"engine-error", "The engine refused a statement", 500⟩

/-- The statements in order, of which a number are executed before the attempt is cut off: the number that is left, the
connection and the end. -/
def executeScript : Nat → MigrationConnection σ → List (SqlStatement σ) →
    Nat × MigrationConnection σ × AttemptEnd
  | n, c, [] => (n, c, .applied)
  | 0, c, _ :: _ => (0, c, .interrupted)
  | n + 1, c, statement :: script =>
    match c.execute statement with
    | some c => executeScript n c script
    | none => (n, c, .raised engineError)

/-! ### the runner -/

structure Migration where
  migrationId : String
  sql : Text
  checksum : String

/-- The text of the script, without the `COMMIT;` it has to end with. -/
def Migration.body? (m : Migration) : Option Text :=
  let marker := "COMMIT;".toList
  if marker.isSuffixOf m.sql.rstrip then some (m.sql.rstrip.take (m.sql.rstrip.length - marker.length)) else none

/-- What an attempt leaves: the store it committed, the migrations whose scripts it gave to the engine, and its end. -/
structure Attempt (σ : Type) where
  store : MigrationStore σ
  started : List String := []
  result : AttemptEnd

/-- The statements of one migration: those of its script, its row in the ledger and the commit. -/
def migrationScript (engine : Text → List (SqlStatement σ)) (m : Migration) (body : Text) : List (SqlStatement σ) :=
  engine (stripSqlLineComments body) ++ [.record m.migrationId m.checksum, .commit]

/-- The migrations in order, past those the ledger had when the attempt began. What is not committed is rolled back. -/
def applyPending (engine : Text → List (SqlStatement σ)) (applied : List (String × String)) :
    List Migration → Nat → MigrationStore σ → Attempt σ
  | [], _, store => { store, result := .applied }
  | m :: rest, n, store =>
    match applied.lookup m.migrationId with
    | some existing =>
      if existing ≠ m.checksum then
        { store, result := .raised ⟨"migration-checksum-drift", "Migration checksum drift detected", 503⟩ }
      else applyPending engine applied rest n store
    | none =>
      match m.body? with
      | none => { store, result := .raised ⟨"migration-transaction-missing", "Migration must end with COMMIT", 503⟩ }
      | some body =>
        match executeScript n ⟨store, none⟩ (migrationScript engine m body) with
        | (n, c, .applied) =>
          let attempt := applyPending engine applied rest n c.committed
          { attempt with started := m.migrationId :: attempt.started }
        | (_, c, result) => { store := c.committed, started := [m.migrationId], result }

/-- `apply_migrations`, cut off after a number of statements. -/
def applyMigrations (engine : Text → List (SqlStatement σ)) (migrations : List Migration) (n : Nat)
    (store : MigrationStore σ) : Attempt σ :=
  if store.ledger.any fun row => migrations.all fun m => m.migrationId ≠ row.1 then
    { store, result := .raised ⟨"migration-unknown", "Database contains an unknown migration", 503⟩ }
  else applyPending engine store.ledger migrations n store

end KnowledgeBase
