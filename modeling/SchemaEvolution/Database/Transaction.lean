import SchemaEvolution.Database.Perform
import SchemaEvolution.Migration.Connection

/-!
# Sessions on the table database

A session sends statements to a `Database` as texts.  It counts the transactions that it has opened
one within the other: the outermost one is a transaction of the database, and the others are
savepoints.  A transaction that cannot be ended is given up, for which it is rolled back; if that
fails too, it still counts.

* `Database.query` sends a text.
* `Database.connection` is a session with its transactions.
-/

namespace SchemaEvolution.Database

/-- Sends the text of one or more statements, and returns their rows. -/
def query (sql : String) (db : Database) : Except MigrationError (List Row) × Database :=
  let answer := run sql db
  (answer.result.map fun rows => rows.map fun cells => cells.map Cell.value, answer.database)

/-- A session on a database. -/
def session (capabilities : Capabilities) : Session Database where
  dialect := .sqlite capabilities
  call s := query ((Dialect.sqlite capabilities).render s)

/-! ## Transactions -/

/-- The name of the savepoint that stands for a transaction within others. -/
def savepointName (depth : Nat) : String :=
  "_sqlx_savepoint_" ++ String.ofList (digits depth)

/-- Opens a transaction, or one within those that are open. -/
def begun (db : Database) : Except Fault Database := do
  let new ← if db.depth = 0 then db.opened else pure (db.withSavepoint (savepointName db.depth))
  return { new with depth := db.depth + 1 }

/-- Keeps what the innermost transaction did. -/
def finished (db : Database) : Except Fault Database := do
  match db.depth with
  | 0 => return db
  | 1 => return { ← db.committed with depth := 0 }
  | depth + 1 => return { ← db.released (savepointName depth) with depth := depth }

/-- Undoes what the innermost transaction did. -/
def abandoned (db : Database) : Except Fault Database := do
  match db.depth with
  | 0 => return db
  | 1 => return { ← db.rolledBack with depth := 0 }
  | depth + 1 => return { ← db.rolledBackTo (savepointName depth) with depth := depth }

/-- The step that leads to another database; the transaction is given up if it fails. -/
def step (change : Database → Except Fault Database) : TransactionStep Database := fun db =>
  match change db with
  | .ok new => (.ok (), new)
  | .error f => (.error (.connection f.message), (abandoned db).toOption.getD db)

/-- Opens a transaction. -/
def beginning : TransactionStep Database := fun db =>
  match begun db with
  | .ok new => (.ok (), new)
  | .error f => (.error (.connection f.message), db)

/-- Keeps what the transaction did. -/
def commit : TransactionStep Database :=
  step finished

/-- Undoes what the transaction did. -/
def rollback : TransactionStep Database :=
  step abandoned

/-- A session on a database with its transactions. -/
def connection (capabilities : Capabilities) : Connection Database where
  session := session capabilities
  beginning := beginning
  commit := commit
  rollback := rollback

end SchemaEvolution.Database
