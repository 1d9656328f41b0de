import SchemaEvolution.Ledger.Entry
import SchemaEvolution.Session.Script

/-!
# The ledger

The ledger is a table with one row for each migration that has been applied.  The table itself keeps
names unique, so that of two runners that apply a migration at once one gets an error.
-/

namespace SchemaEvolution

namespace Ledger

/-- The name of the ledger's table. -/
def tableName : String := "migration"

/-- The ledger's table (`ledger_table`). -/
def table : TableDefinition :=
  .ofItems tableName [
    .ifNotExists,
    .primaryKey none [],
    .column "name" "TEXT" [.modify .notNull, .modify .unique, .index],
    .timestamps]

/-- The statement that looks a name up. -/
def lookup (name : String) : Statement :=
  [.clause "SELECT", .name "id", .clause "FROM", .name tableName, .clause "WHERE", .name "name",
    .clause "=", .text name]

/-- The statement that adds a name at some time. -/
def insertion (now : Timestamp) (name : String) : Statement :=
  [.clause "INSERT INTO", .name tableName] ++
    Statement.names (["name", "created_at", "updated_at"].map .of) ++ .clause "VALUES" ::
    Statement.parenthesized [[.text name], [.literal (.timestamp now)], [.literal (.timestamp now)]]

/-- The statement that reads all entries, oldest first. -/
def listing : Statement :=
  .clause "SELECT" ::
    Statement.separated (["id", "name", "created_at", "updated_at"].map fun c => [.name c]) ++
    [.clause "FROM", .name tableName, .clause "ORDER BY", .name "id"]

/-- The statement that counts the entries. -/
def counting : Statement :=
  [.clause "SELECT COUNT(*) FROM", .name tableName]

/-- What an error of `insertion` means: a name that is there already was added by another runner. -/
def insertionError (name : String) (e : MigrationError) : MigrationError :=
  if e.isUniqueViolation then .recordedConcurrently name else e

/-- Creates the table and its index where they are missing (`ensure`). -/
def prepare (d : Dialect) : Script Unit := do
  Script.sendAll (← Script.ofResult .invalidOperation (table.compile d))

/-- Asks whether a migration of exactly this name has been recorded (`contains`). -/
def contains (name : String) : Script Bool := do
  let rows ← Script.send (lookup name)
  return !rows.isEmpty

/-- Records a migration (`record`). -/
def record (now : Timestamp) (name : String) : Script Unit :=
  .call (insertion now name) (insertionError name) fun _ => pure ()

/-- Reads rows in order, or gives the reason against the first one that is not an entry. -/
def readAll : List Row → Except RecordFault (List LedgerEntry)
  | [] => .ok []
  | row :: rows => return (← LedgerEntry.ofRow row) :: (← readAll rows)

/-- Reads all entries (`records`). -/
def entries : Script (List LedgerEntry) := do
  let rows ← Script.send listing
  Script.ofResult .invalidRecord (readAll rows)

/-- The integer at the start of the first row. -/
def firstInteger? (rows : List Row) : Option Int64 := do
  (← (← rows.head?).head?).integer?

/-- Counts the entries (`count`). -/
def count : Script Int64 := do
  let rows ← Script.send counting
  match firstInteger? rows with
  | some n => return n
  | none => .done (.error (.invalidRecord .countNotInteger))

end Ledger

end SchemaEvolution
