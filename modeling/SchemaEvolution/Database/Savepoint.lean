import SchemaEvolution.Database.State

/-!
# Transactions and savepoints

A transaction keeps the stores as they were at its beginning, and each savepoint within it keeps
them as they were there.  A savepoint outside a transaction opens one, which ends with it.  A
transaction does not end as long as foreign keys refer to nothing, unless it is rolled back.

* `Database.opened`, `committed` and `rolledBack` are the databases behind these statements.
* `Database.withSavepoint`, `released` and `rolledBackTo` are those behind the others.
-/

namespace SchemaEvolution.Database

/-! ## Transactions -/

/-- The database without a transaction. -/
def ended (db : Database) : Database :=
  { db with
    saved := none
    savepoints := []
    isOpenedBySavepoint := false
    violations := 0
    leniences := 0
    settings := db.settings.turned .deferredKeys false }

/-- A store as it was among others, unless nothing of it is kept to be undone.  It stays as it is
tuned. -/
def storeAsIn (earlier : List Store) (s : Store) : Store :=
  if s.tuning.journal = .off then s
  else
    let before := (earlier.find? fun e => e.name == s.name).getD { name := s.name }
    { before with tuning := s.tuning }

/-- The database with the stores that it has as they were. -/
def withStoresAsIn (earlier : List Store) (db : Database) : Database :=
  { db with stores := db.stores.map (storeAsIn earlier) }

/-- The database with the stores as they were at the beginning of the transaction, which ends. -/
def restored (db : Database) : Database :=
  match db.saved with
  | some earlier => db.ended.withStoresAsIn earlier
  | none => db.ended

/-- The database at the beginning of a transaction. -/
def opened (db : Database) : Except Fault Database :=
  if db.isInTransaction then .error .nestedTransaction
  else .ok { db with saved := some db.stores }

/-- The end of the transaction, if no foreign key refers to nothing. -/
def settled (db : Database) : Except Fault Database :=
  if db.violations + db.leniences > 0 then .error (.violation .foreignKey) else .ok db.ended

/-- The database behind a transaction that is kept. -/
def committed (db : Database) : Except Fault Database :=
  if db.isInTransaction then db.settled else .error (.noTransaction "commit")

/-- The database behind a transaction that is undone. -/
def rolledBack (db : Database) : Except Fault Database :=
  if db.isInTransaction then .ok db.restored else .error (.noTransaction "rollback")

/-! ## Savepoints -/

/-- The database with a savepoint. -/
def withSavepoint (name : String) (db : Database) : Database :=
  let here : Savepoint := {
    name := name, stores := db.stores, violations := db.violations, leniences := db.leniences }
  { db with
    saved := db.saved <|> some db.stores
    savepoints := here :: db.savepoints
    isOpenedBySavepoint := db.isOpenedBySavepoint || !db.isInTransaction }

/-- The latest savepoint of a name, with those before it. -/
def savepoint (name : String) (db : Database) : Except Fault (Savepoint × List Savepoint) :=
  match db.savepoints.dropWhile fun s => !sameName name s.name with
  | found :: earlier => .ok (found, earlier)
  | [] => .error (.noSuchSavepoint name)

/-- The database without a savepoint and those behind it; what was done since is kept. -/
def released (name : String) (db : Database) : Except Fault Database := do
  let (_, earlier) ← db.savepoint name
  if earlier.isEmpty && db.isOpenedBySavepoint then db.settled
  else return { db with savepoints := earlier }

/-- The database as it was at a savepoint, which remains. -/
def rolledBackTo (name : String) (db : Database) : Except Fault Database := do
  let (found, earlier) ← db.savepoint name
  return { db.withStoresAsIn found.stores with
    savepoints := found :: earlier, violations := found.violations
    leniences := found.leniences }

end SchemaEvolution.Database
