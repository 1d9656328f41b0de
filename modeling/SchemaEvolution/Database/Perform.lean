import SchemaEvolution.Database.Maintenance
import SchemaEvolution.Database.Savepoint
import SchemaEvolution.Database.Schema.Column
import SchemaEvolution.Database.Schema.Rename
import SchemaEvolution.Text.Blank

/-!
# Carrying out statements

A command is prepared first, which finds out whether it means something, and then carried out as an
`Action`.  What a statement did is undone if it fails, but for rows that a conflict leaves; outside
a transaction, its end is the end of one.

* `Database.prepare` finds the action of a command.
* `Database.run` carries out the statements of a text.
-/

namespace SchemaEvolution.Database

open Binding Modification

/-! ## Results -/

/-- What comes of a statement. -/
structure Answer where
  /-- The rows that it returns, or why it was refused. -/
  result : Except MigrationError (List (List Cell))
  database : Database

/-- What a prepared statement does, where the text is that of the statements around it. -/
abbrev Action := (sql : String) → Database → Answer

namespace Answer

/-- A statement was refused. -/
def refused (sql : String) (f : Fault) (db : Database) : Answer :=
  ⟨.error (f.toError sql), db⟩

/-- A statement was refused, or leads from one database to another. -/
def ofChange (sql : String) (db : Database) : Except Fault Database → Answer
  | .ok new => ⟨.ok [], new⟩
  | .error f => refused sql f db

end Answer

/-! ## The end of a statement -/

/-- The database at the end of a statement; outside a transaction, all is settled. -/
def closed (db : Database) : Database :=
  if db.isInTransaction then db else db.ended

/-- The database behind a statement that was undone. -/
def undone (before after : Database) : Database :=
  { before with
    stores := after.stores.map (storeAsIn before.stores)
    lastNumber := after.lastNumber, changes := 0, totalChanges := after.totalChanges }

/-- The database with all that is stored having the pages that it needs. -/
def withPages (db : Database) : Database :=
  let paged (s : Store) : Store :=
    let s := s.withPages
    if s.entries.isEmpty then s else { s with tuning := { s.tuning with isOpen := true } }
  let isFixed := db.settings.isEncodingFixed || db.stores.any (!·.entries.isEmpty)
  { db with
    stores := db.stores.map paged
    settings := { db.settings with isEncodingFixed := isFixed } }

/-- A store has more pages than it may have. -/
def isTooLarge (db : Database) : Bool :=
  db.stores.any fun s => decide (s.tuning.mostPages < s.pageCount)

/-- Keeps what a statement did, unless a foreign key refers to nothing that should not, or there is
no room for it.  Rows for which there is no room end the transaction. -/
def keep (sql : String) (before : Database) (work : Work) (counted : Database) (defines : Bool)
    (result : Except MigrationError (List (List Cell))) : Answer :=
  let links := counted.violations + counted.leniences
  let new := counted.withPages
  if work.broken > 0 || !counted.isInTransaction && links > 0 then
    .refused sql (.violation .foreignKey) (undone before counted).closed
  else if new.isTooLarge then
    let old := undone before counted
    .refused sql .full (if defines then old.closed else old.restored)
  else ⟨result, new.closed⟩

/-- Changes rows.  If it does not return rows of its own, it may return how many there were. -/
def change (returns : Bool) (run : List Frame → Change Unit) : Action := fun sql before =>
  if before.isOn .queriesOnly then .refused sql .readOnly (undone before before).closed
  else
    let (result, work) := (run []).run.run { database := before }
    let rows :=
      if !returns && before.isOn .countedChanges then [[.ofNat work.processed]]
      else work.returned.reverse
    match result with
    | .ok () | .error .skipRow => keep sql before work work.counted false (.ok rows)
    | .error (.fault f .fail) => keep sql before work work.counted false (.error (f.toError sql))
    | .error (.fault f .rollback) => .refused sql f (undone before work.database).restored
    | .error (.fault f _) => .refused sql f (undone before work.database).closed

/-- Returns the rows of a query; one without tables leaves everything as it is. -/
def select (q : BoundQuery) (reads : Bool) : Action := fun sql db =>
  let after := if reads then db.closed else db
  match q.all { database := db } with
  | .ok rows => ⟨.ok rows, after⟩
  | .error (.fault f _) => .refused sql f after
  | .error .skipRow => ⟨.ok [], after⟩

/-- Changes definitions, which may be a change of what is stored. -/
def define (new : Database) (writes : Bool) : Action := fun sql before =>
  if writes && before.isOn .queriesOnly then
    .refused sql .readOnly (undone before before).closed
  else keep sql before { database := new } new true (.ok [])

/-- The fault that ends a statement. -/
def faultOf {α : Type} : Except Stop α → Except Fault α
  | .ok a => .ok a
  | .error (.fault f _) => .error f
  | .error .skipRow => .error (.violation .foreignKey)

/-! ## Commands -/

/-- Creates a table that a module computes: there is no module that can do so. -/
def createVirtualTable (head : CreationHead) (moduleName : Name) (db : Database) :
    Except Fault Database := do
  if ← Schema.isFree db (← Schema.newStore db head) head then
    throw (.noSuchModule moduleName.text)
  return db

/-- Changes the definition of a table. -/
def alterTable (n : ObjectName) : TableChange → Database → Except Fault Database
  | .rename newName, db => Schema.renameTable n newName db
  | .renameColumn column newName, db => Schema.renameColumn n column newName db
  | .dropColumn column, db => Schema.dropColumn n column db
  | .addColumn ds fault written, db => faultOf (Schema.addColumn n ds fault written db)

/-- The database behind a change of definitions, if a command is one. -/
def definition? (inner : Binder) (db : Database) : Command → Option (Except Fault Database)
  | .createTable head ds fault written => some (Schema.createTable inner head ds fault written db)
  | .createTableAs head q => some (faultOf (Schema.createTableAs inner head q db))
  | .createIndex head isUnique table terms condition written =>
    some (faultOf (Schema.createIndex inner head isUnique table terms condition written db))
  | .createView head columns q written => some (Schema.createView head columns q written db)
  | .createTrigger head trigger steps written =>
    some (Schema.createTrigger head trigger steps written db)
  | .createVirtualTable head name _ _ => some (createVirtualTable head name db)
  | .dropTable n ifExists => some (faultOf (Schema.dropTable inner n ifExists db))
  | .dropView n ifExists => some (Schema.dropView n ifExists db)
  | .dropIndex n ifExists => some (Schema.dropIndex n ifExists db)
  | .dropTrigger n ifExists => some (Schema.dropTrigger n ifExists db)
  | .alterTable n change => some (alterTable n change db)
  | .reindex n => some (Maintenance.reindex n db)
  | .analyze n => some (faultOf (Maintenance.analyze inner n db))
  | .attach file name => some (faultOf (Maintenance.attach inner file name db))
  | .detach name => some (faultOf (Maintenance.detach inner name db))
  | _ => none

/-- A command about definitions changes what is stored. -/
def writes (before after : Database) : Command → Bool
  | .attach .. | .detach .. => false
  | .alterTable .. | .analyze _ => true
  | .reindex _ => before.stores.any (!·.indexes.isEmpty)
  | _ => before.stores.map (·.entries) != after.stores.map (·.entries)

/-- The database at the beginning of a transaction that may write from then on. -/
def openedFor (isWriting : Bool) (db : Database) : Except Fault Database := do
  if !isWriting then return ← db.opened
  if db.isOn .queriesOnly then throw .readOnly
  let new ← db.opened
  return { new with stores := new.stores.map fun s =>
    { s with isWritten := s.isWritten || s.tuning.isOpen } }

/-- The database with a store written anew. -/
def vacuumed (name : Option Name) (isCopy : Bool) (db : Database) : Except Fault Database := do
  let new ← Maintenance.vacuum name isCopy db
  if db.isOn .queriesOnly then throw .readOnly
  return new

/-- The action of a command about transactions, if it is one. -/
def bracket? : Command → Option (Database → Except Fault Database)
  | .beginning isWriting => some (openedFor isWriting)
  | .commit => some committed
  | .rollback => some rolledBack
  | .savepoint n => some fun db => .ok (db.withSavepoint n.text)
  | .release n => some (released n.text)
  | .rollbackTo n => some (rolledBackTo n.text)
  | .vacuum n into => some (vacuumed n into.isSome)
  | _ => none

/-- Carries out a statement about a setting, which may ask for statistics. -/
def performSetting (inner : Binder) (p : Pragma) (db : Database) :
    Except Fault (List (List Cell) × Database) := do
  let (rows, new) ← Setting.perform Module.columnsOf inner p db
  let i : Inquiry := { store := p.name.database.map (·.text), argument := p.argument }
  let wanted :=
    if sameName p.name.name.text "optimize" then Setting.optimizedTables i new else []
  if wanted.isEmpty then return (rows, new)
  if db.isOn .queriesOnly then throw .readOnly
  let analyzed ← faultOf <| wanted.foldlM (fun db (store, table) =>
    Statistics.analyzed inner (Setting.optimizationLimit i new) store (.table table) db) new
  return (rows, analyzed.withPages)

/-- A command depends on what is defined. -/
def readsDefinitions (depth : Nat) : Command → Bool
  | .beginning _ | .commit | .rollback | .savepoint _ | .release _ | .rollbackTo _ => false
  | .select q => ((Node.query q).all depth).any (·.sourceName?.isSome)
  | .pragma p => (Setting.find? Module.columnsOf p.name.name.text).any (·.needsDefinitions)
  | .explain _ c => readsDefinitions depth c
  | _ => true

/-- Prepares a statement that changes rows. -/
def prepareChange (db : Database) (returned : List ResultColumn)
    (found : Bind (List Frame → Change Unit)) : Except Fault Action := do
  return change (!returned.isEmpty) (← Bind.result { database := db } found)

/-- Prepares a command. -/
def prepare (inner : Binder) (depth : Nat) (db : Database) (c : Command) :
    Except Fault Action := do
  let m := Modification.level inner mostLevels
  let site : Site := { context := { database := db } }
  match c with
  | .select q =>
    let bound ← Bind.result { database := db } (inner.query { database := db } q)
    return select bound (readsDefinitions depth c)
  | .insert i => prepareChange db i.returning (insertion m inner site i)
  | .update u => prepareChange db u.returning (updating m inner site u)
  | .delete d => prepareChange db d.returning (deletion m inner site d)
  | .pragma p =>
    let (rows, new) ← performSetting inner p db
    return fun _ _ => ⟨.ok rows, new⟩
  | .explain _ c =>
    discard (prepare inner depth db c)
    return fun _ db => ⟨.ok [], db⟩
  | c =>
    match bracket? c, definition? inner db c with
    | some step, _ => return fun sql db => .ofChange sql db (step db)
    | none, some new =>
      let new ← new
      return define new (writes db new c)
    | none, none => return fun _ db => ⟨.ok [], db⟩

/-! ## Texts -/

/-- A session cannot give a parameter of this name a value. -/
def unsupported? (parameter : String) : Option String :=
  match parameter.toList with
  | '?' :: _ => none
  | '$' :: cs =>
    if cs.head?.any Char.isDigit then none
    else some ("parameters with non-integer names are not currently supported: " ++
      String.ofList cs)
  | _ => some ("unsupported SQL parameter format: " ++ parameter)

/-- The database with the definitions known that a command depends on. -/
def informed (depth : Nat) (db : Database) (c : Command) : Except Fault Database :=
  if readsDefinitions depth c then (Schema.refreshed db).map Setting.afterReading else .ok db

/-- Carries out a statement that has been read, in which not more is nested than to a depth. -/
def perform (sql : String) (depth : Nat) (db : Database) (c : Grammar.ReadCommand) : Answer :=
  let prepared : Except Fault (Action × Database) := do
    let db ← informed depth db c.command
    return (← prepare (binder db depth) depth db c.command, db)
  match prepared with
  | .error f => .refused sql f db.closed
  | .ok (action, db) =>
    match (c.parameters.find? fun p => p.2 == 1).bind fun p => unsupported? p.1 with
    | some reason => ⟨.error (.connection s!"encountered unexpected or invalid data: {reason}"), db⟩
    | none => action sql db

/-- Carries out the statements of a text, which has at most so many lexemes. -/
def runLexemes (sql : String) : (steps : Nat) → Database → List Lexeme → Answer
  | 0, db, _ | _ + 1, db, [] => ⟨.ok [], db⟩
  | steps + 1, db, l :: ls =>
    if l.token = .finish then ⟨.ok [], db⟩
    else if l.token = .sign ";" then runLexemes sql steps db ls
    else
      match Grammar.command (l :: ls) with
      | .error f => .refused sql f db
      | .ok c =>
        let answer := perform sql ls.length db c
        match answer.result with
        | .error _ => answer
        | .ok rows =>
          let next := runLexemes sql steps answer.database c.rest
          { next with result := next.result.map (rows ++ ·) }

/-- The lexemes of a text.  White space around it does not count, and a null character ends it. -/
def lexemes (sql : String) : List Lexeme :=
  let trimmed := (Text.trimBlank (Text.trimBlank sql.toList).reverse).reverse
  Lexeme.scan (trimmed.takeWhile (· != '\x00'))

/-- Carries out the statements of a text. -/
def run (sql : String) (db : Database) : Answer :=
  let ls := lexemes sql
  runLexemes sql ls.length db ls

end SchemaEvolution.Database
