import SchemaEvolution.Database.Binding.Table

/-!
# Changes of rows

A statement that changes rows is prepared first, and then carried out as a `Change`: it works on a
database, and ends early if a constraint would be broken.  What was done up to then is part of the
result, so that whoever carries out the statement can keep it or undo it.

* `Work` is the state of a change.
* `Target` is a table whose rows are changed, with all that its rows must fulfil.
-/

namespace SchemaEvolution.Database.Modification

open Binding

/-! ## The monad -/

/-- A database while a statement changes its rows. -/
structure Work where
  database : Database
  /-- How many foreign keys refer to nothing that should do so at the end of the statement. -/
  broken : Int := 0
  /-- How many rows the statement has changed. -/
  changed : Nat := 0
  /-- How many rows the statement itself has dealt with, whether they are stored or not. -/
  processed : Nat := 0
  /-- The rows that it returns, the last one first. -/
  returned : List (List Cell) := []
  /-- The database as it was when a part of the statement had a value for the first time. -/
  firsts : List (String × Database) := []

/-- The database behind a statement, with the number of rows that it has changed. -/
def Work.counted (w : Work) : Database :=
  { w.database with
    changes := w.changed, totalChanges := w.database.totalChanges + w.changed }

/-- Something that changes rows. -/
abbrev Change (α : Type) := ExceptT Stop (StateM Work) α

namespace Change

/-- The result of something that can end a statement. -/
def lift {α : Type} : Except Stop α → Change α
  | .ok a => return a
  | .error s => throw s

/-- The database as it is. -/
def database : Change Database := do
  return (← get).database

/-- Changes the database. -/
def modifyDatabase (change : Database → Database) : Change Unit :=
  modify fun w => { w with database := change w.database }

/-- The value of something that depends on an environment, in the database as it is. -/
def value {α : Type} (f : Env → Except Stop α) (frames : List Frame) : Change α := do
  lift (f { database := ← database, frames := frames })

/-- The value of a part of a statement, in the database as it is, while queries that do not depend
on the rows around them are not carried out again. -/
def valueOf {α : Type} (part : String) (f : Env → Except Stop α) (frames : List Frame) :
    Change α := do
  let db ← database
  let earlier ← match (← get).firsts.lookup part with
    | some first => pure first
    | none =>
      modify fun w => { w with firsts := (part, db) :: w.firsts }
      pure db
  lift (f { database := db, frames := frames, earlier := some earlier })

/-- Something that is done beside a statement, and neither counts as its own nor is seen by whoever
asks what the statement before has done. -/
def aside (change : Change Unit) : Change Unit := do
  let w ← get
  let back : Change Unit := modify fun after => { after with
    changed := w.changed, processed := w.processed, firsts := w.firsts
    database := { after.database with
      lastNumber := w.database.lastNumber, changes := w.database.changes } }
  tryCatch change fun s => do
    back
    throw s
  back

/-- Something about one row; if the row is left out, that is all. -/
def orSkip (change : Change Unit) : Change Unit :=
  tryCatch change fun
    | .skipRow => pure ()
    | s => throw s

/-- Refuses a row that breaks a constraint, or leaves it out. -/
def refuse {α : Type} (conflict : Conflict) (v : Violation) : Change α :=
  match conflict with
  | .ignore => throw .skipRow
  | .replace => throw (.abort (.violation v))
  | extent => throw (.fault (.violation v) extent)

end Change

/-- The circumstances under which a statement is carried out. -/
structure Site where
  context : Context
  /-- The triggers that are being carried out, the innermost first. -/
  path : List String := []
  /-- What is done about conflicts, whatever the statement says. -/
  conflict : Option Conflict := none
  /-- Triggers act, and foreign keys must be sound. -/
  allowsTriggers : Bool := true

/-! ## Tables -/

/-- A table whose rows are changed. -/
structure Target where
  store : String
  table : StoredTable
  /-- The indexes, in the order in which they are looked at. -/
  orders : List IndexOrder := []
  checks : List (String × Meaning) := []
  /-- The computed columns, each behind those on which it depends. -/
  generated : List (Nat × Meaning) := []

namespace Target

/-- The order in which the rows are stored, if that is not the order of their numbers. -/
def keyOrder (t : Target) : Option IndexOrder :=
  if t.table.hasNumbers then none else t.orders.find? (·.index.origin = .key)

/-- The rows of the table as they are. -/
def rows (t : Target) : Change (List StoredRow) := do
  match (← Change.database).find? (some t.store) t.table.name with
  | some (_, table) => return table.rows
  | none => return []

/-- The row of a number as it is. -/
def row? (t : Target) (number : Int64) : Change (Option StoredRow) := do
  return (← t.rows).find? (·.number = number)

/-- Changes the rows of the table. -/
def setRows (t : Target) (rows : List StoredRow) : Change Unit :=
  Change.modifyDatabase fun db => db.setRows t.store t.table.name rows

/-- A row as the table gives it. -/
def give (t : Target) (row : StoredRow) : SourceRow :=
  Binding.give t.table row

/-- The rows as they are, in the order in which they are stored. -/
def storedOrder (t : Target) : Change (List StoredRow) := do
  let rows ← t.rows
  match t.keyOrder with
  | none => return rows
  | some o =>
    let db ← Change.database
    let keyed ← rows.mapM fun row => do return (← Change.lift (o.key db (t.give row)), row)
    return (sortBy (SortTerm.compareAll o.terms) keyed).map Prod.snd

/-- A cell as a column stores it. -/
def cellOf (t : Target) (place : Nat) (c : Cell) : Cell :=
  c.stored (t.table.column place).affinity

/-- The cells of a row as the table stores them, with those that are computed. -/
def completed (t : Target) (number : Cell) (cells : List Cell) : Change (List Cell) := do
  let numbered := match t.table.numberColumn with
    | some i => cells.set i number
    | none => cells
  let plain := numbered.zipIdx.map fun (c, i) => t.cellOf i c
  t.generated.foldlM (fun cells (i, m) => do
    let c ← Change.value m.value [{ rows := [some { number := number, cells := cells }] }]
    return cells.set i (t.cellOf i c)) plain

end Target

/-! ## Finding what a table demands -/

/-- Computed columns in an order in which each comes behind those on which it depends. -/
def dependencyOrder : (tries : Nat) → List (Nat × Meaning) → Except Nat (List (Nat × Meaning))
  | 0, _ => .ok []
  | tries + 1, left =>
    match left with
    | [] => .ok []
    | (first, _) :: _ =>
      let isFree (m : Meaning) : Bool :=
        !left.any fun (i, _) => m.uses.any (·.column = some i)
      let (now, later) := left.partition fun (_, m) => isFree m
      if now.isEmpty then .error first
      else (dependencyOrder tries later).map (now ++ ·)

/-- The computed columns of a table. -/
def generatedColumns (inner : Binder) (db : Database) (store : String) (t : StoredTable) :
    Bind (List (Nat × Meaning)) := do
  let found ← t.columns.zipIdx.filterMapM fun (c, i) => do
    match c.generation with
    | some g => return some (i, ← inner.one (tableContext db store t .generated) g.expression)
    | none => return none
  match dependencyOrder (found.length + 1) found with
  | .ok ordered => return ordered
  | .error i =>
    Bind.defer (.generatedLoop (t.column i).name)
    return found

/-- A table whose rows are to be changed. -/
def target (inner : Binder) (db : Database) (store : String) (t : StoredTable) : Bind Target := do
  let orders ← ((db.store store).indexesOn t.name).mapM (indexOrder inner db store t ·)
  let checks ←
    if db.isOn .ignoredChecks then pure []
    else t.checks.mapM fun c => do
      return (c.name, ← inner.one (tableContext db store t .check) c.condition)
  return {
    store := store
    table := t
    orders := orders
    checks := checks
    generated := ← generatedColumns inner db store t }

/-- The meaning of what a column holds if nothing is given. -/
def defaultMeaning (inner : Binder) (db : Database) (c : StoredColumn) : Bind Meaning := do
  match c.default with
  | some d => inner.one { database := db, functions := .ofDefault } d.expression
  | none => return .constant .null

end SchemaEvolution.Database.Modification
