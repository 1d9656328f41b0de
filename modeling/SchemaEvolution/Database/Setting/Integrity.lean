import SchemaEvolution.Database.Binding.Table
import SchemaEvolution.Database.Setting.Basic

/-!
# Integrity

Whether the rows of a store are what its definitions demand.  A row can break them if it was stored
while conditions were not checked, or if a definition was changed behind it.

* `Setting.integrity` tells which rows break them, up to a number of faults.
-/

namespace SchemaEvolution.Database.Setting

open Binding

/-! ## Cells -/

/-- A cell is of the class that a type of a strict table demands. -/
def fitsType (sqlType : String) (c : Cell) : Bool :=
  c.isNull ||
    match sqlType.map Char.toUpper with
    | "INT" | "INTEGER" => (c matches .integer _)
    | "REAL" => c.isNumber
    | "TEXT" => c.isText
    | "BLOB" => (c matches .blob _)
    | _ => true

/-- What is wrong with a cell of a column, in the words for it. -/
def cellFault? (t : StoredTable) (column : StoredColumn) (c : Cell) : Option String :=
  let place := s!"{t.name}.{column.name}"
  if column.notNull.isSome && c.isNull then some s!"NULL value in {place}"
  else if t.isStrict then
    if fitsType column.sqlType c then none
    else some s!"non-{column.sqlType.map Char.toUpper} value in {place}"
  else if column.affinity = .text && c.isNumber then some s!"NUMERIC value in {place}"
  else if column.affinity.isNumeric && c.isText && c.numeric.isNumber then
    some s!"TEXT value in {place}"
  else none

/-! ## Rows -/

/-- The conditions of a table, unless they are not checked. -/
def conditionsOf (inner : Binder) (db : Database) (store : String) (t : StoredTable) :
    Except Fault (List Meaning) :=
  if db.isOn .ignoredChecks then .ok []
  else Bind.result { database := db } <|
    t.checks.mapM fun c => inner.one (tableContext db store t .check) c.condition

/-- A condition does not hold of a row. -/
def isBroken (db : Database) (t : StoredTable) (row : StoredRow) (m : Meaning) : Bool :=
  match m.decide true (rowEnv db (give t row)) with
  | .ok holds => !holds
  | .error _ => true

/-- What is wrong with a row. -/
def rowFaults (db : Database) (t : StoredTable) (checks : List Meaning) (row : StoredRow) :
    List String :=
  let cells := t.columns.zipIdx.filterMap fun (c, i) =>
    if t.numberColumn = some i then none else cellFault? t c (row.cells.getD i .null)
  cells ++
    if checks.any (isBroken db t row) then [s!"CHECK constraint failed in {t.name}"] else []

/-- What is wrong with the rows of a table. -/
def tableFaults (inner : Binder) (db : Database) (store : String) (t : StoredTable) :
    Except Fault (List String) := do
  if !t.isStored then return []
  let checks ← conditionsOf inner db store t
  return t.rows.flatMap (rowFaults db t checks)

/-! ## Stores -/

/-- How many faults are told. -/
def mostFaults : Nat := 100

/-- What is wrong with rows: those of one table, or of all tables of the stores in question. -/
def integrityFaults (inner : Binder) (i : Inquiry) (db : Database) :
    Except Fault (List String) := do
  let most? := i.argument.bind Value.integer?
  let most := match most? with
    | some n => if 0 < n then n.toNat else mostFaults
    | none => mostFaults
  let wanted ← match i.argument, most? with
    | some name, none =>
      match db.find? i.store name with
      | some (store, t) => pure (some (store, t.name))
      | none => throw (.noSuchTable (i.store.toList ++ [name]))
    | _, _ => pure none
  let isWanted (store : String) (t : StoredTable) : Bool :=
    wanted.all fun (s, name) => s == store && name == t.name
  let stores := db.stores.filter fun s => i.store.all (sameName s.name)
  let faults ← stores.mapM fun s =>
    (s.listed.filter (isWanted s.name)).mapM (tableFaults inner db s.name)
  return (faults.flatten.flatten).take most

/-- A setting that tells what is wrong with the rows of a store. -/
def integrity (name : String) : Setting where
  name := name
  columns := [name]
  takesArgument := true
  takesStore := true
  needsDefinitions := true
  ask := fun inner i db => do
    let faults ← integrityFaults inner i db
    let told := if faults.isEmpty then ["ok"] else faults
    return (told.map fun s => [.text s], db)

end SchemaEvolution.Database.Setting
