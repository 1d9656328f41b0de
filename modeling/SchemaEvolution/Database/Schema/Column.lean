import SchemaEvolution.Database.Modification.Constraint
import SchemaEvolution.Database.Schema.Rename

/-!
# Adding and dropping columns

A new column comes behind the others, before the constraints of the table.  The rows that are there
hold its default, which must be a constant then.  A column that is dropped must belong to no key,
and nothing that is defined may refer to it.

* `Schema.addColumn` and `Schema.dropColumn` do so.
-/

namespace SchemaEvolution.Database.Schema

open Binding Modification

/-! ## Constants -/

/-- A number as a column of an affinity reads it where it was not stored. -/
def numeralCell (affinity : Affinity) (negative : Bool) (cs : List Char) : Cell :=
  let sign := if negative then ['-'] else []
  let isFraction := !isHexadecimal cs && cs.any fun c => c == '.' || c == 'e' || c == 'E'
  match numberToken negative cs with
  | some (.integer n) => (Cell.integer n).stored affinity
  | some c =>
    if affinity = .blob ∧ isFraction then c
    else (Cell.text (String.ofList (sign ++ cs))).stored (if isFraction then affinity
      else if affinity = .blob then .numeric else affinity)
  | none => (Cell.text (String.ofList (sign ++ cs))).stored affinity

/-- The value of an expression that is a constant, as a column of an affinity reads it where it was
not stored. -/
def constantCell? (affinity : Affinity) : Expression → Option Cell
  | .numeral cs => some (numeralCell affinity false cs)
  | .unary .plus e => constantCell? affinity e
  | .unary .minus e =>
    match e with
    | .numeral cs =>
      if isHexadecimal cs then
        some ((Cell.unary .minus (numeralCell affinity false cs).numericCast).stored affinity)
      else some (numeralCell affinity true cs)
    | e => (constantCell? affinity e).map fun c => (Cell.unary .minus c.numericCast).stored affinity
  | .cast e sqlType =>
    let own := if sqlType.isEmpty then .numeric else Affinity.ofType sqlType
    (constantCell? own e).map fun c => (c.cast .utf8 own).stored affinity
  | .literal (.blob bytes) => some (.blob bytes)
  | .literal c => some (c.stored affinity)
  | .name [n] =>
    if n.written != n.text then none
    else if sameName n.text "true" then some ((Cell.integer 1).stored affinity)
    else if sameName n.text "false" then some ((Cell.integer 0).stored affinity)
    else none
  | _ => none

/-- The default of a column, unless that is nothing. -/
def givenDefault? (c : StoredColumn) : Option Expression :=
  match c.default with
  | some ⟨.literal .null, _⟩ => none
  | some d => some d.expression
  | none => none

/-! ## New columns -/

/-- The draft of a column that comes behind those of a table. -/
def columnDraft (s : Surroundings) (t : StoredTable) (ds : List Declaration)
    (fault : Option Fault) : Except Fault Draft := do
  let start : StoredTable := { name := "sqlite_altertab_" ++ t.name, columns := t.columns }
  let d ← ds.foldlM (Draft.declare s) { table := start }
  match fault with
  | some fault => throw fault
  | none => return d

/-- A column can be added to a table; if that has rows, they must be able to hold its default. -/
def checkNewColumn (d : Draft) (hasRows foreignKeys : Bool) : Except Fault Unit := do
  let c := d.lastColumn
  if c.inKey then throw (.cannotAdd "PRIMARY KEY column")
  if !d.indexes.isEmpty then throw (.cannotAdd "UNIQUE column")
  if hasRows then
    match c.generation with
    | some g => if g.isStored then throw .cannotAddStored
    | none =>
      let default := givenDefault? c
      if foreignKeys && !d.table.foreignKeys.isEmpty && default.isSome then
        throw (.cannotAdd "REFERENCES column with non-NULL default value")
      if c.notNull.isSome && default.isNone then
        throw (.cannotAdd "NOT NULL column with default value NULL")
      if let some e := default then
        if (constantCell? .blob e).isNone then
          throw (.cannotAdd "column with non-constant default")

/-- The text of a table with a column behind the others. -/
def withColumn (sql written : String) : Except Fault String := do
  match ← commandOf sql with
  | .createTable _ ds _ _ =>
    let place := columnsEnd ds
    return String.ofList (upTo place sql ++ (", " ++ written).toList ++ onwards place sql)
  | _ => return sql

/-- The cell that a row holds in the last column of its table, which is new. -/
def newCell (t : Target) (row : StoredRow) : Change Cell := do
  let place := t.table.columns.length - 1
  let c := t.table.column place
  match t.generated.lookup place with
  | some m =>
    return t.cellOf place (← Change.value m.value [{ rows := [some (t.give row)] }])
  | none =>
    return (givenDefault? c >>= constantCell? c.affinity).getD .null

/-- A row fulfils what its table demands. -/
def checkOldRow (t : Target) (row : StoredRow) : Change Unit := do
  for (c, i) in t.table.columns.zipIdx do
    if c.notNull.isSome && t.table.numberColumn != some i && (row.cells.getD i .null).isNull then
      throw (.abort .addedMissingValue)
    if t.table.isStrict && !Target.fitsType c.sqlType (row.cells.getD i .null) then
      throw (.abort .addedWrongType)
  for (_, m) in t.checks do
    if !(← Change.value (m.decide true) [{ rows := [some (t.give row)] }]) then
      throw (.abort .addedCheckFails)

/-- The rows of a table with the cell of its new last column; `isChecked` if they might break a
constraint by that. -/
def extendRows (t : Target) (isChecked : Bool) : Change Unit := do
  let rows ← (← t.rows).mapM fun row => do
    return { row with cells := row.cells ++ [← newCell t row] }
  t.setRows rows
  if isChecked then
    for row in ← t.storedOrder do checkOldRow t row

/-- The table as one that can be given a column. -/
def checkExtensible (t : StoredTable) : Except Fault Unit := do
  if t.isModule then throw .alteredModule
  if t.isView then throw (.cannotAdd "column to a view")
  checkAlterable t

/-- Adds a column to a table. -/
def addColumn (n : ObjectName) (ds : List Declaration) (fault : Option Fault) (written : String)
    (db : Database) : Except Stop Database := do
  let prepared : Except Fault (String × StoredTable × Draft × Database) := do
    let (store, t) ← db.locate n
    checkExtensible t
    let d ← columnDraft (surroundings db store true) t ds fault
    checkNewColumn d (!t.rows.isEmpty) (db.isOn .foreignKeys)
    let entries ← (db.store store).entries.mapM fun e => do
      match e.kind == "table" && e.name == t.name, e.sql with
      | true, some sql => return { e with sql := some (← withColumn sql written) }
      | _, _ => return e
    let changed := db.modifyStore store fun st => { st with entries := entries }
    return (store, t, d, ← reload changed store "add column")
  let (store, t, d, new) ← prepared.mapError Stop.abort
  match (new.store store).table? t.name with
  | none => return new
  | some table =>
    let target ← (Bind.result { database := new } (target (binder new 0) new store table)).mapError
      Stop.abort
    let c := d.lastColumn
    let isChecked :=
      !d.table.checks.isEmpty || c.notNull.isSome && c.generation.isSome || t.isStrict
    let (result, work) := (extendRows target isChecked).run.run { database := new }
    result
    return work.database

/-! ## Dropped columns -/

/-- A column of a table, which goes by a name, can be dropped. -/
def checkDropped (t : StoredTable) (name : String) (place : Nat) : Except Fault Unit := do
  let c := t.column place
  if c.inKey then throw (.constrainedColumn "PRIMARY KEY" name)
  if c.isUnique then throw (.constrainedColumn "UNIQUE" name)
  if t.columns.length ≤ 1 then throw (.onlyColumn name)

/-- The text of a table without a column. -/
def withoutColumn (sql : String) (place : Nat) : Except Fault String := do
  match ← commandOf sql with
  | .createTable _ ds _ _ =>
    let names := columnNames ds
    let before := upTo ((names[place]?.map (·.place)).getD 0) sql
    match names[place + 1]? with
    | some next => return String.ofList (before ++ onwards next.place sql)
    | none =>
      let kept := ((before.reverse.dropWhile (· != ',')).drop 1).reverse
      return String.ofList (kept ++ onwards (columnsEnd ds) sql)
  | _ => return sql

/-- Drops a column of a table. -/
def dropColumn (n : ObjectName) (column : Name) : SchemaChange := fun db => do
  let (store, t) ← db.locate n
  checkAlterable t
  checkStored t "drop column from"
  let place ← columnToChange t column
  checkDropped t column.text place
  let fixed ← preparedForColumn db store
  let entries ← (fixed.store store).entries.mapM fun e => do
    match e.kind == "table" && sameName e.table t.name, e.sql with
    | true, some sql => return { e with sql := some (← withoutColumn sql place) }
    | _, _ => return e
  let rows := t.rows.map fun row => { row with cells := row.cells.eraseIdx place }
  let changed := (fixed.setRows store t.name rows).modifyStore store fun st =>
    { st with entries := entries }
  let new ← reload changed store "drop column"
  examine new store false (.consequence · · "drop column")
  return new

end SchemaEvolution.Database.Schema
