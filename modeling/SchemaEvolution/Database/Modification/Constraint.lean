import SchemaEvolution.Database.Modification.Basic

/-!
# Constraints on rows

What a row must fulfil before it is stored: its columns hold something where they must, and what
their types demand; the conditions of the table hold; and no other row has the same number, or is
the same in a unique index.

* `Target.checked` gives the cells of a row that fulfils the first of these demands.
* `Target.inWay?` finds a row that agrees with another one where it must not.
-/

namespace SchemaEvolution.Database.Modification

open Binding

/-- The columns of a row that a statement sets; without any, it sets all of them. -/
structure Extent where
  places : Option (List Nat) := none
  /-- The number of the row is set. -/
  number : Bool := true

namespace Extent

/-- A column is set. -/
def has (e : Extent) (place : Nat) : Bool :=
  match e.places with
  | none => true
  | some places => places.contains place

/-- Something that depends on columns of a row can change. -/
def touches (e : Extent) (uses : List Use) : Bool :=
  uses.any fun u =>
    match u.column with
    | some i => e.has i
    | none => e.number

end Extent

namespace Target

/-! ## Missing values -/

/-- The columns that must hold something, each with what is done if it does not. -/
def neededColumns (t : Target) (isComputed : Bool) (override : Option Conflict) (extent : Extent) :
    List (Nat × Conflict) :=
  t.table.columns.zipIdx.filterMap fun (c, i) =>
    if c.generation.isSome != isComputed || t.table.numberColumn = some i then none
    else if !isComputed && !extent.has i then none
    else c.notNull.map fun own => (i, override.getD own)

/-- Refuses a row that holds nothing in one of some columns. -/
def checkPresent (t : Target) (needed : List (Nat × Conflict)) (cells : List Cell) :
    Change Unit := do
  for (i, conflict) in needed do
    if (cells.getD i .null).isNull then
      Change.refuse conflict (.missingValue t.table.name (t.table.column i).name)

/-- Default values in place of missing ones, where that is what is done about them. -/
def withDefaults (t : Target) (defaults : List (Nat × Meaning)) (needed : List (Nat × Conflict))
    (cells : List Cell) : Change (List Cell) :=
  needed.foldlM (fun cells (i, conflict) => do
    match conflict, (cells.getD i .null).isNull, defaults.lookup i with
    | .replace, true, some m =>
      return cells.set i (t.cellOf i (← Change.value m.value []))
    | _, _, _ => return cells) cells

/-! ## Types -/

/-- The class of a cell as messages about types show it. -/
def classWord : Cell → String
  | .null => "NULL"
  | .integer _ => "INT"
  | .real _ => "REAL"
  | .text _ | .rawText _ => "TEXT"
  | .blob _ => "BLOB"

/-- A cell may be stored in a column of a strict type. -/
def fitsType (sqlType : String) (c : Cell) : Bool :=
  match sqlType.map Char.toUpper, c with
  | _, .null => true
  | "ANY", _ => true
  | "INT", .integer _ | "INTEGER", .integer _ => true
  | "REAL", .real _ => true
  | "TEXT", c => c.isText
  | "BLOB", .blob _ => true
  | _, _ => false

/-- Refuses a row that has a cell of the wrong class. -/
def checkTypes (t : Target) (cells : List Cell) : Change Unit := do
  if t.table.isStrict then
    for (c, column) in cells.zip t.table.columns do
      if !fitsType column.sqlType c then
        let word := column.sqlType.map Char.toUpper
        Change.refuse .abort (.wrongType (classWord c) word t.table.name column.name)

/-! ## Conditions -/

/-- Refuses a row for which a condition does not hold. -/
def checkConditions (t : Target) (override : Option Conflict) (extent : Extent) (row : SourceRow) :
    Change Unit := do
  for (name, m) in t.checks do
    if extent.places.isNone || extent.touches m.uses then
      if !(← Change.value (m.decide true) [{ rows := [some row] }]) then
        Change.refuse (override.getD .abort) (.check name)

/-- The cells of a row that has no missing values, has the right types, and fulfils all
conditions. -/
def checked (t : Target) (override : Option Conflict) (extent : Extent)
    (defaults : List (Nat × Meaning)) (number : Cell) (cells : List Cell) :
    Change (List Cell) := do
  let needed := t.neededColumns false override extent
  let filled ← t.withDefaults defaults needed cells
  t.checkPresent needed filled
  let cells ← if filled == cells then pure cells else t.completed number filled
  t.checkPresent (t.neededColumns true override extent) cells
  t.checkTypes cells
  t.checkConditions override extent { number := number, cells := cells }
  return cells

end Target

/-! ## Uniqueness -/

/-- Something in which no two rows agree. -/
inductive Unique where
  | number
  | order (o : IndexOrder)

namespace Unique

/-- What is done about a row that agrees with another one, if that is said. -/
def conflict? (t : Target) : Unique → Option Conflict
  | .number => t.table.numberConflict
  | .order o => o.index.conflict

/-- The fault of a row that agrees with another one. -/
def violation (t : Target) : Unique → Violation
  | .number =>
    match t.table.numberColumn with
    | some i => .repeatedKey t.table.name [(t.table.column i).name]
    | none => .repeatedNumber t.table.name
  | .order o =>
    let names := o.index.columnNames t.table
    if !o.index.isPlain then .repeatedEntry o.index.name
    else if o.index.origin = .key then .repeatedKey t.table.name names
    else .repeatedValues t.table.name names

end Unique

namespace Target

/-- All in which no two rows agree, in the order in which it is looked at, and the indexes whose
terms are computed, as they may not be there for a row. -/
def uniques (t : Target) (override : Option Conflict) : List Unique :=
  let isLookedAt (i : StoredIndex) : Bool := i.isUnique || !i.isPlain || i.condition.isSome
  let orders := (t.orders.filter fun o => isLookedAt o.index).map Unique.order
  if !t.table.hasNumbers then orders
  else if override.isNone && t.table.numberConflict == some .replace then orders ++ [.number]
  else .number :: orders

/-- The row other than one of a number that agrees with a row. -/
def inWay? (t : Target) (row : SourceRow) (own : Option Int64) (u : Unique) :
    Change (Option StoredRow) := do
  let rows := (← t.rows).filter fun other => own != some other.number
  match u with
  | .number => return rows.find? fun other => row.number == .integer other.number
  | .order o =>
    let db ← Change.database
    if !(← Change.lift (o.has db row)) then return none
    let key ← Change.lift (o.key db row)
    if !o.index.isUnique || key.any (·.isNull) then return none
    let agrees (other : StoredRow) : Change Bool := do
      let given := t.give other
      if !(← Change.lift (o.has db given)) then return false
      return (SortTerm.compareAll o.terms key (← Change.lift (o.key db given))).isEq
    rows.findM? agrees

/-! ## Rows -/

/-- Stores a new row. -/
def add (t : Target) (row : StoredRow) : Change Unit := do
  let rows ← t.rows
  if t.table.hasNumbers then
    let before := rows.takeWhile (·.number < row.number)
    t.setRows (before ++ row :: rows.drop before.length)
  else t.setRows (rows ++ [row])

/-- Drops a row. -/
def remove (t : Target) (number : Int64) : Change Unit := do
  t.setRows ((← t.rows).filter (·.number != number))

/-- The number of a cell that is given as the number of a row. -/
def numberOf (c : Cell) : Change Int64 :=
  match c.numeric.integral with
  | .integer n => return n
  | _ => throw (.abort .wrongClass)

/-- The number behind the greatest one. -/
def nextNumber (t : Target) (least : Option Int64) : Change Int64 := do
  let greatest := ((← t.rows).getLast?.map (·.number))
  let candidate : Int := match greatest with
    | some n => n.toInt + 1
    | none => 1
  match least with
  | some used =>
    let next := max candidate (used.toInt + 1)
    if (twoTo 63 : Int) ≤ next then throw (.abort .numbersExhausted)
    return Int64.ofInt next
  | none =>
    if candidate < (twoTo 63 : Int) then return Int64.ofInt candidate
    let rows ← t.rows
    let free := (List.range (rows.length + 1)).find? fun n =>
      !rows.any fun row => row.number == Int64.ofNat (n + 1)
    return Int64.ofNat (free.getD 0 + 1)

end Target

end SchemaEvolution.Database.Modification
