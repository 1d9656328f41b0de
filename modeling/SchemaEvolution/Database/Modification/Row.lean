import SchemaEvolution.Database.Modification.Trigger

/-!
# Changes of single rows

A row is dropped, stored or changed together with all that this sets off: the triggers before it,
the constraints, the links of foreign keys, their actions, and the triggers after it.  Rows in the
way of another one may be dropped for it.

* `RowRemoval.run`, `RowInsertion.run` and `RowUpdate.run` do so for one row.
-/

namespace SchemaEvolution.Database.Modification

open Binding

/-- The frame of a row as it was and as it will be. -/
def changeFrame (old new : Option SourceRow) : Frame where
  rows := [old, new]

/-- Counts a row that the statement has changed. -/
def countChange : Change Unit :=
  modify fun w => { w with changed := w.changed + 1 }

/-- Counts a row that the statement has dealt with. -/
def countRow : Change Unit :=
  modify fun w => { w with processed := w.processed + 1 }

/-! ## Removal -/

/-- How rows of a table are dropped. -/
structure RowRemoval where
  target : Target
  reactions : Reactions := {}

/-- Drops a row, unless that has happened before its turn comes. -/
def RowRemoval.run (r : RowRemoval) (row : StoredRow) : Change Bool := do
  let f := changeFrame (some (r.target.give row)) none
  Reactions.run r.reactions.before f
  if !r.target.table.isStored then return true
  if !r.reactions.before.isEmpty && (← r.target.row? row.number).isNone then return false
  r.reactions.links.removing row
  r.target.remove row.number
  Reactions.run r.reactions.actions f
  Reactions.run r.reactions.after f
  return true

/-! ## Rows in the way -/

/-- What a statement does about rows that agree with a new one where they must not. -/
structure BoundClause where
  /-- The index that it is about, or the number of the row; without any, it is about all. -/
  target : Option (Option String) := none
  /-- The change of the row that is there; without one, the new row is left out. -/
  action : Option (StoredRow → SourceRow → List Frame → Change Unit) := none

namespace BoundClause

/-- The clause is about something in which no two rows agree. -/
def concerns (c : BoundClause) (u : Unique) : Bool :=
  match c.target, u with
  | none, _ => true
  | some none, .number => true
  | some (some name), .order o => o.index.name == name
  | _, _ => false

end BoundClause

/-- What is done about rows in the way. -/
structure Room where
  removal : RowRemoval
  conflict : Option Conflict := none
  clauses : List BoundClause := []

/-- Makes room for a row.  If a row that is there is to be changed instead, the result is how. -/
def Room.make (r : Room) (row : SourceRow) (own : Option Int64) (frames : List Frame) :
    List Unique → Change (Option (Change Unit))
  | [] => return none
  | u :: us => do
    let t := r.removal.target
    match ← t.inWay? row own u with
    | none => r.make row own frames us
    | some other =>
      match r.clauses.find? (·.concerns u) with
      | some c =>
        match c.action with
        | some act => return some (act other row frames)
        | none => throw .skipRow
      | none =>
        match (r.conflict <|> u.conflict? t).getD .abort with
        | .replace =>
          let _ ← r.removal.run other
          r.make row own frames us
        | conflict => Change.refuse conflict (u.violation t)

/-- All in which no two rows agree, where what clauses are about comes first. -/
def Room.order (r : Room) : List Unique :=
  let all := r.removal.target.uniques r.conflict
  match r.clauses with
  | [] => all
  | first :: _ =>
    let (now, later) := all.partition first.concerns
    let named := later.filter fun u => r.clauses.any (·.concerns u)
    let number := later.filter (· matches .number)
    now ++ number ++ (named.filter fun u => !(u matches .number)) ++
      later.filter fun u => !(u matches .number) && !r.clauses.any (·.concerns u)

/-! ## Numbers that are not used twice -/

/-- The name of the table that keeps the greatest numbers. -/
def sequenceTable : String := "sqlite_sequence"

/-- The row that keeps the greatest number of a table. -/
def sequenceRow? (store table : String) : Change (Option StoredRow) := do
  let db ← Change.database
  return do
    let (_, t) ← db.find? (some store) sequenceTable
    t.rows.find? fun row => row.cells.head? == some (.text table)

/-- The greatest number that a table has used. -/
def usedNumber (store table : String) : Change Int64 := do
  return ((← sequenceRow? store table).map fun row => (row.cells.getD 1 .null).int64).getD 0

/-- Notes that a table has used a number. -/
def noteNumber (store table : String) (number : Int64) : Change Unit := do
  let db ← Change.database
  match db.find? (some store) sequenceTable with
  | none => pure ()
  | some (_, t) =>
    match ← sequenceRow? store table with
    | some row =>
      let old := (row.cells.getD 1 .null).int64
      if old < number then
        let rows := t.rows.map fun r =>
          if r.number = row.number then { r with cells := [.text table, .integer number] } else r
        Change.modifyDatabase fun db => db.setRows store t.name rows
    | none =>
      let last := (t.rows.getLast?.map (·.number)).getD 0
      let row : StoredRow := ⟨last + 1, [.text table, .integer (max 0 number)]⟩
      Change.modifyDatabase fun db => db.setRows store t.name (t.rows ++ [row])

/-! ## Insertion -/

/-- How rows are stored in a table. -/
structure RowInsertion where
  target : Target
  reactions : Reactions := {}
  room : Room
  /-- Default values in place of missing ones. -/
  defaults : List (Nat × Meaning) := []

namespace RowInsertion

/-- The number that a row shows before it has one. -/
def shownNumber (given : Option Cell) : Change Cell := do
  match given with
  | none | some .null => return .integer (-1)
  | some c => return .integer (← Target.numberOf c)

/-- The number of a new row. -/
def newNumber (i : RowInsertion) (given : Option Cell) : Change Int64 := do
  let t := i.target
  match given with
  | none | some .null =>
    let least ←
      if t.table.autoincrement then some <$> usedNumber t.store t.table.name else pure none
    t.nextNumber least
  | some c => Target.numberOf c

/-- The number of a row as its table shows it. -/
def numberCell (t : Target) (n : Int64) : Cell :=
  if t.table.hasNumbers then .integer n else .null

/-- Stores a row, or changes one that is there instead. -/
def run (i : RowInsertion) (given : Option Cell) (cells : List Cell) (frames : List Frame) :
    Change Unit := do
  let t := i.target
  if !i.reactions.before.isEmpty then
    let shown ← if t.table.hasNumbers then shownNumber given else pure .null
    let row := { number := shown, cells := ← t.completed shown cells }
    Reactions.run i.reactions.before (changeFrame none (some row))
  if t.table.isStored then
    let n ← if t.table.hasNumbers then i.newNumber given else t.nextNumber none
    if t.table.autoincrement then noteNumber t.store t.table.name n
    let number := numberCell t n
    let cells ← t.completed number cells
    let cells ← t.checked i.room.conflict {} i.defaults number cells
    let row : SourceRow := { number := number, cells := cells }
    match ← i.room.make row none frames i.room.order with
    | some instead => instead
    | none =>
      let stored : StoredRow := ⟨n, cells⟩
      i.reactions.links.adding stored
      t.add stored
      countChange
      countRow
      if t.table.hasNumbers then Change.modifyDatabase fun db => { db with lastNumber := n }
      Reactions.run i.reactions.after (changeFrame none (some row))
  else countRow

end RowInsertion

/-! ## Update -/

/-- How rows of a table are changed. -/
structure RowUpdate where
  target : Target
  reactions : Reactions := {}
  room : Room
  defaults : List (Nat × Meaning) := []
  extent : Extent
  /-- The new number of a row. -/
  number : Option Meaning := none
  /-- The columns that are set, each with its new value. -/
  cells : List (Nat × Meaning) := []
  /-- The part of the statement that says so. -/
  part : String := "rows"

namespace RowUpdate

/-- Something in which no two rows agree can change. -/
def concerns (u : RowUpdate) : Unique → Bool
  | .number => u.extent.number
  | .order o => o.index.condition.isSome || o.terms.any fun t => u.extent.touches t.meaning.uses

/-- Changes a row. -/
def run (u : RowUpdate) (old : StoredRow) (frames : List Frame) : Change Unit := do
  let t := u.target
  let n ← match u.number with
    | some m => Target.numberOf (← Change.valueOf u.part m.value frames)
    | none => pure old.number
  let number := RowInsertion.numberCell t n
  let values ← u.cells.mapM fun (i, m) => do
    return (i, ← Change.valueOf u.part m.value frames)
  let assigned (cells : List Cell) : List Cell :=
    values.foldl (fun cells (i, c) => cells.set i c) cells
  let before := some (t.give old)
  let cells ← t.completed number (assigned old.cells)
  let current? ←
    if u.reactions.before.isEmpty then pure (some old)
    else
      let row := { number := number, cells := cells }
      Reactions.run u.reactions.before (changeFrame before (some row))
      if t.table.isStored then t.row? old.number else pure none
  match current? with
  | none => if !t.table.isStored then countRow
  | some current =>
    let cells ← t.completed number (assigned current.cells)
    let cells ← t.checked u.room.conflict u.extent u.defaults number cells
    let row : SourceRow := { number := number, cells := cells }
    let stored : StoredRow := ⟨n, cells⟩
    let _ ← u.room.make row (some old.number) frames (u.room.order.filter u.concerns)
    u.reactions.links.removing old
    t.remove old.number
    u.reactions.links.adding stored
    t.add stored
    countChange
    countRow
    let f := changeFrame before (some row)
    Reactions.run u.reactions.actions f
    Reactions.run u.reactions.after f

end RowUpdate

end SchemaEvolution.Database.Modification
