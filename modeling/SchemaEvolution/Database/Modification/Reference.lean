import SchemaEvolution.Database.Link
import SchemaEvolution.Database.Modification.Constraint

/-!
# Foreign keys

A foreign key is a `Link` between a row and a row of another table.  A link to nothing is allowed
for a while: it is counted, and the count must come down to zero by the end of the statement, or
of the transaction if the key is a deferred one.

* `linksFrom` and `linksTo` are the foreign keys of a table, and those that refer to it.
* `removing` and `adding` count what becomes of links when a row goes or comes.
-/

namespace SchemaEvolution.Database.Modification

open Binding

/-! ## What keys refer to -/

/-- The parent of a foreign key with the columns that are linked; a missing table or key is a fault,
unless a table is being dropped. -/
def linkOf (db : Database) (site : Site) (store : String) (child : StoredTable)
    (key : ForeignKey) : Bind (Option Link) := do
  match (db.store store).table? key.table with
  | none =>
    if site.allowsTriggers then
      Bind.defer (.noSuchTable [store, key.table])
      return none
    return some { store := store, key := key, child := child, parent := none, columns := [] }
  | some parent =>
    match linkedColumns? db store key parent with
    | some columns =>
      return some { store := store, key := key, child := child, parent := parent
                    columns := columns }
    | none =>
      if site.allowsTriggers then Bind.defer (.foreignKeyMismatch child.name key.table)
      return none

/-- The foreign keys of a table that a change can concern. -/
def linksFrom (db : Database) (site : Site) (store : String) (t : StoredTable) (extent : Extent) :
    Bind (List Link) := do
  if !db.isOn .foreignKeys then return []
  let concerned (key : ForeignKey) : Bool :=
    sameName key.table t.name || key.columns.any fun (i, _) =>
      extent.has i || extent.number && t.numberColumn = some i
  (t.foreignKeys.filter concerned).filterMapM (linkOf db site store t)

/-- The foreign keys that refer to a table. -/
def keysTo (db : Database) (store : String) (t : StoredTable) :
    List (StoredTable × ForeignKey) :=
  (db.store store).tables.flatMap fun child =>
    (child.foreignKeys.filter fun key => sameName key.table t.name).map (child, ·)

/-- A change can concern what a foreign key refers to. -/
def concernsParent (t : StoredTable) (extent : Extent) (key : ForeignKey) : Bool :=
  key.columns.any fun (_, name) =>
    t.columns.zipIdx.any fun (c, i) =>
      (match name with
        | some n => sameName n c.name
        | none => c.inKey) &&
      (extent.has i || extent.number && t.numberColumn = some i)

/-- The foreign keys that refer to a table, and that a change can concern. -/
def linksTo (db : Database) (site : Site) (store : String) (t : StoredTable) (extent : Extent) :
    Bind (List Link) := do
  if !db.isOn .foreignKeys then return []
  let concerned := (keysTo db store t).filter fun (_, key) => concernsParent t extent key
  concerned.filterMapM fun (child, key) => linkOf db site store child key

/-! ## Counting -/

/-- Counts links to nothing. -/
def count (l : Link) (n : Int) : Change Unit := do
  if (← Change.database).isOn .deferredKeys then
    Change.modifyDatabase fun db => { db with leniences := db.leniences + n }
  else if l.key.isDeferred then
    Change.modifyDatabase fun db => { db with violations := db.violations + n }
  else modify fun w => { w with broken := w.broken + n }

/-- Some links to nothing have been counted. -/
def hasCounted (l : Link) : Change Bool := do
  let w ← get
  let own := if l.key.isDeferred then w.database.violations else w.broken
  return own != 0 || w.database.leniences != 0

/-- The rows of a table as they are. -/
def rowsOf (store : String) (t : StoredTable) : Change (List StoredRow) := do
  match (← Change.database).find? (some store) t.name with
  | some (_, t) => return t.rows
  | none => return []

/-- The row that a row refers to is there. -/
def hasParent (l : Link) (child : List Cell) : Change Bool := do
  match l.parent with
  | none => return false
  | some parent => return (← rowsOf l.store parent).any fun row => areLinked l child row.cells

/-- How many rows refer to a row; the row itself does not count. -/
def childCount (l : Link) (parent : List Cell) (own : Option Int64) : Change Int := do
  let rows ← rowsOf l.store l.child
  let refersTo (row : StoredRow) : Bool :=
    !(l.isInner && own == some row.number) && l.columns.all fun c =>
      let affinity := comparisonAffinity (some c.affinity) (some (l.child.column c.child).affinity)
      let cell := Cell.compared .equal affinity c.collation (parent.getD c.parent .null)
        (row.cells.getD c.child .null)
      cell.truth? == some true
  return (rows.filter refersTo).length

/-- The foreign keys that matter for a change of a table. -/
structure Links where
  own : List Link := []
  others : List Link := []

namespace Links

/-- No foreign key matters. -/
def isEmpty (ls : Links) : Bool :=
  ls.own.isEmpty && ls.others.isEmpty

/-- Counts what becomes of links when a row goes. -/
def removing (ls : Links) (row : StoredRow) : Change Unit := do
  for l in ls.own do
    if refers l row.cells && (← hasCounted l) && !(← hasParent l row.cells) then count l (-1)
  for l in ls.others do
    count l (← childCount l row.cells (some row.number))

/-- Counts what becomes of links when a row comes. -/
def adding (ls : Links) (row : StoredRow) : Change Unit := do
  for l in ls.own do
    if refers l row.cells && !(l.isInner && areLinked l row.cells row.cells) then
      if !(← hasParent l row.cells) then count l 1
  for l in ls.others do
    if ← hasCounted l then count l (-(← childCount l row.cells none))

end Links

/-- The foreign keys that matter for a change of a table. -/
def links (db : Database) (site : Site) (store : String) (t : StoredTable) (extent : Extent) :
    Bind Links := do
  return {
    own := ← linksFrom db site store t extent
    others := ← linksTo db site store t extent }

end SchemaEvolution.Database.Modification
