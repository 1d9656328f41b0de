import SchemaEvolution.Database.Affinity
import SchemaEvolution.Database.State

/-!
# Links between rows

A foreign key is a `Link` between a row and a row of another table.

* `linkedColumns?` are the columns that a foreign key links.
* `unlinkedRows` lists the stored rows that refer to nothing.
-/

namespace SchemaEvolution.Database

/-- Two columns that a foreign key links. -/
structure LinkedColumn where
  /-- The place of the column that refers. -/
  child : Nat
  /-- The place of the column that is referred to. -/
  parent : Nat
  /-- How the cells are compared. -/
  affinity : Affinity
  collation : Collation

/-- A foreign key with what it refers to. -/
structure Link where
  store : String
  key : ForeignKey
  child : StoredTable
  /-- The table that is referred to, unless it is missing. -/
  parent : Option StoredTable
  columns : List LinkedColumn

namespace Link

/-- The key refers to its own table. -/
def isInner (l : Link) : Bool :=
  l.parent.any fun p => sameName p.name l.child.name

end Link

/-! ## What keys refer to -/

/-- The unique index that a foreign key refers to. -/
def isReferredTo (key : ForeignKey) (parent : StoredTable) (i : StoredIndex) : Bool :=
  let names := key.columns.map Prod.snd
  i.isUnique && i.condition.isNone && i.terms.length = key.columns.length &&
    if names.any (·.isNone) then i.origin = .key
    else i.terms.all fun term =>
      match term.column with
      | some c =>
        let column := parent.column c
        term.collation = column.collation && names.any fun n => n.any (sameName column.name)
      | none => false

/-- The columns that a foreign key links, if what it refers to is a key. -/
def linkedColumns? (db : Database) (store : String) (key : ForeignKey) (parent : StoredTable) :
    Option (List LinkedColumn) :=
  let column (child place : Nat) (collation : Collation) : LinkedColumn :=
    ⟨child, place, (parent.column place).affinity, collation⟩
  let byNumber : Option (List LinkedColumn) := do
    let [(child, name)] := key.columns | none
    let place ← parent.numberColumn
    guard (name.all (sameName (parent.column place).name))
    return [column child place .binary]
  let byIndex : Option (List LinkedColumn) := do
    let i ← ((db.store store).indexesOn parent.name).find? (isReferredTo key parent)
    i.terms.zipIdx.mapM fun (term, n) => do
      let place ← term.column
      let named := key.columns.find? fun (_, name) =>
        name.any (sameName (parent.column place).name)
      let (child, _) ← named <|> key.columns[n]?
      return column child place term.collation
  byNumber <|> byIndex

/-! ## Rows -/

/-- The cells of two rows are linked. -/
def areLinked (l : Link) (child parent : List Cell) : Bool :=
  l.columns.all fun c =>
    let a := (child.getD c.child .null).stored c.affinity
    let b := parent.getD c.parent .null
    !a.isNull && !b.isNull && a.equal c.collation b

/-- A row refers to something. -/
def refers (l : Link) (child : List Cell) : Bool :=
  l.key.columns.all fun (i, _) => !(child.getD i .null).isNull

/-! ## Rows that refer to nothing -/

/-- A foreign key as a link; what it refers to must be a key unless the table is missing. -/
def linkOfKey (db : Database) (store : String) (child : StoredTable) (key : ForeignKey) :
    Except Fault Link :=
  let link : Link := { store := store, key := key, child := child, parent := none, columns := [] }
  match (db.store store).table? key.table with
  | none => .ok link
  | some parent =>
    match linkedColumns? db store key parent with
    | some columns => .ok { link with parent := some parent, columns := columns }
    | none => .error (.foreignKeyMismatch child.name key.table)

/-- The rows of a table that refer to nothing, with the table and the foreign key. -/
def unlinkedRowsOf (db : Database) (store : String) (t : StoredTable) :
    Except Fault (List (List Cell)) := do
  let links ← t.foreignKeys.mapM (linkOfKey db store t)
  return t.rows.flatMap fun row =>
    let isBroken (l : Link) : Bool :=
      refers l row.cells &&
        !l.parent.any fun p => p.rows.any fun r => areLinked l row.cells r.cells
    (links.zipIdx.filter fun (l, _) => isBroken l).map fun (l, i) =>
      [.text t.name, if t.hasNumbers then .integer row.number else .null, .text l.key.table,
        .ofNat i]

/-- The rows that refer to nothing, of a table of some name, or of all tables of a store. -/
def unlinkedRows (db : Database) (name wanted : Option String) :
    Except Fault (List (List Cell)) := do
  match name with
  | none =>
    let store := wanted.getD "main"
    return (← (db.store store).listed.mapM (unlinkedRowsOf db store)).flatten
  | some name =>
    match db.find? wanted name with
    | some (store, t) => unlinkedRowsOf db store t
    | none => throw (.noSuchTable (wanted.toList ++ [name]))

end SchemaEvolution.Database
