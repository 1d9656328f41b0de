import SchemaEvolution.Database.Binding.Basic
import SchemaEvolution.Database.Node

/-!
# Tables as sources

A table is a source of rows, whose columns are those of the table.  Expressions that belong to the
table itself, such as terms of its indexes, depend on one row of it, which stands alone in its
environment (`rowEnv`).
-/

namespace SchemaEvolution.Database.Binding

/-! ## Scopes -/

/-- A column of a table as names stand for it. -/
def scopeColumn (c : StoredColumn) : ScopeColumn where
  name := c.name
  sqlType := c.sqlType
  affinity := some c.affinity
  collation := some c.collation
  isHidden := c.isHidden

/-- The names that a table goes by; the catalog has several. -/
def tableNames (store : String) (t : StoredTable) : List String :=
  if t.name == "sqlite_master" then [t.name, "sqlite_schema"]
  else if t.name == "sqlite_temp_master" then
    [t.name, "sqlite_temp_schema"] ++ if store == "temp" then ["sqlite_master", "sqlite_schema"]
      else []
  else [t.name]

/-- A table as a source. -/
def tableSource (store : String) (t : StoredTable) (givenName : Option String) (place : Nat := 0) :
    ScopeSource where
  place := place
  names := match givenName with
    | some a => [a]
    | none => tableNames store t
  stores := [store]
  table := some (store, t.name)
  isAliased := givenName.isSome
  columns := t.columns.map scopeColumn
  numberColumn := t.numberColumn
  hasNumber := t.showsNumbers

/-- The context of expressions that belong to a table, whose row has a place in the frame. -/
def tableContext (db : Database) (store : String) (t : StoredTable) (place : Place)
    (row : Nat := 0) : Context where
  database := db
  scopes := [{ sources := [tableSource store t none row] }]
  place := place
  functions := .any

/-! ## Rows -/

/-- A stored row as its table gives it. -/
def give (t : StoredTable) (row : StoredRow) : SourceRow where
  number := if t.hasNumbers then .integer row.number else .null
  cells := row.cells

/-! ## Orders of rows -/

/-- The meaning of a column of a table whose row has a place in the frame. -/
def ownColumn (t : StoredTable) (place : Nat) (column : Nat) : Meaning :=
  ({ sources := [tableSource "" t none place] } : Scope).columnMeaning 0 0
    (if t.numberColumn = some column then none else some column)

/-- Conditions of which all hold if one does, of a condition that is not known to be false before
the names in it are looked up. -/
def conjuncts (ctx : Context) : Expression → List Expression
  | .binary .and a b =>
    if !ctx.isTraced && (a.isPlainlyFalse || b.isPlainlyFalse) then [.numeral ['0']]
    else conjuncts ctx a ++ conjuncts ctx b
  | e => [e]

/-- The order that an index is. -/
def indexOrder (inner : Binder) (db : Database) (store : String) (t : StoredTable)
    (i : StoredIndex) (place : Nat := 0) : Bind IndexOrder := do
  let terms ← i.terms.mapM fun term => do
    let meaning ←
      match term.column with
      | some column => pure (ownColumn t place column)
      | none => inner.one (tableContext db store t .index place) term.expression
    return {
      meaning := meaning, collation := term.collation, descending := term.descending
      nullsFirst := !term.descending : SortTerm }
  let ctx := tableContext db store t .indexCondition place
  let conditions ← (i.condition.toList.flatMap (conjuncts ctx)).mapM (inner.one ctx)
  return { index := i, terms := terms, conditions := conditions, place := place }

/-- The rows of a table, in the order in which they are stored. -/
def storedRows (db : Database) (keyOrder : Option IndexOrder) (t : StoredTable) :
    Except Stop (List SourceRow) :=
  let given := t.rows.map (give t)
  match keyOrder with
  | some o => o.sorted db given
  | none => .ok given

end SchemaEvolution.Database.Binding
