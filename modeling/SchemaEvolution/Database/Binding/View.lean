import SchemaEvolution.Database.Binding.Recursion

/-!
# Views

A view is a query under a name.  Its columns are those of the query, and have a type if it is known
where their cells come from.

* `Binding.viewQuery` finds what the query of a view means.
* `Binding.viewColumns` gives the columns of a view as those of a table.
-/

namespace SchemaEvolution.Database.Binding

/-- A name that would be read as a truth value is none. -/
def usableName (i : Nat) (name : String) : String :=
  if name.isEmpty || sameName name "true" || sameName name "false" then
    s!"column{String.ofList (digits (i + 1))}"
  else name

/-- The meaning of the query of a view, with the names of its columns. -/
def viewQuery (inner : Binder) (ctx : Context) (store : String) (t : StoredTable)
    (columns : List Name) (q : Query) (place : Nat) : Bind (BoundQuery × List String) := do
  if ctx.views.contains (store, t.name) then throw (.circularView t.name)
  let isTemporary := (ctx.database.store store).isTemporary
  let within := { ctx with
    scopes := [], tables := [], offset := place, quotedTexts := ctx.quotedTexts
    views := (store, t.name) :: ctx.views
    store := if isTemporary then none else some store
    isTraced := false }
  let bound ← inner.query within q
  let own := bound.columns.zipIdx.map fun (c, i) => usableName i c.lasting
  let given := if columns.isEmpty then own else columns.map (·.text)
  if given.length != bound.columns.length then
    Bind.defer (.viewWidth given.length t.name bound.columns.length)
  return (bound, distinctNames given)

/-- The type under which a column of a view is shown: that of the column that it is, if it goes with
the affinity of the view's column. -/
def shownType (c : QueryColumn) : String :=
  match c.affinity with
  | none => ""
  | some a =>
    if !c.sqlType.isEmpty && Affinity.ofType c.sqlType = a then c.sqlType
    else if a = .blob then "BLOB"
    else a.typeName

/-- The columns of a view, as those of a table. -/
def viewColumns (inner : Binder) (ctx : Context) (store : String) (t : StoredTable) :
    Bind (List StoredColumn) := do
  match t.kind with
  | .view columns q =>
    let (bound, names) ← viewQuery inner ctx store t columns q 0
    return (names.zip bound.columns).map fun (n, c) => {
      name := n, sqlType := shownType c, affinity := c.affinity.getD .blob
      collation := c.collation.getD .binary }
  | _ => return t.columns

end SchemaEvolution.Database.Binding
