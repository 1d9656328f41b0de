import SchemaEvolution.Database.Binding.Compound

/-!
# Queries

A query is a selection, or several of them put together, with an order and a limit.

* `Binding.query` finds the meaning of a query, given how those of its parts are found.
* `Binding.level` gives the functions for expressions and queries that are nested to a depth.
-/

namespace SchemaEvolution.Database.Binding

/-- The context within a query, with the names that it defines. -/
def withTables (ctx : Context) (tables : List CommonTable) : Context :=
  if tables.isEmpty then ctx
  else { ctx with tables := tables.map (NamedTable.defined · false) :: ctx.tables }

/-- Which rows a query wants of its result. -/
def cutOf (inner : Binder) (ctx : Context) (q : Query) : Bind Cut := do
  let alone := { ctx with scopes := [], offset := 0 }
  let limit ← Bind.settled (inner.optional alone q.limit)
  return { limit := limit, offset := ← Bind.settled (inner.optional alone q.offset) }

/-- The meanings of the selections of a compound query; the last one is looked at first. -/
def selections (inner : Binder) (ctx : Context) : List Selection → Bind (List BoundSelection)
  | [] => return []
  | s :: rest => do
    let bound ← selections inner ctx rest
    let own ← selection inner { ctx with offset := 0 } s {}
    match rest, bound with
    | next :: _, b :: _ =>
      if own.results.length != b.results.length then
        Bind.stop (if next.isValues then .unevenRows else .unevenSelections next.compound)
    | _, _ => pure ()
    return own :: bound

/-- The meaning of a compound query. -/
def compoundQuery (inner : Binder) (ctx : Context) (q : Query) (cut : Cut) : Bind BoundQuery := do
  let all ← selections inner ctx q.selections
  match all with
  | [] => Bind.stop .noTables
  | first :: others =>
    let columns := compoundColumns first.query.columns (others.map (·.query.columns))
    let order ← orderPlaces inner all columns q.order
    let c : Combination := {
      first := first.query
      others := (q.others.map (·.compound)).zip (others.map (·.query))
      terms := columns.map fun c => { meaning := default, collation := c.collation.getD .binary }
      order := order
      cut := cut }
    return {
      columns := columns
      rows := c.rows
      documents := c.documents
      uses := all.flatMap (·.query.uses)
      isAggregate := all.any (·.query.isAggregate)
      isWindowed := all.any (·.query.isWindowed) }

/-- The meaning of a query. -/
def query (inner : Binder) (ctx : Context) (q : Query) : Bind BoundQuery := Bind.prepared do
  modify fun s => { s with queries := s.queries + 1 }
  let ctx := withTables ctx q.tables
  let cut ← cutOf inner ctx q
  if q.others.isEmpty then
    let limit := (q.limit.bind writtenNumber?).bind fun n => if 0 ≤ n then some n.toNat else none
    let s ← selection inner ctx q.first { order := q.order, cut := cut, limit := limit }
    return s.query
  else compoundQuery inner ctx q cut

/-! ## All levels -/

/-- The functions for expressions and queries whose parts are looked at by others. -/
def next (inner : Binder) : Binder where
  expression := expression inner
  query := query inner

/-- The functions for expressions and queries that are nested to a depth. -/
def level : (depth : Nat) → Binder
  | 0 => ⟨fun _ _ => Bind.stop .tooDeep, fun _ _ => Bind.stop .tooDeep⟩
  | depth + 1 => next (level depth)

/-- A depth to which nothing in the definitions of a database is nested. -/
def depthOf (db : Database) : Nat :=
  (db.stores.flatMap (·.entries)).foldl (fun n e =>
    n + ((e.sql.map (·.length)).getD 0)) 0

/-- The functions for a statement of so many lexemes. -/
def binder (db : Database) (lexemes : Nat) : Binder :=
  level (depthOf db + 2 * lexemes + 8)

end SchemaEvolution.Database.Binding
