import SchemaEvolution.Database.Binding.Selection

/-!
# Compound queries

The rows of several selections are put together by operators.  All of these but `UNION ALL` treat
the rows as a set: what comes out of them is sorted, and no row is there twice.

* `combine` puts the rows of two parts together.
* `compoundColumns` are the columns of a compound query.
* `orderPlaces` finds the columns by which the result is to be sorted.
-/

namespace SchemaEvolution.Database.Binding

/-! ## Rows -/

/-- The rows are the same. -/
def sameRow (terms : List SortTerm) (a b : List Cell) : Bool :=
  (SortTerm.compareAll terms a b).isEq

/-- Rows without those that are the same as a later one, or as an earlier one. -/
def asSet (terms : List SortTerm) (keepsFirst : Bool) (rows : List (List Cell)) :
    List (List Cell) :=
  if keepsFirst then distinctRows terms rows
  else (distinctRows terms rows.reverse).reverse

/-- The rows of two parts put together by an operator. -/
def combine (terms : List SortTerm) (keepsFirst : Bool) (op : Compound)
    (left right : List (List Cell)) : List (List Cell) :=
  let isRight (row : List Cell) : Bool := right.any (sameRow terms row)
  match op with
  | .unionAll => left ++ right
  | .union => asSet terms keepsFirst (left ++ right)
  | .except => (asSet terms keepsFirst left).filter (!isRight ·)
  | .intersect => (asSet terms keepsFirst left).filter isRight

/-- How the rows of a compound query are made. -/
structure Combination where
  first : BoundQuery
  others : List (Compound × BoundQuery)
  /-- The collations of the columns. -/
  terms : List SortTerm
  /-- The places of the columns by which the rows are sorted. -/
  order : List (Nat × SortTerm) := []
  cut : Cut := {}

namespace Combination

/-- The cells by which a row is sorted. -/
def keyOf (c : Combination) (row : List Cell) : List Cell :=
  c.order.map fun (i, _) => row.getD i .null

/-- Rows that come out of an operator, in the order in which they do. -/
def arranged (c : Combination) (op : Compound) (rows : List (List Cell)) : List (List Cell) :=
  if op = .unionAll then rows
  else
    let keyed := rows.map fun row => (c.keyOf row ++ row, row)
    (sortBy (SortTerm.compareAll (c.order.map Prod.snd ++ c.terms)) keyed).map Prod.snd

/-- The rows of all parts together. -/
def together (c : Combination) (env : Env) : Except Stop (List (List Cell)) := do
  let first ← c.first.all env
  c.others.foldlM (fun left (op, q) => do
    let right ← q.all env
    return c.arranged op (combine c.terms (!c.order.isEmpty) op left right)) first

/-- The rows of the parts stand one behind the other. -/
def isChain (c : Combination) : Bool :=
  c.order.isEmpty && c.others.all fun (op, _) => op = .unionAll

/-- The rows of the parts one behind the other, of which so many are wanted. -/
def chained (demand : Demand) (env : Env) (parts : List BoundQuery) :
    Except Stop (List (List Cell)) :=
  parts.foldlM (fun found q => do
    match demand.count with
    | none => return found ++ (← q.rows demand env)
    | some n =>
      let counted ← found.filterM fun cells => demand.accepts { cells := cells }
      if n ≤ counted.length then return found
      return found ++ (← q.rows { demand with count := some (n - counted.length) } env)) []

/-- The rows of the query. -/
def rows (c : Combination) (demand : Demand) (env : Env) : Except Stop (List (List Cell)) := do
  let sizes ← c.cut.sizes env
  if c.isChain then
    let demand := match sizes.2 with
      | some n => { count := some (sizes.1 + n) }
      | none => if sizes.1 = 0 then demand else {}
    return Cut.apply sizes (← chained demand env (c.first :: c.others.map Prod.snd))
  let rows ← c.together env
  let keyed := rows.map fun row => (c.keyOf row, row)
  let sorted := (sortBy (SortTerm.compareAll (c.order.map Prod.snd)) keyed).map Prod.snd
  return Cut.apply sizes sorted

/-- Which cells of the first row are known to hold documents. -/
def documents (c : Combination) (env : Env) : Except Stop (List Bool) := do
  if !c.isChain then return []
  (c.first :: c.others.map Prod.snd).foldlM (fun found q => do
    if found.isEmpty then q.documents env else return found) []

end Combination

/-! ## Columns -/

/-- The affinity of a column that has cells of several selections. -/
def compoundAffinity (columns : List QueryColumn) : Option Affinity := do
  let (c, i) ← columns.zipIdx.find? fun (c, _) => c.affinity.isSome
  let a ← c.affinity
  let others := (columns.eraseIdx i).map (·.classes)
  if a = .text && others.any (·.number) then return .blob
  if a.isNumeric && others.any (·.text) then return .blob
  return a

/-- The columns of a compound query. -/
def compoundColumns (first : List QueryColumn) (others : List (List QueryColumn)) :
    List QueryColumn :=
  first.zipIdx.map fun (c, i) =>
    let all := c :: others.filterMap (·[i]?)
    { c with
      affinity := compoundAffinity all
      collation := all.findSome? (·.collation)
      classes := (all.map (·.classes)).foldl Classes.or .none }

/-! ## Orders -/

/-- The place of the result of a selection that is the same expression. -/
def sameResult? (inner : Binder) (s : BoundSelection) (e : Expression) : Bind (Option Nat) := do
  let alone := { s.context with
    scopes := [{ s.context.scope with allowsAggregates := true, allowsWindows := false }] }
  match ← Bind.tried (Bind.within (inner.one alone e)) with
  | some (m, _) => return s.results.findIdx? fun r => r.meaning.key == m.key
  | none => return none

/-- The place of the first selection's column that a term stands for. -/
def orderPlace? (inner : Binder) (i : Nat) (e : Expression) :
    List BoundSelection → Bind (Option Nat)
  | [] => return none
  | s :: rest => do
    match ← placeOf? s.results "ORDER" i e with
    | some place => return some place
    | none =>
      match ← sameResult? inner s e with
      | some place => return some place
      | none => orderPlace? inner i e rest

/-- The columns by which the result of a compound query is to be sorted. -/
def orderPlaces (inner : Binder) (selections : List BoundSelection) (columns : List QueryColumn)
    (order : List OrderTerm) : Bind (List (Nat × SortTerm)) := do
  checkTerms "ORDER" order
  let places ← order.zipIdx.mapM fun (t, i) =>
    orderPlace? inner i (withoutCollation t.expression) selections
  (order.zip places).zipIdx.mapM fun ((t, place), i) => do
    match place with
    | none => Bind.stop (.orderMatchesNothing (i + 1))
    | some place =>
      let own := ((columns[place]?).bind (·.collation)).getD .binary
      let collation := (← outerCollation t.expression).getD own
      return (place, {
        meaning := default, collation := collation, descending := t.descending
        nullsFirst := t.nullsFirst.getD !t.descending })

end SchemaEvolution.Database.Binding
