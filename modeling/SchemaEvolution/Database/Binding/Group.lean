import SchemaEvolution.Database.Binding.Basic

/-!
# Groups

Rows that agree in the keys of a query form a group, of which aggregate functions give one cell
each.  The columns of a group are those of its first row, or of the row that holds the least or
greatest cell if the query asks for that.

* `groupsOf` puts rows into groups.
* `AggregateCall.result` is what a function gives for a group.
* `representative?` is the row whose columns stand for a group.
-/

namespace SchemaEvolution.Database.Binding

/-! ## Groups of rows -/

/-- The cells of terms in an environment. -/
def cellsOf (terms : List SortTerm) (env : Env) : Except Stop (List Cell) :=
  terms.mapM fun t => t.meaning.value env

/-- Items whose neighbours have the same key, one list for each key. -/
def neighbours {α : Type} (terms : List SortTerm) : List (List Cell × α) → List (List α)
  | [] => []
  | (key, a) :: rest =>
    match rest, neighbours terms rest with
    | (next, _) :: _, group :: groups =>
      if (SortTerm.compareAll terms key next).isEq then (a :: group) :: groups
      else [a] :: group :: groups
    | _, groups => [a] :: groups

/-- The groups of rows that agree in some keys; the rows are sorted unless they are in order. -/
def groupsOf (terms : List SortTerm) (isOrdered : Bool) (envs : List Env) :
    Except Stop (List (List Env)) := do
  let keyed ← envs.mapM fun env => do return (← cellsOf terms env, env)
  return neighbours terms (if isOrdered then keyed else sortBy (SortTerm.compareAll terms) keyed)

/-! ## Aggregate functions -/

/-- Lists of cells without those that are the same as an earlier one. -/
def distinctRows (terms : List SortTerm) (rows : List (List Cell)) : List (List Cell) :=
  (rows.foldl (fun found row =>
    if found.any fun other => (SortTerm.compareAll terms row other).isEq then found
    else row :: found) []).reverse

namespace AggregateCall

/-- A row counts for the function. -/
def counts (c : AggregateCall) (env : Env) : Except Stop Bool :=
  match c.filter with
  | some m => m.holds env
  | none => .ok true

/-- What the function gives for a group. -/
def result (c : AggregateCall) (envs : List Env) : Except Stop Cell := do
  let counted ← envs.filterM c.counts
  let keyed ← counted.mapM fun env => do
    return (← cellsOf c.order env, ← c.arguments.mapM (·.value env))
  let ordered := (sortBy (SortTerm.compareAll c.order) keyed).map Prod.snd
  let terms : List SortTerm := c.arguments.map fun m =>
    { meaning := m, collation := collationOf m }
  let rows := if c.isDistinct then distinctRows terms ordered else ordered
  (c.function.run c.collation rows).mapError .abort

/-- The row with the least or greatest cell, the first of several; before any cell is something, the
last row that was looked at. -/
def extremeRow? (c : AggregateCall) (wanted : Ordering) (envs : List Env) :
    Except Stop (Option Env) := do
  let step (best : Option (Cell × Env)) (env : Env) : Except Stop (Option (Cell × Env)) := do
    let cell ← match c.arguments with
      | m :: _ => m.value env
      | [] => pure .null
    match best with
    | none => return some (cell, env)
    | some (old, _) =>
      let isBetter := old.isNull || !cell.isNull && cell.compare c.collation old == wanted
      return if isBetter then some (cell, env) else best
  return (← (← envs.filterM c.counts).foldlM step none).map Prod.snd

end AggregateCall

/-- The row whose columns stand for a group. -/
def representative? (calls : List AggregateCall) (envs : List Env) : Except Stop (Option Env) :=
  match (calls.filterMap fun c => c.extreme.map fun o => (c, o)).getLast? with
  | some (c, wanted) => c.extremeRow? wanted envs
  | none => .ok envs.head?

/-- The frame of a group. -/
def groupFrame (calls : List AggregateCall) (empty : Frame) (envs : List Env) :
    Except Stop Frame := do
  let results ← calls.mapM (·.result envs)
  let row ← representative? calls envs
  return { rows := ((row.map (·.frame 0)).getD empty).rows, aggregates := results }

end SchemaEvolution.Database.Binding
