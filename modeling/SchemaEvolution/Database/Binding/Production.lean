import SchemaEvolution.Database.Binding.Join
import SchemaEvolution.Database.Binding.Recursion
import SchemaEvolution.Database.Binding.Windowing

/-!
# Rows of a selection

The frames of the sources become groups if the selection is an aggregate one, then the window
functions are computed, and the columns of the result.  Rows that were there before are left out if
that is asked for; what is left is sorted and cut.

* `Production.rows` gives the rows.
-/

namespace SchemaEvolution.Database.Binding

/-- Which rows of a result are wanted: behind so many, and at most so many. -/
structure Cut where
  limit : Option Meaning := none
  offset : Option Meaning := none

namespace Cut

/-- How many rows are left out, and how many may follow. -/
def sizes (c : Cut) (env : Env) : Except Stop (Nat × Option Nat) := do
  let around := { env with frames := [] }
  let limit ← limitOf c.limit around
  let offset ← limitOf c.offset around
  return (offset.getD 0, limit)

/-- The rows that are left. -/
def apply {α : Type} (sizes : Nat × Option Nat) (rows : List α) : List α :=
  let behind := rows.drop sizes.1
  match sizes.2 with
  | some n => behind.take n
  | none => behind

end Cut

/-- How the rows of a selection are made. -/
structure Production where
  joining : Joining
  notes : Notes := {}
  isAggregate : Bool := false
  /-- The keys of the groups, and whether the rows come in their order. -/
  groups : List SortTerm := []
  isOrdered : Bool := false
  having : Option Meaning := none
  columns : List Meaning
  /-- The terms by which rows are told apart, if none may come twice. -/
  distinct : Option (List SortTerm) := none
  order : List SortTerm := []
  /-- The rows come in the order without being sorted. -/
  isInOrder : Bool := true
  cut : Cut := {}

namespace Production

/-- Groups of rows, each with the results of the aggregate functions, as rows. -/
def grouped (p : Production) (env : Env) (rows : List Env) : Except Stop (List Env) := do
  let groups ← if p.groups.isEmpty then pure [rows] else groupsOf p.groups p.isOrdered rows
  let found ← groups.mapM fun envs => do
    return env.push (← groupFrame p.notes.aggregates p.joining.empty envs)
  match p.having with
  | some m => found.filterM m.holds
  | none => return found

/-- The rows are given as the sources give them. -/
def isPlain (p : Production) : Bool :=
  !p.isAggregate && p.notes.windows.isEmpty && p.distinct.isNone && p.order.isEmpty

/-- The cells of the columns. -/
def cells (p : Production) (env : Env) : Except Stop (List Cell) :=
  p.columns.mapM (·.value env)

/-- Rows that are not the same as an earlier one. -/
def withoutRepeats (p : Production) (rows : List (Env × List Cell)) : List (Env × List Cell) :=
  match p.distinct with
  | none => rows
  | some terms =>
    (rows.foldl (fun found row =>
      let isKnown := found.any fun other => (SortTerm.compareAll terms row.2 other.2).isEq
      if isKnown then found else row :: found) []).reverse

/-- The rows of the result with their environments. -/
def results (p : Production) (demand : Demand) (env : Env) :
    Except Stop (List (Env × List Cell)) := do
  let (offset, limit) ← p.cut.sizes env
  if limit == some 0 then return []
  let wanted := match limit with
    | some n => some (offset + n)
    | none => demand.count
  let accepts (row : Env) : Except Stop Bool := do
    if limit.isSome then return true
    if demand.count.isNone then return true
    demand.accepts { cells := ← p.cells row }
  let frames ← p.joining.frames (if p.isPlain then wanted else none) accepts env
  let found := frames.map env.push
  let found ← if p.isAggregate then p.grouped env found else pure found
  let found ← if p.notes.windows.isEmpty then pure found else withWindows p.notes.windows found
  if p.isPlain then
    return ← (Cut.apply (offset, limit) found).mapM fun row => do return (row, ← p.cells row)
  let all ← found.mapM fun row => do return (row, ← p.cells row)
  let keyed ← (p.withoutRepeats all).mapM fun (row, cells) => do
    return (← cellsOf p.order row, (row, cells))
  let sorted :=
    if p.order.isEmpty then keyed else sortBy (SortTerm.compareAll p.order) keyed
  return Cut.apply (offset, limit) (sorted.map Prod.snd)

/-- The rows of the result. -/
def rows (p : Production) (demand : Demand) (env : Env) : Except Stop (List (List Cell)) := do
  return (← p.results demand env).map Prod.snd

/-- Which cells of the first row are known to hold documents.  Sorting forgets that. -/
def documents (p : Production) (env : Env) : Except Stop (List Bool) := do
  if p.isInOrder then
    match ← p.results { count := some 1 } env with
    | (row, _) :: _ => p.columns.mapM (·.isDocument row)
    | [] => return []
  else return []

end Production

end SchemaEvolution.Database.Binding
