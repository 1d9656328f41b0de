import SchemaEvolution.Database.Binding.Basic

/-!
# Tables that are computed from themselves

A named query may go on from its own rows.  Its first part gives rows to begin with; each row waits
in a queue, and when its turn comes it is a result, and the other parts are computed of it, whose
rows go into the queue in turn.

* `selfReferences` says which selections of a query go on from its own rows.
* `Recursion.rows` gives the rows.
-/

namespace SchemaEvolution.Database.Binding

/-! ## Self-references -/

/-- A source is the table of a name. -/
def isTableNamed (n : Name) (s : Source) : Bool :=
  match s.item with
  | .table t => t.database.isNone && t.name.isSame n
  | _ => false

/-- The selections of a query in two parts: those that rows begin with, and those at the end that go
on from rows of the query. -/
def selfReferences (n : Name) (q : Query) : List Selection × List Selection :=
  let all := q.selections
  match all.getLast? with
  | none => (all, [])
  | some last =>
    let mayRecur := last.compound = .union || last.compound = .unionAll
    let recurs (s : Selection) : Bool :=
      decide (s.compound = last.compound) && s.sources.any (isTableNamed n)
    let count := if mayRecur then (all.tail.reverse.takeWhile recurs).length else 0
    (all.take (all.length - count), all.drop (all.length - count))

/-- A query of some selections of another one. -/
def queryOf (q : Query) (selections : List Selection) : Query where
  tables := q.tables
  first := selections.headD { columns := [] }
  others := selections.tail

/-! ## Names of columns -/

/-- A name without a number that was put behind it. -/
def withoutNumber (s : String) : String :=
  let back := s.toList.reverse
  match back.dropWhile Char.isDigit with
  | ':' :: rest => if rest.isEmpty then s else String.ofList rest.reverse
  | _ => s

/-- A name that is not among some others: a number is put behind it if need be. -/
def freshName (names : List String) (s : String) : (tries number : Nat) → String
  | 0, _ => s
  | tries + 1, number =>
    if !names.any (sameName s) then s
    else freshName names s!"{withoutNumber s}:{String.ofList (digits number)}" tries (number + 1)

/-- Names of columns, no two of which are the same. -/
def distinctNames (names : List String) : List String :=
  names.foldl (fun found s => found ++ [freshName found s (found.length + 1) 1]) []

/-! ## Rows -/

/-- A table that is computed from itself. -/
structure Recursion where
  /-- Its number, by which its rows are known. -/
  number : Nat
  start : BoundQuery
  parts : List BoundQuery
  /-- Rows that were there before do not count again. -/
  isDistinct : Bool
  /-- The places of the columns by which waiting rows are sorted. -/
  order : List (Nat × SortTerm) := []
  limit : Option Meaning := none
  offset : Option Meaning := none

/-- Rows that wait, rows that are known, and results. -/
structure RecursionState where
  queue : List (List Cell)
  known : List (List Cell) := []
  /-- The results, the last one first. -/
  results : List (List Cell) := []
  /-- How many results are to be left out, and how many may follow. -/
  skipped : Nat := 0
  left : Option Nat := none
  wanted : Option Nat := none

/-- How many rows a limit lets pass; a negative number sets none. -/
def limitOf (m : Option Meaning) (env : Env) : Except Stop (Option Nat) := do
  match m with
  | none => return none
  | some m =>
    match (← m.value env).numeric.integral with
    | .integer n => return if n < 0 then none else some n.toInt.toNat
    | _ => throw (.abort .wrongClass)

namespace Recursion

/-- The keys of a row that waits. -/
def keyOf (r : Recursion) (row : List Cell) : List Cell :=
  r.order.map fun (i, _) => row.getD i .null

/-- The terms by which rows are told apart. -/
def terms (r : Recursion) : List SortTerm :=
  r.start.columns.map fun c =>
    { meaning := default, collation := c.collation.getD .binary }

/-- New rows put into the state. -/
def enqueue (r : Recursion) (s : RecursionState) (rows : List (List Cell)) : RecursionState :=
  rows.foldl (fun s row =>
    let isKnown := r.isDistinct && s.known.any fun k =>
      (SortTerm.compareAll r.terms row k).isEq
    if isKnown then s
    else
      let known := if r.isDistinct then row :: s.known else s.known
      let queue :=
        if r.order.isEmpty then s.queue ++ [row]
        else
          let isAfter (other : List Cell) : Bool :=
            (SortTerm.compareAll (r.order.map Prod.snd) (r.keyOf other) (r.keyOf row)).isGT
          s.queue.takeWhile (!isAfter ·) ++ row :: s.queue.dropWhile (!isAfter ·)
      { s with known := known, queue := queue }) s

/-- Nothing more is wanted. -/
def isDone (s : RecursionState) : Bool :=
  s.left == some 0 || s.wanted == some 0

/-- Takes rows from the queue, at most so many. -/
def advance (r : Recursion) (demand : Demand) (env : Env) :
    (steps : Nat) → RecursionState → Except Stop (List (List Cell))
  | 0, s => .ok s.results.reverse
  | steps + 1, s => do
    match s.queue with
    | [] => return s.results.reverse
    | row :: queue =>
      if isDone s then return s.results.reverse
      let s := { s with queue := queue }
      let s ←
        if 0 < s.skipped then pure { s with skipped := s.skipped - 1 }
        else
          let counts ← demand.accepts { cells := row }
          pure { s with
            results := row :: s.results
            left := s.left.map (· - 1)
            wanted := if counts then s.wanted.map (· - 1) else s.wanted }
      if isDone s then return s.results.reverse
      let within := { env with pending := (r.number, [{ cells := row }]) :: env.pending }
      let new ← r.parts.mapM fun part => part.all within
      r.advance demand env steps (r.enqueue s new.flatten)

/-- More rows than any table has that can be waited for. -/
def mostRows : Nat := 10000000

/-- The rows of the table. -/
def rows (r : Recursion) (demand : Demand) (env : Env) : Except Stop (List (List Cell)) := do
  let start ← r.start.all env
  let left ← limitOf r.limit env
  let skipped ← limitOf r.offset env
  r.advance demand env mostRows <|
    r.enqueue { queue := [], left := left, skipped := skipped.getD 0, wanted := demand.count } start

end Recursion

end SchemaEvolution.Database.Binding
