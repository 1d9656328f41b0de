import SchemaEvolution.Database.Binding.Scope
import SchemaEvolution.Database.Function.Aggregate
import SchemaEvolution.Database.Limit
import SchemaEvolution.Database.Plan.Path

/-!
# Finding meanings

The meaning of an expression is found in the monad `Bind`.  Calls of aggregate and window functions
are noted at the query that they belong to (`Notes`), which computes them of its rows.  A fault ends
the search, but for those that only count if there is no other one in the same expression, or in
the whole statement.

Expressions contain queries and queries contain expressions, so the functions that find meanings
are given those for the parts (`Binder`).
-/

namespace SchemaEvolution.Database.Binding

/-! ## Orders -/

/-- A term of an order. -/
structure SortTerm where
  meaning : Meaning
  collation : Collation
  descending : Bool := false
  nullsFirst : Bool := true

namespace SortTerm

/-- The order of two cells. -/
def compare (t : SortTerm) (a b : Cell) : Ordering :=
  match a.isNull, b.isNull with
  | true, true => .eq
  | true, false => if t.nullsFirst then .lt else .gt
  | false, true => if t.nullsFirst then .gt else .lt
  | false, false =>
    let o := a.compare t.collation b
    if t.descending then o.swap else o

/-- The order of lists of cells, one for each term. -/
def compareAll : List SortTerm → List Cell → List Cell → Ordering
  | t :: ts, a :: as, b :: bs => (t.compare a b).then (compareAll ts as bs)
  | _, _, _ => .eq

end SortTerm

/-- Sorts items by keys; those with equal keys stay in their order. -/
def sortBy {α : Type} (compare : List Cell → List Cell → Ordering) (items : List (List Cell × α)) :
    List (List Cell × α) :=
  items.mergeSort fun a b => (compare a.1 b.1).isLE

/-! ## Calls of functions of several rows -/

/-- A call of an aggregate function. -/
structure AggregateCall where
  key : String
  /-- The name of the function as it is written. -/
  written : String := ""
  function : AggregateFunction
  arguments : List Meaning
  collation : Collation
  isDistinct : Bool := false
  order : List SortTerm := []
  filter : Option Meaning := none
  /-- It takes the least or the greatest cell. -/
  extreme : Option Ordering := none

/-- What a window function computes. -/
inductive WindowFunction where
  | aggregate (f : AggregateFunction)
  | rowNumber
  | rank
  | denseRank
  | percentRank
  | cumulativeDistribution
  | tile
  | lag
  | lead
  | firstValue
  | lastValue
  | nthValue
deriving Inhabited

/-- A call of a window function. -/
structure WindowCall where
  key : String
  function : WindowFunction
  arguments : List Meaning
  collation : Collation
  filter : Option Meaning := none
  partition : List SortTerm := []
  order : List SortTerm := []
  unit : FrameUnit := .range
  first : FrameBound := .unboundedPreceding
  firstDistance : Option Meaning := none
  last : FrameBound := .currentRow
  lastDistance : Option Meaning := none
  exclusion : FrameExclusion := .nothing

/-- The calls that belong to a query. -/
structure Notes where
  aggregates : List AggregateCall := []
  windows : List WindowCall := []

/-! ## The monad -/

/-- What has been noted. -/
structure BindState where
  /-- The notes of the queries around, the innermost first. -/
  levels : List Notes := []
  /-- A fault that counts unless there is another one in the same expression. -/
  pending : Option Fault := none
  /-- The first fault of a name, which counts unless a table is missing. -/
  fault : Option Fault := none
  /-- A fault that counts unless there is another one in the statement. -/
  late : Option Fault := none
  /-- A fault of a name counts at once. -/
  isStrict : Bool := true
  /-- How many tables are computed from themselves. -/
  count : Nat := 0
  /-- The numbers of those that the selection which is being looked at has as a source. -/
  recursions : List Nat := []
  /-- How many queries there are. -/
  queries : Nat := 0
  /-- How many calls there are that give something by chance. -/
  chances : Nat := 0
  /-- What names stand for, where that is noted. -/
  mentions : List Mention := []
  /-- The places of names that are texts, where that is noted. -/
  texts : List Nat := []

/-- Something that is found out about a statement. -/
abbrev Bind (α : Type) := StateT BindState (Except Fault) α

namespace Bind

/-- Ends the search with a fault, unless one of a name was noted before. -/
def stop {α : Type} (fault : Fault) : Bind α := do
  throw ((← get).fault.getD fault)

/-- Notes a fault of a name. -/
def fail (fault : Fault) : Bind Unit := do
  if (← get).isStrict then throw fault
  modify fun s => { s with fault := s.fault <|> some fault }

/-- The result of something that can fail. -/
def lift {α : Type} : Except Fault α → Bind α
  | .ok a => return a
  | .error fault => stop fault

/-- Notes a fault that counts unless there is another one in the same expression. -/
def pend (fault : Fault) : Bind Unit :=
  modify fun s => { s with pending := some fault }

/-- Notes a fault that counts unless there is another one in the statement. -/
def defer (fault : Fault) : Bind Unit :=
  modify fun s => { s with late := s.late <|> some fault }

/-- Something about one expression; the fault that was noted in it counts. -/
def settled {α : Type} (action : Bind α) : Bind α := do
  let around := (← get).pending
  modify fun s => { s with pending := none }
  let a ← action
  let own := (← get).pending
  modify fun s => { s with pending := around }
  if let some fault := own then fail fault
  return a

/-- Something about a whole query, in which a missing table counts before faults of names. -/
def prepared {α : Type} (action : Bind α) : Bind α := do
  let isStrict := (← get).isStrict
  modify fun s => { s with isStrict := false }
  let a ← action
  modify fun s => { s with isStrict := isStrict }
  match (← get).fault with
  | some fault => if isStrict then throw fault else return a
  | none => return a

/-- Something about a further query, with its notes. -/
def within {α : Type} (action : Bind α) : Bind (α × Notes) := do
  modify fun s => { s with levels := {} :: s.levels }
  let a ← action
  let s ← get
  set { s with levels := s.levels.tail }
  return (a, s.levels.headD {})

/-- Notes something at the query so many levels up. -/
def noteAt (level : Nat) (change : Notes → Notes) : Bind Unit :=
  modify fun s => { s with levels := s.levels.modify level change }

/-- The notes of the query so many levels up. -/
def notesAt (level : Nat) : Bind Notes := do
  return (← get).levels.getD level {}

/-- Something that may fail, and of which nothing remains noted. -/
def tried {α : Type} (action : Bind α) : Bind (Option α) := fun s =>
  match (settled action).run { s with isStrict := true, fault := none } with
  | .ok (a, _) => .ok (some a, s)
  | .error _ => .ok (none, s)

/-- Notes what the parts of a name refer to. -/
def trace (ctx : Context) (names : List Name) : Bind Unit := do
  if ctx.isTraced then
    let (mentions, isText) := ctx.mentions names
    let texts := if isText then names.map (·.place) else []
    modify fun s => { s with mentions := s.mentions ++ mentions, texts := s.texts ++ texts }

/-- Notes that a name stands for a table that is a source. -/
def traceSource (ctx : Context) (n : Name) (store : String) (t : StoredTable) : Bind Unit := do
  if ctx.isTraced then
    modify fun s => { s with mentions := s.mentions ++ [⟨n.place, store, t.name, .source⟩] }

/-- A key that no other expression has, for something about a query that was just found. -/
def ownKey (name : String) : Bind String := do
  return s!"{name}{(← get).queries}"

/-- What is found out in a context, with all faults that count, and with what was noted. -/
def traced {α : Type} (ctx : Context) (action : Bind α) : Except Fault (α × BindState) := do
  let levels := ctx.scopes.map fun _ => ({} : Notes)
  let (a, s) ← StateT.run (settled action) { levels := levels }
  match s.late with
  | some fault => throw fault
  | none => return (a, s)

/-- What is found out in a context, with all faults that count. -/
def result {α : Type} (ctx : Context) (action : Bind α) : Except Fault α :=
  Prod.fst <$> traced ctx action

end Bind

/-! ## Orders of stored rows -/

/-- The environment of expressions that depend on one row, which has a place in its frame. -/
def rowEnv (db : Database) (row : SourceRow) (place : Nat := 0) : Env where
  database := db
  frames := [{ rows := List.replicate place none ++ [some row] }]

/-- The order of rows that an index is. -/
structure IndexOrder where
  index : StoredIndex
  terms : List SortTerm
  /-- Rows of which one of these does not hold are not in the index. -/
  conditions : List Meaning := []
  /-- The place of a row in the frame. -/
  place : Nat := 0

namespace IndexOrder

/-- The cells by which a row is in the order. -/
def key (o : IndexOrder) (db : Database) (row : SourceRow) : Except Stop (List Cell) :=
  o.terms.mapM fun t => t.meaning.value (rowEnv db row o.place)

/-- The row is in the index. -/
def has (o : IndexOrder) (db : Database) (row : SourceRow) : Except Stop Bool :=
  o.conditions.allM fun m => m.holds (rowEnv db row o.place)

/-- Rows in their order; those that are equal in it stay as they are. -/
def sorted (o : IndexOrder) (db : Database) (rows : List SourceRow) :
    Except Stop (List SourceRow) := do
  let present ← rows.filterM fun row => o.has db row
  let keyed ← present.mapM fun row => do return (← o.key db row, row)
  return (sortBy (SortTerm.compareAll o.terms) keyed).map Prod.snd

end IndexOrder

/-! ## Queries -/

/-- How many rows are wanted, and which. -/
structure Demand where
  count : Option Nat := none
  accepts : SourceRow → Except Stop Bool := fun _ => .ok true

/-- Columns of a source on whose values its rows depend, so that these must be known before. -/
structure Parameters where
  /-- The places of the columns, each with what is given for it behind the name of the source. -/
  columns : List (Nat × Option Operand)
  rows : Env → List (Option Cell) → Except Stop (List SourceRow)
  /-- The estimates of the work and of the number of rows, if the first value is known, and if it is
  not. -/
  searched : Int × Int
  whole : Int × Int

/-- A source as it gives rows, which have a place in the frames of a query. -/
structure Leaf where
  place : Nat
  /-- The rows as they are stored or computed; the frame of the query is part of the environment. -/
  rows : Demand → Env → Except Stop (List SourceRow)
  orders : List IndexOrder := []
  /-- What matters of it for a plan, where some of its columns are used. -/
  candidate : (used : List Nat) → Plan.Candidate
  join : Join := {}
  /-- Its rows depend on those of the sources before it. -/
  isLateral : Bool := false
  /-- The columns on which its rows depend. -/
  uses : List Use := []
  parameters : Option Parameters := none

namespace Leaf

/-- The last of the bounds of a column by which it is equal to something, with the number of the
clause. -/
def valueOf? (l : Leaf) (clauses : List Plan.Clause) (column : Nat) : Option (Nat × Operand) :=
  let isIt (b : Bound) : Bool :=
    b.source = l.place && b.column = some column && b.expression.isNone && b.kind = .equal &&
      !(Use.sources b.uses).contains l.place
  let fits (c : Plan.Clause) : Bool := c.parent.isNone && match c.join with
    | some j => j = l.place
    | none => !(l.join.keepsLeft || l.join.keepsRight)
  (clauses.filter fits).reverse.findSome? fun c =>
    (c.bounds.find? isIt).map fun b => (c.number, ⟨b.limit, b.uses⟩)

/-- The source with values for its parameters, where some conditions are known, and the numbers of
the clauses that give some of them. -/
def supplied (l : Leaf) (clauses : List Plan.Clause) : Leaf × List Nat :=
  match l.parameters with
  | none => (l, [])
  | some p =>
    let values : List (Option (Option Nat × Operand)) := p.columns.map fun (column, given) =>
      match given with
      | some side => some (none, side)
      | none => (l.valueOf? clauses column).map fun (n, side) => (some n, side)
    let used := values.reduceOption
    let uses := used.flatMap fun (_, side) => side.uses
    let isKnown := (values.headD none).isSome
    let (run, out) := if isKnown then p.searched else p.whole
    let computation : Plan.Computation := { needs := Use.sources uses, run := run, out := out }
    ({ l with
        rows := fun _ env => do
          p.rows env (← values.mapM fun v => v.mapM fun (_, side) => side.value env)
        candidate := fun used => { l.candidate used with computation := some computation }
        isLateral := uses.any (·.level = 0)
        uses := uses },
      if isKnown then used.filterMap Prod.fst else [])

end Leaf

/-- The sources of a query. -/
structure Sources where
  scope : List ScopeSource := []
  leaves : List Leaf := []
  /-- Conditions that follow from how the sources are joined. -/
  conditions : List Plan.Condition := []
  /-- What is said about joins, with the place of the source that is joined. -/
  clauses : List (Expression × Nat) := []

/-- A column of the result of a query. -/
structure QueryColumn where
  name : String
  sqlType : String := ""
  affinity : Option Affinity := none
  collation : Option Collation := none
  classes : Classes := {}
  /-- The name of the column in a table or view that is made of the query. -/
  lasting : String := name

/-- A query that only chooses rows of its sources and computes columns of them. -/
structure Plain where
  sources : Sources
  /-- All conditions that the rows must fulfil. -/
  conditions : List Plan.Condition
  columns : List Meaning
  order : List SortTerm := []
  /-- The frames of the query, if it stands alone. -/
  frames : Env → Except Stop (List Frame)

/-- What a query means. -/
structure BoundQuery where
  columns : List QueryColumn
  /-- The rows, or as many of them as are wanted. -/
  rows : Demand → Env → Except Stop (List (List Cell))
  /-- Which cells of the first row are known to hold documents. -/
  documents : Env → Except Stop (List Bool) := fun _ => .ok []
  /-- The columns around it on which it depends. -/
  uses : List Use := []
  /-- The query can be read through. -/
  plain : Option Plain := none
  /-- Functions of several rows are part of it. -/
  isAggregate : Bool := false
  isWindowed : Bool := false

namespace BoundQuery

/-- All rows of a query. -/
def all (q : BoundQuery) (env : Env) : Except Stop (List (List Cell)) :=
  q.rows {} env

/-- The first row of a query. -/
def first? (q : BoundQuery) (env : Env) : Except Stop (Option (List Cell)) := do
  return (← q.rows { count := some 1 } env).head?

/-- The query as a part of an expression.  If it does not depend on the rows around it, it is
carried out only once; the rows that a trigger is about, which are in the last frame, stay the same.
-/
def once (q : BoundQuery) (ctx : Context) : BoundQuery :=
  let isFixed (u : Use) : Bool := ctx.isInTrigger && u.level + 1 = ctx.scopes.length
  if q.uses.all isFixed then
    let kept := if ctx.isInTrigger then 1 else 0
    { q with
      rows := fun demand env => q.rows demand (env.once kept)
      documents := fun env => q.documents (env.once kept) }
  else q

end BoundQuery

/-- The functions that find the meanings of the parts of an expression or query. -/
structure Binder where
  /-- The meanings of an expression: one, or those of a row of values. -/
  expression : Context → Expression → Bind (List Meaning)
  query : Context → Query → Bind BoundQuery

namespace Binder

/-- The meaning of an expression that has one value. -/
def one (inner : Binder) (ctx : Context) (e : Expression) : Bind Meaning := do
  match ← inner.expression ctx e with
  | [m] => return m
  | ms =>
    Bind.defer <|
      match e with
      | .subquery _ => .wrongWidth ms.length 1
      | _ => .rowMisused
    return ms.headD default

/-- The meaning of an expression that may be missing. -/
def optional (inner : Binder) (ctx : Context) (e : Option Expression) : Bind (Option Meaning) :=
  e.mapM (inner.one ctx)

end Binder

/-- The collation of a meaning, which must be known. -/
def collationOf (m : Meaning) : Collation :=
  m.collation.getD .binary

end SchemaEvolution.Database.Binding
