import SchemaEvolution.Database.Plan.Loop

/-!
# Paths through sources

A `Path` goes through the sources of a query one within the other, by one loop for each.  Of the
paths the cheapest one is taken, where rows that do not come in the order that is asked for have to
be sorted afterwards.

* `Path.satisfied` tells how much of an order the rows of a path come in.
* `Query.path` finds the path for a query.
-/

namespace SchemaEvolution.Database.Plan

/-! ## What is asked for -/

/-- What an order of rows is asked for. -/
inductive Purpose where
  | sorting
  | grouping
  | distinctness
  /-- Only the first row in the order is wanted. -/
  | extreme
  /-- The rows of the last loop are wanted in order, for each choice of the values it searches. -/
  | innermost
deriving DecidableEq

/-- A term of an order that is asked for. -/
structure Key where
  /-- The source and column that it is, or the expression. -/
  column : Option Use := none
  expression : String := ""
  uses : List Use := []
  isConstant : Bool := false
  collation : Collation := .binary
  descending : Bool := false
  /-- Nothing comes where it does not come by itself. -/
  movesNulls : Bool := false

/-- What a plan is made for. -/
structure Query where
  candidates : List Candidate
  conditions : Conditions
  keys : List Key := []
  purpose : Purpose := .sorting
  /-- How many rows are wanted, if that is known. -/
  limit : Option Estimate := none
  isDistinct : Bool := false
  /-- The number of columns of the result. -/
  width : Nat := 1
  /-- Groups are wanted in the order of their keys. -/
  sortsGroups : Bool := false
  /-- All columns of the table are needed, as its rows change. -/
  isChange : Bool := false
  /-- Rows are wanted the other way round where no order is asked for. -/
  reverses : Bool := false

/-- An order can help to satisfy the order that is asked for. -/
def Query.wants (q : Query) (source : Nat) (o : Order) : Bool :=
  q.keys.any fun k =>
    match k.column with
    | some u =>
      u.level = 0 && u.source = source &&
        (u.column.isNone || (o.targets.take o.count).any fun t => t.column = u.column &&
          t.expression.isNone)
    | none => (o.targets.take o.count).any fun t => t.expression = some k.expression

/-! ## Orders -/

/-- A path through some sources. -/
structure Path where
  loops : List Loop := []
  rows : Estimate := 0
  cost : Estimate := 0
  /-- The cost without sorting. -/
  unsorted : Estimate := 0
  /-- How many terms of the order are satisfied, if that is settled. -/
  ordered : Option Nat := none
  /-- The places of the loops that go backwards. -/
  reversed : List Nat := []
deriving Inhabited

/-- How far an order is satisfied on the way through the loops of a path. -/
structure Satisfaction where
  /-- The terms that are satisfied, one after the other. -/
  done : List Bool
  /-- No two rows are the same in the terms so far. -/
  isDistinct : Bool := true
  distinctSources : List Nat := []
  ready : List Nat := []
  /-- A loop has no order at all. -/
  isBroken : Bool := false
  /-- Nothing more is found out. -/
  isStopped : Bool := false
  reversed : List Nat := []

namespace Satisfaction

/-- The satisfaction with a further term. -/
def mark (s : Satisfaction) (i : Nat) : Satisfaction :=
  { s with done := s.done.set i true }

/-- Everything is satisfied. -/
def isDone (s : Satisfaction) : Bool :=
  s.done.all id

end Satisfaction

/-- A bound of a kind leaves one value of a column, or a set of values that is searched in order. -/
def Query.fixes (q : Query) : BoundKind → Bool
  | .equal | .same | .isNull => true
  | .oneOf _ => q.purpose = .extreme || q.purpose = .innermost
  | _ => false

/-- The term is a column that a clause fixes. -/
def Query.isFixed (q : Query) (l : Loop) (ready : List Nat) (k : Key) : Bool :=
  match k.column with
  | none => false
  | some u =>
    u.level = 0 && u.source = l.source && q.conditions.clauses.any fun c =>
      c.bounds.any fun b =>
        b.source = u.source && b.column = u.column && b.expression.isNone && q.fixes b.kind &&
          ((Use.sources b.uses).all ready.contains) &&
          (!Loop.isMembership b.kind || l.clauses.contains c.number) &&
          (!(Loop.isEquality b.kind) || u.column.isNone || b.collation = k.collation)

/-- The way through the terms of the order of a loop. -/
structure Walk where
  satisfaction : Satisfaction
  /-- The loop goes backwards, as far as that is known. -/
  isReversed : Option Bool := none
  hasNumber : Bool := false

/-- The place of the term that is the same as a target, among those that are not satisfied. -/
def Query.keyOf? (q : Query) (s : Satisfaction) (source : Nat) (t : Target) : Option (Nat × Key) :=
  let matches' (k : Key) : Bool :=
    match t.expression with
    | some e => k.column.isNone && k.expression = e && k.collation = t.collation
    | none =>
      k.column = some ⟨0, source, t.column⟩ && (t.isNumber || k.collation = t.collation)
  let left := (q.keys.zipIdx).filter fun (_, i) => !(s.done.getD i true)
  let candidates := if q.purpose = .grouping || q.purpose = .distinctness then left
    else left.take 1
  (candidates.find? fun (k, _) => matches' k).map fun (k, i) => (i, k)

/-- Goes through the terms of the order of a loop. -/
def Query.walk (q : Query) (place : Nat) (l : Loop) (o : Order) :
    (j : Nat) → List Target → Walk → Satisfaction
  | _, [], w =>
    { w.satisfaction with isDistinct := w.satisfaction.isDistinct || w.hasNumber }
  | j, t :: ts, w =>
    let s := w.satisfaction
    let kind := l.fixed[j]?
    if kind.any q.fixes then
      let isLoose := kind == some .isNull || kind == some .same
      q.walk place l o (j + 1) ts
        { w with satisfaction := { s with isDistinct := s.isDistinct && !isLoose } }
    else
      let s := { s with
        isDistinct := s.isDistinct && !(t.expression.isSome ||
          !t.isNumber && l.fixed.length ≤ j && t.isNullable) }
      let found := (q.keyOf? s l.source t).filter fun (_, k) =>
        (q.purpose = .grouping ||
          w.isReversed.all fun r => (r != t.descending) == k.descending) &&
        (!k.movesNulls || j = l.fixed.length)
      match found with
      | some (i, k) =>
        let r := w.isReversed.getD (t.descending != k.descending)
        let isNew := w.isReversed.isNone && q.purpose != .grouping
        let s := s.mark i
        q.walk place l o (j + 1) ts {
          satisfaction := { s with
            reversed := if isNew && r then s.reversed ++ [place] else s.reversed }
          isReversed := if q.purpose = .grouping then none else some r
          hasNumber := w.hasNumber || t.isNumber }
      | none =>
        let isEnd := j = 0 || j < (if o.isNumbers then 0 else o.count)
        { s with isDistinct := w.hasNumber || s.isDistinct && !isEnd }

/-- How far an order is satisfied after a further loop. -/
def Query.afterLoop (q : Query) (s : Satisfaction) (place : Nat) (l : Loop) : Satisfaction :=
  if !s.isDistinct || s.isDone || s.isStopped then s
  else if l.isOpaque then { s with isStopped := true }
  else
    let fixed := (q.keys.zipIdx.filter fun (k, _) => q.isFixed l s.ready k).map (·.2)
    let s := fixed.foldl Satisfaction.mark s
    let s :=
      if l.isOneRow then s
      else
        match l.access with
        | .order o =>
          let targets := if o.isNumbers then [Target.number] else o.targets
          let s := { s with
            isDistinct := s.isDistinct && (o.isNumbers || o.isUnique) }
          q.walk place l o 0 targets { satisfaction := s }
        | _ => { s with isDistinct := false, isBroken := true }
    let s := { s with ready := s.ready ++ [l.source] }
    if !s.isDistinct then s
    else
      let sources := s.distinctSources ++ [l.source]
      let more := (q.keys.zipIdx.filter fun (k, _) =>
        (!(Use.sources k.uses).isEmpty || k.isConstant) &&
          (Use.sources k.uses).all sources.contains).map (·.2)
      more.foldl Satisfaction.mark { s with distinctSources := sources }

/-- How many terms of an order the rows of loops satisfy, if it is settled, and which of the loops
go backwards for that. -/
def Query.satisfied (q : Query) (loops : List Loop) : Option Nat × List Nat :=
  let last := loops.length - 1
  let step (s : Satisfaction) (l : Loop) (i : Nat) : Satisfaction :=
    if q.purpose = .innermost && i < last then { s with ready := s.ready ++ [l.source] }
    else q.afterLoop s i l
  let s := loops.zipIdx.foldl (fun s (l, i) => step s l i)
    { done := q.keys.map fun _ => false : Satisfaction }
  if s.isDone then (some q.keys.length, s.reversed)
  else if s.isBroken then (some 0, s.reversed)
  else if s.isDistinct then (none, s.reversed)
  else (some (s.done.takeWhile id).length, s.reversed)

/-! ## Costs -/

/-- The cost of sorting rows of which some terms are in order. -/
def Query.sortCost (q : Query) (rows : Estimate) (sorted : Nat) : Estimate :=
  let whole := rows + estimate ((q.width + 59) / 30)
  let count := q.keys.length
  let part :=
    if sorted = 0 then whole else whole + estimate ((count - sorted) * 100 / count) - 66
  match q.limit with
  | some n => part + 10 + (if sorted = 0 then 0 else 6) + Estimate.logarithm (min n rows)
  | none =>
    part + Estimate.logarithm (if q.isDistinct && 10 < rows then rows - 10 else rows)

/-! ## Search -/

/-- The path with a further loop. -/
def Query.extend (q : Query) (sorts : Option Estimate) (p : Path) (l : Loop) : Path :=
  let run := l.run + p.rows
  let set := if l.setup = 0 then run else Estimate.plus l.setup run
  let unsorted := Estimate.plus set p.unsorted
  let loops := p.loops ++ [l]
  let base : Path := { loops := loops, rows := p.rows + l.out }
  match sorts with
  | none => { base with cost := unsorted, unsorted := unsorted - 2, ordered := some 0 }
  | some rows =>
    let (ordered, reversed) :=
      match p.ordered with
      | some n => (some n, p.reversed)
      | none => q.satisfied loops
    let path := { base with ordered := ordered, reversed := reversed }
    match ordered with
    | some n =>
      if n < q.keys.length then
        { path with
          cost := unsorted.plus (q.sortCost rows n) + 3, unsorted := unsorted }
      else { path with cost := unsorted, unsorted := unsorted - 2 }
    | none => { path with cost := unsorted, unsorted := unsorted - 2 }

/-- The loop can follow the path. -/
def Path.allows (p : Path) (l : Loop) : Bool :=
  let known := p.loops.map (·.source)
  !known.contains l.source && l.needs.all known.contains && !(l.isMade && p.rows < 3)

/-- Two paths go through the same sources, and are alike in whether their order is settled. -/
def Path.isLike (p r : Path) : Bool :=
  p.loops.length = r.loops.length && p.ordered.isSome == r.ordered.isSome &&
    p.loops.all fun l => r.loops.any (·.source = l.source)

/-- A path is at least as good as another one. -/
def Path.isBest (p r : Path) : Bool :=
  p.cost < r.cost ||
    p.cost = r.cost && (p.rows < r.rows || p.rows = r.rows && p.unsorted ≤ r.unsorted)

/-- The worst of some paths: its place, its cost, and what settles a tie. -/
def worst (paths : List Path) : Nat × Estimate × Estimate :=
  let first := paths.headD default
  (paths.zipIdx.drop 1).foldl (fun (i, cost, tie) (p, j) =>
    if cost < p.cost || cost = p.cost && tie < p.unsorted then (j, p.cost, p.unsorted)
    else (i, cost, tie)) (0, first.cost, first.rows)

/-- The paths with a further one, of which only so many are kept. -/
def addPath (most : Nat) (paths : List Path) (p : Path) : List Path :=
  match paths.findIdx? fun r => r.isLike p with
  | some i => if (paths.getD i default).isBest p then paths else paths.set i p
  | none =>
    if paths.length < most then paths ++ [p]
    else
      let (i, cost, tie) := worst paths
      if cost < p.cost || cost = p.cost && tie ≤ p.unsorted then paths else paths.set i p

/-- The best paths with so many loops more. -/
def Query.search (q : Query) (loops : List Loop) (sorts : Option Estimate) (most : Nat) :
    Nat → List Path → List Path
  | 0, paths => paths
  | n + 1, paths =>
    let longer := paths.foldl (fun found p =>
      loops.foldl (fun found l =>
        if p.allows l then addPath most found (q.extend sorts p l) else found) found) []
    q.search loops sorts most n longer

/-- The cheapest path by some loops. -/
def Query.best? (q : Query) (loops : List Loop) (sorts : Option Estimate) : Option Path :=
  let count := q.candidates.length
  let most := if count ≤ 1 then 1 else if count = 2 then 5 else 10
  let start : Path := { ordered := if sorts.isSome then none else some 0 }
  match q.search loops sorts most count [start] with
  | [] => none
  | first :: rest => some (rest.foldl (fun p r => if r.cost < p.cost then r else p) first)

/-- The loops that are left if a first search has found some that fix values. -/
def keptLoops (found : Path) (loops : List Loop) : List Loop :=
  let settled := (found.loops.takeWhile fun l => l.hasFixed && !l.isMade).map (·.source)
  loops.filter fun l => !settled.contains l.source || l.isConstrained || l.isMade

/-- The sources that must come before each source, as it is joined to them. -/
def neededBefore (candidates : List Candidate) : List (List Nat) :=
  let step (state : List (List Nat) × List Nat × List Nat × Bool × Bool) (s : Candidate) :=
    let (all, before, needs, isPastKept, hasKept) := state
    let isTied := isPastKept || s.keepsLeft || s.keepsRight || s.isCross || s.isBeforeKept
    let needs :=
      if isTied then (needs ++ before).eraseDups else if hasKept then needs else []
    (all ++ [needs], before ++ [s.place], needs, isTied && s.keepsRight,
      hasKept || s.isBeforeKept)
  (candidates.foldl step ([], [], [], false, false)).1

/-- The loops over all sources of a query that are worth a look. -/
def Query.loops (q : Query) : List Loop :=
  (q.candidates.zip (neededBefore q.candidates)).foldl (fun loops (s, needs) =>
    s.addLoops q.conditions needs (q.wants s.place) (!q.isChange) loops) []

/-- The path by which the rows of a query are found. -/
def Query.path (q : Query) : Path :=
  let loops := q.loops
  let first := q.best? loops none
  let found :=
    if q.keys.isEmpty then first
    else do
      let p ← first
      q.best? (keptLoops p loops) (some (max 1 (p.rows + 1)))
  found.getD default

/-- The loops of a path that go backwards. -/
def Query.reversed (q : Query) (p : Path) : List Nat :=
  let whole := some q.keys.length
  match q.purpose with
  | .grouping =>
    let (n, reversed) := { q with purpose := .sorting }.satisfied p.loops
    if q.sortsGroups && n = whole then reversed else []
  | .distinctness => []
  | _ =>
    let isUnordered := p.ordered.all (· = 0) && !q.keys.isEmpty
    let allows (l : Loop) : Bool :=
      !l.isOneRow && !(l.isByNumber && l.fixed.any Loop.isMembership)
    let (n, reversed) := { q with purpose := .innermost }.satisfied p.loops
    if isUnordered && p.loops.getLast?.any allows && n = whole then reversed else p.reversed

/-! ## Steps -/

/-- How the rows of a source are found. -/
inductive Way where
  /-- In one of its orders. -/
  | order (place : Nat)
  /-- In the order of some columns, and of all that are used. -/
  | columns (columns : List Nat)
  /-- For each alternative in one of the orders. -/
  | union (parts : List (Alternative × Nat))
deriving Inhabited

/-- A source, and how its rows are found. -/
structure Step where
  source : Nat
  way : Way
  isReversed : Bool := false

/-- The order in which the rows for an alternative are found, where some sources are known. -/
def Query.alternativeOrder (q : Query) (s : Candidate) (known : List Nat) (choice : Choice)
    (a : Alternative) : Nat :=
  let offset := a.clauses.length
  let others := q.conditions.clauses.filter fun c =>
    c.number != choice.number && c.parent.isNone && !c.bounds.isEmpty
  let moved := others.map fun c => { c with number := c.number + offset }
  let one : Query := { candidates := [s], conditions := { clauses := a.clauses ++ moved } }
  let loops := (s.orderLoops one.conditions.clauses [] (fun _ => false) true).filter fun l =>
    l.needs.all known.contains
  let free := loops.map fun l => { l with needs := [] }
  let path := (one.best? (free.foldl Loops.insert []) none).getD default
  ((path.loops.head?.bind (·.order?)).map (·.place)).getD 0

/-- The way of a loop. -/
def Query.way (q : Query) (known : List Nat) (l : Loop) : Way :=
  let s := (q.candidates.find? (·.place = l.source)).getD default
  match l.access with
  | .order o => .order o.place
  | .made targets =>
    let first := targets.filterMap (·.column)
    .columns (first ++ s.used.filter fun c => !first.contains c)
  | .union choice =>
    .union (choice.alternatives.map fun a => (a, q.alternativeOrder s known choice a))

/-- How the rows of a query are found, source by source. -/
def Query.steps (q : Query) : List Step :=
  let p := q.path
  let reversed := q.reversed p
  let sources := p.loops.map (·.source)
  let isTurned (l : Loop) : Bool := q.reverses && q.keys.isEmpty &&
    q.candidates.any fun s => s.place = l.source && (l.isMade || !s.isForward)
  p.loops.zipIdx.map fun (l, i) =>
    { source := l.source, way := q.way (sources.take i) l
      isReversed := reversed.contains i || isTurned l }

end SchemaEvolution.Database.Plan
