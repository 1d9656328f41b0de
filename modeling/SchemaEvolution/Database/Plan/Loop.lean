import SchemaEvolution.Database.Plan.Condition
import SchemaEvolution.Database.Plan.Estimate

/-!
# Loops over sources

A `Loop` is a way to go through the rows of a source: all of them, those that an index leads to, or
those that several indexes lead to together.  It says what has to be known before, and what it
costs.

* `Candidate.loops` lists the loops over a source.
* `Loops.insert` keeps a loop unless another one is as good in every respect.
-/

namespace SchemaEvolution.Database.Plan

/-! ## Sources -/

/-- A term of an index, as bounds refer to it. -/
structure Target where
  /-- The column, or the number of the row. -/
  column : Option Nat := none
  expression : Option String := none
  affinity : Affinity := .integer
  collation : Collation := .binary
  descending : Bool := false
  /-- It may hold nothing. -/
  isNullable : Bool := true
deriving Inhabited

namespace Target

/-- The number of the row. -/
def number : Target where
  isNullable := false

/-- It is the number of the row. -/
def isNumber (t : Target) : Bool :=
  t.column.isNone && t.expression.isNone

/-- A bound of some source can be a bound of the target. -/
def fits (t : Target) (source : Nat) (b : Bound) : Bool :=
  let isSame := b.source = source && b.column = t.column && b.expression = t.expression
  let affinityFits := match b.affinity with
    | .blob => true
    | .text => t.affinity = .text
    | _ => t.affinity.isNumeric
  isSame && (t.isNumber || b.kind = .isNull || b.kind = .isSomething ||
    affinityFits && b.collation = t.collation)

end Target

/-- An order of the rows of a source, as far as it matters for a plan. -/
structure Order where
  /-- Its number among the orders of the source. -/
  place : Nat := 0
  /-- The terms of which it consists, and those behind them that make it complete. -/
  targets : List Target
  /-- The number of its own terms. -/
  count : Nat
  isUnique : Bool := false
  /-- The keys of the conditions under which rows are in it. -/
  conditions : List String := []
  /-- Conditions that a column is something. -/
  present : List (Option Nat) := []
  isPartial : Bool := false
  rows : List Estimate := [tableRows, 0]
  width : Estimate := 3
  /-- All columns that are used are among its terms. -/
  covers : Bool := false
  /-- It is the order in which the rows are stored. -/
  isOwn : Bool := false
  /-- It is the order of the numbers of the rows. -/
  isNumbers : Bool := false
deriving Inhabited

namespace Order

/-- No two rows are the same in it, as nothing in it can be nothing. -/
def isDistinct (o : Order) : Bool :=
  o.isUnique && !o.isPartial && (o.targets.take o.count).all (!·.isNullable)

end Order

/-- What must be known before the rows of a source are computed, and what that costs. -/
structure Computation where
  needs : List Nat
  run : Estimate
  out : Estimate

/-- A source of a query, as far as it matters for a plan. -/
structure Candidate where
  place : Nat
  rows : Estimate := tableRows
  width : Estimate := 0
  /-- The orders of its rows; the first is that in which they are stored. -/
  orders : List Order
  /-- The rows are stored by their numbers. -/
  hasNumbers : Bool := true
  /-- An order may be made for the query alone. -/
  allowsOwnOrder : Bool := false
  /-- Its rows are computed by another query. -/
  isComputed : Bool := false
  /-- Rows before it stay without a match, or its own do. -/
  keepsLeft : Bool := false
  keepsRight : Bool := false
  isCross : Bool := false
  /-- It stands before a source whose rows all stay. -/
  isBeforeKept : Bool := false
  /-- The columns that are used. -/
  used : List Nat := []
  /-- Only one order may be used. -/
  isForced : Bool := false
  /-- Its rows are computed from values. -/
  computation : Option Computation := none
  /-- Its rows come one after the other, and never the other way round. -/
  isForward : Bool := false
deriving Inhabited

/-! ## Loops -/

/-- A way to find rows. -/
inductive Access where
  /-- All rows in one of the orders, or as many as bounds leave of them. -/
  | order (o : Order)
  /-- The rows that agree in some columns, in an order that is made for the query. -/
  | made (columns : List Target)
  /-- The rows of which one of several alternatives holds. -/
  | union (choice : Choice)
deriving Inhabited

/-- A way to go through the rows of a source. -/
structure Loop where
  source : Nat
  access : Access
  /-- The sources whose rows must be known. -/
  needs : List Nat := []
  setup : Estimate := 0
  run : Estimate := 0
  out : Estimate := 0
  /-- Loops whose orders could both be wanted are not compared. -/
  sortGroup : Nat := 0
  /-- The numbers of the clauses that it uses. -/
  clauses : List Nat := []
  /-- The kinds of the bounds by which terms of the order are fixed, and whether they are all of one
  value. -/
  fixed : List BoundKind := []
  isOneRow : Bool := false
  hasRange : Bool := false
  isCovering : Bool := false
  /-- Nothing is known of the order of its rows. -/
  isOpaque : Bool := false
deriving Inhabited

namespace Loop

/-- The order in which the rows come. -/
def order? (l : Loop) : Option Order :=
  match l.access with
  | .order o => some o
  | _ => none

/-- It goes by the numbers of rows. -/
def isByNumber (l : Loop) : Bool :=
  l.order?.any (·.isNumbers)

/-- It goes by an index. -/
def isIndexed (l : Loop) : Bool :=
  l.order?.any (!·.isNumbers)

/-- It goes by an order that is made for the query. -/
def isMade (l : Loop) : Bool :=
  l.access matches .made _

/-- A kind of bound fixes a value. -/
def isEquality : BoundKind → Bool
  | .equal | .same => true
  | _ => false

/-- A kind of bound is membership. -/
def isMembership : BoundKind → Bool
  | .oneOf _ => true
  | _ => false

/-- Values are fixed by it. -/
def hasFixed (l : Loop) : Bool :=
  !l.fixed.isEmpty

/-- Some bound is used. -/
def isConstrained (l : Loop) : Bool :=
  l.hasFixed || l.hasRange

end Loop

/-! ### Costs -/

/-- What clauses that a loop does not use leave of its rows. -/
def reduced (clauses : List Clause) (rows : Estimate) (l : Loop) : Loop :=
  let known := l.source :: l.needs
  let others := clauses.filter fun c =>
    c.parent.isNone && c.sources.contains l.source && c.sources.all known.contains &&
      !l.clauses.contains c.number &&
      !clauses.any fun d => d.parent = some c.number && l.clauses.contains d.number
  let rarities := others.map fun c =>
    match c.bounds.find? fun b => Loop.isEquality b.kind with
    | some b => if b.isCommon then 10 else 20
    | none => (0 : Estimate)
  let out := l.out - others.length
  { l with out := min out (rows - rarities.foldl max 0) }

/-- The cost of going through part of an order. -/
def Candidate.stepCost (s : Candidate) (o : Order) (rows : Estimate) : Estimate :=
  if o.isNumbers then rows + 16 else rows + 1 + 15 * o.width / s.width

/-! ### Loops by an order -/

/-- What is known of a loop on the way through the terms of its order. -/
structure Progress where
  needs : List Nat
  out : Estimate
  factor : Estimate := 0
  clauses : List Nat := []
  fixed : List BoundKind := []

/-- The estimate of a range of rows. -/
def rangeRows (out : Estimate) (bounds : List BoundKind) : Estimate :=
  let less (k : BoundKind) : Nat := if k = .isSomething then 0 else 20
  let fewer := out - sumOf (bounds.map less) - if bounds.length = 2 then 20 else 0
  min (out - bounds.length) (max fewer 10)

/-- The loop for what is known, with the estimate of its rows before membership counts. -/
def finishLoop (s : Candidate) (o : Order) (clauses : List Clause) (p : Progress) (out : Estimate)
    (hasRange : Bool) : Loop :=
  let whole := o.rows.headD 0
  let search := Estimate.plus (Estimate.logarithm whole) (s.stepCost o out)
  let needsTable := !(o.isNumbers || o.covers)
  let run := if needsTable then search.plus (out + 16) else search
  let last := p.fixed.getLast?
  let isNumber := (o.targets.getD (p.fixed.length - 1) default).isNumber
  let isOneRow := !hasRange && last.any Loop.isEquality &&
    (isNumber || p.factor = 0 && p.fixed.length = o.count &&
      (o.isDistinct || o.count = 1 && o.isUnique && last = some .equal))
  reduced clauses whole {
    source := s.place
    access := .order o
    needs := p.needs
    run := run + p.factor
    out := out + p.factor
    clauses := p.clauses
    fixed := p.fixed
    isOneRow := isOneRow
    hasRange := hasRange
    isCovering := o.covers && !o.isNumbers }

/-- The bounds of a target that some source must not set itself. -/
def Candidate.boundsOn (s : Candidate) (clauses : List Clause) (t : Target) :
    List (Clause × Bound) :=
  clauses.flatMap fun c =>
    let fitsJoin := match c.join with
      | some j => j = s.place
      | none => !(s.keepsLeft || s.keepsRight || s.isBeforeKept)
    if !fitsJoin then []
    else (c.bounds.filter fun b =>
      t.fits s.place b && !(Use.sources b.uses).contains s.place).map fun b => (c, b)

/-- The progress with a further clause. -/
def Progress.using (p : Progress) (c : Clause) (b : Bound) : Progress :=
  { p with
    needs := (p.needs ++ Use.sources b.uses ++
      (c.join.toList.flatMap fun _ => c.sources.filter (· != b.source))).eraseDups
    clauses := p.clauses ++ [c.number] }

/-- The loops that go by an order, fixing more and more of its terms. -/
def loopsFrom (s : Candidate) (o : Order) (clauses : List Clause) :
    List Target → Progress → List Loop
  | [], _ => []
  | t :: ts, p =>
    (s.boundsOn clauses t).flatMap fun (c, b) =>
      let q := p.using c b
      let nullFree := (b.kind = .isNull || b.kind = .isSomething) && !t.isNullable
      if nullFree then []
      else
        match b.kind with
        | .above | .isSomething =>
          let out := rangeRows p.out [b.kind]
          let upper := (s.boundsOn clauses t).filter fun (_, b) => b.kind = .below
          finishLoop s o clauses q out true :: upper.map fun (c', b') =>
            finishLoop s o clauses (q.using c' b') (rangeRows p.out [b.kind, .below]) true
        | .below => [finishLoop s o clauses q (rangeRows p.out [.below]) true]
        | kind =>
          let n := p.fixed.length
          let fewer := o.rows.getD (n + 1) 0 - o.rows.getD n 0
          let out := p.out + fewer + if kind = .isNull then 10 else 0
          let factor := match kind with
            | .oneOf (some count) => estimate count
            | .oneOf none => 46
            | _ => 0
          let q := { q with fixed := q.fixed ++ [kind], factor := p.factor + factor }
          finishLoop s o clauses q out false :: loopsFrom s o clauses ts { q with out := out }

/-! ### All loops -/

/-- Whether a loop may be wanted for the order in which its rows come. -/
abbrev Wanted := Order → Bool

/-- The order holds all rows that a query can find. -/
def Order.isUsable (o : Order) (s : Candidate) (clauses : List Clause) : Bool :=
  let counted := clauses.filter fun c => c.parent.isNone &&
    (match c.join with
      | some j => j = s.place
      | none => !(s.keepsLeft || s.keepsRight))
  let isPresent (column : Option Nat) : Bool := counted.any fun c =>
    c.bounds.any fun b => b.source = s.place && b.column = column && b.expression.isNone &&
      b.kind != .isNull && b.kind != .same
  !o.isPartial || !s.isBeforeKept &&
    (o.conditions.all fun k => counted.any (·.key = k)) && o.present.all isPresent

/-- The loops through a whole order. -/
def wholeLoops (s : Candidate) (clauses : List Clause) (needs : List Nat) (wanted : Bool)
    (allowsCovering : Bool) (o : Order) : List Loop :=
  let rows := o.rows.headD 0
  let l : Loop := { source := s.place, access := .order o, needs := needs, out := rows }
  if o.isNumbers then [reduced clauses s.rows { l with run := rows + 16, out := s.rows }]
  else if wanted || !s.hasNumbers || o.isPartial || s.isForced ||
      o.covers && o.width < s.width && allowsCovering then
    let steps := rows + 1 + 15 * o.width / s.width
    let covered := o.targets.filterMap (·.column)
    let isCovered (c : Clause) : Bool := c.uses.all fun u =>
      u.level != 0 || u.source != s.place || u.column.all covered.contains
    let first := (clauses.filter (·.parent.isNone)).takeWhile isCovered
    let rare := first.filter fun c => c.bounds.any fun b => Loop.isEquality b.kind
    let lookups := rows + 16 - first.length - 19 * rare.length
    let run := if o.covers || o.isOwn then steps else steps.plus lookups
    [reduced clauses rows { l with run := run, isCovering := o.covers || o.isOwn }]
  else []

/-- The loops by an order that is made for the query. -/
def madeLoops (s : Candidate) (clauses : List Clause) (needs : List Nat) : List Loop :=
  if !s.allowsOwnOrder then []
  else
    let search := Estimate.logarithm s.rows
    clauses.flatMap fun c =>
      let usable := c.bounds.filter fun b =>
        b.source = s.place && b.column.isSome && Loop.isEquality b.kind &&
          !(Use.sources b.uses).contains s.place &&
          (c.join.isNone && !s.keepsLeft || c.join = some s.place)
      (usable.take 1).map fun b => {
        source := s.place
        access := .made [{ column := b.column, affinity := b.affinity, collation := b.collation }]
        needs := (needs ++ Use.sources b.uses).eraseDups
        setup := max 0 (search + s.rows + if s.isComputed then -25 else 28)
        run := search.plus 43
        out := 43
        clauses := [c.number]
        fixed := [b.kind] }

/-- The loops over a source by its orders. -/
def Candidate.orderLoops (s : Candidate) (clauses : List Clause) (needs : List Nat)
    (wanted : Wanted) (allowsCovering : Bool) : List Loop :=
  s.orders.zipIdx.flatMap fun (o, i) =>
    if !o.isUsable s clauses then []
    else
      let group := if wanted o then i + 1 else 0
      let whole := wholeLoops s clauses needs (wanted o) allowsCovering o
      let bounded := loopsFrom s o clauses o.targets { needs := needs, out := o.rows.headD 0 }
      (whole ++ bounded).map fun l => { l with sortGroup := group }

/-- What the rows of several alternatives cost together. -/
structure Sum where
  needs : List Nat
  run : Estimate
  out : Estimate

/-- The sums with a further one, unless another one is as good. -/
def insertSum (sums : List Sum) (s : Sum) : List Sum :=
  if sums.any fun t => t.run ≤ s.run && t.needs.all s.needs.contains then sums
  else
    let kept := sums.filter fun t => !(s.run ≤ t.run && s.needs.all t.needs.contains)
    if kept.length < 3 then kept ++ [s]
    else
      let worst := (kept.map (·.run)).foldl max 0
      if worst ≤ s.run then kept else kept.filter (·.run != worst) ++ [s]

/-- The loops that put together the rows of the alternatives of a choice. -/
def Candidate.unionLoops (s : Candidate) (needs : List Nat) (allowsCovering : Bool)
    (choice : Choice) : List Loop :=
  let sumsOf (a : Alternative) : List Sum :=
    let loops := s.orderLoops a.clauses needs (fun _ => false) allowsCovering
    (loops.filter (·.isConstrained)).foldl
      (fun sums l => insertSum sums ⟨l.needs, l.run, l.out⟩) []
  let together (sums : List Sum) (more : List Sum) : List Sum :=
    (sums.flatMap fun a => more.map fun b => (a, b)).foldl
      (fun found (a, b) =>
        insertSum found ⟨(a.needs ++ b.needs).eraseDups, a.run.plus b.run, a.out.plus b.out⟩) []
  match choice.alternatives.map sumsOf with
  | [] => []
  | first :: more =>
    (more.foldl together first).map fun sum => {
      source := s.place, access := .union choice, needs := sum.needs, run := sum.run + 1
      out := sum.out, clauses := [choice.number] }

/-! ## Sets of loops -/

namespace Loops

/-- One loop uses fewer clauses than another one, and costs less in some respect. -/
def isCheaperPart (l m : Loop) : Bool :=
  l.clauses.length < m.clauses.length && !(m.run < l.run && m.out < l.out) &&
    l.clauses.all m.clauses.contains && !(l.isCovering && !m.isCovering)

/-- The loop with its costs set right: a loop that uses more clauses than another is not worse. -/
def adjusted (loops : List Loop) (l : Loop) : Loop :=
  if !l.isIndexed then l
  else
    (loops.filter fun m => m.source = l.source && m.isIndexed).foldl (fun l m =>
      if isCheaperPart m l then { l with run := min m.run l.run, out := min (m.out - 1) l.out }
      else if isCheaperPart l m then
        { l with run := max m.run l.run, out := max (m.out + 1) l.out }
      else l) l

/-- What becomes of a loop beside another one that was there before. -/
inductive Contest where
  | both
  | old
  | new

/-- What becomes of a loop beside another one that was there before. -/
def contest (old new : Loop) : Contest :=
  let oldNeeds := old.needs.all new.needs.contains
  let newNeeds := new.needs.all old.needs.contains
  if old.source != new.source || old.sortGroup != new.sortGroup then .both
  else if old.isMade && new.isIndexed && new.fixed.any Loop.isEquality && newNeeds then .new
  else if oldNeeds && old.setup ≤ new.setup && old.run ≤ new.run && old.out ≤ new.out then .old
  else if newNeeds && new.run ≤ old.run && new.out ≤ old.out then .new
  else .both

/-- Loops in which one is put in the place of those that it beats, or left out. -/
def place (new : Loop) : (isPlaced : Bool) → List Loop → Option (List Loop)
  | isPlaced, [] => some (if isPlaced then [] else [new])
  | isPlaced, old :: rest =>
    match contest old new with
    | .both => (place new isPlaced rest).map (old :: ·)
    | .old => if isPlaced then some (old :: rest) else none
    | .new => if isPlaced then place new true rest else (place new true rest).map (new :: ·)

/-- Loops with a further one. -/
def insert (loops : List Loop) (l : Loop) : List Loop :=
  (place (adjusted loops l) false loops).getD loops

end Loops

/-- The loop over rows that are computed. -/
def Candidate.computedLoop (s : Candidate) (needs : List Nat) (c : Computation) : Loop where
  source := s.place
  access := .order { targets := [], count := 0, isNumbers := true }
  needs := (needs ++ c.needs).eraseDups
  run := c.run
  out := c.out
  isOpaque := true

/-- The loops over a source that are worth a look, behind those over other sources. -/
def Candidate.addLoops (s : Candidate) (conditions : Conditions) (needs : List Nat)
    (wanted : Wanted) (allowsCovering : Bool) (loops : List Loop) : List Loop :=
  match s.computation with
  | some c => Loops.insert loops (s.computedLoop needs c)
  | none =>
  let made := madeLoops s conditions.clauses needs
  let ordered := s.orderLoops conditions.clauses needs wanted allowsCovering
  let unions := conditions.choices.flatMap fun c =>
    if s.isComputed || s.keepsLeft || s.keepsRight then []
    else s.unionLoops needs allowsCovering c
  (made ++ ordered ++ unions).foldl Loops.insert loops

end SchemaEvolution.Database.Plan
