import SchemaEvolution.Database.Binding.Production
import SchemaEvolution.Database.Binding.Result

/-!
# Selections

The clauses of a selection are looked at in an order that decides which of several faults counts:
the sources, the columns of the result, the condition on groups, that on rows, the order, and the
keys of the groups.  Then a plan is made for going through the sources.

* `Binding.selection` finds the meaning of a selection.
-/

namespace SchemaEvolution.Database.Binding

/-- What is asked of a selection by the query that it is the whole of. -/
structure Request where
  order : List OrderTerm := []
  cut : Cut := {}
  /-- How many rows are wanted, if that is written as a number. -/
  limit : Option Nat := none

/-- A selection with its meaning. -/
structure BoundSelection where
  query : BoundQuery
  results : List Result
  /-- The context of its clauses. -/
  context : Context

/-! ## Terms of orders and groups -/

/-- An expression as a number that is written down. -/
def writtenNumber? : Expression → Option Int
  | .numeral cs => integer? false cs
  | .unary .minus (.numeral cs) => integer? true cs
  | .unary .plus (.numeral cs) => integer? false cs
  | _ => none
where
  /-- The number, if it is a small integer. -/
  integer? (negative : Bool) (cs : List Char) : Option Int :=
    match numberToken negative cs with
    | some (.integer n) => if n.toInt.natAbs < twoTo 31 then some n.toInt else none
    | _ => none

/-- The collation around an expression. -/
def outerCollation (e : Expression) : Bind (Option Collation) := do
  match e with
  | .collated _ n =>
    match Collation.ofName? n.text with
    | some c => return some c
    | none =>
      Bind.defer (.noSuchCollation n.text)
      return none
  | _ => return none

/-- The place of the result that a term stands for: by its alias or by its number. -/
def placeOf? (results : List Result) (clause : String) (i : Nat) (e : Expression) :
    Bind (Option Nat) := do
  let byAlias? : Option Nat :=
    match e with
    | .name [n] =>
      if clause == "ORDER" then results.findIdx? fun r => r.givenName.any (sameName n.text)
      else none
    | _ => none
  match byAlias?, writtenNumber? e with
  | some place, _ => return some place
  | none, some n =>
    if n < 1 ∨ results.length < n then
      Bind.stop (.placeOutOfRange (i + 1) clause results.length)
    return some (n.toNat - 1)
  | none, none => return none

/-- The meaning of a term of an order or group. -/
def sortTerm (inner : Binder) (ctx : Context) (results : List Result) (clause : String) (i : Nat)
    (t : OrderTerm) : Bind SortTerm := do
  let m ←
    match ← placeOf? results clause i (withoutCollation t.expression) with
    | some place =>
      let m := (results[place]?.map (·.meaning)).getD default
      match ← outerCollation t.expression with
      | some c => pure { m with collation := some c, isCollated := true }
      | none => pure m
    | none => Bind.settled (inner.one ctx t.expression)
  return {
    meaning := m, collation := collationOf m, descending := t.descending
    nullsFirst := t.nullsFirst.getD !t.descending }

/-! ## Conditions -/

/-- The name of an aggregate function in an expression. -/
def aggregateName (notes : Notes) (m : Meaning) : String :=
  let isPart (c : AggregateCall) : Bool := occursIn c.key.toList m.key.toList
  ((notes.aggregates.find? isPart).map (·.written)).getD ""

/-- Notes a fault if a condition on single rows contains an aggregate function. -/
def refuseAggregate (m : Meaning) : Bind Unit := do
  if m.isAggregate then
    Bind.defer (.aggregateOfOneRow (aggregateName (← Bind.notesAt 0) m))

/-- The conditions of a selection: that on its rows, and those of its joins. -/
def conditions (inner : Binder) (ctx : Context) (found : Sources) (condition : Option Expression) :
    Bind (List Plan.Condition) := Bind.settled do
  let own ← (condition.toList.flatMap (conjuncts ctx)).mapM (inner.one ctx)
  let hasKept := found.leaves.any (·.join.keepsRight)
  let joined ← found.clauses.mapM fun (e, place) => do
    let isOuter := found.leaves.any fun l =>
      l.place = place && (l.join.keepsLeft || l.join.keepsRight)
    let parts ← (conjuncts ctx e).mapM (inner.one ctx)
    for m in parts do
      if (isOuter || hasKept) && (Use.sources m.uses).any (place < ·) then
        Bind.defer .onClauseReach
    return parts.map fun m =>
      ({ meaning := m, join := if isOuter || hasKept then some place else none } : Plan.Condition)
  let all := own.map (fun m => ({ meaning := m } : Plan.Condition)) ++ found.conditions ++
    joined.flatten
  for c in all do refuseAggregate c.meaning
  return all

/-! ## Plans -/

/-- A term of an order as a plan knows it. -/
def planKey (t : SortTerm) : Plan.Key where
  column := t.meaning.column.filter (·.level = 0)
  expression := t.meaning.key
  uses := t.meaning.uses
  isConstant := t.meaning.isConstant
  collation := t.collation
  descending := t.descending
  movesNulls := t.nullsFirst == t.descending

/-- The term in the order of an aggregate function that takes the least or greatest cell. -/
def extremeKey? (notes : Notes) : Option Plan.Key :=
  match notes.aggregates with
  | [c] =>
    match c.extreme, c.arguments, c.filter with
    | some o, [m], none =>
      some (planKey {
        meaning := m, collation := collationOf m, descending := o == .gt, nullsFirst := o == .gt })
    | _, _, _ => none
  | _ => none

/-- There is but one aggregate function, which takes each cell only once. -/
def hasLoneDistinct (notes : Notes) : Bool :=
  match notes.aggregates with
  | [c] => c.isDistinct
  | _ => false

/-- The same expressions in the same order. -/
def sameTerms (a b : List SortTerm) : Bool :=
  a.length == b.length && (a.zip b).all fun (s, t) =>
    s.meaning.key == t.meaning.key && s.collation == t.collation

/-- The clauses of a selection with their meanings. -/
structure Clauses where
  sources : Sources
  results : List Result
  isAggregate : Bool
  having : Option Meaning
  conditions : List Plan.Condition
  order : List SortTerm
  groups : List SortTerm
  isDistinct : Bool
  /-- Rows are wanted the other way round where no order is asked for. -/
  reverses : Bool := false

namespace Clauses

/-- The meanings of all clauses. -/
def meanings (c : Clauses) : List Meaning :=
  c.results.map (·.meaning) ++ c.conditions.map (·.meaning) ++
    (c.order ++ c.groups).map (·.meaning) ++ c.having.toList

/-- The columns on which the selection depends. -/
def uses (c : Clauses) : List Use :=
  c.meanings.flatMap (·.uses) ++ c.sources.leaves.flatMap (·.uses)

/-- The terms by which results are told apart. -/
def resultTerms (c : Clauses) : List SortTerm :=
  c.results.map fun r => { meaning := r.meaning, collation := collationOf r.meaning }

/-- The keys of the groups, in the directions of the order if they agree in their number. -/
def groupKeys (c : Clauses) : List SortTerm :=
  if c.groups.length = c.order.length then
    (c.groups.zip c.order).map fun (g, o) =>
      { g with descending := o.descending, nullsFirst := !o.descending }
  else c.groups

/-- What an order is asked for, and its terms. -/
def wanted (c : Clauses) (notes : Notes) : Plan.Purpose × List Plan.Key :=
  if !c.groups.isEmpty then (.grouping, c.groupKeys.map planKey)
  else if c.isAggregate then (.extreme, (extremeKey? notes).toList)
  else
    match notes.windows with
    | w :: _ => (.sorting, (w.partition ++ w.order).map planKey)
    | [] =>
      if !c.order.isEmpty then (.sorting, c.order.map planKey)
      else if c.isDistinct then (.distinctness, c.resultTerms.map planKey)
      else (.sorting, [])

/-- The sources with values for what their rows depend on, and the conditions that do not give such
values. -/
def supplied (c : Clauses) : List Leaf × List Plan.Condition :=
  let clauses := (Plan.Conditions.of c.conditions).clauses
  let found := c.sources.leaves.map fun l => l.supplied clauses
  let used := found.flatMap Prod.snd
  let left := c.conditions.zipIdx.filter fun (_, i) => !used.contains i
  (found.map Prod.fst, left.map Prod.fst)

/-- The sources as a plan knows them. -/
def candidates (c : Clauses) : List Plan.Candidate :=
  let uses := c.uses.filter (·.level = 0)
  c.supplied.1.zipIdx.map fun (l, i) =>
    let used := (uses.filter (·.source = l.place)).filterMap (·.column)
    { l.candidate used.eraseDups with
      isBeforeKept := (c.sources.leaves.drop (i + 1)).any (·.join.keepsRight) }

/-- What the plan is made for. -/
def plan (c : Clauses) (notes : Notes) (limit : Option Nat) : Plan.Query :=
  let (purpose, keys) := c.wanted notes
  { candidates := c.candidates
    conditions := .of c.conditions
    keys := keys
    purpose := purpose
    limit := limit.map Plan.estimate
    isDistinct := c.isDistinct
    width := c.results.length
    sortsGroups := !c.groups.isEmpty && sameTerms c.groups c.order
    reverses := c.reverses && !(c.isAggregate && hasLoneDistinct notes) }

/-- By the plan the rows come in the order that is asked for. -/
def isInOrder (c : Clauses) (notes : Notes) (plan : Plan.Query) : Bool :=
  c.order.isEmpty || c.isAggregate && c.groups.isEmpty ||
    notes.windows.isEmpty && plan.path.ordered == some plan.keys.length &&
      (c.groups.isEmpty || plan.sortsGroups)

/-- How the rows are made. -/
def production (c : Clauses) (notes : Notes) (offset : Nat) (request : Request) : Production :=
  let plan := c.plan notes request.limit
  let (leaves, conditions) := c.supplied
  { joining := .of offset leaves conditions plan.steps
    notes := notes
    isAggregate := c.isAggregate
    groups := c.groupKeys
    isOrdered := !c.groups.isEmpty && plan.path.ordered == some plan.keys.length
    having := c.having
    columns := c.results.map (·.meaning)
    distinct := if c.isDistinct then some c.resultTerms else none
    order := c.order
    isInOrder := c.isInOrder notes plan
    cut := request.cut }

/-- The selection as a query that can be read through, if it is one. -/
def plain? (c : Clauses) (notes : Notes) (p : Production) : Option Plain :=
  if c.isAggregate || !notes.windows.isEmpty || c.isDistinct || c.sources.leaves.isEmpty ||
      p.cut.limit.isSome then none
  else some {
    sources := c.sources
    conditions := c.conditions
    columns := p.columns
    order := c.order
    frames := p.joining.frames none fun _ => .ok true }

end Clauses

/-! ## Selections -/

/-- An order or group does not have too many terms. -/
def checkTerms {α : Type} (clause : String) (terms : List α) : Bind Unit := do
  if mostColumns < terms.length then Bind.stop (.tooMany s!"terms in {clause} BY clause")

/-- The clauses of a selection, whose sources are known. -/
def clauses (inner : Binder) (ctx : Context) (s : Selection) (order : List OrderTerm)
    (found : Sources) : Bind (Clauses × Context) := do
  let own := { ctx with offset := 0 }.push {
    sources := found.scope, windows := s.windows, allowsAggregates := true, allowsWindows := true }
  let results ← results inner own s.isValues s.columns
  let isAggregate := !s.groups.isEmpty || !(← Bind.notesAt 0).aggregates.isEmpty
  if ctx.isTraced then
    for w in s.windows do
      for e in w.partition ++ w.order.map (·.expression) do
        let _ ← Bind.settled (inner.one own e)
  let named := own.modifyScope fun scope => { scope with
    allowsAggregates := isAggregate
    allowsWindows := false
    aliases := results.filterMap fun r => r.givenName.map fun n => (n, r.meaning) }
  if s.having.isSome && !isAggregate then Bind.stop .havingWithoutAggregate
  let having ← Bind.settled (inner.optional named s.having)
  let conditions ← conditions inner named found s.condition
  let alone := { named with
    scopes := [{ named.scope with allowsAggregates := true, allowsWindows := true }] }
  checkTerms "ORDER" order
  let order ← order.zipIdx.mapM fun (t, i) => sortTerm inner alone results "ORDER" i t
  if !isAggregate then
    for t in order do refuseAggregate t.meaning
  let plain := alone.modifyScope fun scope => { scope with allowsWindows := false }
  checkTerms "GROUP" s.groups
  let groups ← s.groups.zipIdx.mapM fun (e, i) =>
    sortTerm inner plain results "GROUP" i { expression := e }
  if groups.any (·.meaning.isAggregate) then Bind.stop .aggregateInGroup
  let all : Clauses := {
    sources := found, results := results, isAggregate := isAggregate, having := having
    conditions := conditions, order := order, groups := groups, isDistinct := s.isDistinct
    reverses := ctx.database.isOn .reversedScans }
  return (all, named)

/-- The meaning of a selection. -/
def selection (inner : Binder) (ctx : Context) (s : Selection) (request : Request) :
    Bind BoundSelection := do
  let dropsOrder := !request.order.isEmpty || 1 < s.sources.length
  let found ← sources inner ctx dropsOrder s.sources
  let ((c, within), notes) ← Bind.within (clauses inner ctx s request.order found)
  if mostJoined < found.leaves.length then Bind.defer .tooManyJoined
  let p := c.production notes ctx.offset request
  return {
    query := {
      columns := c.results.map (·.column)
      rows := p.rows
      documents := p.documents
      uses := Use.outward c.uses
      plain := c.plain? notes p
      isAggregate := c.isAggregate
      isWindowed := !notes.windows.isEmpty }
    results := c.results
    context := within }

end SchemaEvolution.Database.Binding
