import SchemaEvolution.Database.Meaning

/-!
# Conditions of a query

The conditions of a query, as far as they help to find rows: each `Clause` is one of several
conditions that all hold, with the bounds that it sets.  A `Choice` is a condition of which one of
several alternatives holds.
-/

namespace SchemaEvolution.Database.Plan

/-- One of several conditions that all hold. -/
structure Clause where
  number : Nat
  /-- The clause from which it follows. -/
  parent : Option Nat := none
  /-- The bounds that it sets, if it is nothing but one of them. -/
  bounds : List Bound := []
  /-- The columns and the sources on which the clause depends. -/
  uses : List Use := []
  sources : List Nat := []
  /-- The source whose join the clause belongs to, if rows without a match stay. -/
  join : Option Nat := none
  /-- A text that is the same for the same conditions. -/
  key : String := ""

/-- One of the conditions of which one holds. -/
structure Alternative where
  clauses : List Clause
  holds : Env → Except Stop Bool

/-- A clause of which one of several alternatives holds. -/
structure Choice where
  number : Nat
  alternatives : List Alternative

/-- The conditions of a query. -/
structure Conditions where
  clauses : List Clause := []
  choices : List Choice := []

/-- A condition with the source whose join it belongs to. -/
structure Condition where
  meaning : Meaning
  join : Option Nat := none

namespace Conditions

/-- The clauses of conditions that all hold; what follows from them stands at the end. -/
def clausesOf (parts : List (Shape × List Use × Option Nat × String)) : List Clause :=
  let own := parts.zipIdx.map fun ((shape, uses, join, key), i) =>
    let bounds := match shape with
      | .bounds bs => bs
      | _ => []
    let sources := Use.sources uses
    { number := i, bounds := bounds, uses := uses, join := join, key := key
      sources := (sources ++ join.toList).eraseDups : Clause }
  let implied := parts.zipIdx.flatMap fun ((shape, uses, join, _), i) =>
    match shape with
    | .implied bss => bss.map fun bs => (i, bs, Use.sources uses, join)
    | _ => []
  own ++ implied.zipIdx.map fun ((i, bs, sources, join), n) =>
    { number := parts.length + n, parent := some i, bounds := bs, sources := sources
      join := join : Clause }

/-- The conditions of which one holds, if there are several. -/
def alternativesOf (shape : Shape) (side : Side) : List (Shape × Side) :=
  match shape with
  | .either a b left right => alternativesOf a left ++ alternativesOf b right
  | shape => [(shape, side)]

/-- The conditions that all hold, if there are several. -/
def partsOf (shape : Shape) (uses : List Use) : List (Shape × List Use) :=
  match shape with
  | .both a b left right => partsOf a left.uses ++ partsOf b right.uses
  | shape => [(shape, uses)]

/-- The alternatives of a condition. -/
def choiceOf? (number : Nat) (m : Meaning) : Option Choice :=
  match alternativesOf m.shape m.side with
  | [] | [_] => none
  | alternatives => some {
      number := number
      alternatives := alternatives.map fun (shape, side) => {
        clauses := clausesOf ((partsOf shape side.uses).map fun (s, uses) => (s, uses, none, ""))
        holds := side.holds } }

/-- The bound that one of several values is equal to a column, if all alternatives say so. -/
def oneOf? (choice : Choice) : Option Bound := do
  let bounds ← choice.alternatives.mapM fun a =>
    match a.clauses with
    | [c] => some (c.bounds.filter (·.kind = .equal))
    | _ => none
  let first ← bounds.head?
  let agrees (b c : Bound) : Bool :=
    b.source = c.source && b.column = c.column && b.expression.isNone && c.expression.isNone &&
      b.affinity == c.affinity && b.collation == c.collation
  let b ← first.find? fun b => bounds.all (·.any (agrees b))
  let uses := bounds.flatMap fun bs => (bs.filter (agrees b)).flatMap (·.uses)
  return { b with kind := .oneOf (some bounds.length), uses := uses, isCommon := false }

/-- The conditions of a query. -/
def of (conditions : List Condition) : Conditions :=
  let clauses := clausesOf <|
    conditions.map fun c => (c.meaning.shape, c.meaning.uses, c.join, c.meaning.key)
  let choices := conditions.zipIdx.filterMap fun (c, i) =>
    if c.join.isSome then none else choiceOf? i c.meaning
  let oneOfs := choices.filterMap fun choice =>
    (oneOf? choice).map fun b => (choice.number, b)
  let more := oneOfs.zipIdx.map fun ((i, b), n) =>
    { number := clauses.length + n, parent := some i, bounds := [b]
      sources := (b.source :: Use.sources b.uses).eraseDups : Clause }
  { clauses := clauses ++ more, choices := choices }

end Conditions

end SchemaEvolution.Database.Plan
