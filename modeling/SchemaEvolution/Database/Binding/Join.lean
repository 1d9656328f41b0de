import SchemaEvolution.Database.Binding.Basic

/-!
# Joins

The rows of the sources of a query are put together source by source, in the order of a plan.  What
comes of it are frames: each has a row of every source, or none of one that has no match.

* `JoinStep.run` joins the rows of one source to the frames so far.
* `Joining.frames` gives all frames of a query.
-/

namespace SchemaEvolution.Database.Binding

/-! ## Rows of one source -/

/-- The frame with a row of one more source. -/
def withRow (f : Frame) (place : Nat) (row : SourceRow) : Frame :=
  { f with rows := f.rows.set place (some row) }

/-- Conditions all hold in an environment. -/
def allHold (conditions : List Meaning) (env : Env) : Except Stop Bool :=
  conditions.allM fun m => m.holds env

namespace Leaf

/-- Rows in one of the orders of a source. -/
def inOrder (l : Leaf) (db : Database) (order : Nat) (rows : List SourceRow) :
    Except Stop (List SourceRow) :=
  match order with
  | 0 => .ok rows
  | n + 1 =>
    match l.orders[n]? with
    | some o => o.sorted db rows
    | none => .ok rows

/-- Rows in the order of some columns. -/
def byColumns (columns : List Nat) (rows : List SourceRow) : List SourceRow :=
  let terms : List SortTerm := columns.map fun _ => { meaning := default, collation := .binary }
  let keyed := rows.map fun row => (columns.map fun c => row.get (some c), row)
  (sortBy (SortTerm.compareAll terms) keyed).map Prod.snd

/-- The rows of which an alternative holds, each alternative in its order or the other way round,
and each row once. -/
def byAlternatives (l : Leaf) (env : Env) (f : Frame) (isReversed : Bool)
    (rows : List SourceRow) : List (Plan.Alternative × Nat) → Except Stop (List SourceRow)
  | [] => .ok []
  | (a, order) :: parts => do
    let inOrder ← l.inOrder env.database order rows
    let ordered := if isReversed then inOrder.reverse else inOrder
    let fits (row : SourceRow) : Except Stop Bool :=
      a.holds (env.push (withRow f l.place row))
    let found ← ordered.filterM fits
    let rest ← l.byAlternatives env f isReversed (rows.filter fun row => !found.contains row) parts
    return found ++ rest

end Leaf

/-! ## Steps -/

/-- A step that joins a source to those before it. -/
structure JoinStep where
  leaf : Leaf
  step : Plan.Step
  /-- The conditions that say what matches. -/
  matching : List Meaning := []
  /-- The conditions that hold from this source on. -/
  following : List Meaning := []

namespace JoinStep

/-- The rows of the source in the order of the plan, as far as that does not depend on a frame. -/
def rows (s : JoinStep) (demand : Demand) (env : Env) (f : Frame) :
    Except Stop (List SourceRow) := do
  let rows ← s.leaf.rows (if s.step.isReversed then {} else demand) (env.push f)
  let turned (rows : List SourceRow) : List SourceRow :=
    if s.step.isReversed then rows.reverse else rows
  match s.step.way with
  | .order n => return turned (← s.leaf.inOrder env.database n rows)
  | .columns columns => return turned (Leaf.byColumns columns rows)
  | .union _ => return rows

/-- The rows to try for a frame. -/
def candidates (s : JoinStep) (env : Env) (f : Frame) (rows : List SourceRow) :
    Except Stop (List SourceRow) := do
  let rows ← if s.leaf.isLateral then s.rows {} env f else pure rows
  match s.step.way with
  | .union parts => s.leaf.byAlternatives env f s.step.isReversed rows parts
  | _ => return rows

/-- The rows that match a frame. -/
def found (s : JoinStep) (env : Env) (f : Frame) (rows : List SourceRow) :
    Except Stop (List SourceRow) := do
  (← s.candidates env f rows).filterM fun row =>
    allHold s.matching (env.push (withRow f s.leaf.place row))

/-- The frames with a row of the source. -/
def run (s : JoinStep) (demand : Demand) (env : Env) (empty : Frame) (frames : List Frame) :
    Except Stop (List Frame) := do
  let rows ← if s.leaf.isLateral then pure [] else s.rows demand env empty
  let matches' ← frames.mapM fun f => do return (f, ← s.found env f rows)
  let joined := matches'.flatMap fun (f, found) =>
    if found.isEmpty && s.leaf.join.keepsLeft then [f]
    else found.map (withRow f s.leaf.place)
  let alone :=
    if s.leaf.join.keepsRight then
      (rows.filter fun row => !matches'.any (·.2.contains row)).map
        (withRow empty s.leaf.place)
    else []
  (joined ++ alone).filterM fun f => allHold s.following (env.push f)

end JoinStep

/-! ## Joining -/

/-- How the frames of a query are made. -/
structure Joining where
  /-- A frame without rows. -/
  empty : Frame
  /-- The conditions that depend on no source. -/
  first : List Meaning
  steps : List JoinStep

namespace Joining

/-- The conditions as they are reached on the way through the sources. -/
def stepsOf (leaves : List Leaf) (hasKept : Bool) (conditions : List Plan.Condition) :
    (known : List Nat) → List Plan.Step → List JoinStep
  | _, [] => []
  | known, step :: steps =>
    let after := known ++ [step.source]
    let isLast := steps.isEmpty
    let isReached (c : Plan.Condition) : Bool :=
      let sources := Use.sources c.meaning.uses
      if hasKept then isLast
      else isLast || sources.all after.contains
    let (now, later) := conditions.partition fun c =>
      match c.join with
      | some place => place = step.source
      | none => isReached c
    match leaves.find? (·.place = step.source) with
    | none => stepsOf leaves hasKept later after steps
    | some leaf => {
        leaf := leaf
        step := step
        matching := (now.filter (·.join.isSome)).map (·.meaning)
        following := (now.filter (·.join.isNone)).map (·.meaning) } ::
      stepsOf leaves hasKept later after steps

/-- How the frames of a query are made, by the steps of a plan. -/
def of (offset : Nat) (leaves : List Leaf) (conditions : List Plan.Condition)
    (steps : List Plan.Step) : Joining :=
  let isFree (c : Plan.Condition) : Bool :=
    c.join.isNone && (Use.sources c.meaning.uses).isEmpty
  let (free, bound) := conditions.partition isFree
  let hasKept := leaves.any (·.join.keepsRight)
  { empty := { rows := List.replicate (offset + leaves.length) none }
    first := free.map (·.meaning)
    steps := stepsOf leaves hasKept bound [] steps }

/-- All frames of a query, of a single source only as many as are wanted and accepted. -/
def frames (j : Joining) (count : Option Nat) (accepts : Env → Except Stop Bool) (env : Env) :
    Except Stop (List Frame) := do
  if !(← allHold j.first (env.push j.empty)) then return []
  match j.steps with
  | [s] =>
    let acceptsRow (row : SourceRow) : Except Stop Bool := do
      let env := env.push (withRow j.empty s.leaf.place row)
      if ← allHold (s.matching ++ s.following) env then accepts env else return false
    s.run { count := count, accepts := acceptsRow } env j.empty [j.empty]
  | steps =>
    steps.foldlM (fun frames s => s.run {} env j.empty frames) [j.empty]

end Joining

end SchemaEvolution.Database.Binding
