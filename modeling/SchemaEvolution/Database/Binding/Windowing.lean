import SchemaEvolution.Database.Binding.Group

/-!
# Windows

A window function gives a cell for each row, of the rows around it.  The rows are put into
partitions and sorted; the frame of a row is the part of its partition that counts for it.

* `WindowCall.frame` is the frame of a row.
* `WindowCall.results` gives the cells of all rows, in the order in which the window puts them.
-/

namespace SchemaEvolution.Database.Binding

/-- A row of a partition: its environment, the cells of the order, and the number of its peers'
group. -/
structure WindowRow where
  env : Env
  key : List Cell
  group : Nat

namespace WindowCall

/-! ## Partitions -/

/-- A list of rows with their groups of peers numbered. -/
def numbered (order : List SortTerm) : (group : Nat) → List (List Cell × Env) → List WindowRow
  | _, [] => []
  | group, [(key, env)] => [⟨env, key, group⟩]
  | group, (key, env) :: (next, env') :: rest =>
    let isPeer := (SortTerm.compareAll order key next).isEq
    ⟨env, key, group⟩ :: numbered order (if isPeer then group else group + 1) ((next, env') :: rest)

/-- The partitions of rows, each in its order. -/
def partitions (c : WindowCall) (envs : List Env) : Except Stop (List (List WindowRow)) := do
  let keyed ← envs.mapM fun env => do return (← cellsOf c.order env, env)
  let ordered := (sortBy (SortTerm.compareAll c.order) keyed)
  let parted ← ordered.mapM fun (key, env) => do return (← cellsOf c.partition env, (key, env))
  let groups := neighbours c.partition (sortBy (SortTerm.compareAll c.partition) parted)
  return groups.map (numbered c.order 0)

/-! ## Frames -/

/-- The distance of an end of a frame. -/
def distance (kind edge : String) (isInteger : Bool) (m : Option Meaning) (env : Env) :
    Except Stop Cell := do
  match m with
  | none => return .null
  | some m =>
    let c := (← m.value env).numeric.integral
    let fits : Bool := match c with
      | .integer n => decide (0 ≤ n)
      | .real x => !isInteger && !x.isNegative
      | _ => false
    if fits then return c else throw (.abort (.frameDistance kind edge))

/-- A cell of an order moved by a distance. -/
def moved (descending : Bool) (isBack : Bool) (c distance : Cell) : Cell :=
  match c with
  | .integer _ | .real _ =>
    if isBack == descending then c.add distance else c.subtract distance
  | c => c

/-- A row is at or behind the beginning of a frame. -/
def isBehindStart (c : WindowCall) (start : Cell) (i : Nat) (row : WindowRow) (j : Nat)
    (other : WindowRow) : Bool :=
  let n := start.int64.toInt
  match c.first, c.unit with
  | .unboundedPreceding, _ => true
  | .unboundedFollowing, _ => false
  | .currentRow, .rows => i ≤ j
  | .currentRow, _ => row.group ≤ other.group
  | .preceding, .rows => (i : Int) - n ≤ j
  | .following, .rows => (i : Int) + n ≤ j
  | .preceding, .groups => (row.group : Int) - n ≤ other.group
  | .following, .groups => (row.group : Int) + n ≤ other.group
  | bound, .range =>
    match c.order, row.key, other.key with
    | t :: _, key :: _, cell :: _ =>
      (t.compare (moved t.descending (bound = .preceding) key start) cell).isLE
    | _, _, _ => true

/-- A row is at or before the end of a frame. -/
def isBeforeEnd (c : WindowCall) (stop : Cell) (i : Nat) (row : WindowRow) (j : Nat)
    (other : WindowRow) : Bool :=
  let n := stop.int64.toInt
  match c.last, c.unit with
  | .unboundedFollowing, _ => true
  | .unboundedPreceding, _ => false
  | .currentRow, .rows => j ≤ i
  | .currentRow, _ => other.group ≤ row.group
  | .preceding, .rows => (j : Int) ≤ (i : Int) - n
  | .following, .rows => (j : Int) ≤ (i : Int) + n
  | .preceding, .groups => (other.group : Int) ≤ (row.group : Int) - n
  | .following, .groups => (other.group : Int) ≤ (row.group : Int) + n
  | bound, .range =>
    match c.order, row.key, other.key with
    | t :: _, key :: _, cell :: _ =>
      (t.compare cell (moved t.descending (bound = .preceding) key stop)).isLE
    | _, _, _ => true

/-- A row of a frame is left out. -/
def isExcluded (c : WindowCall) (i : Nat) (row : WindowRow) (j : Nat) (other : WindowRow) : Bool :=
  match c.exclusion with
  | .nothing => false
  | .currentRow => i = j
  | .group => row.group = other.group
  | .ties => row.group = other.group && i != j

/-- The frame of a row within its partition. -/
def frame (c : WindowCall) (rows : List WindowRow) (i : Nat) (row : WindowRow) :
    Except Stop (List Env) := do
  let isInteger := c.unit != .range
  let kind := if isInteger then "integer" else "number"
  let start ← distance kind "starting" isInteger c.firstDistance row.env
  let stop ← distance kind "ending" isInteger c.lastDistance row.env
  let inside := rows.zipIdx.filter fun (other, j) =>
    c.isBehindStart start i row j other && c.isBeforeEnd stop i row j other &&
      !c.isExcluded i row j other
  return inside.map (·.1.env)

/-! ## Functions -/

/-- The cell of an argument. -/
def argument (c : WindowCall) (i : Nat) (env : Env) : Except Stop Cell :=
  match c.arguments[i]? with
  | some m => m.value env
  | none => .ok .null

/-- A quotient as a real number. -/
def quotient (a b : Nat) : Cell :=
  .ofReal ((Binary64.ofInteger a).div? (Binary64.ofInteger b))

/-- The cell of the first argument in a row that is so far away, or the third argument. -/
def away (c : WindowCall) (rows : List WindowRow) (i : Nat) (isBack : Bool) (env : Env) :
    Except Stop Cell := do
  let distance ← if c.arguments.length < 2 then pure (.integer 1) else c.argument 1 env
  let place := if isBack then (Cell.ofNat i).subtract distance else (Cell.ofNat i).add distance
  let found := match place.integral with
    | .integer n => if n < 0 then none else rows[n.toInt.toNat]?
    | _ => none
  match found with
  | some row => c.argument 0 row.env
  | none => c.argument 2 env

/-- The number of the part of a partition that a row is in, if there are so many parts. -/
def tile (parts count i : Nat) : Nat :=
  let size := count / parts
  let longer := count % parts
  if i < longer * (size + 1) then i / (size + 1) + 1
  else if size = 0 then i + 1
  else longer + (i - longer * (size + 1)) / size + 1

/-- What the function gives for a row of a partition. -/
def result (c : WindowCall) (rows : List WindowRow) (i : Nat) (row : WindowRow) :
    Except Stop Cell := do
  let before := (rows.filter (·.group < row.group)).length
  let upTo := (rows.filter (·.group ≤ row.group)).length
  match c.function with
  | .rowNumber => return .ofNat (i + 1)
  | .rank => return .ofNat (before + 1)
  | .denseRank => return .ofNat (row.group + 1)
  | .percentRank =>
    return if rows.length ≤ 1 then quotient 0 1 else quotient before (rows.length - 1)
  | .cumulativeDistribution => return quotient upTo rows.length
  | .tile =>
    let parts := (← c.argument 0 ((rows.head?.map (·.env)).getD row.env)).int64.toInt
    if parts ≤ 0 then
      throw (.abort (.functionFault "argument of ntile must be a positive integer"))
    return .ofNat (tile parts.toNat rows.length i)
  | .lag => c.away rows i true row.env
  | .lead => c.away rows i false row.env
  | .firstValue =>
    match (← c.frame rows i row).head? with
    | some env => c.argument 0 env
    | none => return .null
  | .lastValue =>
    match (← c.frame rows i row).getLast? with
    | some env => c.argument 0 env
    | none => return .null
  | .nthValue =>
    let n := (← c.argument 1 row.env).numeric.integral
    match n with
    | .integer n =>
      if n ≤ 0 then
        throw (.abort (.functionFault "second argument to nth_value must be a positive integer"))
      match (← c.frame rows i row)[n.toInt.toNat - 1]? with
      | some env => c.argument 0 env
      | none => return .null
    | _ => throw (.abort (.functionFault "second argument to nth_value must be a positive integer"))
  | .aggregate f =>
    let envs ← c.frame rows i row
    let call : AggregateCall := {
      key := c.key, function := f, arguments := c.arguments, collation := c.collation
      filter := c.filter }
    call.result envs

/-- A total of the cells of a frame, which changes as the frame goes through a partition: cells come
in at its end, and cells that were part of it are taken away at its beginning. -/
structure Slide where
  total : AggregateFunction.Total := .exact 0
  count : Nat := 0
  /-- The places where the frame begins and ends. -/
  first : Nat := 0
  stop : Nat := 0

/-- The cells of the argument in the rows of a partition that count. -/
def counted (c : WindowCall) (rows : List WindowRow) : Except Stop (List Cell) := do
  let holding ← rows.filterM fun row =>
    match c.filter with
    | some m => m.holds row.env
    | none => .ok true
  let cells ← holding.mapM fun row => c.argument 0 row.env
  return (cells.filter (!·.isNull)).map (·.numeric)

/-- The frame at the next row. -/
def slide (c : WindowCall) (rows : List WindowRow) (s : Slide) (i : Nat) (row : WindowRow) :
    Except Stop Slide := do
  let isInteger := c.unit != .range
  let kind := if isInteger then "integer" else "number"
  let start ← distance kind "starting" isInteger c.firstDistance row.env
  let stop ← distance kind "ending" isInteger c.lastDistance row.env
  let places := rows.zipIdx
  let last := max s.stop
    (places.filter fun (other, j) => c.isBeforeEnd stop i row j other).length
  let first := max s.first (min last
    (places.filter fun (other, j) => !c.isBehindStart start i row j other).length)
  let new ← c.counted ((rows.drop s.stop).take (last - s.stop))
  let old ← c.counted ((rows.drop s.first).take (first - s.first))
  return {
    total := old.foldl (·.remove ·) (new.foldl (·.add ·) s.total)
    count := s.count + new.length - old.length
    first := first
    stop := last }

/-- The cells of the rows of a partition, of a function that is made of a total. -/
def totals (c : WindowCall) (give : AggregateFunction.Total → Nat → Except Fault Cell)
    (all : List WindowRow) : Slide → List (WindowRow × Nat) → Except Stop (List (Env × Cell))
  | _, [] => .ok []
  | s, (row, i) :: rest => do
    let s ← c.slide all s i row
    let cell ← (give s.total s.count).mapError .abort
    return (row.env, cell) :: (← c.totals give all s rest)

/-- The cells of the rows of a partition. -/
def ofPartition (c : WindowCall) (rows : List WindowRow) : Except Stop (List (Env × Cell)) :=
  let apart := rows.zipIdx.mapM fun (row, i) => do return (row.env, ← c.result rows i row)
  match c.function with
  | .aggregate f =>
    match f.ofTotal with
    | some give => if c.exclusion = .nothing then c.totals give rows {} rows.zipIdx else apart
    | none => apart
  | _ => apart

/-- The cells of all rows, each with its row, in the order of the window. -/
def results (c : WindowCall) (envs : List Env) : Except Stop (List (Env × Cell)) := do
  return (← (← c.partitions envs).mapM c.ofPartition).flatten

end WindowCall

/-- The environment with the result of one more window function. -/
def withWindow (place : Nat) (env : Env) (c : Cell) : Env :=
  match env.frames with
  | [] => env
  | f :: fs => { env with frames := { f with windows := f.windows.set place c } :: fs }

/-- The environments with the results of window functions, in the order of the first window. -/
def withWindows (calls : List WindowCall) (envs : List Env) : Except Stop (List Env) :=
  let empty := calls.map fun _ => Cell.null
  let start := envs.map fun env =>
    match env.frames with
    | [] => env
    | f :: fs => { env with frames := { f with windows := empty } :: fs }
  calls.zipIdx.foldrM (fun (c, i) envs => do
    return (← c.results envs).map fun (env, cell) => withWindow i env cell) start

end SchemaEvolution.Database.Binding
