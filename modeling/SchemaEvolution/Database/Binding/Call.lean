import SchemaEvolution.Database.Binding.Basic
import SchemaEvolution.Database.Depth
import SchemaEvolution.Database.Function.Clock
import SchemaEvolution.Database.Function.Library
import SchemaEvolution.Database.Window

/-!
# The meanings of calls

A call of a scalar function has a meaning of its own.  A call of an aggregate function belongs to
the innermost query on whose sources its arguments depend, and one of a window function to the query
around it: it is noted there, and its meaning is the result that the query computes.
-/

namespace SchemaEvolution.Database.Binding

/-- The key of something made of parts. -/
def keyOf (name : String) (parts : List Meaning) : String :=
  name ++ "(" ++ ",".intercalate (parts.map (·.key)) ++ ")"

/-- The meaning of an expression made of others. -/
def composite (key : String) (parts : List Meaning) (value : Env → Except Stop Cell) : Meaning where
  value := value
  collation := (parts.find? (·.isCollated)).bind (·.collation)
  isCollated := parts.any (·.isCollated)
  uses := parts.flatMap (·.uses)
  key := key
  isAggregate := parts.any (·.isAggregate)
  isWindowed := parts.any (·.isWindowed)

/-! ## What may not stand everywhere -/

/-- Something that gives different results may not stand in an index or a computed column. -/
def nonDeterministic (ctx : Context) : Bind Unit := do
  if ctx.place != .anywhere && ctx.place != .check then
    Bind.pend (.prohibited "non-deterministic functions" ctx.place.words)

/-- A query may not stand in a definition. -/
def prohibitQueries (ctx : Context) : Bind Unit := do
  if ctx.place != .anywhere then Bind.stop (.prohibited "subqueries" ctx.place.words)

/-! ## Scalar functions -/

/-- What a function gives, or its fault. -/
def ofFunction {α : Type} (result : Except Fault α) : Except Stop α :=
  result.mapError .abort

/-- The first of some expressions that is something; those behind it do not count. -/
def firstPresent (env : Env) : List Meaning → Except Stop Cell
  | [] => .ok .null
  | m :: ms => do
    let c ← m.value env
    if c.isNull then firstPresent env ms else return c

/-- Whether the first of some expressions that is something holds a document. -/
def firstIsDocument (env : Env) : List Meaning → Except Stop Bool
  | [] => .ok false
  | m :: ms => do
    let c ← m.value env
    if c.isNull then firstIsDocument env ms else m.isDocument env

/-- What a function gives where it stands; in a definition the present may not count for it. -/
def resultAt (place : Place) (f : ScalarFunction) (env : Env) (collation : Collation)
    (cells : List Cell) : Except Stop Cell := do
  if place != .anywhere && f.usesClock cells then
    throw (.abort (.clockMisused f.name place.definition))
  ofFunction (f.run env.database collation cells)

/-- The kind of a cell that is known to hold a document, as a number. -/
def documentSubtype : Int64 := 74

/-- A function gives one of its arguments as it is. -/
def passesOn (name : String) : Bool :=
  ["min", "max", "nullif", "likely", "unlikely", "likelihood"].contains name

/-- The meaning of a call of a scalar function. -/
def scalarMeaning (place : Place) (f : ScalarFunction) (arguments : List Meaning) : Meaning :=
  let key := keyOf f.name arguments
  let collation := (arguments.findSome? (·.collation)).getD .binary
  match f.name, arguments with
  | "coalesce", ms | "ifnull", ms =>
    { composite key arguments fun env => firstPresent env ms with
      isDocument := fun env => firstIsDocument env ms }
  | "iif", [c, x, y] =>
    { composite key arguments fun env => do
        if ← c.holds env then x.value env else y.value env with
      isDocument := fun env => do
        if ← c.holds env then x.isDocument env else y.isDocument env }
  | "subtype", [m] =>
    composite key arguments fun env => do
      let isDocument := !(← m.value env).isNull && (← m.isDocument env)
      return .integer (if isDocument then documentSubtype else 0)
  | name, _ =>
    let run (env : Env) : Except Stop Cell := do
      resultAt place f env collation (← arguments.mapM (·.value env))
    { composite key arguments run with
      isDocument := fun env => do
        if !passesOn name then return false
        let result ← run env
        let given ← arguments.mapM fun m => do return (← m.value env, m)
        match given.find? (·.1 == result) with
        | some (_, m) => m.isDocument env
        | none => return false }

/-- The meaning of a call that gives something by chance. -/
def chanceMeaning (f : ScalarFunction) (run : UInt64 → List Cell → Except Fault Cell)
    (arguments : List Meaning) : Bind Meaning := do
  let place := (← get).chances
  modify fun s => { s with chances := s.chances + 1 }
  return composite (keyOf f.name arguments) arguments fun env => do
    let cells ← arguments.mapM (·.value env)
    ofFunction (run (Chance.seed place env) cells)

/-! ## Functions of documents -/

/-- The value of an expression as an argument of a function of documents. -/
def argumentOf (m : Meaning) (env : Env) : Except Stop Argument := do
  return { cell := ← m.value env, isDocument := ← m.isDocument env }

/-- The meaning of a call of a function of documents. -/
def documentMeaning (f : DocumentFunction) (arguments : List Meaning) : Meaning :=
  { composite (keyOf f.name arguments) arguments fun env => do
      ofFunction (f.run (← arguments.mapM fun m => argumentOf m env)) with
    isDocument := fun env => do
      return f.givesDocument (← arguments.mapM fun m => argumentOf m env) }

/-- The meaning of an expression as a part of a document is written. -/
def writtenMeaning (m : Meaning) : Meaning :=
  { m with
    value := fun env => do
      return .text (String.ofList (← ofFunction (← argumentOf m env).write))
    affinity := none
    decision := none
    isDocument := fun _ => .ok false }

/-- The arguments of a function of several rows, with one written as a part of a document if the
function asks for that. -/
def gathered (f : AggregateFunction) (arguments : List Meaning) : List Meaning :=
  arguments.zipIdx.map fun (m, i) => if f.written = some i then writtenMeaning m else m

/-! ## Patterns -/

/-- The bounds that a pattern sets to a text, if it begins with characters that stand for
themselves. -/
def patternShape (ctx : Context) (f : ScalarFunction) (arguments : List Meaning)
    (literalPattern : Option String) : Shape :=
  match literalPattern, arguments with
  | some pattern, [_, m] =>
    let isLike := f.name == "like"
    let stops := if isLike then "%_" else "*?["
    let front := pattern.toList.takeWhile fun c => !stops.toList.contains c
    let collation : Collation :=
      if isLike && !ctx.database.isOn .caseSensitiveLike then .nocase else .binary
    match m.column with
    | some u =>
      if front.isEmpty || u.level != 0 || m.affinity != some .text then .other
      else
        let bound (kind : BoundKind) : Bound :=
          { source := u.source, column := u.column, kind := kind, affinity := .text,
            collation := collation }
        .implied [[bound .above], [bound .below]]
    | none => .other
  | _, _ => .other

/-- The text of an expression that is one. -/
def literalText? : Expression → Option String
  | .literal (.text s) => some s
  | _ => none

/-! ## Aggregate functions -/

/-- The level of the query to which a call belongs. -/
def ownLevel (uses : List Use) : Nat :=
  ((uses.map (·.level)).min?).getD 0

/-- The meaning of an expression as seen from a query so many levels up, on which it depends at
most. -/
def outward (levels : Nat) (m : Meaning) : Meaning :=
  let moved (u : Use) : Use := { u with level := u.level - levels }
  { m with
    value := fun env => m.value { env with frames := List.replicate levels {} ++ env.frames }
    isDocument := fun env =>
      m.isDocument { env with frames := List.replicate levels {} ++ env.frames }
    decision := m.decision.map fun decide nothing env =>
      decide nothing { env with frames := List.replicate levels {} ++ env.frames }
    uses := m.uses.map moved
    column := m.column.map moved }

/-- The terms of an order. -/
def orderTerms (inner : Binder) (ctx : Context) (terms : List OrderTerm) : Bind (List SortTerm) :=
  terms.mapM fun t => do
    let m ← inner.one ctx t.expression
    return {
      meaning := m
      collation := collationOf m
      descending := t.descending
      nullsFirst := t.nullsFirst.getD !t.descending }

/-- The name of a function as messages show it. -/
def shownName (c : Call) : String :=
  c.name.text

/-- The meaning of a call of an aggregate function. -/
def aggregateCall (inner : Binder) (ctx : Context) (c : Call) (f : AggregateFunction) :
    Bind Meaning := do
  if !ctx.scope.allowsAggregates then
    Bind.pend (.aggregateMisused (shownName c))
    return .constant .null
  let within := ctx.modifyScope fun s =>
    { s with allowsAggregates := false, allowsWindows := false }
  let arguments := gathered f (← c.arguments.mapM (inner.one within))
  let order ← orderTerms inner within c.order
  let filter ← inner.optional within c.filter
  if c.isDistinct && arguments.length != 1 then Bind.defer .distinctArguments
  let parts := arguments ++ order.map (·.meaning) ++ filter.toList
  let uses := parts.flatMap (·.uses)
  let level := ownLevel uses
  let orderKey := keyOf "order" (order.map (·.meaning)) ++
    "".intercalate (order.map fun t => s!"{t.descending} {t.nullsFirst} ")
  let key := keyOf s!"{f.name} {c.isDistinct} " arguments ++ orderKey
    ++ keyOf "filter" filter.toList
  let noted : AggregateCall := {
    key := key
    written := shownName c
    function := f
    arguments := arguments.map (outward level)
    collation := (arguments.findSome? (·.collation)).getD .binary
    isDistinct := c.isDistinct
    order := order.map fun t => { t with meaning := outward level t.meaning }
    filter := filter.map (outward level)
    extreme := match f.name with
      | "min" => some .lt
      | "max" => some .gt
      | _ => none }
  let found := (← Bind.notesAt level).aggregates
  let place := (found.findIdx? (·.key = key)).getD found.length
  if place = found.length then
    Bind.noteAt level fun n => { n with aggregates := n.aggregates ++ [noted] }
  return {
    value := fun env => .ok ((env.frame level).aggregates.getD place .null)
    uses := uses
    key := key
    isAggregate := level == 0
    isDocument := fun _ => .ok f.givesDocument }

/-! ## Window functions -/

/-- The function that a name of a window function stands for. -/
def windowFunction : String → WindowFunction
  | "row_number" => .rowNumber
  | "rank" => .rank
  | "dense_rank" => .denseRank
  | "percent_rank" => .percentRank
  | "cume_dist" => .cumulativeDistribution
  | "ntile" => .tile
  | "lag" => .lag
  | "lead" => .lead
  | "first_value" => .firstValue
  | "last_value" => .lastValue
  | _ => .nthValue

/-- The distance of an end of a frame as it counts: nothing, unless it is seen to be the same for
all rows before the names in it are looked up. -/
def constantDistance (e : Expression) : Expression :=
  let isPlain : Node → Bool
    | .expression (.call _) => false
    | n => Expression.isConstantNode n
  if (Node.all mostDepth (.expression e)).all isPlain then e else .literal .null

/-- The meaning of a call of a function over a window. -/
def windowCall (inner : Binder) (ctx : Context) (c : Call) (w : Window) (f : WindowFunction) :
    Bind Meaning := do
  if !ctx.scope.allowsWindows then
    Bind.pend (.windowMisused (shownName c))
    return .constant .null
  let within := ctx.modifyScope fun s => { s with allowsWindows := false }
  let aggregate := match f with
    | .aggregate f => some f
    | _ => none
  let bound ← c.arguments.mapM (inner.one within)
  let arguments := match aggregate with
    | some f => gathered f bound
    | none => bound
  let w : Window ← Bind.lift (w.resolved ctx.scope.windows)
  if c.isDistinct then Bind.defer .distinctWindow
  if c.filter.isSome && aggregate.isNone then Bind.stop .filterOfWindow
  let partition ← orderTerms inner within (w.partition.map fun e => { expression := e })
  let order ← orderTerms inner within w.order
  let filter ← inner.optional within c.filter
  let firstDistance ← inner.optional within (w.firstDistance.map constantDistance)
  let lastDistance ← inner.optional within (w.lastDistance.map constantDistance)
  if w.unit = .range && (firstDistance.isSome || lastDistance.isSome) && order.length != 1 then
    Bind.stop .rangeWithoutOrder
  let parts := arguments ++ (partition ++ order).map (·.meaning) ++ filter.toList ++
    firstDistance.toList ++ lastDistance.toList
  let place := (← Bind.notesAt 0).windows.length
  let noted : WindowCall := {
    key := s!"window{place}"
    function := f
    arguments := arguments
    collation := (arguments.findSome? (·.collation)).getD .binary
    filter := filter
    partition := partition
    order := order
    unit := w.unit
    first := w.first
    firstDistance := firstDistance
    last := w.last
    lastDistance := lastDistance
    exclusion := w.exclusion }
  Bind.noteAt 0 fun n => { n with windows := n.windows ++ [noted] }
  return {
    value := fun env => .ok ((env.frame 0).windows.getD place .null)
    uses := parts.flatMap (·.uses)
    key := s!"window{place}"
    isAggregate := parts.any (·.isAggregate)
    isWindowed := true
    isDocument := fun _ => .ok (aggregate.any (·.givesDocument)) }

/-! ## Calls -/

/-- The second argument of `likelihood` is a number between zero and one. -/
def isLikelihood : Expression → Bool
  | .numeral cs =>
    match numberToken false cs with
    | some (.real x) => (Cell.compareRatios x.ratio (1, 1)).isLE
    | _ => false
  | _ => false

/-- The arguments of a call that was given up, for the faults in them. -/
def abandoned (inner : Binder) (ctx : Context) (c : Call) : Bind Meaning := do
  let _ ← c.arguments.mapM (inner.one ctx)
  return .constant .null

/-- The meaning of a call. -/
def call (inner : Binder) (ctx : Context) (c : Call) : Bind Meaning := do
  let name := shownName c
  match Library.find name c.arguments.length, c.window with
  | .unknown, _ =>
    match ctx.functions with
    | .known => Bind.pend (.noSuchFunction name)
    | .any => pure ()
    | .ofDefault => Bind.defer (.unknownDefaultFunction name)
    abandoned inner ctx c
  | .wrongCount, _ =>
    Bind.pend (.wrongArgumentCount name)
    abandoned inner ctx c
  | .scalar f, none =>
    if c.filter.isSome then Bind.pend (.windowClauseMisused "FILTER" name)
    else if !c.order.isEmpty then Bind.pend (.windowClauseMisused "ORDER BY" name)
    if !f.isDeterministic then nonDeterministic ctx
    if f.name == "likelihood" && !(c.arguments[1]?).any isLikelihood then
      Bind.pend .likelihoodArgument
    let arguments ← c.arguments.mapM (inner.one ctx)
    if let some run := f.chance then return ← chanceMeaning f run arguments
    let m := scalarMeaning ctx.place f arguments
    if f.name == "like" || f.name == "glob" then
      return { m with
        classes := ⟨true, false, false⟩
        shape := patternShape ctx f arguments (c.arguments.head?.bind literalText?) }
    return m
  | .document f, none =>
    if c.filter.isSome then Bind.pend (.windowClauseMisused "FILTER" name)
    else if !c.order.isEmpty then Bind.pend (.windowClauseMisused "ORDER BY" name)
    return documentMeaning f (← c.arguments.mapM (inner.one ctx))
  | .scalar _, some _ | .document _, some _ =>
    Bind.pend (.notWindowFunction name)
    abandoned inner ctx c
  | .aggregate f, none =>
    if ctx.functions = .ofDefault then
      Bind.defer (.unknownDefaultFunction name)
      return .constant .null
    aggregateCall inner ctx c f
  | .aggregate f, some w => windowCall inner ctx c w (.aggregate f)
  | .window _, none =>
    Bind.pend (.windowMisused name)
    abandoned inner ctx c
  | .window n, some w => windowCall inner ctx c w (windowFunction n)

end SchemaEvolution.Database.Binding
