import SchemaEvolution.Database.Binding.Call

/-!
# The meanings of expressions

`Binding.expression` finds the meaning of an expression, given how those of its parts are found.  An
expression has one value, or several if it is a row of values.
-/

namespace SchemaEvolution.Database.Binding

/-! ## Operands -/

/-- The meaning of a number, with the sign before it if it has one. -/
def numeral (negative : Bool) (cs : List Char) : Bind Meaning := do
  match numberToken negative cs with
  | some c => return { Meaning.constant c ((ScalarFunction.quote c).string) with
      classes := ⟨true, false, false⟩ }
  | none =>
    let sign := if negative then ['-'] else []
    Bind.defer (.hexTooBig (String.ofList (sign ++ cs)))
    return .constant .null

/-- The meaning of a literal. -/
def literal (c : Cell) : Meaning where
  value := fun _ => .ok c
  classes := match c with
    | .null => .none
    | .text _ | .rawText _ => ⟨false, true, false⟩
    | .blob _ => ⟨false, false, true⟩
    | _ => ⟨true, false, false⟩
  key := (ScalarFunction.quote c).string

/-- The meaning of a parameter: nothing, as none is given. -/
def parameter (ctx : Context) (written : String) : Bind Meaning := do
  if ctx.place != .anywhere then Bind.pend (.prohibited "parameters" ctx.place.words)
  return { Meaning.constant .null written with classes := {} }

/-- The meaning of the current date or time. -/
def clock (ctx : Context) (word : String) : Bind Meaning := do
  nonDeterministic ctx
  return {
    value := fun env => .ok (.text (Clock.current word env.database.now))
    key := word }

/-! ## Operators -/

/-- The meaning of a truth test. -/
def truthTest (c : Comparison) (wanted : Bool) (m : Meaning) : Meaning :=
  composite s!"({m.key} {repr c} {wanted})" [m] fun env => do
    let isWanted := (← m.value env).truth? == some wanted
    return .ofBool (if c = .same then isWanted else !isWanted)

/-- The bounds that a comparison sets to the side that is compared. -/
def boundsOf (kind : BoundKind) (affinity : Affinity) (collation : Collation) (a b : Meaning) :
    List Bound :=
  let target : Option (Nat × Option Nat × Option String) :=
    match a.column with
    | some u => if u.level = 0 then some (u.source, u.column, none) else none
    | none =>
      match Use.sources a.uses with
      | [source] => some (source, none, some a.key)
      | _ => none
  match target with
  | none => []
  | some (source, column, expression) =>
    if (Use.sources b.uses).contains source then []
    else
      [⟨source, column, expression, kind, b.uses, affinity, collation,
        ["-1", "0", "1"].contains b.key, b.value⟩]

/-- The bounds of a comparison, which it may set to either side. -/
def comparisonShape (c : Comparison) (affinity : Affinity) (collation : Collation) (a b : Meaning) :
    Shape :=
  let sides (left right : BoundKind) : Shape :=
    .bounds (boundsOf left affinity collation a b ++ boundsOf right affinity collation b a)
  match c with
  | .equal => sides .equal .equal
  | .same => sides .same .same
  | .less | .atMost => sides .below .above
  | .greater | .atLeast => sides .above .below
  | .unequal | .different => .other

/-- The meaning of a comparison of two values. -/
def comparison (c : Comparison) (a b : Meaning) : Meaning :=
  let affinity := comparisonAffinity a.affinity b.affinity
  let collation := a.collationWith b
  { composite s!"({a.key} {repr c} {b.key} {collation.name})" [a, b] fun env => do
      return Cell.compared c affinity collation (← a.value env) (← b.value env) with
    shape := comparisonShape c affinity collation a b }

/-- The bounds that follow from a shape, if it is not given by operators between conditions. -/
def impliedBounds : Shape → List (List Bound)
  | .bounds bs => [bs]
  | .implied bss => bss
  | _ => []

/-- The lexicographic comparison of rows of values. -/
def rowComparison (c : Comparison) (as bs : List Meaning) : Meaning :=
  match as, bs with
  | [a], [b] => comparison c a b
  | a :: as, b :: bs =>
    let rest := rowComparison c as bs
    let key := s!"({a.key} {rest.key} {repr c} {b.key})"
    match c with
    | .equal | .same =>
      let first := comparison c a b
      { composite key [a, b, rest] fun env => do
          return Cell.and (← first.value env) (← rest.value env) with
        shape := .implied (impliedBounds first.shape ++ impliedBounds rest.shape) }
    | .unequal | .different =>
      let first := comparison c a b
      composite key [a, b, rest] fun env => do
        return Cell.or (← first.value env) (← rest.value env)
    | .less | .atMost | .greater | .atLeast =>
      let strict : Comparison := if c = .less ∨ c = .atMost then .less else .greater
      let first := comparison strict a b
      let equal := comparison .equal a b
      { composite key [a, b, rest] fun env => do
          let isEqual ← equal.value env
          if isEqual.truth? == some true then rest.value env
          else first.value env with
        shape := .implied <|
          impliedBounds (comparison (if strict = .less then .atMost else .atLeast) a b).shape }
  | _, _ => .constant .null

/-- The meaning of a comparison of values or rows of values. -/
def compared (c : Comparison) (as bs : List Meaning) : Bind Meaning := do
  if as.length != bs.length then Bind.stop .rowMisused
  return rowComparison c as bs

/-- The meaning of two conditions that both hold, or one of them.  As a value it needs both of them;
as a condition it may be settled by the first one. -/
def connective (isAnd : Bool) (a b : Meaning) : Meaning :=
  let word := if isAnd then "and" else "or"
  let combine := if isAnd then Cell.and else Cell.or
  let shape := if isAnd then Shape.both else Shape.either
  { composite s!"({a.key} {word} {b.key})" [a, b] fun env => do
      return combine (← a.value env) (← b.value env) with
    decision := some fun nothing env => do
      let first ← a.decide nothing env
      if first == isAnd then b.decide nothing env else return first
    shape := shape a.shape b.shape a.side b.side }

/-- The meaning of an operator between two expressions. -/
def binary (inner : Binder) (ctx : Context) (op : BinaryOperator) (a b : Expression) :
    Bind Meaning := do
  match op with
  | .compare c =>
    let left ← inner.expression ctx a
    let right ← inner.expression ctx b
    match c, left, right with
    | .same, [x], [y] | .different, [x], [y] =>
      if isTruthWord b && (y.key == "true" || y.key == "false") then
        return truthTest c (y.key == "true") x
      compared c left right
    | _, _, _ => compared c left right
  | .and =>
    if !ctx.isTraced && (a.isPlainlyFalse || b.isPlainlyFalse) then
      return literal (.integer 0)
    return connective true (← inner.one ctx a) (← inner.one ctx b)
  | .or => return connective false (← inner.one ctx a) (← inner.one ctx b)
  | op =>
    let x ← inner.one ctx a
    let y ← inner.one ctx b
    let classes : Classes := if op = .concatenate then ⟨false, true, true⟩ else ⟨true, false, false⟩
    return { composite s!"({x.key} {repr op} {y.key})" [x, y] fun env => do
        return Cell.binary op (← x.value env) (← y.value env) with
      classes := classes }
where
  /-- The expression is a bare name that may be a truth value. -/
  isTruthWord : Expression → Bool
    | .name [_] => true
    | _ => false

/-- The meaning of an operator with one operand. -/
def unary (inner : Binder) (ctx : Context) (op : UnaryOperator) (e : Expression) :
    Bind Meaning := do
  match op, e with
  | .minus, .numeral cs => numeral true cs
  | op, e =>
    let m ← inner.one ctx e
    let result := { composite s!"({repr op} {m.key})" [m] fun env => do
      return Cell.unary op (← m.value env) with classes := ⟨true, false, false⟩ }
    match op with
    | .plus => return { result with
        collation := m.collation, classes := m.classes, isDocument := m.isDocument }
    | .not => return { result with
        decision := some fun nothing env => do return !(← m.decide (!nothing) env) }
    | .isNull => return { result with shape := .bounds (boundsOf .isNull .blob .binary m default) }
    | .notNull =>
      return { result with shape := .implied [boundsOf .isSomething .blob .binary m default] }
    | _ => return result

/-- The meaning of an expression under a collation. -/
def collated (inner : Binder) (ctx : Context) (e : Expression) (name : Name) : Bind Meaning := do
  let m ← inner.one ctx e
  match Collation.ofName? name.text with
  | some c => return { m with
      collation := some c, isCollated := true, column := none, sqlType := ""
      key := s!"{m.key} {c.name}" }
  | none =>
    Bind.defer (.noSuchCollation name.text)
    return m

/-- The meaning of a cast. -/
def cast (inner : Binder) (ctx : Context) (e : Expression) (sqlType : String) : Bind Meaning := do
  let m ← inner.one ctx e
  let affinity := if sqlType.isEmpty then .numeric else Affinity.ofType sqlType
  return { composite s!"cast({m.key} {affinity.typeName})" [m] fun env => do
      return (← m.value env).cast env.database.settings.encoding affinity with
    affinity := some affinity
    collation := m.collation
    classes := .ofAffinity (some affinity)
    isDocument := fun env => if affinity = .text then m.isDocument env else .ok false }

/-- The meaning of a choice. -/
def choice (inner : Binder) (ctx : Context) (base : Option Expression)
    (conditions results : List Expression) (otherwise : Option Expression) : Bind Meaning := do
  let base ← inner.optional ctx base
  let branches ← (conditions.zip results).mapM fun (condition, result) => do
    let c ← inner.one ctx condition
    return (c, ← inner.one ctx result)
  let otherwise ← inner.optional ctx otherwise
  let tests := branches.map fun (c, result) =>
    ((base.map fun b => comparison .equal b c).getD c, result)
  let parts := base.toList ++ (branches.flatMap fun (c, r) => [c, r]) ++ otherwise.toList
  let key := keyOf s!"case {base.isSome} {otherwise.isSome}" parts
  let classes := (branches.map (·.2.classes) ++ otherwise.toList.map (·.classes)).foldl
    Classes.or .none
  return { composite key parts fun env => do
      match ← choose env otherwise tests with
      | some m => m.value env
      | none => return .null with
    classes := classes
    isDocument := fun env => do
      match ← choose env otherwise tests with
      | some m => m.isDocument env
      | none => return false }
where
  /-- The result of the first test that holds. -/
  choose (env : Env) (otherwise : Option Meaning) :
      List (Meaning × Meaning) → Except Stop (Option Meaning)
    | [] => .ok otherwise
    | (test, result) :: rest => do
      if ← test.holds env then return some result else choose env otherwise rest

/-- The meaning of a value between two others. -/
def between (inner : Binder) (ctx : Context) (e low high : Expression) : Bind Meaning := do
  let ms ← inner.expression ctx e
  let lows ← inner.expression ctx low
  let highs ← inner.expression ctx high
  if ms.length != lows.length || ms.length != highs.length then Bind.stop .rowMisused
  let above := rowComparison .atLeast ms lows
  let below := rowComparison .atMost ms highs
  return { connective true above below with
    shape := .implied (impliedBounds above.shape ++ impliedBounds below.shape) }

/-! ## Membership -/

/-- A value is one of some others: nothing if it is not, but one of them is nothing. -/
def membership (equals : List Cell → List Cell → Option Bool) (row : List Cell)
    (rows : List (List Cell)) : Cell :=
  let found := rows.map (equals row)
  if rows.isEmpty then .ofBool false
  else if found.any (· == some true) then .ofBool true
  else if found.any (·.isNone) then .null
  else .ofBool false

/-- Rows are equal: nothing if that depends on a cell that is nothing. -/
def equalRows (sides : List (Affinity × Collation)) (a b : List Cell) : Option Bool :=
  let compared := (sides.zip (a.zip b)).map fun ((affinity, collation), x, y) =>
    (Cell.compared .equal affinity collation (x.stored affinity) (y.stored affinity)).truth?
  if compared.any (· == some false) then some false
  else if compared.any (·.isNone) then none
  else some true

/-- The affinity under which a value is looked up. -/
def lookupAffinity (a : Affinity) : Affinity :=
  if a = .real then .numeric else a

/-- The meaning of membership in a list. -/
def inList (inner : Binder) (ctx : Context) (e : Expression) (es : List Expression) :
    Bind Meaning := do
  if es.isEmpty then return .constant (.ofBool false) "false"
  let left ← inner.expression ctx e
  let items ← es.mapM (inner.expression ctx)
  match left, items, es with
  | [m], [[item]], [only] =>
    if let .subquery q := only then
      return ← inQueryOf inner ctx left q
    if item.isConstant then
      return comparison .equal m { item with affinity := none }
    return listOf m [item]
  | [m], items, _ =>
    match items.find? (·.length != 1) with
    | some wrong => Bind.defer .rowMisused; return listOf m (wrong.take 1)
    | none => return listOf m items.flatten
  | left, items, _ =>
    match items.find? (·.length != left.length) with
    | some wrong => Bind.stop (.wrongElementWidth 0 wrong.length left.length)
    | none =>
      let sides := left.zipIdx.map fun (m, i) =>
        let other := (items.headD []).getD i default
        (lookupAffinity (comparisonAffinity other.affinity m.affinity), m.collationWith other)
      return composite (keyOf "rows" (left ++ items.flatten))
        (left ++ items.flatten) fun env => do
          let row ← left.mapM (·.value env)
          let rows ← items.mapM fun ms => ms.mapM (·.value env)
          return membership (equalRows sides) row rows
where
  /-- The meaning of membership of one value in a list. -/
  listOf (m : Meaning) (items : List Meaning) : Meaning :=
    let affinity := lookupAffinity (m.affinity.getD .blob)
    let sides := [(affinity, collationOf m)]
    let bounds := boundsOf (.oneOf (some items.length)) affinity (collationOf m) m
      { (default : Meaning) with uses := items.flatMap (·.uses) }
    { composite (keyOf "in" (m :: items)) (m :: items) fun env => do
        let c ← m.value env
        let cells ← items.mapM (·.value env)
        return membership (equalRows sides) [c] (cells.map ([·])) with
      shape := .bounds bounds }
  /-- The meaning of membership in the result of a query. -/
  inQueryOf (inner : Binder) (ctx : Context) (left : List Meaning) (q : Query) :
      Bind Meaning := do
    let bound := (← inner.query ctx q).once ctx
    return { ← memberOf left bound with key := ← Bind.ownKey "in" }
  /-- The meaning of membership among the rows of a query. -/
  memberOf (left : List Meaning) (q : BoundQuery) : Bind Meaning := do
    if left.length != q.columns.length then
      Bind.stop (.wrongWidth q.columns.length left.length)
    let sides := (left.zip q.columns).map fun (m, c) =>
      let other : Meaning :=
        { (default : Meaning) with affinity := c.affinity, collation := c.collation }
      (lookupAffinity (comparisonAffinity c.affinity m.affinity), m.collationWith other)
    let uses := left.flatMap (·.uses) ++ q.uses
    let shape : Shape :=
      match left, sides with
      | [m], [(affinity, collation)] =>
        .bounds (boundsOf (.oneOf none) affinity collation m
          { (default : Meaning) with uses := q.uses })
      | _, _ => .other
    return {
      value := fun env => do
        let row ← left.mapM (·.value env)
        let rows ← q.all env
        return membership (equalRows sides) row rows
      classes := ⟨true, false, false⟩
      uses := uses
      shape := shape
      isAggregate := left.any (·.isAggregate)
      isWindowed := left.any (·.isWindowed) }

/-- A query for all rows of a table. -/
def allRows (table : ObjectName) (arguments : List Expression) : Query where
  first := {
    columns := [.all]
    sources := [{ item := if arguments.isEmpty then .table table else .function table arguments }] }

/-- The meaning of membership in the result of a query. -/
def inQuery (inner : Binder) (ctx : Context) (e : Expression) (q : Query) : Bind Meaning := do
  prohibitQueries ctx
  let left ← inner.expression ctx e
  inList.inQueryOf inner ctx left q

/-! ## Queries -/

/-- The meanings of the columns of the first row of a query. -/
def subquery (inner : Binder) (ctx : Context) (q : Query) : Bind (List Meaning) := do
  prohibitQueries ctx
  let bound := (← inner.query ctx q).once ctx
  let key ← Bind.ownKey "query"
  return bound.columns.zipIdx.map fun (c, i) => {
    value := fun env => do
      return ((← bound.first? env).bind (·[i]?)).getD .null
    isDocument := fun env => do return (← bound.documents env).getD i false
    affinity := c.affinity
    sqlType := c.sqlType
    classes := .ofAffinity c.affinity
    uses := bound.uses
    key := s!"{key}.{i}" }

/-- The meaning of the question whether a query has rows. -/
def existence (inner : Binder) (ctx : Context) (q : Query) : Bind Meaning := do
  prohibitQueries ctx
  let bound := (← inner.query ctx q).once ctx
  return {
    value := fun env => do return .ofBool (← bound.first? env).isSome
    classes := ⟨true, false, false⟩
    uses := bound.uses
    key := ← Bind.ownKey "exists" }

/-- The meaning of a raised fault. -/
def raised (ctx : Context) (action : Conflict) (message : String) : Bind Meaning := do
  if !ctx.isInTrigger then Bind.defer .raiseOutsideTrigger
  return {
    value := fun _ =>
      match action with
      | .ignore => .error .skipRow
      | action => .error (.fault (.raised message) action)
    key := "raise" }

/-! ## Expressions -/

/-- The meanings of an expression: one, or those of a row of values. -/
def expression (inner : Binder) (ctx : Context) (e : Expression) : Bind (List Meaning) := do
  match e with
  | .literal c => return [literal c]
  | .numeral cs => return [← numeral false cs]
  | .clock word => return [← clock ctx word]
  | .parameter written => return [← parameter ctx written]
  | .name path =>
    if path.length != 1 && (ctx.place = .index || ctx.place = .generated) then
      Bind.pend (.prohibited "the \".\" operator" ctx.place.words)
    Bind.trace ctx path
    match ctx.lookup (.of path) with
    | .ok m => return [m]
    | .error fault =>
      Bind.fail fault
      return [default]
  | .unary op e => return [← unary inner ctx op e]
  | .binary op a b => return [← binary inner ctx op a b]
  | .collated e collation => return [← collated inner ctx e collation]
  | .cast e sqlType => return [← cast inner ctx e sqlType]
  | .call c => return [← call inner ctx c]
  | .choice base conditions results otherwise =>
    return [← choice inner ctx base conditions results otherwise]
  | .between e low high => return [← between inner ctx e low high]
  | .inList e es => return [← inList inner ctx e es]
  | .inQuery e q => return [← inQuery inner ctx e q]
  | .inTable e table arguments => return [← inQuery inner ctx e (allRows table arguments)]
  | .tuple es => es.mapM (inner.one ctx)
  | .exists q => return [← existence inner ctx q]
  | .subquery q => subquery inner ctx q
  | .raise action message => return [← raised ctx action message]

end SchemaEvolution.Database.Binding
