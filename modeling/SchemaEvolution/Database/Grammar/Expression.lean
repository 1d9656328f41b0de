import SchemaEvolution.Database.Depth
import SchemaEvolution.Database.Reader
import SchemaEvolution.Database.Window

/-!
# The grammar of expressions

Of two operators the one that binds more tightly takes the operand between them, and of equals the
left one.  Expressions contain queries and queries contain expressions, so the readers here are
given those of the parts (`Level`), and `next` in the module on queries ties the knot.
-/

namespace SchemaEvolution.Database.Grammar

open Reader

/-- The readers for the parts of an expression or query. -/
structure Level where
  /-- Takes an expression whose operators bind at least so tightly.  If asked to, it leaves an `AND`
  that is not part of an operand. -/
  expression : (power : Nat) → (untilAnd : Bool) → Reader Expression
  query : Reader Query

namespace Level

/-- Takes an expression. -/
def any (inner : Level) : Reader Expression :=
  inner.expression 0 false

/-- Takes expressions with commas between them. -/
def several (inner : Level) : Reader (List Expression) :=
  separated inner.any

/-- Takes any number of expressions up to a closing parenthesis. -/
def arguments (inner : Level) : Reader (List Expression) := do
  if ← atSign ")" then return [] else inner.several

/-- Takes an expression behind a word of the language if that word is there. -/
def behind (inner : Level) (w : String) : Reader (Option Expression) := do
  if ← wordIf w then some <$> inner.any else return none

end Level

/-! ## Orders and windows -/

/-- Takes the direction of an order if it is there: downwards or not. -/
def direction? : Reader (Option Bool) :=
  oneOf? [("ASC", false), ("DESC", true)]

/-- Takes a term of an order. -/
def orderTerm (inner : Level) : Reader OrderTerm := do
  let e ← inner.any
  let descending := (← direction?).getD false
  let nullsFirst ←
    if ← wordIf "NULLS" then
      match ← oneOf? [("FIRST", true), ("LAST", false)] with
      | some first => pure (some first)
      | none => unexpected
    else pure none
  return { expression := e, descending := descending, nullsFirst := nullsFirst }

/-- Takes the terms of an order. -/
def orderTerms (inner : Level) : Reader (List OrderTerm) :=
  separated (orderTerm inner)

/-- Takes an order if there is one. -/
def orderIf (inner : Level) : Reader (List OrderTerm) := do
  if ← wordsIf "ORDER" ["BY"] then orderTerms inner else return []

/-- Takes an end of a frame, with its distance; `outer` is the end that has none. -/
def frameBound (inner : Level) (outerWord : String) (outer : FrameBound) :
    Reader (FrameBound × Option Expression) := do
  if ← wordsIf "CURRENT" ["ROW"] then return (.currentRow, none)
  else if ← wordsIf "UNBOUNDED" [outerWord] then return (outer, none)
  else
    let e ← inner.any
    match ← oneOf? [("PRECEDING", FrameBound.preceding), ("FOLLOWING", .following)] with
    | some bound => return (bound, some e)
    | none => unexpected

/-- Takes what a frame leaves out. -/
def frameExclusion : Reader FrameExclusion := do
  if !(← wordIf "EXCLUDE") then return .nothing
  if ← wordsIf "NO" ["OTHERS"] then return .nothing
  if ← wordsIf "CURRENT" ["ROW"] then return .currentRow
  match ← oneOf? [("GROUP", FrameExclusion.group), ("TIES", .ties)] with
  | some exclusion => return exclusion
  | none => unexpected

/-- The units of frames. -/
def frameUnits : List (String × FrameUnit) :=
  [("RANGE", .range), ("ROWS", .rows), ("GROUPS", .groups)]

/-- Takes the definition of a window between parentheses. -/
def window (inner : Level) : Reader Window := parenthesized do
  let l ← peek
  let isWord := ["PARTITION", "ORDER", "RANGE", "ROWS", "GROUPS"].any l.token.isWord
  let base ← if isWord then pure none else nameOfKind? isNameWord true
  let partition ← if ← wordsIf "PARTITION" ["BY"] then inner.several else pure []
  let w : Window := { base := base, partition := partition, order := ← orderIf inner }
  match ← oneOf? frameUnits with
  | none => return w
  | some unit =>
    let isBetween ← wordIf "BETWEEN"
    let (first, firstDistance) ← frameBound inner "PRECEDING" .unboundedPreceding
    let (last, lastDistance) ←
      if isBetween then
        word "AND"
        frameBound inner "FOLLOWING" .unboundedFollowing
      else pure (.currentRow, none)
    let framed := { w with
      hasFrame := true, unit := unit, first := first, firstDistance := firstDistance, last := last,
      lastDistance := lastDistance, exclusion := ← frameExclusion }
    if framed.isReversed then throw .reversedFrame
    return framed

/-! ## Operands -/

/-- Takes what follows the arguments of a function. -/
def callEnd (inner : Level) (c : Call) : Reader Expression := do
  let hasFilter ← (· && ·) <$> atWord "FILTER" <*> secondToken (· == .sign "(")
  let filter ←
    if hasFilter then
      advance
      some <$> parenthesized do
        word "WHERE"
        inner.any
    else pure none
  let hasWindow ← (· && ·) <$> atWord "OVER" <*> do
    return ((← rest)[1]?).any fun l =>
      l.token == .sign "(" || (nameOf? isNameWord true l).isSome
  let found ←
    if hasWindow then
      advance
      if ← atSign "(" then some <$> window inner
      else pure (some { base := some (← name), isReference := true : Window })
    else pure none
  if found.isSome && !c.order.isEmpty then
    throw (.windowClauseMisused "ORDER BY" c.name.text)
  return .call { c with filter := filter, window := found }

/-- Takes the call of a function behind its name. -/
def call (inner : Level) (function : Name) : Reader Expression := do
  sign "("
  if ← signIf "*" then
    sign ")"
    callEnd inner { name := function, isStar := true }
  else
    let isDistinct ← wordIf "DISTINCT"
    if !isDistinct then let _ ← wordIf "ALL"
    let arguments ← if ← atWord "ORDER" then pure [] else inner.arguments
    let order ← orderIf inner
    sign ")"
    if mostArguments < arguments.length then
      throw (.tooMany s!"arguments on function {function.written}")
    callEnd inner {
      name := function, arguments := arguments, isDistinct := isDistinct
      order := if arguments.isEmpty then [] else order }

/-- Takes a column with its qualifiers, or the call of a function. -/
def nameOrCall (inner : Level) (isName : String → Bool) : Reader Expression := do
  let before ← peek
  match ← nameOfKind? isName true with
  | none => unexpected
  | some first =>
    if ← signIf "." then
      let second ← name
      if ← signIf "." then return .name [first, second, ← name]
      return .name [first, second]
    if before.token matches .text _ then return .literal (.text first.text)
    if ← atSign "(" then call inner first else return .name [first]

/-- A query is next. -/
def atQuery : Reader Bool :=
  atToken fun t => t.isWord "SELECT" || t.isWord "VALUES" || t.isWord "WITH"

/-- Takes what stands in parentheses: a query, an expression, or several of them. -/
def parentheses (inner : Level) : Reader Expression := parenthesized do
  if ← atQuery then return .subquery (← inner.query)
  match ← inner.several with
  | [e] => return e
  | es => return .tuple es

/-- Takes a choice behind its first word. -/
def choice (inner : Level) : Reader Expression := do
  let base ← if ← atWord "WHEN" then pure none else some <$> inner.any
  let branch : Reader (Expression × Expression) := do
    word "WHEN"
    let condition ← inner.any
    word "THEN"
    return (condition, ← inner.any)
  let first ← branch
  let more ← many do if ← atWord "WHEN" then some <$> branch else return none
  let otherwise ← inner.behind "ELSE"
  word "END"
  let branches := first :: more
  return .choice base (branches.map Prod.fst) (branches.map Prod.snd) otherwise

/-- Takes a raised fault behind its first word. -/
def raised : Reader Expression := parenthesized do
  if ← wordIf "IGNORE" then return .raise .ignore ""
  match ← oneOf? [("ROLLBACK", Conflict.rollback), ("ABORT", .abort), ("FAIL", .fail)] with
  | some action =>
    sign ","
    return .raise action (← name).text
  | none => unexpected

/-- Takes a cast behind its first word. -/
def castTo (inner : Level) : Reader Expression := parenthesized do
  let e ← inner.any
  word "AS"
  return .cast e (← typeName)

/-- How tightly a sign before an operand binds. -/
def signPower : Nat := 13

/-- How tightly `NOT` binds its operand. -/
def notPower : Nat := 3

/-- Takes an operand that begins with a word. -/
def wordOperand (inner : Level) (w : String) : Reader Expression := do
  match w.map Char.toUpper with
  | "NULL" => advance; return .literal .null
  | "NOT" => advance; return .unary .not (← inner.expression notPower false)
  | "CASE" => advance; choice inner
  | "CAST" => advance; castTo inner
  | "EXISTS" => advance; return .exists (← parenthesized inner.query)
  | "RAISE" => advance; raised
  | "CURRENT_DATE" | "CURRENT_TIME" | "CURRENT_TIMESTAMP" =>
    advance
    return .clock (w.map Char.toUpper)
  | _ => nameOrCall inner isNameWord

/-- Takes an operand. -/
def operand (inner : Level) : Reader Expression := do
  let l ← peek
  match l.token with
  | .number cs => advance; return .numeral (← numeral cs)
  | .blob bytes => advance; return .literal (.blob bytes)
  | .parameter p =>
    if (p.toList.drop 1).head?.any Char.isDigit && p.toList.head? == some '#' then unexpected
    advance
    parameter p
  | .sign "(" => parentheses inner
  | .sign "-" => advance; return .unary .minus (← inner.expression signPower false)
  | .sign "+" => advance; return .unary .plus (← inner.expression signPower false)
  | .sign "~" => advance; return .unary .complement (← inner.expression signPower false)
  | .word w => wordOperand inner w
  | _ => nameOrCall inner isNameWord

/-! ## Operators -/

/-- The operators that are signs, with how tightly they bind. -/
def signOperators : List (String × Nat × BinaryOperator) :=
  [("=", 4, .compare .equal), ("==", 4, .compare .equal), ("<>", 4, .compare .unequal),
    ("!=", 4, .compare .unequal), ("<", 5, .compare .less), ("<=", 5, .compare .atMost),
    (">", 5, .compare .greater), (">=", 5, .compare .atLeast), ("&", 7, .bitAnd), ("|", 7, .bitOr),
    ("<<", 7, .shiftLeft), (">>", 7, .shiftRight), ("+", 8, .add), ("-", 8, .subtract),
    ("*", 9, .multiply), ("/", 9, .divide), ("%", 9, .remainder), ("||", 10, .concatenate)]

/-- How tightly equality and its like bind. -/
def equalityPower : Nat := 4

/-- The function that an operator in words calls. -/
def isPatternWord (t : Token) : Bool :=
  ["LIKE", "GLOB", "REGEXP", "MATCH"].any t.isWord

/-- Takes what follows `IN`. -/
def membership (inner : Level) (left : Expression) : Reader Expression := do
  if ← atSign "(" then
    parenthesized do
      if ← atQuery then return .inQuery left (← inner.query)
      return .inList left (← inner.arguments)
  else
    let table ← objectName
    let arguments ← if ← atSign "(" then parenthesized inner.arguments else pure []
    return .inTable left table arguments

/-- Takes the operator that a word is, behind its left operand, if it is one. -/
def wordOperator (inner : Level) (left : Expression) : Reader (Option Expression) := do
  let l ← peek
  if l.token.isWord "BETWEEN" then
    advance
    let low ← inner.expression 0 true
    word "AND"
    return some (.between left low (← inner.expression (equalityPower + 1) false))
  else if l.token.isWord "IN" then
    advance
    some <$> membership inner left
  else if isPatternWord l.token then
    advance
    let pattern ← inner.expression (equalityPower + 1) false
    let escape ←
      if ← wordIf "ESCAPE" then some <$> inner.expression (equalityPower + 1) false
      else pure none
    return some (.call {
      name := ⟨String.ofList l.written, String.ofList l.written, l.place⟩
      arguments := [pattern, left] ++ escape.toList })
  else return none

/-- Takes what follows `IS`. -/
def identity (inner : Level) (left : Expression) : Reader Expression := do
  let isNot ← wordIf "NOT"
  let isDistinct ← wordsIf "DISTINCT" ["FROM"]
  let right ← inner.expression (equalityPower + 1) false
  let c : Comparison := if isNot == isDistinct then .same else .different
  match right with
  | .literal .null => return .unary (if c = .same then .isNull else .notNull) left
  | right => return .binary (.compare c) left right

/-- Takes an operator that binds at least so tightly, with its right operand, if there is one. -/
def operation (inner : Level) (power : Nat) (untilAnd : Bool) (left : Expression) :
    Reader (Option Expression) := do
  let l ← peek
  match l.token with
  | .sign s =>
    if s == "->" || s == "->>" then
      if 10 < power then return none
      advance
      let right ← inner.expression 11 false
      return some (.call { name := ⟨s, s, l.place⟩, arguments := [left, right] })
    match signOperators.lookup s with
    | none => return none
    | some (operatorPower, op) =>
      if operatorPower < power then return none
      advance
      return some (.binary op left (← inner.expression (operatorPower + 1) false))
  | .word w =>
    match w.map Char.toUpper with
    | "OR" =>
      if 1 < power then return none
      advance
      return some (.binary .or left (← inner.expression 2 false))
    | "AND" =>
      if untilAnd || 2 < power then return none
      advance
      return some (.binary .and left (← inner.expression 3 false))
    | "COLLATE" =>
      if 11 < power then return none
      advance
      return some (.collated left (← freeName))
    | "ISNULL" =>
      if equalityPower < power then return none
      advance
      return some (.unary .isNull left)
    | "NOTNULL" =>
      if equalityPower < power then return none
      advance
      return some (.unary .notNull left)
    | "IS" =>
      if equalityPower < power then return none
      advance
      some <$> identity inner left
    | "NOT" =>
      if notPower < power then return none
      advance
      if ← wordIf "NULL" then return some (.unary .notNull left)
      match ← wordOperator inner left with
      | some e => return some (.unary .not e)
      | none => unexpected
    | _ => if equalityPower < power then return none else wordOperator inner left
  | _ => return none

/-- Takes an expression whose operators bind at least so tightly. -/
def expression (inner : Level) (power : Nat) (untilAnd : Bool) : Reader Expression := do
  let first ← operand inner
  let e ← iterate (operation inner power untilAnd) (← rest).length first
  if power = 0 && e.isTooDeep mostDepth then throw .expressionTooDeep
  return e

end SchemaEvolution.Database.Grammar
