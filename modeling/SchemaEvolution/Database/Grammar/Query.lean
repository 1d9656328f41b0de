import SchemaEvolution.Database.Grammar.Expression

/-!
# The grammar of queries

A query consists of selections with operators between them; an order and a limit stand behind the
last one.  `Grammar.level` gives the readers of expressions and queries that are nested to a depth.
-/

namespace SchemaEvolution.Database.Grammar

open Reader

/-! ## Results -/

/-- A text as it is kept for a name: on one line. -/
def onOneLine (s : String) : String :=
  s.map fun c => if Token.isSpace c then ' ' else c

/-- Takes a column of a result. -/
def resultColumn (inner : Level) : Reader ResultColumn := do
  if ← signIf "*" then return .all
  match ← rest with
  | l :: ⟨.sign ".", _, _, _⟩ :: ⟨.sign "*", _, _, _⟩ :: _ =>
    match nameOf? isNameWord true l with
    | some n =>
      advance
      advance
      advance
      return .allOf n
    | none => unexpected
  | _ =>
    let (e, written) ← withWritten inner.any
    return .expression e (← aliasIf) (onOneLine written)

/-- Takes the columns of a result. -/
def resultColumns (inner : Level) : Reader (List ResultColumn) :=
  separated (resultColumn inner)

/-- Takes a list of names in parentheses. -/
def nameList : Reader (List Name) :=
  parenthesized (separated name)

/-- Takes names of columns in parentheses, which nothing else may stand behind. -/
def columnNames : Reader (List Name) := parenthesized do
  separated do
    let n ← name
    let hasCollation ← wordIf "COLLATE"
    if hasCollation then let _ ← freeName
    let hasDirection := (← direction?).isSome
    if hasCollation || hasDirection then throw (.afterColumnName n.text)
    return n

/-- Takes names of columns in parentheses if they are there. -/
def columnNamesIf : Reader (List Name) := do
  if ← atSign "(" then columnNames else return []

/-! ## Sources -/

/-- The join that words stand for, if they go together. -/
def joinOf? (words : List String) : Option Join := do
  let upper := words.map fun w => w.map Char.toUpper
  guard (upper.all joinWords.contains)
  let has := upper.contains
  let isInner := has "INNER" || has "CROSS"
  let isOuter := has "OUTER" || has "LEFT" || has "RIGHT" || has "FULL"
  guard (!(isInner && isOuter))
  guard (!(has "OUTER" && !has "LEFT" && !has "RIGHT" && !has "FULL"))
  return {
    isNatural := has "NATURAL", keepsLeft := has "LEFT" || has "FULL",
    keepsRight := has "RIGHT" || has "FULL", isCross := has "CROSS" }

/-- Takes the operator of a join if there is one. -/
def join? : Reader (Option Join) := do
  if ← signIf "," then return some {}
  if ← wordIf "JOIN" then return some {}
  let isJoinWord (t : Token) : Bool := joinWords.any t.isWord
  match ← take? isJoinWord with
  | none => return none
  | some first =>
    let second ← nameOfKind? isNameWord true
    let third ← if second.isSome then nameOfKind? isNameWord true else pure none
    word "JOIN"
    let words := String.ofList first.written :: (second.toList ++ third.toList).map (·.written)
    match joinOf? words with
    | some j => return some j
    | none => throw (.unknownJoin words)

/-- What stands behind a source. -/
structure SourceEnd where
  givenName : Option Name := none
  avoidsIndexes : Bool := false
  index : Option Name := none
  on : Option Expression := none
  shared : List Name := []

/-- Takes what stands behind a source; an index can be named only behind a table. -/
def sourceEnd (inner : Level) (isTable : Bool) : Reader SourceEnd := do
  let givenName ← aliasIf
  let avoidsIndexes ←
    if isTable && (← atWord "NOT") then wordsIf "NOT" ["INDEXED"] else pure false
  let index ←
    if isTable && !avoidsIndexes && (← wordsIf "INDEXED" ["BY"]) then some <$> name else pure none
  let s : SourceEnd := { givenName := givenName, avoidsIndexes := avoidsIndexes, index := index }
  if ← wordIf "ON" then return { s with on := some (← inner.any) }
  if ← wordIf "USING" then return { s with shared := ← nameList }
  return s

/-- A source with what stands behind it. -/
def SourceEnd.of (s : SourceEnd) (join : Join) (item : SourceItem) : Source where
  join := join
  item := item
  givenName := s.givenName
  on := s.on
  shared := s.shared
  avoidsIndexes := s.avoidsIndexes
  index := s.index

/-- The first of several sources is joined to nothing. -/
def checkFirst (s : SourceEnd) : Reader Unit := do
  if s.on.isSome then throw (.joinNeeded "ON")
  if !s.shared.isEmpty then throw (.joinNeeded "USING")

/-- Takes a source that is not in parentheses, or a query. -/
def source (inner : Level) (join : Join) (isFirst : Bool) : Reader Source := do
  let (item, s) ←
    if ← atSign "(" then
      let q ← parenthesized inner.query
      pure (SourceItem.query q, ← sourceEnd inner false)
    else
      let n ← objectName
      if ← atSign "(" then
        let arguments ← parenthesized inner.arguments
        pure (SourceItem.function n arguments, ← sourceEnd inner false)
      else pure (SourceItem.table n, ← sourceEnd inner true)
  if isFirst then checkFirst s
  return s.of join item

/-- Takes a source, or the sources between parentheses, if they stand alone. -/
def sourceOrGroup (inner : Level) (sources : Reader (List Source)) (join : Join) (isFirst : Bool) :
    Reader (List Source) := do
  let isGroup ← (· && ·) <$> atSign "(" <*> secondToken fun t =>
    !(t.isWord "SELECT" || t.isWord "VALUES" || t.isWord "WITH")
  if !isGroup then return [← source inner join isFirst]
  let grouped ← parenthesized sources
  let s ← sourceEnd inner false
  if isFirst && s.givenName.isNone && s.on.isNone && s.shared.isEmpty then return grouped
  if isFirst then checkFirst s
  match grouped with
  | [only] => return [s.of join only.item]
  | several => return [s.of join (.group several)]

/-- Takes sources nested to a depth. -/
def sourcesWithin (inner : Level) : (depth : Nat) → Reader (List Source)
  | 0 => throw .tooDeep
  | depth + 1 => do
    let one := sourceOrGroup inner (sourcesWithin inner depth)
    let step (found : List Source) : Reader (Option (List Source)) := do
      match ← join? with
      | none => return none
      | some j =>
        let more ← one j false
        if found.length = mostSources then throw .tooManyTerms
        return some (found ++ more)
    iterate step (← rest).length (← one {} true)

/-- Takes sources behind `FROM` if there are some. -/
def sourcesIf (inner : Level) : Reader (List Source) := do
  if ← wordIf "FROM" then sourcesWithin inner ((← rest).length + 1) else return []

/-! ## Queries -/

/-- Takes the definition of a window. -/
def windowDefinition (inner : Level) : Reader Window := do
  let n ← name
  word "AS"
  return { ← window inner with name := some n }

/-- Takes the definitions of windows if there are some.  Each may refine one before it; what the
first of them refers to does not count. -/
def windowsIf (inner : Level) : Reader (List Window) := do
  if !(← atWindow) then return []
  advance
  let first ← windowDefinition inner
  let step (found : List Window) : Reader (Option (List Window)) := do
    if !(← signIf ",") then return none
    match (← windowDefinition inner).resolved found with
    | .ok w => return some (found ++ [w])
    | .error fault => throw fault
  iterate step (← rest).length [{ first with base := none }]

/-- Takes a selection behind its first word. -/
def selection (inner : Level) : Reader Selection := do
  let isDistinct ← wordIf "DISTINCT"
  if !isDistinct then let _ ← wordIf "ALL"
  let columns ← resultColumns inner
  let sources ← sourcesIf inner
  let condition ← inner.behind "WHERE"
  let groups ← if ← wordsIf "GROUP" ["BY"] then inner.several else pure []
  let having ← inner.behind "HAVING"
  return {
    isDistinct := isDistinct, columns := columns, sources := sources, condition := condition,
    groups := groups, having := having, windows := ← windowsIf inner }

/-- Takes rows of values behind their first word, each of which is a selection. -/
def valueRows (inner : Level) : Reader (List Selection) := do
  let row : Reader Selection := do
    let items ← parenthesized (separated (withWritten inner.any))
    return {
      isValues := true
      columns := items.map fun (e, written) => .expression e none (onOneLine written) }
  separated row

/-- A part of a query: one selection, or several rows of values, with what stands behind it. -/
structure Part where
  selections : List Selection
  order : List OrderTerm := []
  limit : Option Expression := none
  offset : Option Expression := none

/-- Takes a part of a query. -/
def part (inner : Level) : Reader Part := do
  if ← wordIf "VALUES" then return { selections := ← valueRows inner }
  word "SELECT"
  let p : Part := { selections := [← selection inner], order := ← orderIf inner }
  if ← wordIf "LIMIT" then
    let first ← inner.any
    if ← wordIf "OFFSET" then return { p with limit := some first, offset := some (← inner.any) }
    if ← signIf "," then return { p with limit := some (← inner.any), offset := some first }
    return { p with limit := some first }
  else return p

/-- Takes an operator between parts of a query if there is one. -/
def compound? : Reader (Option Compound) := do
  if ← wordIf "UNION" then
    if ← wordIf "ALL" then return some .unionAll else return some .union
  oneOf? [("EXCEPT", .except), ("INTERSECT", .intersect)]

/-- The first fault of an order or limit that is not behind the last part, seen from the end. -/
def misplaced? (parts : List (Compound × Part)) : Option Fault :=
  (parts.zip (parts.drop 1)).reverse.findSome? fun ((_, p), (next, _)) =>
    if !p.order.isEmpty then some (.clauseBefore "ORDER BY" next)
    else if p.limit.isSome then some (.clauseBefore "LIMIT" next)
    else none

/-- The selections of a part that is combined with others. -/
def Part.combined (compound : Compound) (p : Part) : List Selection :=
  match p.selections with
  | [] => []
  | first :: more => { first with compound := compound } :: more

/-- Takes a query without those that have names in it. -/
def plainQuery (inner : Level) : Reader Query := do
  let first ← part inner
  let more ← many do
    match ← compound? with
    | some c => return some (c, ← part inner)
    | none => return none
  let parts := (Compound.unionAll, first) :: more
  if let some fault := misplaced? parts then throw fault
  let last := (parts.getLast?.map Prod.snd).getD first
  if mostSelections < parts.length && !(last.selections.any (·.isValues)) then
    throw (.tooMany "terms in compound SELECT")
  let selections := parts.flatMap fun (c, p) => p.combined c
  return {
    first := selections.headD { columns := [] }, others := selections.tail, order := last.order,
    limit := last.limit, offset := last.offset }

/-- Takes the queries that have names within another one, if there are some.  Any of them may be
recursive, whether it is said or not. -/
def commonTablesIf (inner : Level) : Reader (List CommonTable) := do
  if !(← wordIf "WITH") then return []
  let _ ← wordIf "RECURSIVE"
  let one (found : List CommonTable) : Reader CommonTable := do
    let n ← name
    let columns ← columnNamesIf
    word "AS"
    if ← wordIf "NOT" then word "MATERIALIZED" else let _ ← wordIf "MATERIALIZED"
    let q ← parenthesized inner.query
    if found.any fun t => t.name.isSame n then throw (.duplicateCommonTable n.text)
    return { name := n, columns := columns, query := q }
  let first ← one []
  let step (found : List CommonTable) : Reader (Option (List CommonTable)) := do
    if ← signIf "," then return some (found ++ [← one found]) else return none
  iterate step (← rest).length [first]

/-- Takes a query. -/
def query (inner : Level) : Reader Query := do
  let tables ← commonTablesIf inner
  return { ← plainQuery inner with tables := tables }

/-- The readers of expressions and queries whose parts are read by others. -/
def next (inner : Level) : Level where
  expression := expression inner
  query := query inner

/-- The readers of expressions and queries that are nested to a depth. -/
def level : (depth : Nat) → Level
  | 0 => ⟨fun _ _ => throw .tooDeep, throw .tooDeep⟩
  | depth + 1 => next (level depth)

end SchemaEvolution.Database.Grammar
