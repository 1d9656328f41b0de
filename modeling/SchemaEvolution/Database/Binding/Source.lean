import SchemaEvolution.Database.Binding.Expression
import SchemaEvolution.Database.Binding.Join
import SchemaEvolution.Database.Binding.Recursion
import SchemaEvolution.Database.Module

/-!
# Sources

A source of a query is a table, a view, a named query, a query in parentheses, a computed table, or
a group of sources.  `Binding.sources` finds them, and what their joins ask for.

A query that only chooses rows and computes columns is read through where it is a source: its own
sources take its place, and its columns stand for what it computes.
-/

namespace SchemaEvolution.Database.Binding

/-! ## Stored tables -/

/-- A term of an index, as bounds refer to it. -/
def targetOf (t : StoredTable) (term : IndexTerm) (s : SortTerm) : Plan.Target :=
  match term.column with
  | some i =>
    if t.numberColumn = some i then .number
    else
      let c := t.column i
      { column := some i, affinity := c.affinity, collation := s.collation
        descending := s.descending, isNullable := c.notNull.isNone }
  | none =>
    { expression := some s.meaning.key, affinity := s.meaning.affinity.getD .blob
      collation := s.collation, descending := s.descending }

/-- The column that a condition demands to be something. -/
def presentColumn? (m : Meaning) : Option (Option Nat) :=
  match m.shape with
  | .implied [b :: _] => if b.kind = .isSomething then some b.column else none
  | _ => none

/-- An order of a table, as far as it matters for a plan. -/
def planOrder (t : StoredTable) (keyTerms : List IndexTerm) (used : List Nat) (number : Nat)
    (o : IndexOrder) : Plan.Order :=
  let i := o.index
  let own := (i.terms.zip o.terms).map fun (term, s) => targetOf t term s
  let isKey := !t.hasNumbers && i.origin = .key
  let rest :=
    if t.hasNumbers then [Plan.Target.number]
    else if isKey then []
    else
      (keyTerms.filter fun k => !i.terms.any (·.column == k.column)).map fun k =>
        targetOf t k { meaning := default, collation := k.collation, descending := k.descending }
  let targets := own ++ rest
  let isPlain (c : Nat) : Bool := (t.column c).generation.all (·.isStored)
  let held := targets.filterMap (·.column)
  let widths := targets.map fun target =>
    (target.column.map fun c => Plan.columnWidth (t.column c)).getD 1
  { place := number
    targets := targets
    count := own.length
    isUnique := i.isUnique
    conditions := (o.conditions.filter fun m => (presentColumn? m).isNone).map (·.key)
    present := o.conditions.filterMap presentColumn?
    isPartial := i.condition.isSome
    rows := Plan.indexRows own.length i.isUnique i.condition.isSome
    width := Plan.estimate (4 * sumOf widths)
    covers := isKey || used.all fun c => held.contains c && isPlain c
    isOwn := isKey }

/-- What matters of a table for a plan. -/
def tableCandidate (t : StoredTable) (orders : List IndexOrder) (avoidsIndexes : Bool)
    (wanted : Option Name) (place : Nat) (join : Join) (used : List Nat) : Plan.Candidate :=
  let keyTerms := ((orders.find? (·.index.origin = .key)).map (·.index.terms)).getD []
  let all := orders.zipIdx.map fun (o, i) => planOrder t keyTerms used (i + 1) o
  let isWanted (o : Plan.Order) : Bool :=
    match wanted with
    | some n => (orders[o.place - 1]?).any fun i => sameName i.index.name n.text
    | none => !avoidsIndexes || o.isOwn
  let numbers : List Plan.Order :=
    if t.hasNumbers && wanted.isNone then
      [{ targets := [.number], count := 1, isUnique := true, isNumbers := true }]
    else []
  { place := place
    width := Plan.rowWidth t
    orders := numbers ++ all.filter isWanted
    hasNumbers := t.hasNumbers
    allowsOwnOrder :=
      t.hasNumbers && !avoidsIndexes && wanted.isNone && !join.keepsRight
    keepsLeft := join.keepsLeft
    keepsRight := join.keepsRight
    isCross := join.isCross
    used := used
    isForced := wanted.isSome }

/-- The rows of a table as it is when they are asked for. -/
def currentRows (store name : String) (keyOrder : Option IndexOrder) (env : Env) :
    Except Stop (List SourceRow) :=
  match env.database.find? (some store) name with
  | some (_, t) => storedRows env.database keyOrder t
  | none => .ok []

/-- A stored table as it gives rows. -/
def tableLeaf (inner : Binder) (ctx : Context) (store : String) (t : StoredTable) (s : Source)
    (place : Nat) : Bind Leaf := do
  let st := ctx.database.store store
  let indexes := st.indexesOn t.name
  let db := ctx.database
  let orders ← indexes.mapM fun i => indexOrder inner db store t i place
  if let some n := s.index then
    if !indexes.any fun i => sameName i.name n.text then
      Bind.defer (.noSuchIndex [n.text])
  let keyOrder :=
    if t.hasNumbers then none else orders.find? fun o => o.index.origin = .key
  return {
    place := place
    rows := fun _ env => currentRows store t.name keyOrder env
    orders := orders
    candidate := tableCandidate t orders s.avoidsIndexes s.index place s.join
    join := s.join }

/-! ## Queries as sources -/

/-- A column of a query as names stand for it. -/
def queryScopeColumn (name : String) (c : QueryColumn) : ScopeColumn where
  name := name
  sqlType := c.sqlType
  affinity := c.affinity
  collation := c.collation

/-- What matters for a plan of a source whose rows are computed. -/
def computedCandidate (place : Nat) (join : Join) (isFixed : Bool) (used : List Nat) :
    Plan.Candidate where
  place := place
  orders := [{ targets := [], count := 0, isNumbers := true }]
  allowsOwnOrder := isFixed && !join.keepsRight
  isComputed := true
  keepsLeft := join.keepsLeft
  keepsRight := join.keepsRight
  isCross := join.isCross
  used := used

/-- What matters for a plan of a source whose rows come in one direction only. -/
def forwardCandidate (place : Nat) (join : Join) (used : List Nat) : Plan.Candidate :=
  { computedCandidate place join false used with isForward := true }

/-- The columns as seen from within a further query. -/
def deeper (uses : List Use) : List Use :=
  uses.map fun u => { u with level := u.level + 1 }

/-- What a source adds to those before it. -/
structure Addition where
  scope : List ScopeSource
  leaves : List Leaf
  conditions : List Plan.Condition := []

/-- A query as a source that stands for itself. -/
def queryAddition (q : BoundQuery) (names : List String) (s : Source) (givenName : List String)
    (place : Nat) : Addition where
  scope := [{
    names := givenName
    columns := (names.zip q.columns).map fun (n, c) => queryScopeColumn n c
    place := place
    join := s.join }]
  leaves := [{
    place := place
    rows := fun demand env => do
      return (← q.rows demand (env.outer 1)).map fun cells => { cells := cells }
    candidate := computedCandidate place s.join q.uses.isEmpty
    join := s.join
    uses := deeper q.uses }]

/-- A query as a source that is read through. -/
def plainAddition (p : Plain) (q : BoundQuery) (names : List String) (s : Source)
    (givenName : List String) : Addition where
  scope := [{
    names := givenName
    columns := ((names.zip q.columns).zip p.columns).map fun ((n, c), m) =>
      { queryScopeColumn n c with meaning := some m }
    join := s.join }]
  leaves :=
    match p.sources.leaves with
    | [] => []
    | first :: rest => { first with join := { first.join with isCross := s.join.isCross } } :: rest
  conditions := p.conditions

/-- The query can be read through where it is a source. -/
def allowsReading (q : BoundQuery) (s : Source) (hasKept : Bool) (dropsOrder : Bool) :
    Option Plain :=
  q.plain.filter fun p =>
    !hasKept && !s.join.keepsLeft && !s.join.keepsRight && !p.sources.leaves.isEmpty &&
      (p.order.isEmpty || dropsOrder) && p.sources.leaves.all (!·.join.keepsRight)

/-- A query as a source. -/
def asSource (q : BoundQuery) (names : List String) (s : Source) (givenName : List String)
    (hasKept dropsOrder : Bool) (place : Nat) : Addition :=
  match allowsReading q s hasKept dropsOrder with
  | some p => plainAddition p q names s givenName
  | none => queryAddition q names s givenName place

/-- The rows of sources in parentheses: all their columns, one after the other. -/
def groupRows (p : Plain) (env : Env) : Except Stop (List SourceRow) := do
  let scope : Scope := { sources := p.sources.scope }
  let columns := scope.shown.flatMap fun (s, i) =>
    (List.range s.columns.length).map fun c => scope.columnMeaning 0 i (s.columnOf c)
  (← p.frames env).mapM fun f => do
    return { cells := ← columns.mapM fun m => m.value (env.push f) }

/-- Sources in parentheses that stand for themselves. -/
def groupAddition (p : Plain) (q : BoundQuery) (s : Source) (place : Nat) : Addition :=
  let shown := (p.sources.scope).filter (!·.isDistant)
  let sizes := shown.map (·.columns.length)
  let scope := shown.zipIdx.map fun (g, i) =>
    let start := sumOf (sizes.take i)
    let column (c : ScopeColumn) (n : Nat) : ScopeColumn :=
      let use : Use := ⟨0, place, some (start + n)⟩
      let m : Meaning := {
        value := fun env => .ok (env.column 0 place (some (start + n)))
        sqlType := c.sqlType
        affinity := if g.numberColumn = some n then some .integer else c.affinity
        collation := c.collation, uses := [use], column := some use
        key := s!"c0.{place}.{start + n}" }
      { c with meaning := some m }
    { g with
      columns := g.columns.zipIdx.map fun (c, n) => column c n
      place := place
      numberColumn := none
      hasNumber := false
      join := if i = 0 then s.join else g.join
      shared := if i = 0 then [] else g.shared }
  { scope := scope
    leaves := [{
      place := place
      rows := fun _ env => groupRows p (env.outer 1)
      candidate := computedCandidate place s.join q.uses.isEmpty
      join := s.join
      uses := deeper q.uses }] }

/-- The columns of sources in parentheses under the name that is given to all of them. -/
def givenSource (scope : List ScopeSource) (n : Name) : ScopeSource where
  names := [n.text]
  columns := (({ sources := scope } : Scope).shown).flatMap fun (g, i) =>
    g.columns.zipIdx.map fun (c, j) =>
      { c with meaning := some (({ sources := scope } : Scope).columnMeaning 0 i (g.columnOf j)) }
  isDistant := true

/-! ## Named queries -/

/-- The list in which a table of a name is defined by a query around, with the lists around it. -/
def namedTable? (n : Name) : List (List NamedTable) → Option (NamedTable × List (List NamedTable))
  | [] => none
  | ts :: rest =>
    let isIt : NamedTable → Bool
      | .defined t _ => t.name.isSame n
      | .recursive name .. => sameName name n.text
    match ts.find? isIt with
    | some t => some (t, ts :: rest)
    | none => namedTable? n rest

/-- The lists of named tables with one of them changed. -/
def changeNamed (n : Name) (new : NamedTable) : List (List NamedTable) → List (List NamedTable)
  | [] => []
  | ts :: rest =>
    (ts.map fun t => match t with
      | .defined t' _ => if t'.name.isSame n then new else t
      | t => t) :: rest

/-- The names of the columns of a named query. -/
def namedColumns (t : CommonTable) (q : BoundQuery) : Bind (List String) := do
  if t.columns.isEmpty then return distinctNames (q.columns.map (·.name))
  if t.columns.length != q.columns.length then
    throw (.commonTableWidth t.name.text q.columns.length t.columns.length)
  return distinctNames (t.columns.map (·.text))

/-- The place of a column that a term of an order names. -/
def resultPlace? (names : List String) (i : Nat) (t : OrderTerm) : Bind Nat := do
  let e := match t.expression with
    | .collated e _ => e
    | e => e
  match e with
  | .numeral cs =>
    match numberToken false cs with
    | some (.integer n) =>
      if n < 1 ∨ names.length < n.toInt.toNat then
        Bind.stop (.placeOutOfRange (i + 1) "ORDER" names.length)
      return n.toInt.toNat - 1
    | _ => Bind.stop (.orderMatchesNothing (i + 1))
  | .name [n] =>
    match names.findIdx? (sameName n.text) with
    | some place => return place
    | none => Bind.stop (.orderMatchesNothing (i + 1))
  | _ => Bind.stop (.orderMatchesNothing (i + 1))

/-- A term by which columns of a result are sorted. -/
def resultTerm (c : Option QueryColumn) (t : OrderTerm) : SortTerm :=
  let own := (c.bind (·.collation)).getD .binary
  let collation := match t.expression with
    | .collated _ n => (Collation.ofName? n.text).getD own
    | _ => own
  { meaning := default, collation := collation, descending := t.descending
    nullsFirst := t.nullsFirst.getD !t.descending }

/-- The meaning of a named query that goes on from its own rows. -/
def recursiveQuery (inner : Binder) (ctx : Context) (t : CommonTable)
    (start parts : List Selection) : Bind BoundQuery := do
  let first ← inner.query ctx (queryOf t.query start)
  let names ← namedColumns t first
  let number := (← get).count
  modify fun s => { s with count := s.count + 1 }
  let columns := (names.zip first.columns).map fun (n, c) => queryScopeColumn n c
  let own := NamedTable.recursive t.name.text number columns
  let within := { ctx with tables := changeNamed t.name own ctx.tables }
  let bound ← parts.mapM fun s => do
    if 1 < (s.sources.filter (isTableNamed t.name)).length then
      throw (.recursionRepeated t.name.text)
    modify fun s => { s with recursions := s.recursions.filter (· != number) }
    let q ← inner.query within (queryOf t.query [s])
    if q.columns.length != first.columns.length then Bind.stop (.unevenSelections s.compound)
    if q.isWindowed then Bind.defer .recursiveWindow
    if q.isAggregate then Bind.defer .recursiveAggregate
    return q
  let order ← t.query.order.zipIdx.mapM fun (term, i) => do
    let place ← resultPlace? names i term
    return (place, resultTerm first.columns[place]? term)
  let limit ← inner.optional { ctx with scopes := [] } t.query.limit
  let offset ← inner.optional { ctx with scopes := [] } t.query.offset
  let r : Recursion := {
    number := number, start := first, parts := bound
    isDistinct := parts.any (·.compound = .union), order := order, limit := limit
    offset := offset }
  return {
    columns := first.columns
    rows := r.rows
    uses := first.uses ++ bound.flatMap (·.uses) }

/-- The meaning of a named query, with the names of its columns. -/
def namedQuery (inner : Binder) (ctx : Context) (t : CommonTable) (isOpen : Bool)
    (tables : List (List NamedTable)) (place : Nat) : Bind (BoundQuery × List String) := do
  if isOpen then throw (.circularCommonTable t.name.text)
  let within := { ctx with
    tables := changeNamed t.name (.defined t true) tables, offset := place }
  let (start, parts) := selfReferences t.name t.query
  let q ←
    if parts.isEmpty then inner.query within t.query
    else recursiveQuery inner within t start parts
  return (q, ← namedColumns t q)

/-- The rows of a table that is being computed from itself. -/
def recursiveAddition (number : Nat) (columns : List ScopeColumn) (s : Source)
    (givenName : List String) (place : Nat) : Addition where
  scope := [{ names := givenName, columns := columns, place := place, join := s.join }]
  leaves := [{
    place := place
    rows := fun _ env => .ok ((env.pending.lookup number).getD [])
    candidate := forwardCandidate place s.join
    join := s.join }]

/-! ## Tables and views -/

/-- The table that a name stands for, with its store. -/
def locateTable (ctx : Context) (n : ObjectName) : Except Fault (String × StoredTable) :=
  match ctx.store, n.database with
  | some store, none =>
    match ctx.database.find? (some store) n.name.text with
    | some found => .ok found
    | none =>
      match moduleTable? n.name.text with
      | some t => .ok (store, t)
      | none => .error (.noSuchTable [store, n.name.text])
  | _, _ => ctx.database.locate n

/-- The columns of a computed table. -/
def moduleColumns (m : Module) : List ScopeColumn :=
  let kindOf (i : Nat) : Option Nat :=
    m.documents.bind fun (place, kind) => if place = i then some kind else none
  (m.columns.zipIdx.map fun (n, i) => { name := n, kindColumn := kindOf i }) ++
    m.hidden.map fun n => { name := n, isHidden := true }

/-- A computed table as a source. -/
def moduleAddition (inner : Binder) (before : Scope) (ctx : Context) (m : Module)
    (arguments : List Expression) (s : Source) (givenName : List String) (place : Nat) :
    Bind Addition := do
  if m.hidden.length < arguments.length then
    throw (.tooManyFunctionArguments m.name m.hidden.length)
  let meanings ← arguments.mapM (inner.one (ctx.push before))
  let uses := meanings.flatMap (·.uses)
  let parameters : Parameters := {
    columns := (List.range m.hidden.length).map fun i =>
      (m.columns.length + i, meanings[i]?.map (·.operand))
    rows := fun env values => do
      let rows ← ofFunction (m.rows inner env.database values)
      return (rows.zipIdx m.firstNumber).map fun (cells, i) =>
        { number := .integer (Int64.ofNat i), cells := cells }
    searched := m.searched
    whole := m.whole }
  return {
    scope := [{
      names := givenName
      columns := moduleColumns m
      place := place
      hasNumber := true
      join := s.join }]
    leaves := [{
      place := place
      rows := fun _ _ => .ok []
      candidate := forwardCandidate place s.join
      join := s.join
      isLateral := uses.any (·.level = 0)
      uses := uses
      parameters := some parameters }] }

/-- A table or view as a source. -/
def tableAddition (inner : Binder) (ctx : Context) (n : ObjectName) (s : Source)
    (hasKept dropsOrder : Bool) (place : Nat) : Bind Addition := do
  let givenName := s.givenName.map (·.text)
  let names := [givenName.getD n.name.text]
  match if n.database.isNone then namedTable? n.name ctx.tables else none with
  | some (.recursive name number columns, _) =>
    if (← get).recursions.contains number then throw (.recursionNested name)
    modify fun s => { s with recursions := number :: s.recursions }
    return recursiveAddition number columns s names place
  | some (.defined t isOpen, tables) =>
    let (q, columns) ← namedQuery inner ctx t isOpen tables place
    return asSource q columns s names hasKept dropsOrder place
  | none =>
    match locateTable ctx n with
    | .error fault => throw fault
    | .ok (store, t) =>
      Bind.traceSource ctx n.name store t
      match t.kind with
      | .view columns q =>
        let (bound, columns) ← viewQuery inner ctx store t columns q place
        let addition := asSource bound columns s names hasKept dropsOrder place
        return { addition with scope := addition.scope.map fun g => { g with stores := [store] } }
      | .module =>
        match Module.ofTable? t.name with
        | some m => moduleAddition inner {} ctx m [] s names place
        | none => throw (.noSuchTable n.path)
      | .stored =>
        let leaf ← tableLeaf inner ctx store t s place
        let source := tableSource store t givenName place
        return { scope := [{ source with join := s.join }], leaves := [leaf] }

/-! ## Joins -/

/-- The first source that has a column, with the place of the column. -/
def columnIn? (scope : List ScopeSource) (allowsHidden : Bool) (column : String) :
    Option (Nat × Nat) :=
  scope.zipIdx.findSome? fun (s, i) =>
    match if s.isDistant then none else s.column? column with
    | some c =>
      if allowsHidden || !((s.columns[c]?).any (·.isHidden)) then some (i, c) else none
    | none => none

/-- The columns in which a source agrees with those before it. -/
def sharedNames (before new : List ScopeSource) (s : Source) : Bind (List String) := do
  if s.join.isNatural then
    if s.on.isSome || !s.shared.isEmpty then throw .naturalWithCondition
    let names := ((new.filter (!·.isDistant)).flatMap (·.columns)).filter (!·.isHidden)
    return (names.map (·.name)).filter fun n => (columnIn? before false n).isSome
  else return s.shared.map (·.text)

/-- The condition that a column is the same on both sides of a join. -/
def sharedCondition (before new : List ScopeSource) (hasKept : Bool) (isNatural : Bool)
    (name : String) : Bind Meaning := do
  match columnIn? before (!isNatural) name, columnIn? new true name with
  | some (i, c), some (j, d) =>
    let left : Scope := { sources := before }
    let right : Scope := { sources := new }
    let columnOf (s : Scope) (i c : Nat) : Meaning :=
      let source := s.sources.getD i { names := [], columns := [] }
      s.columnMeaning 0 i (source.columnOf c)
    let a ←
      if hasKept then
        match left.find { store := none, source := none, column := { text := name } } false with
        | .merged columns => pure (left.mergedMeaning 0 columns)
        | .ambiguous => throw (.ambiguousColumn [name])
        | _ => pure (columnOf left i c)
      else pure (columnOf left i c)
    return comparison .equal a (columnOf right j d)
  | _, _ => throw (.sharedColumnMissing name)

/-- The rows of a query that is a source are made one by one, and not kept. -/
def isStreamed (found : Sources) (s : Source) (hasKept : Bool) : Bool :=
  let isTied (j : Join) : Bool := j.keepsLeft || j.keepsRight || j.isCross
  !hasKept && (found.leaves.isEmpty || !isTied s.join &&
    found.leaves.all fun l => !isTied l.join && !(l.candidate []).isComputed)

/-- A leaf with what a plan may do about its rows. -/
def withFreedom (isStreamed allowsOwnOrder : Bool) (l : Leaf) : Leaf :=
  { l with candidate := fun used =>
      let c := l.candidate used
      { c with
        isForward := c.isForward || c.isComputed && isStreamed
        allowsOwnOrder := c.allowsOwnOrder && allowsOwnOrder } }

/-- The sources so far, with a further one. -/
def addSource (inner : Binder) (ctx : Context) (hasKept dropsOrder : Bool) (found : Sources)
    (s : Source) : Bind Sources := do
  let place := ctx.offset + found.leaves.length
  let givenName := (s.givenName.map (·.text)).toList
  let within := { ctx with offset := place }
  let new ←
    match s.item with
    | .table n => tableAddition inner within n s hasKept dropsOrder place
    | .function n arguments =>
      match Module.ofTable? n.name.text with
      | some m =>
        let names := if givenName.isEmpty then [n.name.text] else givenName
        moduleAddition inner { sources := found.scope } ctx m arguments s names place
      | none =>
        match locateTable ctx n with
        | .ok _ => throw (.notTableFunction n.name.text)
        | .error fault => throw fault
    | .query q =>
      let bound ← inner.query within q
      let names := distinctNames (bound.columns.map (·.name))
      pure (asSource bound names s givenName hasKept dropsOrder place)
    | .group items =>
      let q ← inner.query within { first := { columns := [.all], sources := items } }
      let new : Addition := match allowsReading q s hasKept true, q.plain with
        | some p, _ =>
          { scope := p.sources.scope, leaves := p.sources.leaves, conditions := p.conditions }
        | none, some p => groupAddition p q s place
        | none, none => queryAddition q (q.columns.map (·.name)) s givenName place
      pure { new with scope := new.scope ++ s.givenName.toList.map (givenSource new.scope) }
  let shared ← if found.scope.isEmpty then pure [] else sharedNames found.scope new.scope s
  let own := if s.join.keepsLeft || s.join.keepsRight || hasKept then some place else none
  let agreements ← shared.mapM fun n => do
    let m ← sharedCondition found.scope new.scope hasKept s.join.isNatural n
    return ({ meaning := m, join := own } : Plan.Condition)
  let scope := match new.scope with
    | [] => []
    | first :: rest => { first with shared := shared } :: rest
  return {
    scope := found.scope ++ scope
    leaves := found.leaves ++ new.leaves.map
      (withFreedom (isStreamed found s hasKept) (ctx.database.isOn .automaticIndexes))
    conditions := found.conditions ++ new.conditions ++ agreements
    clauses := found.clauses ++ (s.on.map fun e => (e, place)).toList }

/-- The sources of a query. -/
def sources (inner : Binder) (ctx : Context) (dropsOrder : Bool) (items : List Source) :
    Bind Sources :=
  let hasKept := items.any (·.join.keepsRight)
  items.foldlM (addSource inner ctx hasKept dropsOrder) {}

end SchemaEvolution.Database.Binding
