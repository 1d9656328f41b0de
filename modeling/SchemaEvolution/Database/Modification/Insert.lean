import SchemaEvolution.Database.Modification.Statement

/-!
# Insertions

Each row of values is stored in a table.  Columns that are given no value hold their default.  What
is done about a row that is there already can be said in the statement (`BoundClause`).

* `Modification.insertion` prepares an insertion.
-/

namespace SchemaEvolution.Database.Modification

open Binding

/-! ## Columns -/

/-- The place of a column that is given a value; without one, it is the number of the row. -/
def givenPlace (t : StoredTable) (path : List String) (n : Name) : Except Fault (Option Nat) :=
  match t.place? n.text with
  | some i =>
    let c := t.column i
    if c.generation.isSome then .error (.generatedInsert c.name)
    else if t.numberColumn = some i then .ok none
    else .ok (some i)
  | none =>
    if t.hasNumbers && isRowNumberName n.text then .ok none
    else .error (.noColumnToFill path n.text)

/-- The places of all columns that are given values where none are named. -/
def allPlaces (t : StoredTable) : List (Option Nat) :=
  t.givenPlaces.map fun i => if t.numberColumn = some i then none else some i

/-- The rows have as many values as there are columns. -/
def checkCount (i : Insertion) (places : List (Option Nat)) (values : Nat) :
    Except Fault Unit := do
  match i.columns with
  | none =>
    if values != places.length then
      throw (.wrongRowLength i.table.path places.length values)
  | some names => if values != names.length then throw (.wrongValueCount values names.length)

/-- The cells of a row, of which some are given, and the number if it is. -/
def rowCells (t : Target) (places : List (Option Nat)) (defaults : List (Nat × Meaning))
    (values : List Cell) : Change (Option Cell × List Cell) := do
  let given := places.zip values
  let number := (given.reverse.find? (·.1.isNone)).map Prod.snd
  let cells ← (List.range t.table.columns.length).mapM fun i => do
    match given.find? fun (place, _) => place = some i with
    | some (_, c) => return c
    | none =>
      match defaults.lookup i with
      | some m => Change.value m.value []
      | none => return .null
  return (number, cells)

/-- The default values of the columns that are given none. -/
def missingDefaults (inner : Binder) (db : Database) (t : StoredTable)
    (places : List (Option Nat)) : Bind (List (Nat × Meaning)) := do
  let missing := t.columns.zipIdx.filter fun (c, i) =>
    c.generation.isNone && c.default.isSome && t.numberColumn != some i && !places.contains (some i)
  missing.mapM fun (c, i) => do return (i, ← defaultMeaning inner db c)

/-! ## Rows that are there already -/

/-- A term that a clause is about is a term of an index. -/
def matchesTerm (target : Meaning × Option Collation) (term : SortTerm) : Bool :=
  target.1.key == term.meaning.key && target.2.all (· == term.collation)

/-- A clause is about the rows of an index. -/
def isAbout (o : IndexOrder) (targets : List (Meaning × Option Collation))
    (condition : List String) : Bool :=
  o.index.isUnique && o.terms.length == targets.length &&
    (o.index.condition.isNone || o.conditions.map (·.key) == condition) &&
    o.terms.all fun term => targets.any fun t => matchesTerm t term

/-- What a clause is about. -/
def clauseTarget (inner : Binder) (ctx : Context) (t : Target) (c : ConflictClause) :
    Bind (Option (Option String)) := do
  if c.target.isEmpty then return none
  let ctx := { ctx with scopes := [{ sources := [tableSource t.store t.table none] }], offset := 0 }
  let (targets, condition) ← Bind.settled do
    let targets ← c.target.mapM fun term => do
      let m ← inner.one ctx (withoutCollation term.expression)
      return (m, ← outerCollation term.expression)
    let condition ← (c.condition.toList.flatMap (conjuncts ctx)).mapM (inner.one ctx)
    return (targets, condition)
  let isNumber : Bool := match targets with
    | [(m, _)] => t.table.hasNumbers && m.column.any (·.column.isNone)
    | _ => false
  if isNumber then return some none
  match t.orders.find? fun o => isAbout o targets (condition.map (·.key)) with
  | some o => return some (some o.index.name)
  | none => Bind.stop .conflictTargetUnmatched

/-- The scope of what a clause sets: the row that is there, and the one that was to be stored. -/
def clauseScope (t : Target) (givenName : Option Name) : Scope where
  sources := [
    tableSource t.store t.table (givenName.map (·.text)),
    { tableSource t.store t.table (some "excluded") 1 with stores := [], isDistant := true }]

/-- What a clause does about the row that is there. -/
def clauseAction (m : Modifier) (inner : Binder) (site : Site) (ctx : Context) (t : Target)
    (s : Subject) (i : Insertion) (part : String) (c : ConflictClause) :
    Bind (StoredRow → SourceRow → List Frame → Change Unit) := do
  Bind.lift (checkWidths c.assignments)
  let ((a, condition), _) ← Bind.within do
    let ctx := { ctx with offset := 0 }.push (clauseScope t i.givenName)
    let a ← assigned inner ctx t.table c.assignments
    return (a, ← Bind.settled (inner.optional ctx c.updateCondition))
  let db := ctx.database
  let extent := extentOf t a
  let names := assignedNames c.assignments
  let acts ← reactions m inner db site t.store t.table .update extent names (some .abort)
  let returned ← returning inner ctx s .update i.returning
  let u : RowUpdate := {
    target := t
    reactions := { acts with after := returned ++ acts.after }
    room := { removal := { target := t }, conflict := some .abort }
    extent := extent, number := a.number, cells := a.cells, part := part }
  return fun old row frames => do
    let frames := changeFrame (some (t.give old)) (some row) :: frames
    let holds ← match condition with
      | some c => Change.valueOf part c.holds frames
      | none => pure true
    if holds then
      let processed := (← get).processed
      u.run old frames
      modify fun w => { w with processed := processed }

/-- What is done about rows that are there already. -/
def boundClauses (m : Modifier) (inner : Binder) (site : Site) (ctx : Context) (t : Target)
    (s : Subject) (i : Insertion) : Bind (List BoundClause) := do
  if i.clauses.isEmpty then return []
  if t.table.isView then Bind.stop .upsertOnView
  let targets ← i.clauses.mapM (clauseTarget inner ctx t)
  (i.clauses.zip targets).zipIdx.mapM fun ((c, target), n) => do
    if !c.updates then return { target := target }
    let action ← clauseAction m inner site ctx t s i s!"clause {n}" c
    return { target := target, action := some action }

/-! ## Statements -/

/-- The rows of an insertion, with their length if they have one. -/
def insertedRows (inner : Binder) (ctx : Context) (i : Insertion) :
    Bind (Option Nat × (List Frame → Change (List (List Cell)))) := do
  match i.rows with
  | none => return (none, fun _ => return [[]])
  | some q =>
    let bound ← inner.query ctx q
    return (some bound.columns.length, fun frames => Change.value bound.all frames)

/-- Prepares an insertion. -/
def insertion (m : Modifier) (inner : Binder) (site : Site) (i : Insertion) :
    Bind (List Frame → Change Unit) := do
  let ctx := withTables site.context i.tables
  let db := ctx.database
  let s ← subject inner ctx i.table .insert []
  let conflict := site.conflict <|> i.conflict
  let places ← match i.columns with
    | some names => names.mapM fun n => Bind.lift (givenPlace s.table i.table.path n)
    | none => pure (if i.rows.isSome then allPlaces s.table else [])
  let (count, rows) ← insertedRows inner ctx i
  if let some n := count then Bind.lift (checkCount i places n)
  let t ← target inner db s.store s.table
  let clauses ← boundClauses m inner site ctx t s i
  let defaults ← missingDefaults inner db s.table places
  let needed ← neededDefaults inner t conflict db
  let acts ← reactions m inner db site s.store s.table .insert {} [] conflict
  let returned ← returning inner ctx s .insert i.returning
  let removal ← removalFor m inner site t (mayReplace t conflict {})
  let own : RowInsertion := {
    target := t
    reactions := { acts with after := returned ++ acts.after }
    room := { removal := removal, conflict := conflict, clauses := clauses }
    defaults := needed }
  return fun frames => do
    for values in ← rows frames do
      Change.orSkip do
        let (number, cells) ← rowCells t places defaults values
        own.run number cells frames
    if s.table.autoincrement then noteNumber s.store s.table.name 0

end SchemaEvolution.Database.Modification
