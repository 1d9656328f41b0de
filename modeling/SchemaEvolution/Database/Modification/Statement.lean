import SchemaEvolution.Database.Binding.Query
import SchemaEvolution.Database.Modification.Row

/-!
# Parts of statements about rows

What insertions, updates and deletions have in common: the table that a statement is about, what it
returns, what it sets, and the rows that it finds.

* `Subject` is the table of a statement.
* `assigned` finds the meanings of assignments.
* `Search` finds rows, in the order in which they are to be changed.
-/

namespace SchemaEvolution.Database.Modification

open Binding

/-! ## Tables -/

/-- The table that a statement is about. -/
structure Subject where
  store : String
  table : StoredTable

/-- The rows of a table may be changed. -/
def allowChange (db : Database) (t : StoredTable) (hasInstead : Bool) : Except Fault Unit := do
  let isCatalog := ["sqlite_master", "sqlite_temp_master"].any (sameName t.name)
  if isCatalog && !db.isOn .writableCatalog || t.isModule then
    throw (.protectedTable t.name "modified")
  if t.isView && !hasInstead then throw (.protectedView t.name)

/-- The table of a statement about rows. -/
def subject (inner : Binder) (ctx : Context) (n : ObjectName) (event : RowEvent)
    (assigned : List String) : Bind Subject := do
  match locateTable ctx n with
  | .error fault => throw fault
  | .ok (store, t) =>
    let columns ← viewColumns inner ctx store t
    let t := { t with columns := columns }
    let set := triggersOn ctx.database store t event assigned
    Bind.lift (allowChange ctx.database t !set.isEmpty)
    return { store := store, table := t }

/-! ## Returned rows -/

/-- What a statement returns of each row, as something that is done behind its change. -/
def returning (inner : Binder) (ctx : Context) (s : Subject) (event : RowEvent)
    (columns : List ResultColumn) : Bind (List (Frame → Change Unit)) := do
  if columns.isEmpty then return []
  if columns.any (· matches .allOf _) then Bind.stop .returningAllOf
  let place := if event = .delete then 0 else 1
  let scope : Scope := { sources := [tableSource s.store s.table none place] }
  let (found, _) ← Bind.within <|
    results inner { ctx with scopes := [scope], offset := 0 } false columns
  return [fun f => do
    let part := if event = .update then "returned update" else "returned"
    let cells ← found.mapM fun r => Change.valueOf part r.meaning.value [f]
    modify fun w => { w with returned := cells :: w.returned }]

/-! ## Assignments -/

/-- What a statement sets. -/
structure Assigned where
  cells : List (Nat × Meaning) := []
  number : Option Meaning := none

/-- The names of the columns that assignments are about. -/
def assignedNames (as : List Assignment) : List String :=
  as.flatMap fun a => a.columns.map (·.text)

/-- The assignments have as many values as columns. -/
def checkWidths (as : List Assignment) : Except Fault Unit := do
  for a in as do
    if a.isTuple then
      let count? : Option Nat := match a.value with
        | .subquery _ => none
        | .tuple es => some es.length
        | _ => some 1
      match count? with
      | some n => if n != a.columns.length then throw (.assignmentCount a.columns.length n)
      | none => pure ()

/-- What an assignment adds to those before it. -/
def assign (t : StoredTable) (found : Assigned) (n : Name) (m : Meaning) : Bind Assigned := do
  match t.place? n.text with
  | some i =>
    let c := t.column i
    if c.generation.isSome then Bind.stop (.generatedUpdate c.name)
    if t.numberColumn = some i then return { found with number := some m }
    return { found with cells := found.cells ++ [(i, m)] }
  | none =>
    if t.hasNumbers && isRowNumberName n.text then return { found with number := some m }
    Bind.stop (.noSuchColumn [n.text])

/-- The meanings of assignments. -/
def assigned (inner : Binder) (ctx : Context) (t : StoredTable) (as : List Assignment) :
    Bind Assigned :=
  as.foldlM (fun found a => do
    let values ← Bind.settled do
      if a.isTuple then inner.expression ctx a.value
      else return [← inner.one ctx a.value]
    if values.length != a.columns.length then
      Bind.stop (.assignmentCount a.columns.length values.length)
    (a.columns.zip values).foldlM (fun found (n, m) => assign t found n m) found) {}

/-- The columns that assignments set, with those that are computed from them. -/
def extentOf (t : Target) (a : Assigned) : Extent :=
  let own : Extent := { places := some (a.cells.map Prod.fst), number := a.number.isSome }
  t.generated.foldl (fun e (i, m) =>
    if e.touches m.uses then { e with places := e.places.map (i :: ·) } else e) own

/-- An update may drop rows in the way. -/
def mayReplace (t : Target) (conflict : Option Conflict) (extent : Extent) : Bool :=
  conflict == some .replace || conflict.isNone &&
    (extent.number && t.table.numberConflict == some .replace ||
      t.orders.any fun o => o.index.isUnique && o.index.conflict == some .replace &&
        o.terms.any fun term => extent.touches term.meaning.uses)

/-- How rows are dropped that are in the way of others. -/
def removalFor (m : Modifier) (inner : Binder) (site : Site) (t : Target) (isNeeded : Bool) :
    Bind RowRemoval := do
  if !isNeeded then return { target := t }
  let db := site.context.database
  let acts := { site with allowsTriggers := site.allowsTriggers && db.isOn .recursiveTriggers }
  let r ← reactions m inner db acts t.store t.table .delete {} [] none
  let links ← links db site t.store t.table {}
  return { target := t, reactions := { r with links := links } }

/-- The default values of columns that must hold something. -/
def neededDefaults (inner : Binder) (t : Target) (conflict : Option Conflict)
    (db : Database) : Bind (List (Nat × Meaning)) := do
  let needed := (t.neededColumns false conflict {}).filter fun (i, c) =>
    decide (c = .replace) && (t.table.column i).default.isSome
  needed.mapM fun (i, _) => do return (i, ← defaultMeaning inner db (t.table.column i))

/-! ## Search -/

/-- How the rows are found that a statement is about. -/
structure Search where
  target : Target
  joining : Joining
  /-- The columns of a row, if it is not stored as it is. -/
  columns : Option (List Meaning) := none
  /-- The rows are changed in the order in which they are found. -/
  isDirect : Bool := false
  /-- There are further sources. -/
  isJoined : Bool := false

namespace Search

/-- The row of the table in a frame. -/
def rowOf (s : Search) (f : Frame) (frames : List Frame) : Change SourceRow := do
  match s.columns with
  | none => return (f.rows.headD none).getD { cells := [] }
  | some columns =>
    return { cells := ← columns.mapM fun m => Change.valueOf "rows" m.value (f :: frames) }

/-- The rows that are found, each with its frame. -/
def found (s : Search) (frames : List Frame) : Change (List (StoredRow × Frame)) := do
  let all ← Change.valueOf "rows" (s.joining.frames none fun _ => .ok true) frames
  let given ← all.mapM fun f => do return (← s.rowOf f frames, f)
  if s.columns.isSome then return given.map fun (row, f) => (⟨0, row.cells⟩, f)
  let stored ← s.target.storedOrder
  if s.isDirect then
    return given.filterMap fun (row, f) =>
      (stored.find? fun r => s.target.give r == row).map (·, f)
  let latest := given.reverse
  return stored.filterMap fun r =>
    (latest.find? fun (row, _) => s.target.give r == row).map fun (_, f) => (r, f)

/-- Does something about each row that is found and is still there when its turn comes. -/
def forEach (s : Search) (frames : List Frame) (change : StoredRow → List Frame → Change Unit) :
    Change Unit := do
  for (row, f) in ← s.found frames do
    Change.orSkip do
      if s.columns.isSome then change row (f :: frames)
      else
        match ← s.target.row? row.number with
        | none => pure ()
        | some current =>
          let f := if s.isJoined then f else { f with rows := [some (s.target.give current)] }
          change current (f :: frames)

end Search

/-- The source that a statement is about. -/
def ownSource (n : ObjectName) (givenName : Option Name) (avoidsIndexes : Bool)
    (index : Option Name) :
    Source where
  item := .table n
  givenName := givenName
  avoidsIndexes := avoidsIndexes
  index := index

/-- How rows are found, where the sources and conditions are known, with the index by which they
are. -/
def search (db : Database) (t : Target) (found : Sources) (conditions : List Plan.Condition)
    (isJoined : Bool) : Search × Option IndexOrder :=
  let c : Clauses := {
    sources := found, results := [], isAggregate := false, having := none, conditions := conditions
    order := [], groups := [], isDistinct := false, reverses := db.isOn .reversedScans }
  let plan := { c.plan {} none with isChange := true }
  let steps := plan.steps
  let (leaves, conditions) := c.supplied
  let scope : Scope := { sources := found.scope }
  let columns := (found.scope.head?.map (·.columns.length)).getD 0
  let own : Search := {
    target := t
    joining := .of 0 leaves conditions steps
    columns :=
      if t.table.isStored then none
      else some ((List.range columns).map fun i => scope.columnMeaning 0 0 (some i))
    isJoined := isJoined }
  match steps with
  | [s] =>
    match s.way with
    | .order n => ({ own with isDirect := true }, if n = 0 then none else t.orders[n - 1]?)
    | _ => (own, none)
  | _ => (own, none)

end SchemaEvolution.Database.Modification
