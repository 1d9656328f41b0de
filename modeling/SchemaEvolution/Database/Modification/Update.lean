import SchemaEvolution.Database.Modification.Insert

/-!
# Updates and deletions

The rows for which a condition holds are changed or dropped, one after the other.  They are found
before the first of them is changed.

* `Modification.updating` and `Modification.deletion` prepare such statements.
* `Modification.level` gives the functions for steps of triggers that are set off to a depth.
-/

namespace SchemaEvolution.Database.Modification

open Binding

/-! ## Updates -/

/-- The key of a row can change. -/
def changesKey (t : Target) (extent : Extent) : Bool :=
  extent.number || !t.table.hasNumbers &&
    t.table.columns.zipIdx.any fun (c, i) => c.inKey && extent.has i

/-- Prepares an update. -/
def updating (m : Modifier) (inner : Binder) (site : Site) (u : Update) :
    Bind (List Frame → Change Unit) := do
  Bind.lift (checkWidths u.assignments)
  let ctx := withTables site.context u.tables
  let db := ctx.database
  let names := assignedNames u.assignments
  let s ← subject inner ctx u.table .update names
  let conflict := site.conflict <|> u.conflict
  let own := ownSource u.table u.givenName u.avoidsIndexes u.index
  let found ← Bind.prepared (sources inner { ctx with offset := 0 } false (own :: u.sources))
  let ((a, conditions, hasQuery), _) ← Bind.within do
    let within := { ctx with offset := 0 }.push { sources := found.scope }
    let a ← assigned inner within s.table u.assignments
    let middle := (← get).queries
    let conditions ← conditions inner within found u.condition
    return (a, conditions, middle != (← get).queries)
  let t ← target inner db s.store s.table
  let extent := extentOf t a
  let acts ← reactions m inner db site s.store s.table .update extent names conflict
  let returned ← returning inner ctx s .update u.returning
  let all := { acts with after := returned ++ acts.after }
  let replaces := mayReplace t conflict extent
  let removal ← removalFor m inner site t replaces
  let needed ← neededDefaults inner t conflict db
  let (search, order) := search db t found conditions (!u.sources.isEmpty)
  let movesOrder := order.any fun o =>
    o.index.condition.isSome || o.terms.any fun term => extent.touches term.meaning.uses
  let isDirect := search.isDirect && all.isEmpty && !changesKey t extent && !replaces &&
    !hasQuery && !movesOrder && u.sources.isEmpty
  let change : RowUpdate := {
    target := t, reactions := all
    room := { removal := removal, conflict := conflict }
    defaults := needed, extent := extent, number := a.number, cells := a.cells }
  return fun frames => { search with isDirect := isDirect }.forEach frames change.run

/-! ## Deletions -/

/-- Prepares a deletion. -/
def deletion (m : Modifier) (inner : Binder) (site : Site) (d : Deletion) :
    Bind (List Frame → Change Unit) := do
  let ctx := withTables site.context d.tables
  let db := ctx.database
  let s ← subject inner ctx d.table .delete []
  let own := ownSource d.table d.givenName d.avoidsIndexes d.index
  let found ← Bind.prepared (sources inner { ctx with offset := 0 } false [own])
  let (conditions, _) ← Bind.within do
    let within := { ctx with offset := 0 }.push { sources := found.scope }
    conditions inner within found d.condition
  let t ← target inner db s.store s.table
  let acts ← reactions m inner db site s.store s.table .delete {} [] site.conflict
  let returned ← returning inner ctx s .delete d.returning
  let removal : RowRemoval := {
    target := t, reactions := { acts with after := returned ++ acts.after } }
  let (search, _) := search db t found conditions false
  return fun frames => { search with isDirect := false }.forEach frames fun row _ => do
    countRow
    if (← removal.run row) && s.table.isStored then countChange

/-! ## Steps of triggers -/

/-- Counts what a step of a trigger has changed, which is a statement of its own. -/
def asStep (change : Change Unit) : Change Unit := do
  modify fun w => { w with firsts := [] }
  change
  modify fun w => { w with changed := 0, database := w.counted }

/-- Prepares a step of a trigger, whose own steps are prepared by others. -/
def step (m : Modifier) (inner : Binder) (site : Site) (s : TriggerStep) :
    Bind (List Frame → Change Unit) := do
  match s with
  | .insert i =>
    let run ← insertion m inner site i
    return fun frames => asStep (run frames)
  | .update u =>
    let run ← updating m inner site u
    return fun frames => asStep (run frames)
  | .delete d =>
    let run ← deletion m inner site d
    return fun frames => asStep (run frames)
  | .select q =>
    let bound ← inner.query site.context q
    return fun frames => do let _ ← Change.value bound.all frames

/-- The functions for steps of triggers that are set off to a depth. -/
def level (inner : Binder) : (depth : Nat) → Modifier
  | 0 => ⟨fun _ _ => return fun _ => throw (.abort .tooManyTriggerLevels)⟩
  | depth + 1 => ⟨step (level inner depth) inner⟩

/-- How deep triggers may set off one another. -/
def mostLevels : Nat := 1000

end SchemaEvolution.Database.Modification
