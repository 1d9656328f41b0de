import SchemaEvolution.Database.Binding.Source
import SchemaEvolution.Database.Modification.Reference

/-!
# Triggers

A change of a row sets off triggers before and after it, and the actions of foreign keys, which are
triggers without a name (`Program`).  The steps of a program are statements about rows, and set off
further programs in turn; the functions here are given those for the steps (`Modifier`).

A named trigger is not carried out again within itself, unless the session asks for it.  Where one
is, or where the action of a foreign key is, it is prepared only when its turn comes.
-/

namespace SchemaEvolution.Database.Modification

open Binding

/-- The functions that prepare the steps of programs. -/
structure Modifier where
  step : Site → TriggerStep → Bind (List Frame → Change Unit)

/-- What is done upon the change of a row. -/
structure Program where
  /-- A text that is the same for the same program. -/
  key : String
  /-- It is a trigger, and no action of a foreign key. -/
  isNamed : Bool := true
  /-- The store that its names are looked up in, if that is fixed. -/
  store : Option String
  /-- The table whose row changes. -/
  table : StoredTable
  tableStore : String
  event : RowEvent
  condition : Option Expression := none
  steps : List TriggerStep

namespace Program

/-- The scope of the rows that change: as they were, and as they will be. -/
def scope (p : Program) : Scope :=
  let source (name : String) (place : Nat) : ScopeSource :=
    { tableSource p.tableStore p.table (some name) place with stores := [], isDistant := true }
  let old := if p.event = .insert then [] else [source "old" 0]
  let new := if p.event = .delete then [] else [source "new" 1]
  { sources := old ++ new }

/-- The program as it is carried out, prepared in all its parts. -/
def body (p : Program) (m : Modifier) (inner : Binder) (db : Database) (path : List String)
    (conflict : Option Conflict) : Bind (Frame → Change Unit) := do
  let ctx : Context := {
    database := db, scopes := [p.scope], isInTrigger := true, store := p.store }
  let site : Site := { context := ctx, path := p.key :: path, conflict := conflict }
  let ((condition, steps), _) ← Bind.within do
    let condition ← Bind.settled (inner.optional ctx p.condition)
    let steps ← p.steps.mapM (m.step site)
    return (condition, steps)
  return fun f => Change.aside do
    let holds ← match condition with
      | some c => Change.value c.holds [f]
      | none => pure true
    if holds then
      for step in steps do step [f]

/-- The program, prepared as far as it has to be. -/
def prepared (p : Program) (m : Modifier) (inner : Binder) (db : Database) (path : List String)
    (conflict : Option Conflict) : Bind (Frame → Change Unit) := do
  if !path.contains p.key then p.body m inner db path conflict
  else if p.isNamed && !db.isOn .recursiveTriggers then return fun _ => pure ()
  else
    return fun f => do
      match Bind.result {  database := db } (p.body m inner db [] conflict) with
      | .ok run => run f
      | .error fault => throw (.abort fault)

end Program

/-! ## Triggers -/

/-- The triggers that an event on a table sets off, those of the session first. -/
def triggersOn (db : Database) (store : String) (t : StoredTable) (event : RowEvent)
    (assigned : List String) : List (Store × StoredTrigger) :=
  let isSet (g : StoredTrigger) : Bool :=
    event != .update || g.head.columns.isEmpty || g.head.columns.any (·.isIn assigned)
  let onTable (s : Store) : List (Store × StoredTrigger) :=
    (s.triggers.filter fun g =>
      sameName g.table t.name && sameName g.tableStore store && decide (g.head.event = event) &&
        isSet g).map (s, ·)
  let own := (db.store store)
  let temporary := db.stores.filter fun s => s.isTemporary && !sameName s.name store
  temporary.flatMap onTable ++ onTable own

/-- A trigger as a program. -/
def programOf (s : Store) (g : StoredTrigger) (store : String) (t : StoredTable) : Program where
  key := s!"{s.name}.{foldName g.name}"
  store := if s.isTemporary then none else some s.name
  table := t
  tableStore := store
  event := g.head.event
  condition := g.head.condition
  steps := g.steps

/-! ## Actions of foreign keys -/

/-- A name in an expression that is made. -/
def nameOf (s : String) : Name where
  text := s
  written := "\"" ++ s ++ "\""

/-- The conjunction of some expressions. -/
def allOf : List Expression → Expression
  | [] => .literal (.integer 1)
  | [e] => e
  | e :: es => .binary .and e (allOf es)

/-- The name of a column that is referred to. -/
def parentName (l : Link) (place : Nat) : String :=
  match l.parent with
  | some t => (t.column place).name
  | none => ""

/-- The columns of a link by their names. -/
def linkNames (l : Link) : List (String × String) :=
  l.columns.map fun c => ((l.child.column c.child).name, parentName l c.parent)

/-- The rows that refer to the old row. -/
def refersToOld (l : Link) : Expression :=
  allOf <| (linkNames l).map fun (child, parent) =>
    .binary (.compare .equal) (.name [nameOf "old", nameOf parent]) (.name [nameOf child])

/-- What is referred to does not stay the same. -/
def parentChanges (l : Link) : Expression :=
  .unary .not <| allOf <| (linkNames l).map fun (_, parent) =>
    .binary (.compare .same) (.name [nameOf "old", nameOf parent])
      (.name [nameOf "new", nameOf parent])

/-- What a column that refers is set to by an action. -/
def actionValue (l : Link) (action : KeyAction) (c : LinkedColumn) : Expression :=
  match action with
  | .cascade => .name [nameOf "new", nameOf (parentName l c.parent)]
  | .setDefault =>
    (((l.child.column c.child).default).map (·.expression)).getD (.literal .null)
  | _ => .literal .null

/-- The step of an action upon a change of the row that is referred to. -/
def actionStep (l : Link) (event : RowEvent) (action : KeyAction) : TriggerStep :=
  let table : ObjectName := { name := nameOf l.child.name }
  let condition := some (refersToOld l)
  match action, event with
  | .restrict, _ => .select { first := {
      columns := [.expression (.raise .abort "FOREIGN KEY constraint failed") none ""]
      sources := [{ item := .table table }]
      condition := condition } }
  | .cascade, .delete => .delete { table := table, condition := condition }
  | action, _ => .update {
      table := table
      assignments := l.columns.map fun c => {
        columns := [nameOf (l.child.column c.child).name]
        isTuple := false
        value := actionValue l action c }
      condition := condition }

/-- The action of a foreign key as a program, if there is one. -/
def actionOf? (db : Database) (l : Link) (event : RowEvent) : Option Program := do
  let parent ← l.parent
  let action := if event = .delete then l.key.onDelete else l.key.onUpdate
  guard (action != .noAction && !(action = .restrict && db.isOn .deferredKeys))
  return {
    key := s!"{l.store}.{foldName l.child.name}.{l.key.columns.map Prod.fst}.{foldName parent.name}"
    isNamed := false
    store := some l.store
    table := parent
    tableStore := l.store
    event := event
    condition := if event = .update then some (parentChanges l) else none
    steps := [actionStep l event action] }

/-! ## Reactions -/

/-- What a change of a row sets off. -/
structure Reactions where
  before : List (Frame → Change Unit) := []
  after : List (Frame → Change Unit) := []
  /-- The actions of foreign keys. -/
  actions : List (Frame → Change Unit) := []
  links : Links := {}

namespace Reactions

/-- Nothing is set off. -/
def isEmpty (r : Reactions) : Bool :=
  r.before.isEmpty && r.after.isEmpty && r.actions.isEmpty && r.links.isEmpty

/-- Carries out programs one after the other. -/
def run (programs : List (Frame → Change Unit)) (f : Frame) : Change Unit := do
  for p in programs do p f

end Reactions

/-- What a change of the rows of a table sets off. -/
def reactions (m : Modifier) (inner : Binder) (db : Database) (site : Site) (store : String)
    (t : StoredTable) (event : RowEvent) (extent : Extent) (assigned : List String)
    (conflict : Option Conflict) : Bind Reactions := do
  let found := if site.allowsTriggers then triggersOn db store t event assigned else []
  let prepare (isAfter : Bool) : Bind (List (Frame → Change Unit)) :=
    (found.filter fun (_, g) => (g.head.time == .after) == isAfter).mapM fun (s, g) =>
      (programOf s g store t).prepared m inner db site.path conflict
  let before ← prepare false
  let links ← if t.isStored then links db site store t extent else pure {}
  let actions ←
    if event = .insert then pure []
    else
      (links.others.filterMap (actionOf? db · event)).mapM fun p =>
        p.prepared m inner db site.path (some .abort)
  return { before := before, after := ← prepare true, actions := actions, links := links }

end SchemaEvolution.Database.Modification
