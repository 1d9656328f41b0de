import SchemaEvolution.Database.Modification.Statement
import SchemaEvolution.Database.Schema.Load

/-!
# Names in definitions

What the names in a definition stand for.  A change of a table is followed by a look at all
definitions, since one of them may no longer be right; and before a name is changed, all the places
are found where it is written.

* `Schema.trace` finds what the names in one text stand for.
* `Schema.examine` looks at all definitions of a store.
-/

namespace SchemaEvolution.Database.Schema

open Binding Modification

/-! ## Triggers -/

/-- What names stand for in the expressions of some clauses, where a table is the only source. -/
def examineClauses (inner : Binder) (ctx : Context) (scope : List ScopeSource)
    (es : List Expression) : Bind Unit := do
  let _ ← Bind.within do
    let ctx := { ctx with offset := 0 }.push { sources := scope }
    es.forM fun e => Bind.settled do let _ ← inner.expression ctx e
  return ()

/-- The sources of a step of a trigger. -/
def examineSources (inner : Binder) (ctx : Context) (items : List Source) :
    Bind (List ScopeSource) := do
  return (← Bind.prepared (sources inner { ctx with offset := 0 } false items)).scope

/-- What names stand for in a clause about conflicts. -/
def examineConflict (inner : Binder) (ctx : Context) (scope : List ScopeSource)
    (c : ConflictClause) : Bind Unit := do
  let excluded := scope.map fun s =>
    { s with names := ["excluded"], stores := [], isDistant := true, isAliased := true, place := 1 }
  examineClauses inner ctx scope ((c.target.map (·.expression)) ++ c.condition.toList)
  examineClauses inner ctx (scope ++ excluded)
    ((c.assignments.map (·.value)) ++ c.updateCondition.toList)

/-- What names stand for in a step of a trigger. -/
def examineStep (inner : Binder) (ctx : Context) : TriggerStep → Bind Unit
  | .select q => do
    let _ ← inner.query ctx q
  | .insert i => do
    let ctx := withTables ctx i.tables
    if let some q := i.rows then
      let _ ← inner.query ctx q
    let scope ← examineSources inner ctx [ownSource i.table i.givenName false none]
    for c in i.clauses do examineConflict inner ctx scope c
  | .update u => do
    let ctx := withTables ctx u.tables
    let own := ownSource u.table u.givenName u.avoidsIndexes u.index
    let scope ← examineSources inner ctx (own :: u.sources)
    examineClauses inner ctx scope (u.condition.toList ++ u.assignments.map (·.value))
  | .delete d => do
    let ctx := withTables ctx d.tables
    let own := ownSource d.table d.givenName d.avoidsIndexes d.index
    let scope ← examineSources inner ctx [own]
    examineClauses inner ctx scope d.condition.toList

/-- The context of a definition that is read on its own. -/
def ownContext (s : Surroundings) : Context where
  database := s.database
  quotedTexts := s.quotedTexts
  isTraced := true
  store := if (s.database.store s.store).isTemporary then none else some s.store

/-- What names stand for in a trigger. -/
def examineTrigger (s : Surroundings) (head : TriggerHead) (steps : List TriggerStep) :
    Except Fault BindState := do
  match triggerTable? s.database s.store head with
  | none => throw (.noSuchTable ([s.store, head.table.name.text]))
  | some (store, t) =>
    let ctx := ownContext s
    let columns ← Bind.result ctx (viewColumns s.inner ctx store t)
    let p : Program := {
      key := "", store := none, table := { t with columns := columns }, tableStore := store
      event := head.event, steps := [] }
    let ctx := { ctx with scopes := [p.scope], isInTrigger := true }
    Prod.snd <$> Bind.traced ctx do
      let _ ← Bind.settled (s.inner.optional ctx head.condition)
      steps.forM (examineStep s.inner ctx)

/-! ## Definitions -/

/-- The command that a text is, with what was noted about the names in it. -/
structure Traced where
  command : Command
  notes : List BindState

namespace Traced

/-- What the names stand for. -/
def mentions (t : Traced) : List Mention :=
  t.notes.flatMap (·.mentions)

/-- The places of names that are texts. -/
def texts (t : Traced) : List Nat :=
  t.notes.flatMap (·.texts)

end Traced

/-- What the names in a definition stand for. -/
def trace (s : Surroundings) (sql : String) : Except Fault Traced := do
  let c ← commandOf sql
  let notes ← match c with
    | .createTable head ds fault _ => do
      let d ← Draft.ofDeclarations s head.name.name.text ds fault
      d.notes s
    | .createView _ _ q _ => do
      let ctx := ownContext s
      pure [(← Bind.traced ctx (s.inner.query ctx q)).2]
    | .createIndex _ _ table terms condition _ =>
      match s.database.find? (some s.store) table.text with
      | none => throw (.noSuchTable [s.store, table.text])
      | some (_, t) => Prod.snd <$> indexTerms s t terms condition
    | .createTrigger _ head steps _ => do
      pure [← examineTrigger s head (← steps)]
    | _ => pure []
  return ⟨c, notes⟩

/-- The surroundings of the definitions of a store. -/
def surroundings (db : Database) (store : String) (quotedTexts : Bool) : Surroundings where
  inner := binder db 0
  database := db
  store := store
  quotedTexts := quotedTexts

/-- The entries of a catalog whose texts people wrote. -/
def writtenEntries (st : Store) : List (CatalogEntry × String) :=
  st.entries.filterMap fun e =>
    if isInternalName e.name then none else e.sql.map (e, ·)

/-- A definition is right.  By the old rules of renaming, views and triggers need only be read. -/
def check (s : Surroundings) (sql : String) : Except Fault Unit := do
  if s.database.isOn .legacyRenaming then
    match ← commandOf sql with
    | .createView .. => return ()
    | .createTrigger _ _ steps _ => return ← discard steps
    | _ => discard (trace s sql)
  else discard (trace s sql)

/-- All definitions of a store are right, unless they may be changed at will; a fault is told by a
function of the kind and name of what has it. -/
def examineStore (db : Database) (store : String) (quotedTexts : Bool)
    (tell : String → String → Fault → Fault) : Except Fault Unit := do
  let s := surroundings db store quotedTexts
  if !db.isOn .writableCatalog then
    for (e, sql) in writtenEntries (db.store store) do
      (check s sql).mapError (tell e.kind e.name)

/-- All definitions of a store and of the temporary one are right. -/
def examine (db : Database) (store : String) (quotedTexts : Bool)
    (tell : String → String → Fault → Fault) : Except Fault Unit := do
  examineStore db store quotedTexts tell
  if !(db.store store).isTemporary then examineStore db "temp" quotedTexts tell

end SchemaEvolution.Database.Schema
