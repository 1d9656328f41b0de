import SchemaEvolution.Database.Setting.Inspection
import SchemaEvolution.Database.Setting.Integrity
import SchemaEvolution.Database.Setting.Session
import SchemaEvolution.Database.Setting.Storage

/-!
# All settings

* `Setting.find?` looks a setting up by its name.
* `Setting.perform` carries out a statement about a setting.
-/

namespace SchemaEvolution.Database.Setting

/-! ## Statistics -/

/-- The names under which the indexes of a table are noted in its statistics. -/
def notedNames (s : Store) (t : StoredTable) : List String :=
  (s.indexesOn t.name).map fun i =>
    if i.origin = .key && !t.hasNumbers then t.name else i.name

/-- Statistics about an index of a table are there. -/
def hasNote (s : Store) (t : StoredTable) (index : String) : Bool :=
  (s.table? "sqlite_stat1").any fun notes => notes.rows.any fun row =>
    row.cells.getD 0 .null == .text t.name && row.cells.getD 1 .null == .text index

/-- The bits of a number of a mask. -/
def hasBits (mask : Int) (bits : Nat) : Bool :=
  (mask % twoTo 32).toNat / bits % 2 == 1

/-- The tables of which statistics should be made: those that have rows, and an index about which
there are none.  A mask can ask for all tables. -/
def toAnalyze (mask : Int) (i : Inquiry) (db : Database) : List (String × String) :=
  let stores := db.stores.filter fun s => !s.isTemporary && i.store.all (sameName s.name)
  stores.flatMap fun s =>
    let isWanted (t : StoredTable) : Bool :=
      let names := notedNames s t
      t.isStored && !isInternalName t.name &&
        if names.any fun n => !hasNote s t n then !t.rows.isEmpty
        else hasBits mask 0x10000
    (s.listed.filter isWanted).map fun t => (s.name, t.name)

/-- What is to be done so that queries are planned well. -/
def optimization (i : Inquiry) : Int :=
  (i.argument.map Value.integer).getD 0xfffe

/-- How much is looked at of a table, if there is a limit. -/
def optimizationLimit (i : Inquiry) (db : Database) : Nat :=
  let least := 2000
  let limit := db.settings.analysisLimit
  if !hasBits (optimization i) 0x10 || 0 < limit && limit < least then limit else least

/-- The statement that makes statistics of a table. -/
def analysis (store table : String) : String :=
  let doubled (s : String) : String :=
    String.ofList (s.toList.flatMap fun c => if c == '"' then [c, c] else [c])
  s!"ANALYZE \"{doubled store}\".\"{doubled table}\""

/-- The tables of which statistics are made by a statement about the setting. -/
def optimizedTables (i : Inquiry) (db : Database) : List (String × String) :=
  let mask := optimization i
  if hasBits mask 2 && !hasBits mask 1 then toAnalyze mask i db else []

/-- Statistics are made where they help, or only the statements are shown. -/
def optimize : Setting where
  name := "optimize"
  columns := ["optimize"]
  takesArgument := true
  needsDefinitions := true
  ask := fun _ i db =>
    let mask := optimization i
    let shown := if hasBits mask 2 && hasBits mask 1 then toAnalyze mask i db else []
    .ok (shown.map fun (store, table) => [.text (analysis store table)], db)

/-! ## The list -/

/-- The settings but for the list of them, where the columns of computed tables are known. -/
def listed (modules : ModuleColumns) : List Setting :=
  ofSessions ++ ofStores ++ ofTables modules ++ ofLists ++
    [integrity "integrity_check", integrity "quick_check", optimize]

/-- The names of all settings, in alphabetical order. -/
def names : List String :=
  ("pragma_list" :: (listed fun _ => none).map (·.name)).mergeSort fun a b => decide (a ≤ b)

/-- All settings, where the columns of computed tables are known. -/
def all (modules : ModuleColumns) : List Setting :=
  computed "pragma_list" ["name"] (fun _ _ => .ok (names.map fun name => [.text name])) ::
    listed modules

/-- The setting of a name. -/
def find? (modules : ModuleColumns) (name : String) : Option Setting :=
  (all modules).find? fun s => sameName s.name name

/-! ## Statements -/

/-- The database once its definitions have been read. -/
def afterReading (db : Database) : Database :=
  if db.hasRead then db
  else
    let read (s : Store) : Store :=
      if s.tuning.isOpen && s.tuning.cache = 0 then
        { s with tuning := { s.tuning with cache := -2000 } }
      else s
    { db with hasRead := true, stores := db.stores.map read }

/-- The database with a store opened that is named. -/
def opened (store : Option String) (db : Database) : Database :=
  match store with
  | some name =>
    db.modifyStore name fun s => { s with tuning := { s.tuning with isOpen := true } }
  | none => db

/-- Asks for a setting, which may also be done by its table. -/
def answer (s : Setting) (inner : Binding.Binder) (i : Inquiry) (db : Database) :
    Except Fault (List (List Cell) × Database) :=
  let db := opened i.store db
  s.ask inner i (if s.needsDefinitions then afterReading db else db)

/-- Carries out a statement about a setting. -/
def perform (modules : ModuleColumns) (inner : Binding.Binder) (p : Pragma) (db : Database) :
    Except Fault (List (List Cell) × Database) := do
  let store ← match p.name.database with
    | none => pure none
    | some n =>
      match db.store? n.text with
      | some s => pure (some s.name)
      | none => throw (.unknownDatabase n.written)
  match find? modules p.name.name.text with
  | none => return ([], opened store db)
  | some s => s.answer inner { store := store, argument := p.argument } db

end SchemaEvolution.Database.Setting
