import SchemaEvolution.Database.Document.Listing
import SchemaEvolution.Database.Setting.Library

/-!
# Computed tables

A `Module` is a table whose rows are computed from arguments and from the database.  Its arguments
are hidden columns: they are given behind its name, or by conditions on these columns.  Settings are
such tables, under their names behind `pragma_`.
-/

namespace SchemaEvolution.Database

/-- A table that is computed from arguments. -/
structure Module where
  name : String
  columns : List String
  /-- The arguments, as columns that must be named to be seen. -/
  hidden : List String := []
  /-- The rows for some arguments, with the hidden columns. -/
  rows : Binding.Binder → Database → List (Option Cell) → Except Fault (List (List Cell))
  /-- The estimates of the work and of the number of rows, where the first argument is given. -/
  searched : Int × Int
  /-- These estimates where it is not given. -/
  whole : Int × Int
  /-- A column that holds documents, and the one that tells their kinds. -/
  documents : Option (Nat × Nat) := none
  /-- The number of the first row. -/
  firstNumber : Nat := 1

namespace Module

/-! ## Settings -/

/-- The hidden columns of the table of a setting. -/
def hiddenOf (s : Setting) : List String :=
  (if s.takesArgument then ["arg"] else []) ++ if s.takesStore then ["schema"] else []

/-- What is asked about a setting by arguments of its table.  Without the first argument, the
second one is not looked at. -/
def inquiry (s : Setting) (db : Database) (arguments : List (Option Cell)) :
    Except Fault Inquiry := do
  let given := if (arguments.headD none).isSome then arguments else []
  let text (i : Nat) : Option String :=
    ((given.getD i none).filter (!·.isNull)).map (·.string)
  let place := if s.takesArgument then 1 else 0
  let argument := if s.takesArgument then text 0 else none
  match if s.takesStore then text place else none with
  | none => return { argument := argument }
  | some name =>
    match db.store? name with
    | some store => return { store := some store.name, argument := argument }
    | none => throw (.unknownDatabase ("'" ++ name ++ "'"))

/-- What the hidden columns of the table of a setting hold: the argument and the store, as far as
there are so many columns. -/
def hiddenCells (s : Setting) (i : Inquiry) : List Cell :=
  let cells := [i.argument, i.store].map fun v => (v.map Cell.text).getD .null
  cells.take (hiddenOf s).length

/-- The table of a setting. -/
def ofSetting (s : Setting) : Module where
  name := "pragma_" ++ s.name
  columns := s.columns
  hidden := hiddenOf s
  rows := fun inner db arguments => do
    let i ← inquiry s db arguments
    let (rows, _) ← s.answer inner i db
    return rows.map fun cells => cells ++ hiddenCells s i
  searched := (43, 43)
  whole := if (hiddenOf s).isEmpty then (0, 46) else (310, 310)

/-! ## Documents -/

/-- The tables that list documents. -/
def listings : List Module :=
  [("json_each", false), ("json_tree", true)].map fun (name, isDeep) => {
    name := name, columns := Listing.columns, hidden := ["json", "root"]
    rows := fun _ _ arguments =>
      match arguments with
      | [some c, some root] => Listing.table isDeep [c, root]
      | some c :: _ => Listing.table isDeep [c]
      | _ => .ok []
    searched := (0, 46), whole := (3280, 46), documents := some (1, 2)
    firstNumber := 0 }

/-! ## Looking up -/

/-- The columns of the tables that modules compute. -/
def columnsOf : Setting.ModuleColumns := fun name =>
  let settings := (Setting.all fun _ => none).filter fun s => tableSettings.contains s.name
  let all := settings.map ofSetting ++ listings
  (all.find? fun m => sameName m.name name).map fun m =>
    m.columns.map (·, false) ++ m.hidden.map (·, true)

/-- The modules as tables. -/
def tables : List Module :=
  ((Setting.all columnsOf).filter fun s => tableSettings.contains s.name).map ofSetting ++ listings

/-- The module of a name as a table. -/
def ofTable? (name : String) : Option Module :=
  tables.find? fun m => sameName m.name name

end Module

end SchemaEvolution.Database
