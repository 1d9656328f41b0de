import SchemaEvolution.Database.Binding.Basic
import SchemaEvolution.Database.Setting.Value

/-!
# Settings

A statement about a setting shows it, or gives it a value.  Many settings that nothing depends on
here are kept all the same, as they are shown again.

* `Setting` is a setting with what a statement about it does.
* `Setting.computed`, `kept` and `answered` make settings of functions.
-/

namespace SchemaEvolution.Database

/-- What a statement asks about a setting. -/
structure Inquiry where
  /-- The store that it names. -/
  store : Option String := none
  argument : Option String := none

namespace Inquiry

/-- The store that it is about. -/
def place (i : Inquiry) : String :=
  i.store.getD "main"

/-- The store that it is about, as it is. -/
def subject (i : Inquiry) (db : Database) : Store :=
  db.store i.place

/-- The database with the store changed that it is about. -/
def modify (i : Inquiry) (change : Store → Store) (db : Database) : Database :=
  db.modifyStore i.place change

/-- The database with the tuning of a store changed. -/
def tune (i : Inquiry) (change : Tuning → Tuning) (db : Database) : Database :=
  i.modify (fun s => { s with tuning := change s.tuning }) db

end Inquiry

/-- A setting. -/
structure Setting where
  name : String
  /-- The columns of what it shows. -/
  columns : List String
  /-- Its table takes an argument, or the name of a store. -/
  takesArgument : Bool := false
  takesStore : Bool := false
  /-- The definitions of the database are read for it. -/
  needsDefinitions : Bool := false
  ask : Binding.Binder → Inquiry → Database → Except Fault (List (List Cell) × Database)

namespace Setting

/-- A setting whose rows are computed. -/
def computed (name : String) (columns : List String)
    (rows : Inquiry → Database → Except Fault (List (List Cell))) : Setting where
  name := name
  columns := columns
  ask := fun _ i db => do return (← rows i db, db)

/-- A setting that is shown as one cell, whatever is said about it. -/
def constant (name : String) (cell : Inquiry → Database → Cell) : Setting :=
  computed name [name] fun i db => .ok [[cell i db]]

/-- A setting that shows nothing. -/
def silent (name : String) (given : String → Database → Database := fun _ db => db) : Setting where
  name := name
  columns := []
  ask := fun _ i db => .ok ([], (i.argument.map fun value => given value db).getD db)

/-- A setting that is shown, or given a value. -/
def kept (name : String) (shown : Inquiry → Database → Cell)
    (given : Inquiry → String → Database → Except Fault Database) : Setting where
  name := name
  columns := [name]
  ask := fun _ i db =>
    match i.argument with
    | none => .ok ([[shown i db]], db)
    | some value => do return ([], ← given i value db)

/-- A setting that is shown even if it is given a value. -/
def answered (name : String) (shown : Inquiry → Database → Cell)
    (given : Inquiry → String → Database → Database) : Setting where
  name := name
  columns := [name]
  ask := fun _ i db =>
    let new := match i.argument with
      | none => db
      | some value => given i value db
    .ok ([[shown i new]], new)

/-- The setting of a store, for which its definitions are read. -/
def ofStore (s : Setting) : Setting :=
  { s with takesStore := true, needsDefinitions := true }

end Setting

end SchemaEvolution.Database
