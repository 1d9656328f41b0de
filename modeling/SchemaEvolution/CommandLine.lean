import SchemaEvolution.Database.Transaction
import SchemaEvolution.Ledger.Report

/-!
# The command line

A request inspects the ledger of a database: it prepares the ledger, lists the migrations that have
been applied, or asks whether a table exists.  The database of the command line is kept as the
statements that made it, one to a line; a request runs them again, and the statements by which it
changes the database itself are to be added to them.
-/

namespace SchemaEvolution.CommandLine

/-- What is asked of a database. -/
inductive Request where
  /-- Create the ledger where it is missing. -/
  | prepare
  /-- List the migrations that have been applied. -/
  | status (json : Bool)
  | tableExists (name : String)
deriving DecidableEq

/-- A request with the file of its database. -/
structure Invocation where
  file : String := "db.sql"
  request : Option Request := none
deriving DecidableEq

/-- The invocation with one or more arguments read. -/
def Invocation.read? (i : Invocation) : List String → Option Invocation
  | [] => some i
  | "--database" :: file :: args | "-d" :: file :: args => { i with file := file }.read? args
  | arg :: args =>
    match i.request, arg with
    | none, "init" => { i with request := some .prepare }.read? args
    | none, "status" => { i with request := some (.status false) }.read? args
    | some (.status _), "--json" => { i with request := some (.status true) }.read? args
    | none, "table-exists" =>
      match args with
      | name :: args => { i with request := some (.tableExists name) }.read? args
      | [] => none
    | _, _ => none

/-- What comes of a request. -/
structure Reply where
  output : String
  /-- The request succeeded, and its answer is not a plain no. -/
  success : Bool
  /-- The statements that changed the database. -/
  changes : List String

/-- A session on the database of the command line. -/
def session : Session Database :=
  Database.session .sqlite

/-- The database that statements make. -/
def database (statements : List String) : Database :=
  statements.foldl (fun db sql => (Database.query sql db).2) {}

/-- The statements that change a database when they are run one after the other. -/
def changing (db : Database) : List String → List String
  | [] => []
  | sql :: statements =>
    let db' := (Database.query sql db).2
    if db'.contents == db.contents then changing db statements
    else sql :: changing db' statements

/-- The reply to the result of a script. -/
def reply {α : Type} (db : Database) (script : Script α) (success : α → Bool)
    (output : α → String) : Reply :=
  let r := session.run script db
  let changes := changing db (r.calls.map session.dialect.render)
  match r.result with
  | .ok a => ⟨output a, success a, changes⟩
  | .error e => ⟨"Error: " ++ e.message ++ "\n", false, changes⟩

/-- The entries of the ledger, which is prepared first. -/
def preparedEntries : Script (List LedgerEntry) := do
  Ledger.prepare session.dialect
  Ledger.entries

/-- Answers a request. -/
def answer (db : Database) : Request → Reply
  | .prepare =>
    reply db (Ledger.prepare session.dialect) (fun _ => true) fun _ => "Ledger table ready.\n"
  | .status true => reply db preparedEntries (fun _ => true) fun es => Ledger.json es ++ "\n"
  | .status false =>
    reply db preparedEntries (fun _ => true) fun es =>
      if es.isEmpty then "No migrations have been applied yet.\n" else Ledger.overview es ++ "\n"
  | .tableExists name =>
    reply db (session.dialect.catalog.hasTable name) id fun found =>
      if found then "true\n" else "false\n"

/-- How the command line is used. -/
def usage : String :=
  "Named, run-once schema migrations.\n\n" ++
  "Usage: [--database FILE] COMMAND\n\n" ++
  "Commands:\n" ++
  "  init               Create the ledger table if it is missing\n" ++
  "  status [--json]    List applied migrations\n" ++
  "  table-exists NAME  Check whether a table exists; fails if it does not\n"

end SchemaEvolution.CommandLine
