import SchemaEvolution.Database.Binding.Table
import SchemaEvolution.Database.Record
import SchemaEvolution.Database.Sample
import SchemaEvolution.Database.Schema.Create

/-!
# Statistics

How many rows tables have, and how many of them agree in the first terms of an index, is noted in a
table of its own when a store is analyzed, and samples of the index in a further one.  If it is
limited how much is looked at, no samples are taken.

* `Statistics.analyzed` notes it for a store, or for one table or index.
-/

namespace SchemaEvolution.Database.Statistics

open Binding Schema

/-! ## The tables of statistics -/

/-- The table that counts rows. -/
def countTable : String := "sqlite_stat1"

/-- The table of samples. -/
def sampleTable : String := "sqlite_stat4"

/-- The tables of statistics, with their columns. -/
def tables : List (String × List String) := [
  (countTable, ["tbl", "idx", "stat"]),
  (sampleTable, ["tbl", "idx", "neq", "nlt", "ndlt", "sample"])]

/-- The store with the tables of statistics. -/
def withTables (st : Store) : Store :=
  let missing := tables.filter fun (name, _) => (st.table? name).isNone
  let add (st : Store) (t : String × List String) : Store :=
    let (name, columns) := t
    let sql := "CREATE TABLE " ++ name ++ "(" ++ ",".intercalate columns ++ ")"
    let draft : Draft := { table := {
      name := name, columns := columns.map fun c => Draft.columnOf c "" } }
    addNewTable st draft sql []
  let new := missing.foldl add st
  if missing.isEmpty then st else { new with version := st.version + 1 }

/-! ## Entries -/

/-- The entries of an index in their order, each with the cells of all its columns. -/
structure Entries where
  /-- How the columns are compared. -/
  collations : List Collation
  /-- How many of them are the terms of the index. -/
  terms : Nat
  cells : List (List Cell)

/-- The columns of the key of a table that are no terms of an index, with their collations. -/
def furtherColumns (st : Store) (t : StoredTable) (i : StoredIndex) : List (Nat × Collation) :=
  let own := i.terms.filterMap (·.column)
  if i.origin = .key then []
  else
    let keys := (st.indexesOn t.name).filter fun k => k.origin = .key
    (keys.flatMap (·.terms)).filterMap fun term => match term.column with
      | some c => if own.contains c then none else some (c, term.collation)
      | none => none

/-- The entries of an index. -/
def entries (inner : Binder) (db : Database) (st : Store) (t : StoredTable) (i : StoredIndex) :
    Except Stop Entries := do
  let order (i : StoredIndex) : Except Stop IndexOrder :=
    (Bind.result { database := db } (indexOrder inner db st.name t i)).mapError Stop.abort
  let o ← order i
  let key := if t.hasNumbers then none else (st.indexesOn t.name).find? (·.origin = .key)
  let rows ← o.sorted db (← storedRows db (← key.mapM order) t)
  let further := if t.hasNumbers then [] else furtherColumns st t i
  let cells ← rows.mapM fun row => do
    let rest := if t.hasNumbers then [row.number] else further.map fun (c, _) => row.get (some c)
    return (← o.key db row) ++ rest
  let rest := if t.hasNumbers then [.binary] else further.map Prod.snd
  return {
    collations := o.terms.map (·.collation) ++ rest, terms := o.terms.length, cells := cells }

/-- In how many columns at the front entries agree. -/
def agreeing : List Collation → List Cell → List Cell → Nat
  | c :: cs, a :: as, b :: bs => if (a.compare c b).isEq then agreeing cs as bs + 1 else 0
  | _, _, _ => 0

/-! ## Counting -/

/-- How many rows agree on average in what so many of them differ in. -/
def average (rows different : Nat) : Nat :=
  let n := (rows + different - 1) / different
  if n = 2 && rows * 10 ≤ different * 11 then 1 else n

/-- What is counted of the entries of an index. -/
structure Tally where
  /-- How many entries are counted. -/
  rows : Nat := 0
  /-- How many different ones are before the last one, for each column. -/
  different : List Nat
  /-- How often the other entries that agree in the first column were left out. -/
  skips : Nat := 0
  /-- The last entry. -/
  last : List Cell := []

/-- The tally with one more entry, which differs in a column. -/
def Tally.next (t : Tally) (change : Nat) (cells : List Cell) : Tally :=
  if t.rows = 0 then { t with rows := 1, last := cells }
  else { t with
    rows := t.rows + 1
    different := t.different.zipIdx.map fun (n, i) => if i < change then n else n + 1
    last := cells }

/-- Counts entries.  If they are more than a limit, this ends once two of them differ in the first
column; before that, entries that agree with the last one in it are left out. -/
def tally (collations : List Collation) (limit : Nat) :
    (fuel : Nat) → Tally → List (List Cell) → Tally
  | 0, t, _ | _, t, [] => t
  | fuel + 1, t, cells :: rest =>
    let t := t.next (min (agreeing collations t.last cells) (collations.length - 1)) cells
    if limit = 0 || t.rows ≤ limit * (t.skips + 1) then tally collations limit fuel t rest
    else
      let t := { t with skips := t.skips + 1 }
      if 0 < t.different.headD 0 then t
      else
        let isSame (other : List Cell) : Bool := agreeing (collations.take 1) cells other = 1
        tally collations limit fuel t (rest.dropWhile isSame).tail

/-- The statistics of an index: how many rows it has, and how many agree in its first terms. -/
def text (limit : Nat) (es : Entries) : String :=
  let start : Tally := { different := List.replicate es.collations.length 0 }
  let t := tally es.collations limit es.cells.length start es.cells
  let averages := (t.different.take es.terms).map fun n => average t.rows (n + 1)
  let count := if t.skips = 0 then t.rows else es.cells.length
  " ".intercalate ((count :: averages).map fun n => String.ofList (digits n))

/-- The samples of an index, as their counts in words and the cells of the entries. -/
def samples (es : Entries) : List (List String × List Cell) :=
  let columns := es.collations.length
  let changes := (es.cells.zip es.cells.tail).map fun (a, b) =>
    min (agreeing es.collations a b) (columns - 1)
  let sampling := (0 :: changes).foldl Sampling.push (.start columns es.cells.length)
  let words (counts : List Nat) : String :=
    " ".intercalate (counts.map fun n => String.ofList (digits n))
  sampling.finished.map fun s =>
    ([words s.equal, words s.less, words s.different], es.cells.getD s.entry [])

/-! ## Notes -/

/-- What is noted about a table, for each of the tables of statistics. -/
structure Notes where
  counts : List (List Cell) := []
  samples : List (List Cell) := []

/-- The notes together with further ones. -/
def Notes.append (a b : Notes) : Notes where
  counts := a.counts ++ b.counts
  samples := a.samples ++ b.samples

/-- What is noted about an index, if it has entries. -/
def ofIndex (inner : Binder) (limit : Nat) (db : Database) (st : Store) (t : StoredTable)
    (i : StoredIndex) : Except Stop Notes := do
  let es ← entries inner db st t i
  let isKey := i.origin = .key && !t.hasNumbers
  let names : List Cell := [.text t.name, .text (if isKey then t.name else i.name)]
  let sample (counts : List String) (cells : List Cell) : List Cell :=
    names ++ counts.map Cell.text ++ [.blob (Record.bytes db.settings.encoding cells)]
  if es.cells.isEmpty then return {}
  return {
    counts := [names ++ [.text (text limit es)]]
    samples := if limit = 0 then (samples es).map fun (counts, cells) => sample counts cells
      else [] }

/-- What is noted about a table and some of its indexes; its own rows are only counted if no index
has all of them. -/
def ofTable (inner : Binder) (limit : Nat) (db : Database) (st : Store) (t : StoredTable) :
    Except Stop Notes := do
  let indexes := st.indexesOn t.name
  let notes ← indexes.mapM (ofIndex inner limit db st t)
  let own : Notes :=
    if t.rows.isEmpty || indexes.any (·.condition.isNone) then {}
    else { counts := [[.text t.name, .null, .text (String.ofList (digits t.rows.length))]] }
  return (notes ++ [own]).foldl Notes.append {}

/-- What is to be analyzed: a whole store, a table, or an index. -/
inductive Subject where
  | store
  | table (name : String)
  | index (table name : String)

/-- A note about a table and an index belongs to what is to be analyzed. -/
def Subject.has (s : Subject) (table index : Cell) : Bool :=
  match s with
  | store => true
  | .table name => table == .text name
  | .index _ name => index == .text name

/-- The store with further rows at the end of a table of statistics. -/
def withNotes (table : String) (notes : List (List Cell)) (st : Store) : Store :=
  match st.table? table with
  | none => st
  | some t =>
    let last := ((t.rows.getLast?).map (·.number)).getD 0
    let rows := notes.zipIdx.map fun (cells, i) => ⟨last + Int64.ofNat (i + 1), cells⟩
    st.setRows table (t.rows ++ rows)

/-- The store without the notes about something. -/
def withoutNotes (s : Subject) (st : Store) : Store :=
  tables.foldl (fun (st : Store) (name, _) =>
    match st.table? name with
    | none => st
    | some t => st.setRows name
      (t.rows.filter fun row => !s.has (row.cells.getD 0 .null) (row.cells.getD 1 .null))) st

/-- The notes about the tables of a store, as far as they belong to what is to be analyzed. -/
def notes (inner : Binder) (limit : Nat) (s : Subject) (db : Database) (st : Store) :
    Except Stop Notes := do
  let counted (t : StoredTable) : Bool :=
    t.isStored && !isInternalName t.name && match s with
      | .store => true
      | .table name | .index name _ => sameName t.name name
  let found ← (st.listed.filter counted).mapM fun t => match s with
    | .index _ name => do
      let indexes := (st.indexesOn t.name).filter fun i => sameName i.name name
      return (← indexes.mapM (ofIndex inner limit db st t)).foldl Notes.append {}
    | _ => ofTable inner limit db st t
  return found.foldl Notes.append {}

/-- The database with statistics of something in one of its stores.  A limit tells how much is
looked at, if there is one. -/
def analyzed (inner : Binder) (limit : Nat) (store : String) (s : Subject) (db : Database) :
    Except Stop Database := do
  let found ← notes inner limit s db (db.store store)
  return db.modifyStore store fun st =>
    withNotes sampleTable found.samples
      (withNotes countTable found.counts (withoutNotes s (withTables st)))

end SchemaEvolution.Database.Statistics
