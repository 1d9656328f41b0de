import SchemaEvolution.Database.Meaning

/-!
# Chance

A function that gives something by chance gives something else for each call that is written, for
each row, and for each state of the tables; but where all of these are the same, it gives the same
again.  `Chance.seed` makes a number of all that, and `Chance.integer` and `Chance.bytes` are what
the functions give for it.
-/

namespace SchemaEvolution.Database.Chance

/-- A number with its bits mixed, so that numbers next to one another are far apart. -/
def mixed (n : UInt64) : UInt64 :=
  let n := n + 0x9E3779B97F4A7C15
  let n := (n ^^^ (n >>> 30)) * 0xBF58476D1CE4E5B9
  let n := (n ^^^ (n >>> 27)) * 0x94D049BB133111EB
  n ^^^ (n >>> 31)

/-- A seed that further numbers count for. -/
def extended (seed : UInt64) (numbers : List UInt64) : UInt64 :=
  numbers.foldl (fun seed n => mixed (seed ^^^ mixed n)) seed

/-- The numbers of a cell. -/
def ofCell : Cell → List UInt64
  | .null => [0]
  | .integer n => [1, n.toUInt64]
  | .real x => [2, x.bits]
  | c => 3 :: c.textual.bytes.map (·.toUInt64)

/-- The numbers of a frame. -/
def ofFrame (f : Frame) : List UInt64 :=
  f.rows.flatMap fun row =>
    match row with
    | some row => (row.number :: row.cells).flatMap ofCell
    | none => [4]

/-- The numbers of what is stored. -/
def ofDatabase (db : Database) : List UInt64 :=
  let counts := db.stores.flatMap fun s => s.tables.map (·.rows.length)
  [db.lastNumber.toUInt64, UInt64.ofNat db.totalChanges, UInt64.ofNat (sumOf counts)]

/-- The number for a call, given by its place among others, in an environment. -/
def seed (place : Nat) (env : Env) : UInt64 :=
  extended (mixed (UInt64.ofNat place)) (ofDatabase env.database ++ env.frames.flatMap ofFrame)

/-- An integer by chance. -/
def integer (seed : UInt64) : Int64 :=
  (mixed seed).toInt64

/-- So many bytes by chance. -/
def bytes (seed : UInt64) (count : Nat) : List UInt8 :=
  (List.range count).map fun i => (extended seed [UInt64.ofNat i]).toUInt8

end SchemaEvolution.Database.Chance
