/-!
# Tuning

What a session can set about one store, and what stays as it is when a transaction is undone.  Most
of it is only kept to be shown again.
-/

namespace SchemaEvolution.Database

/-- What is kept of rows before they are changed, and where. -/
inductive JournalMode where
  | delete
  | persist
  /-- Nothing is kept, and nothing can be undone. -/
  | off
  | truncate
  | memory
  | ahead
deriving DecidableEq

namespace JournalMode

/-- The modes by their names, in the order in which a name is looked up. -/
def named : List (String × JournalMode) :=
  [("delete", delete), ("persist", persist), ("off", off), ("truncate", truncate),
    ("memory", memory), ("wal", ahead)]

/-- The name of a mode. -/
def name : JournalMode → String
  | delete => "delete"
  | persist => "persist"
  | off => "off"
  | truncate => "truncate"
  | memory => "memory"
  | ahead => "wal"

end JournalMode

/-- What a session has set about a store. -/
structure Tuning where
  /-- How safe a change must be before the next one. -/
  safety : Nat := 2
  /-- How many pages are kept at hand; a negative number stands for as many kibibytes. -/
  cache : Int := -2000
  /-- From how many pages on some are given up before the end of a transaction. -/
  spill : Nat := 1
  journal : JournalMode := .memory
  /-- The greatest length of what is kept, if there is one. -/
  journalLimit : Int := -1
  pageSize : Nat := 4096
  /-- The page size has been changed so often. -/
  pageSizes : Nat := 0
  mostPages : Nat := 4294967294
  /-- What is given up is overwritten: never, always, or where that costs nothing. -/
  erasure : Nat := 0
  /-- Free pages are given back: never, at the end of a change, or when asked for. -/
  reclaims : Nat := 0
  /-- The store is there, which for a temporary one is not so until it is used. -/
  isOpen : Bool := true

namespace Tuning

/-- The tuning of the temporary store at the beginning of a session. -/
def temporary : Tuning where
  safety := 0
  cache := 0
  journal := .delete
  isOpen := false

/-- How many pages a cache of a size holds. -/
def cachedPages (t : Tuning) : Nat :=
  if 0 ≤ t.cache then t.cache.toNat
  else min 1000000000 (1024 * t.cache.natAbs / (t.pageSize + 136))

end Tuning

end SchemaEvolution.Database
