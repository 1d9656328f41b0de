import SchemaEvolution.Migration.Error
import SchemaEvolution.Time.Reader

/-!
# Ledger entries

An entry of the ledger is read from a row of four values: a number, a name, and the times at which
the row was made and last changed.  Times may be texts.
-/

namespace SchemaEvolution

/-- The record of a migration that has been applied (`MigrationRecord`). -/
structure LedgerEntry where
  id : Int64
  name : String
  createdAt : Timestamp
  updatedAt : Timestamp
deriving DecidableEq

namespace LedgerEntry

/-- Reads a time (`decode_timestamp`). -/
def readTime : Value → Except RecordFault Timestamp
  | .timestamp t => .ok t
  | .text s =>
    match Timestamp.ofText? s with
    | some t => .ok t
    | none => .error (.unreadableTimestamp s)
  | v => .error (.timestampNotText v)

/-- Reads a row, or gives the first reason against it (`decode_record`). -/
def ofRow : Row → Except RecordFault LedgerEntry
  | [id, name, createdAt, updatedAt] =>
    match id.integer? with
    | none => .error (.idNotInteger id)
    | some id =>
      match name.text? with
      | none => .error (.nameNotText id name)
      | some name => return ⟨id, name, ← readTime createdAt, ← readTime updatedAt⟩
  | row => .error (.columnCount row.length)

end LedgerEntry

end SchemaEvolution
