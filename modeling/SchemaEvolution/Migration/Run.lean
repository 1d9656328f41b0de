import SchemaEvolution.Migration.Execution
import SchemaEvolution.Ledger.Basic

/-!
# Migrations

A migration has a name and a body, and is run at most once.  Running it looks its name up in the
ledger; if the name is there nothing more happens.  Otherwise the body is invoked, the plan it
declares is executed, and the name is recorded.
-/

namespace SchemaEvolution

/-- What running a migration did (`MigrationOutcome`). -/
inductive Outcome where
  /-- The migration was carried out and recorded. -/
  | applied
  /-- The migration had been recorded before. -/
  | alreadyApplied
deriving DecidableEq

namespace Outcome

/-- The migration was carried out. -/
def isApplied : Outcome → Bool
  | applied => true
  | alreadyApplied => false

end Outcome

namespace Migration

/-- Applies a migration that has not been recorded. -/
def apply (d : Dialect) (now : Timestamp) (name : String) (body : Body) : Script Outcome := do
  let plan ← Script.invokeBody body
  Plan.execute d plan
  Ledger.record now name
  return .applied

/-- Runs a migration at some time (`Migration::run`). -/
def run (d : Dialect) (now : Timestamp) (name : String) (body : Body) : Script Outcome := do
  Ledger.prepare d
  if ← Ledger.contains name then return .alreadyApplied
  apply d now name body

end Migration

end SchemaEvolution
