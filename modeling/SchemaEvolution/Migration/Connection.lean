import SchemaEvolution.Migration.Run
import SchemaEvolution.Session.Basic

/-!
# Connections

A `Connection` is a session that can bracket what it does in a transaction.
`Connection.migrate` runs a migration in a transaction of its own: it is committed if the migration
comes to an end, and rolled back if it fails.  A migration that another runner has recorded in the
meantime counts as applied.
-/

namespace SchemaEvolution

/-- A step of a transaction: it succeeds or fails, and changes the state. -/
abbrev TransactionStep (σ : Type) := σ → Except MigrationError Unit × σ

/-- A session with transactions. -/
structure Connection (σ : Type) where
  session : Session σ
  beginning : TransactionStep σ
  commit : TransactionStep σ
  rollback : TransactionStep σ

namespace Connection

/-- Ends a run by a step, whose error is the result if it fails. -/
def finish {σ α : Type} (step : TransactionStep σ) (r : Run σ α)
    (result : Except MigrationError α) : Run σ α :=
  match step r.state with
  | (.ok (), state) => { r with result := result, state := state }
  | (.error e, state) => { r with result := .error e, state := state }

/-- Ends a run by a step, whose error is dropped. -/
def abandon {σ α : Type} (step : TransactionStep σ) (r : Run σ α) : Run σ α :=
  { r with state := (step r.state).2 }

/-- Commits a migration that came to an end, and rolls any other back. -/
def settle {σ : Type} (c : Connection σ) (r : Run σ Outcome) : Run σ Outcome :=
  match r.result with
  | .ok outcome => finish c.commit r (.ok outcome)
  | .error (.recordedConcurrently _) => finish c.rollback r (.ok .alreadyApplied)
  | .error _ => abandon c.rollback r

/-- Runs a migration in a transaction of its own (`SqliteClient::migrate`). -/
def migrate {σ : Type} (c : Connection σ) (now : Timestamp) (name : String) (body : Body)
    (state : σ) : Run σ Outcome :=
  match c.beginning state with
  | (.error e, state) => ⟨.error e, state, []⟩
  | (.ok (), state) =>
    c.settle (c.session.run (Migration.run c.session.dialect now name body) state)

end Connection

end SchemaEvolution
