import SchemaEvolution.Migration.Connection
import SchemaEvolution.Proofs.Ledger
import SchemaEvolution.Proofs.Scripts

/-!
# Laws of sessions and connections

What a migration can rely on is up to the database.  Each law is about one thing that a database
does, and leaves everything else open.

* `Session.KeepsNames`: the ledger is a table of names.
* `Session.RaisesDriverErrors`: a statement is refused in the words of the database.
* `Connection.IsTransactional`: what happens in a transaction is kept or undone as a whole.
-/

namespace SchemaEvolution

variable {σ : Type}

/-- The ledger of a session is a table of names: a lookup returns rows if the name is there, an
insertion adds the name if it succeeds, and nothing else changes the names.  Any statement may fail,
and anything else about the session may change with it. -/
structure Session.KeepsNames (s : Session σ) (names : σ → List String) : Prop where
  found : ∀ name state rows, (s.call (Ledger.lookup name) state).1 = .ok rows →
    (rows ≠ [] ↔ name ∈ names state)
  inserted : ∀ now name state rows, (s.call (Ledger.insertion now name) state).1 = .ok rows →
    names (s.call (Ledger.insertion now name) state).2 = names state ++ [name]
  refused : ∀ now name state e, (s.call (Ledger.insertion now name) state).1 = .error e →
    names (s.call (Ledger.insertion now name) state).2 = names state
  others : ∀ statement state, statement.SparesLedger s.dialect →
    names (s.call statement state).2 = names state

/-- The error comes from a database. -/
def MigrationError.isOfDriver : MigrationError → Bool
  | connection _ | statement .. | uniqueness .. => true
  | _ => false

/-- The calls of a session fail with errors that come from a database, and with no others. -/
def Session.RaisesDriverErrors (s : Session σ) : Prop :=
  ∀ statement state e, (s.call statement state).1 = .error e → e.isOfDriver = true

/-- A connection has transactions on its data.  To begin one leaves the data as they are, and so
does a commit that succeeds.  A commit that fails and every rollback, one that fails included, lead
back to the data at the beginning, whatever was called in between. -/
structure Connection.IsTransactional {δ : Type} (c : Connection σ) (data : σ → δ) : Prop where
  begun : ∀ state, data (c.beginning state).2 = data state
  committed : ∀ state, (c.commit state).1 = .ok () → data (c.commit state).2 = data state
  uncommitted : ∀ start begun statements e, c.beginning start = (.ok (), begun) →
    (c.commit (c.session.stateAfter statements begun)).1 = .error e →
    data (c.commit (c.session.stateAfter statements begun)).2 = data begun
  rolledBack : ∀ start begun statements, c.beginning start = (.ok (), begun) →
    data (c.rollback (c.session.stateAfter statements begun)).2 = data begun

end SchemaEvolution
