import SchemaEvolution.Session.Script

/-!
# Sessions

A `Session` answers statements: it has a dialect, and a call turns its state into another one and
returns rows or an error.  The dialect does not depend on the state, so capabilities, quoting, key
columns and the catalog are the same before and after a call.  Running a script on a session gives
its result, the last state, and everything that happened on the way, in order.
-/

namespace SchemaEvolution

/-- A session with states of type `σ`: its `call`, and the dialect that it keeps. -/
structure Session (σ : Type) where
  dialect : Dialect
  call : Statement → σ → Except MigrationError (List Row) × σ

/-- Something that happens while a script runs. -/
inductive Event where
  /-- A statement was called, and answered. -/
  | called (statement : Statement) (answer : Except MigrationError (List Row))
  /-- The migration body was invoked. -/
  | invoked

/-- What comes of a script. -/
structure Run (σ α : Type) where
  result : Except MigrationError α
  /-- The state of the session at the end. -/
  state : σ
  events : List Event

namespace Run

/-- The run with something that happened before it. -/
def after {σ α : Type} (r : Run σ α) (event : Event) : Run σ α :=
  { r with events := event :: r.events }

/-- The statements that were called, failed ones included, in order. -/
def calls {σ α : Type} (r : Run σ α) : List Statement :=
  r.events.filterMap fun
    | .called s _ => some s
    | .invoked => none

/-- The migration body was invoked. -/
def invoked {σ α : Type} (r : Run σ α) : Bool :=
  r.events.any fun
    | .called .. => false
    | .invoked => true

end Run

namespace Session

/-- Runs a script on a session. -/
def run {σ α : Type} (s : Session σ) : Script α → σ → Run σ α
  | .done result, state => ⟨result, state, []⟩
  | .call statement report next, state =>
    match s.call statement state with
    | (.ok rows, state') => (s.run (next rows) state').after (.called statement (.ok rows))
    | (.error e, state') => ⟨.error (report e), state', [.called statement (.error e)]⟩
  | .invoke (.ok plan) next, state => (s.run (next plan) state).after .invoked
  | .invoke (.error e) _, state => ⟨.error e, state, [.invoked]⟩

/-- The session with its tables listed elsewhere. -/
def withCatalog {σ : Type} (s : Session σ) (catalog : TableCatalog) : Session σ :=
  { s with dialect.catalog := catalog }

end Session

end SchemaEvolution
