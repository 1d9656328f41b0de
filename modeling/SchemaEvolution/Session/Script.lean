import SchemaEvolution.Change.Plan

/-!
# Scripts

A `Script` is a conversation with a database session, as data: calls of statements, each going on
with the rows it returns, and at some point the invocation of a migration body.  An error ends a
script, so nothing follows a failed call or a failed body.
-/

namespace SchemaEvolution

/-- A conversation with a session that ends in a value or an error. -/
inductive Script (α : Type) where
  /-- The end. -/
  | done (result : Except MigrationError α)
  /-- Calls a statement, and goes on with its rows; an error of the call ends the script, worded
  by `report`. -/
  | call (statement : Statement) (report : MigrationError → MigrationError)
      (next : List Row → Script α)
  /-- Invokes a migration body, and goes on with the plan it declares; its error ends the
  script. -/
  | invoke (body : Body) (next : Plan → Script α)

namespace Script

/-- Goes on with another script when one ends in a value. -/
def bind {α β : Type} : Script α → (α → Script β) → Script β
  | done (.ok a), f => f a
  | done (.error e), _ => done (.error e)
  | call s report next, f => call s report fun rows => (next rows).bind f
  | invoke body next, f => invoke body fun plan => (next plan).bind f

instance : Monad Script where
  pure a := done (.ok a)
  bind := bind

/-- The script that ends in a result. -/
def ofResult {ε α : Type} (wrap : ε → MigrationError) (r : Except ε α) : Script α :=
  done (r.mapError wrap)

/-- Calls one statement, and passes its error on. -/
def send (s : Statement) : Script (List Row) :=
  call s id fun rows => pure rows

/-- Calls statements in order. -/
def sendAll : List Statement → Script Unit
  | [] => pure ()
  | s :: ss => do
    let _ ← send s
    sendAll ss

/-- Invokes a migration body. -/
def invokeBody (body : Body) : Script Plan :=
  invoke body pure

end Script

end SchemaEvolution
