import SchemaEvolution.Change.Walk
import SchemaEvolution.Session.Catalog

/-!
# Execution

A plan is executed step by step.  An operation is compiled, and its statements are called in
order.  A guard asks the catalog when it is reached; if the answer is as expected, its block is
executed before the step that follows it.  The first error ends everything.
-/

namespace SchemaEvolution

/-- Compiles an operation and calls its statements in order. -/
def Operation.execute (d : Dialect) (op : Operation) : Script Unit := do
  Script.sendAll (← Script.ofResult .invalidOperation (op.compile d))

/-- Asks whether the block of a guard is to be entered (`Guard::holds`). -/
def isEntered (d : Dialect) (table : String) (expectsTable : Bool) : Script Bool := do
  return (← d.catalog.hasTable table) == expectsTable

/-- Executes operations, and asks guards. -/
def executor (d : Dialect) : Walker Script where
  perform := Operation.execute d
  enters := isEntered d

/-- Executes steps in order (`execute`). -/
def Plan.execute (d : Dialect) (plan : Plan) : Script Unit :=
  Plan.walk (executor d) plan

/-- Asks the guards of a plan in order whether their blocks are to be entered, and executes
nothing. -/
def Plan.askGuards (d : Dialect) : Plan → Script (List Bool)
  | [] => pure []
  | .operation _ :: steps => Plan.askGuards d steps
  | .guarded table expectsTable _ :: steps => do
    let entered ← isEntered d table expectsTable
    return entered :: (← Plan.askGuards d steps)

end SchemaEvolution
