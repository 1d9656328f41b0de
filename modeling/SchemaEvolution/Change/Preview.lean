import SchemaEvolution.Change.Walk

/-!
# Previews

A preview is the text of every statement that a plan would send to a database without tables: only
blocks that expect a missing table are entered.
-/

namespace SchemaEvolution

/-- Writes the statements of operations down, and enters the blocks that expect a missing table. -/
def previewer (d : Dialect) : Walker (StateT (List String) (Except Rejection)) where
  perform op := do
    let statements ← op.compile d
    modify (· ++ statements.map d.render)
  enters _ expectsTable := pure !expectsTable

/-- The statements of a plan as texts, or the first reason against them. -/
def Plan.preview (d : Dialect) (plan : Plan) : Except Rejection (List String) := do
  let ((), texts) ← (Plan.walk (previewer d) plan).run []
  return texts

/-- The statements of a migration body as texts, or the first error (`sql_for_session`). -/
def Body.preview (d : Dialect) (body : Body) :
    Except MigrationError (List String) := do
  let plan ← body
  (Plan.preview d plan).mapError .invalidOperation

end SchemaEvolution
