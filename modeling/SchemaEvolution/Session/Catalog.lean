import SchemaEvolution.Session.Script

/-!
# Looking up tables

Whether a table exists is asked of the catalog of a session, by its exact name.
-/

namespace SchemaEvolution

namespace TableCatalog

/-- The statement that looks a table up. -/
def lookup (catalog : TableCatalog) (table : String) : Statement :=
  [.clause "SELECT * FROM", .identifier catalog.relation, .clause "WHERE",
    .identifier catalog.nameColumn, .clause "=", .text table] ++
    (match catalog.kind with
      | some (column, value) =>
        [.clause "AND", .identifier column, .clause "=", .literal value]
      | none => [])

/-- Asks whether a table exists (`table_exists`). -/
def hasTable (catalog : TableCatalog) (table : String) : Script Bool := do
  let rows ← Script.send (catalog.lookup table)
  return !rows.isEmpty

end TableCatalog

end SchemaEvolution
