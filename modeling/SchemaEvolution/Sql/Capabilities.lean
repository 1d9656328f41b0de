/-!
# Capabilities of a dialect

The few points in which the statements for a change differ between databases.
-/

namespace SchemaEvolution

/-- What a dialect can express (`DialectFeatures`). -/
structure Capabilities where
  /-- A column can be dropped under `IF EXISTS` (`conditional_operations`). -/
  conditionalDrop : Bool := false
  /-- A column gets a new type by `MODIFY COLUMN` (`modify_column_syntax`). -/
  columnModification : Bool := false
  /-- A column gets a new type by `ALTER COLUMN` with `TYPE` (`alter_column_type_syntax`). -/
  typeAlteration : Bool := false
  /-- A change of type takes a conversion after `USING` (`using_clause_support`). -/
  typeConversion : Bool := false
deriving DecidableEq

namespace Capabilities

/-- Nothing beyond what every database offers. -/
def generic : Capabilities := {}

/-- SQLite offers nothing optional: it has no way to change a column's type. -/
def sqlite : Capabilities := {}

/-- PostgreSQL changes types in place, with a conversion. -/
def postgres : Capabilities :=
  { conditionalDrop := true, typeAlteration := true, typeConversion := true }

/-- MySQL changes types by a new definition of the column. -/
def mysql : Capabilities :=
  { columnModification := true }

/-- MariaDB does as MySQL, and can drop a column conditionally. -/
def mariadb : Capabilities :=
  { conditionalDrop := true, columnModification := true }

/-- A change of type ends in a conversion after `USING`. -/
def converts (c : Capabilities) : Bool :=
  !c.columnModification && c.typeAlteration && c.typeConversion

end Capabilities

end SchemaEvolution
