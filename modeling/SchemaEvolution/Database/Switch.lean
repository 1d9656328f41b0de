/-!
# Switches

The settings of a session that are on or off.

* `Switch.named` lists them under the names by which statements turn them.
* `Switch.initial` are those that are on at the beginning of a session.
-/

namespace SchemaEvolution.Database

/-- A setting of a session that is on or off. -/
inductive Switch where
  /-- Indexes may be made for a query alone. -/
  | automaticIndexes
  | cacheSpilling
  /-- `LIKE` tells capital letters from small ones. -/
  | caseSensitiveLike
  | cellSizeChecks
  | checkpointSynchronization
  /-- A change of rows returns the number of the rows. -/
  | countedChanges
  /-- All foreign keys are checked at the end of the transaction. -/
  | deferredKeys
  | emptyResultCalls
  /-- Foreign keys are checked. -/
  | foreignKeys
  | fullColumnNames
  | fullSynchronization
  /-- Conditions on rows are not checked. -/
  | ignoredChecks
  /-- Renaming a table leaves views and triggers as they are. -/
  | legacyRenaming
  /-- Nothing may be changed. -/
  | queriesOnly
  /-- A trigger may be the cause of itself. -/
  | recursiveTriggers
  /-- Rows come the other way round where no order is asked for. -/
  | reversedScans
  | shortColumnNames
  | trustedDefinitions
  | uncommittedReads
  /-- The catalog may be changed as a table. -/
  | writableCatalog
deriving DecidableEq

namespace Switch

/-- The switches by the names under which statements show and turn them. -/
def named : List (String × Switch) := [
  ("automatic_index", automaticIndexes), ("cell_size_check", cellSizeChecks),
  ("checkpoint_fullfsync", checkpointSynchronization), ("count_changes", countedChanges),
  ("defer_foreign_keys", deferredKeys), ("empty_result_callbacks", emptyResultCalls),
  ("foreign_keys", foreignKeys), ("full_column_names", fullColumnNames),
  ("fullfsync", fullSynchronization), ("ignore_check_constraints", ignoredChecks),
  ("legacy_alter_table", legacyRenaming), ("query_only", queriesOnly),
  ("read_uncommitted", uncommittedReads), ("recursive_triggers", recursiveTriggers),
  ("reverse_unordered_selects", reversedScans), ("short_column_names", shortColumnNames),
  ("trusted_schema", trustedDefinitions), ("writable_schema", writableCatalog)]

/-- The switches that are on at the beginning of a session. -/
def initial : List Switch :=
  [automaticIndexes, cacheSpilling, foreignKeys, shortColumnNames, trustedDefinitions]

end Switch

end SchemaEvolution.Database
