import SchemaEvolution.Ledger.Basic
import SchemaEvolution.Proofs.Compilation
import SchemaEvolution.Session.Catalog

/-!
# The statements of the ledger

The ledger is created, asked and written to by statements whose texts cannot be confused.

* `Ledger.setup`: the statements that create the ledger's table where it is missing
  (`Ledger.compile_table`).
* `Ledger.lookup_text_injective`, `Ledger.insertion_text_injective`: the text of a lookup or of an
  insertion determines the name, whatever characters it has.
* `Statement.SparesLedger`: the text of a statement is not that of an insertion.  This holds of
  everything else that a migration calls.
-/

namespace SchemaEvolution

namespace Ledger

/-! ## The table -/

/-- The definitions of the columns of the ledger's table. -/
def definitions (d : Dialect) : List Statement :=
  [[.clause (d.keyColumn "id" { primary := true })],
    [.name "name", .clause "TEXT", .clause "NOT NULL", .clause "UNIQUE"],
    [.name "created_at", .clause "TIMESTAMP"], [.name "updated_at", .clause "TIMESTAMP"]]

/-- The statements that create the ledger's table and its index where they are missing. -/
def setup (d : Dialect) : List Statement :=
  [table.createStatement (definitions d), (table.indexOn "name").createStatement]

/-- The ledger's table can be written as statements in every dialect. -/
theorem compile_table (d : Dialect) : table.compile d = .ok (setup d) := rfl

/-- Preparing the ledger calls its statements. -/
theorem prepare_eq_sendAll (d : Dialect) : prepare d = Script.sendAll (setup d) := rfl

/-! ## Names in texts -/

/-- Lookups of different names have different texts. -/
theorem lookup_text_injective (d : Dialect) {a b : String}
    (h : d.render (lookup a) = d.render (lookup b)) : a = b := by
  have hsplit : ∀ name : String, lookup name =
      [.clause "SELECT", .name "id", .clause "FROM", .name tableName, .clause "WHERE",
        .name "name", .clause "="] ++ .text name :: [] := fun _ => rfl
  rw [hsplit, hsplit] at h
  exact d.eq_of_render_text h

/-- Insertions of different names have different texts, whenever they are made. -/
theorem insertion_text_injective (d : Dialect) {now now' : Timestamp} {a b : String}
    (h : d.render (insertion now a) = d.render (insertion now' b)) : a = b := by
  have hsplit : ∀ (t : Timestamp) (name : String), insertion t name =
      ([.clause "INSERT INTO", .name tableName] ++
        Statement.names (["name", "created_at", "updated_at"].map .of) ++
        [.clause "VALUES", .clause "("]) ++
      .text name :: [.clause ",", .literal (.timestamp t), .clause ",", .literal (.timestamp t),
        .clause ")"] := fun _ _ => rfl
  rw [hsplit, hsplit] at h
  exact d.eq_of_render_text h

end Ledger

/-! ## Statements that are no insertions -/

/-- The text of a statement is not that of an insertion into the ledger. -/
def Statement.SparesLedger (d : Dialect) (statement : Statement) : Prop :=
  ∀ now name, d.render statement ≠ d.render (Ledger.insertion now name)

namespace Statement

variable {d : Dialect}

/-- A statement that begins otherwise is no insertion. -/
theorem sparesLedger_of_initial? {statement : Statement} {c : Char}
    (h : statement.initial? = some c) (hc : c ≠ 'I') : statement.SparesLedger d := by
  intro now name htext
  have hinsertion : (Ledger.insertion now name).initial? = some 'I' := rfl
  have hhead := d.head?_render h
  rw [htext, d.head?_render hinsertion, Option.some.injEq] at hhead
  exact hc hhead.symm

/-- A statement that creates, alters or drops something is no insertion. -/
theorem Defines.sparesLedger {statement : Statement} (h : statement.Defines) :
    statement.SparesLedger d := by
  rcases h with h | h | h
  · exact sparesLedger_of_initial? h (by decide)
  · exact sparesLedger_of_initial? h (by decide)
  · exact sparesLedger_of_initial? h (by decide)

/-- A question to the catalog is no insertion. -/
theorem sparesLedger_catalogLookup (catalog : TableCatalog) (table : String) :
    (catalog.lookup table).SparesLedger d :=
  sparesLedger_of_initial? (c := 'S') rfl (by decide)

/-- A lookup in the ledger is no insertion. -/
theorem sparesLedger_lookup (name : String) : (Ledger.lookup name).SparesLedger d :=
  sparesLedger_of_initial? (c := 'S') rfl (by decide)

/-- The statements that create the ledger's table are no insertions. -/
theorem sparesLedger_setup {statement : Statement} (h : statement ∈ Ledger.setup d) :
    statement.SparesLedger d :=
  (TableDefinition.defines_of_mem_compile (Ledger.compile_table d) h).sparesLedger

end Statement

end SchemaEvolution
