import SchemaEvolution.Proofs.Wording

/-!
# What cannot be written as statements

Three things are rejected: a table without columns, an index without columns, and a column whose
default is a real number that is not finite.  No dialect has a say in it.

* `Operation.IsWritable` and `Operation.Rejected`: the operations that can be written, and the
  reason against each of the others.
* `Column.definition_eq_error_iff`, `TableColumn.definition_eq_error_iff`,
  `ColumnChange.compile_eq_error_iff`: the only parts of an operation that can be rejected are
  ordinary columns.
* `Operation.compile_eq_error_iff`, `Operation.exists_compile_iff`: compiling an operation fails
  for the reason for which it is rejected, and succeeds if it can be written.
-/

namespace SchemaEvolution

/-! ## Writable and rejected operations -/

namespace Operation

/-- The operation can be written as statements. -/
def IsWritable : Operation → Prop
  | createTable t => t.columns ≠ [] ∧ ∀ column ∈ t.columns, column.HasFiniteDefault
  | alterTable _ changes => ∀ change ∈ changes, change.HasFiniteDefault
  | createIndex i => i.columns ≠ []
  | dropTable .. | renameTable .. | dropIndex .. => True

instance : (op : Operation) → Decidable op.IsWritable
  | createTable t =>
    inferInstanceAs (Decidable (t.columns ≠ [] ∧ ∀ column ∈ t.columns, column.HasFiniteDefault))
  | alterTable _ changes =>
    inferInstanceAs (Decidable (∀ change ∈ changes, change.HasFiniteDefault))
  | createIndex i => inferInstanceAs (Decidable (i.columns ≠ []))
  | dropTable .. | renameTable .. | dropIndex .. => inferInstanceAs (Decidable True)

/-- An operation is rejected for a reason: because it has no columns, or because of the first of its
columns whose default is not finite. -/
inductive Rejected : Operation → Rejection → Prop
  | emptyTable {t : TableDefinition} (h : t.columns = []) :
      Rejected (.createTable t) (.tableWithoutColumns t.name)
  | tableColumn {t : TableDefinition} {before after : List TableColumn} {column : Column}
      {x : Binary64} (hcolumns : t.columns = before ++ .ordinary column :: after)
      (hbefore : ∀ earlier ∈ before, earlier.HasFiniteDefault)
      (hdefault : column.defaultValue = some (.real x)) (hx : x.isFinite = false) :
      Rejected (.createTable t) (.nonFiniteDefault column.name x)
  | addedColumn {table : String} {before after : List ColumnChange} {column : Column}
      {x : Binary64} (hbefore : ∀ earlier ∈ before, earlier.HasFiniteDefault)
      (hdefault : column.defaultValue = some (.real x)) (hx : x.isFinite = false) :
      Rejected (.alterTable table (before ++ .add column :: after))
        (.nonFiniteDefault column.name x)
  | emptyIndex {i : IndexDefinition} (h : i.columns = []) :
      Rejected (.createIndex i) (.indexWithoutColumns i.name i.table)

end Operation

/-! ## Columns -/

namespace Column

variable {c : Column} {reason : Rejection}

theorem exists_definition_iff : (∃ s, c.definition = .ok s) ↔ c.HasFiniteDefault := by
  rw [← nonFiniteDefault?_eq_none_iff, definition]
  cases c.nonFiniteDefault? <;> simp

theorem nonFiniteDefault?_eq_some_iff {x : Binary64} :
    c.nonFiniteDefault? = some x ↔ c.defaultValue = some (.real x) ∧ x.isFinite = false := by
  constructor
  · intro h
    unfold nonFiniteDefault? at h
    split at h
    · rename_i y hy
      split at h
      · cases h
      · rename_i hfinite
        cases h
        exact ⟨hy, Bool.eq_false_iff.mpr hfinite⟩
    · cases h
  · rintro ⟨hdefault, hx⟩
    exact nonFiniteDefault?_of_not_isFinite hdefault hx

theorem definition_eq_error_iff : c.definition = .error reason ↔
    ∃ x, c.defaultValue = some (.real x) ∧ x.isFinite = false ∧
      reason = .nonFiniteDefault c.name x := by
  have hnone : c.definition = .error reason ↔
      ∃ x, c.nonFiniteDefault? = some x ∧ reason = .nonFiniteDefault c.name x := by
    unfold definition
    cases c.nonFiniteDefault? <;> simp [eq_comm]
  simp only [hnone, nonFiniteDefault?_eq_some_iff, and_assoc]

end Column

namespace TableColumn

variable {d : Dialect} {c : TableColumn} {reason : Rejection}

theorem exists_definition_iff : (∃ s, c.definition d = .ok s) ↔ c.HasFiniteDefault := by
  cases c with
  | key name options => simp [definition, HasFiniteDefault]
  | ordinary column => exact Column.exists_definition_iff

/-- A key column is never rejected. -/
theorem definition_eq_error_iff : c.definition d = .error reason ↔
    ∃ column x, c = .ordinary column ∧ column.defaultValue = some (.real x) ∧
      x.isFinite = false ∧ reason = .nonFiniteDefault column.name x := by
  cases c with
  | key name options => simp [definition]
  | ordinary column => simp [definition, Column.definition_eq_error_iff]

end TableColumn

namespace ColumnChange

variable {can : Capabilities} {table : String} {c : ColumnChange} {reason : Rejection}

/-- Of all changes only an added column can be rejected, and it is if its definition is. -/
theorem compile_add (column : Column) :
    (add column).compile can table = column.definition.map fun definition =>
      .clause "ALTER TABLE" :: .name table :: .clause "ADD COLUMN" :: definition := by
  rw [compile, clauses]
  cases column.definition <;> rfl

theorem exists_compile_iff : (∃ s, c.compile can table = .ok s) ↔ c.HasFiniteDefault := by
  cases c with
  | add column =>
    rw [HasFiniteDefault, ← Column.exists_definition_iff, compile_add]
    cases column.definition <;> simp [Except.map]
  | drop | rename | retype => exact ⟨fun _ => trivial, fun _ => ⟨_, rfl⟩⟩

theorem compile_eq_error_iff : c.compile can table = .error reason ↔
    ∃ column x, c = .add column ∧ column.defaultValue = some (.real x) ∧
      x.isFinite = false ∧ reason = .nonFiniteDefault column.name x := by
  cases c with
  | add column =>
    have hadd : (add column).compile can table = .error reason ↔
        column.definition = .error reason := by
      rw [compile_add]
      cases column.definition <;> simp [Except.map]
    simp [hadd, Column.definition_eq_error_iff]
  | drop | rename | retype =>
    constructor
    · intro h
      cases h
    · rintro ⟨column, x, h, -⟩
      cases h

end ColumnChange

/-! ## Compiling an operation -/

/-- A table fails by having no columns, or else by one of its columns; its indexes never fail. -/
theorem TableDefinition.compile_eq_error_iff {d : Dialect} {t : TableDefinition}
    {reason : Rejection} : t.compile d = .error reason ↔
      t.columns = [] ∧ reason = .tableWithoutColumns t.name ∨
        t.columns.mapM (TableColumn.definition d) = .error reason := by
  unfold compile
  rw [t.compile_indexes]
  by_cases hempty : t.columns = []
  · rw [if_pos (List.isEmpty_iff.mpr hempty), hempty]
    constructor
    · intro h
      cases h
      exact Or.inl ⟨rfl, rfl⟩
    · rintro (⟨-, rfl⟩ | h)
      · rfl
      · cases h
  · rw [if_neg (List.isEmpty_iff.not.mpr hempty)]
    cases hcolumns : t.columns.mapM (TableColumn.definition d) with
    | error e =>
      constructor
      · intro h
        cases h
        exact Or.inr rfl
      · rintro (⟨h, -⟩ | h)
        · exact absurd h hempty
        · cases h
          rfl
    | ok definitions =>
      constructor
      · intro h
        cases h
      · rintro (⟨h, -⟩ | h)
        · exact absurd h hempty
        · cases h

namespace Operation

variable {d : Dialect} {op : Operation} {reason : Rejection}

/-- Compiling fails for the reasons for which an operation is rejected, in every dialect. -/
theorem compile_eq_error_iff : op.compile d = .error reason ↔ op.Rejected reason := by
  cases op with
  | createTable t =>
    rw [compile, TableDefinition.compile_eq_error_iff, mapM_eq_error_iff]
    constructor
    · rintro (⟨hempty, rfl⟩ | ⟨before, c, after, hcolumns, hbefore, hc⟩)
      · exact .emptyTable hempty
      · obtain ⟨column, x, rfl, hdefault, hx, rfl⟩ := TableColumn.definition_eq_error_iff.mp hc
        exact .tableColumn hcolumns
          (fun earlier h => TableColumn.exists_definition_iff.mp (hbefore earlier h)) hdefault hx
    · intro h
      cases h with
      | emptyTable hempty => exact Or.inl ⟨hempty, rfl⟩
      | tableColumn hcolumns hbefore hdefault hx =>
        exact Or.inr ⟨_, _, _, hcolumns,
          fun earlier h => TableColumn.exists_definition_iff.mpr (hbefore earlier h),
          TableColumn.definition_eq_error_iff.mpr ⟨_, _, rfl, hdefault, hx, rfl⟩⟩
  | alterTable table changes =>
    rw [compile, mapM_eq_error_iff]
    constructor
    · rintro ⟨before, c, after, rfl, hbefore, hc⟩
      obtain ⟨column, x, rfl, hdefault, hx, rfl⟩ := ColumnChange.compile_eq_error_iff.mp hc
      exact .addedColumn
        (fun earlier h => ColumnChange.exists_compile_iff.mp (hbefore earlier h)) hdefault hx
    · intro h
      cases h with
      | addedColumn hbefore hdefault hx =>
        exact ⟨_, _, _, rfl,
          fun earlier h => ColumnChange.exists_compile_iff.mpr (hbefore earlier h),
          ColumnChange.compile_eq_error_iff.mpr ⟨_, _, rfl, hdefault, hx, rfl⟩⟩
  | createIndex i =>
    rw [compile, IndexDefinition.compile]
    constructor
    · intro h
      split at h
      · rename_i hempty
        cases h
        exact .emptyIndex (List.isEmpty_iff.mp hempty)
      · cases h
    · intro h
      cases h with
      | emptyIndex hempty => rw [if_pos (List.isEmpty_iff.mpr hempty)]
  | dropTable | renameTable | dropIndex =>
    constructor
    · intro h
      cases h
    · intro h
      cases h

/-- Compiling succeeds for the operations that can be written, in every dialect. -/
theorem exists_compile_iff : (∃ statements, op.compile d = .ok statements) ↔ op.IsWritable := by
  cases op with
  | createTable t =>
    have hcolumns : (∃ definitions, t.columns.mapM (TableColumn.definition d) = .ok definitions) ↔
        ∀ column ∈ t.columns, column.HasFiniteDefault := by
      simp only [exists_mapM_iff, TableColumn.exists_definition_iff]
    rw [IsWritable, ← hcolumns]
    constructor
    · rintro ⟨statements, h⟩
      obtain ⟨hne, definitions, hdefinitions, -⟩ := TableDefinition.compile_eq_ok_iff.mp h
      exact ⟨hne, definitions, hdefinitions⟩
    · rintro ⟨hne, definitions, hdefinitions⟩
      exact ⟨_, TableDefinition.compile_eq_ok_iff.mpr ⟨hne, definitions, hdefinitions, rfl⟩⟩
  | alterTable table changes =>
    rw [compile, exists_mapM_iff, IsWritable]
    simp only [ColumnChange.exists_compile_iff]
  | createIndex i =>
    rw [compile, IndexDefinition.compile, IsWritable, ne_eq, ← List.isEmpty_iff]
    cases i.columns.isEmpty <;> simp
  | dropTable | renameTable | dropIndex => exact ⟨fun _ => trivial, fun _ => ⟨_, rfl⟩⟩

end Operation

end SchemaEvolution
