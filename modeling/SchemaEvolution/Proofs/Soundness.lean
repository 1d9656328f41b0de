import SchemaEvolution.Proofs.Rejections

/-!
# Sound statements

What a statement never has if it comes from an operation.

* `Statement.IsFinite`: no real literal that is not finite.  It is shown part by part, like the
  statement is put together.
* `Statement.HasColumns`: an empty list between the parentheses of something that is created.
* `Statement.IsSound` is both together.  Every statement of an operation is sound
  (`Operation.isSound_of_mem_compile`).
-/

namespace SchemaEvolution

/-! ## Literals and lists of columns -/

namespace Statement

/-- Every real number that the statement has as a literal is finite. -/
def IsFinite (s : Statement) : Prop :=
  ∀ x, .literal (.real x) ∈ s → x.isFinite = true

/-- The words with which a statement begins. -/
def opening? : Statement → Option String
  | .clause text :: _ => some text
  | _ => none

/-- The statement creates a table. -/
def createsTable (s : Statement) : Bool :=
  s.opening? == some "CREATE TABLE"

/-- The statement creates an index. -/
def createsIndex (s : Statement) : Bool :=
  s.opening? == some "CREATE INDEX" || s.opening? == some "CREATE UNIQUE INDEX"

/-- Something stands between the first parenthesis and the one with which the statement ends. -/
def HasColumns (s : Statement) : Prop :=
  ∃ before columns, s = before ++ .clause "(" :: columns ++ [.clause ")"] ∧
    .clause "(" ∉ before ∧ columns ≠ []

theorem isFinite_nil : IsFinite [] :=
  fun _ h => absurd h List.not_mem_nil

theorem isFinite_append {a b : Statement} : IsFinite (a ++ b) ↔ a.IsFinite ∧ b.IsFinite := by
  simp only [IsFinite, List.mem_append]
  exact ⟨fun h => ⟨fun x hx => h x (Or.inl hx), fun x hx => h x (Or.inr hx)⟩,
    fun h x hx => hx.elim (h.1 x) (h.2 x)⟩

theorem isFinite_clause {text : String} {s : Statement} :
    IsFinite (.clause text :: s) ↔ s.IsFinite := by
  simp [IsFinite]

theorem isFinite_name {name : String} {s : Statement} :
    IsFinite (.name name :: s) ↔ s.IsFinite := by
  simp [IsFinite, Fragment.name]

theorem isFinite_clauseIf {wanted : Bool} {text : String} : IsFinite (clauseIf wanted text) := by
  cases wanted with
  | false => exact isFinite_nil
  | true => exact isFinite_clause.mpr isFinite_nil

theorem isFinite_separated {items : List Statement} (h : ∀ item ∈ items, item.IsFinite) :
    IsFinite (separated items) := by
  induction items using separated.induct with
  | case1 => exact isFinite_nil
  | case2 item => exact h item List.mem_cons_self
  | case3 item items hne ih =>
    rw [separated]
    · exact isFinite_append.mpr ⟨h item List.mem_cons_self,
        isFinite_clause.mpr (ih fun item' h' => h item' (List.mem_cons_of_mem _ h'))⟩
    · exact hne

theorem isFinite_parenthesized {items : List Statement} (h : ∀ item ∈ items, item.IsFinite) :
    IsFinite (parenthesized items) :=
  isFinite_append.mpr ⟨isFinite_clause.mpr (isFinite_separated h),
    isFinite_clause.mpr isFinite_nil⟩

/-- Items that say something, with commas between them, say something. -/
theorem separated_ne_nil {items : List Statement} (hitems : items ≠ [])
    (hne : ∀ item ∈ items, item ≠ []) : separated items ≠ [] := by
  cases items with
  | nil => exact absurd rfl hitems
  | cons item items =>
    have hitem := hne item List.mem_cons_self
    cases items <;> simp [separated, hitem]

/-- A statement that ends in items in parentheses, and has no parenthesis before them. -/
theorem hasColumns_parenthesized {before : Statement} {items : List Statement}
    (hbefore : .clause "(" ∉ before) (hitems : items ≠ []) (hne : ∀ item ∈ items, item ≠ []) :
    HasColumns (before ++ parenthesized items) := by
  refine ⟨before, separated items, ?_, hbefore, separated_ne_nil hitems hne⟩
  rw [parenthesized]
  simp

/-- Names in parentheses have no real literals. -/
theorem isFinite_names (identifiers : List Identifier) : IsFinite (names identifiers) := by
  refine isFinite_parenthesized fun item hitem => ?_
  obtain ⟨i, -, rfl⟩ := List.mem_map.mp hitem
  simp [IsFinite]

/-- All real literals are finite, and something that is created has columns. -/
structure IsSound (s : Statement) : Prop where
  finite : s.IsFinite
  columns : s.createsTable = true ∨ s.createsIndex = true → s.HasColumns

/-- A statement that creates nothing needs no columns. -/
theorem isSound_of_opening {words : String} {s : Statement}
    (hwords : words ∉ ["CREATE TABLE", "CREATE INDEX", "CREATE UNIQUE INDEX"]) (h : s.IsFinite) :
    IsSound (.clause words :: s) := by
  refine ⟨isFinite_clause.mpr h, fun hcreates => absurd hwords ?_⟩
  simp only [createsTable, createsIndex, opening?, Bool.or_eq_true, beq_iff_eq,
    Option.some.injEq] at hcreates
  simp only [List.mem_cons, List.not_mem_nil, or_false, not_not]
  exact hcreates

/-- A statement that drops or renames something by its name. -/
theorem isSound_dropping {words guard name : String} {wanted : Bool}
    (hwords : words ∉ ["CREATE TABLE", "CREATE INDEX", "CREATE UNIQUE INDEX"]) :
    IsSound (.clause words :: clauseIf wanted guard ++ [.name name]) :=
  isSound_of_opening hwords
    (isFinite_append.mpr ⟨isFinite_clauseIf, isFinite_name.mpr isFinite_nil⟩)

end Statement

/-! ## The statements of an operation -/

namespace Column

variable {c : Column} {s : Statement}

theorem isFinite_constraints (h : c.HasFiniteDefault) : c.constraints.IsFinite := by
  rw [constraints, Statement.isFinite_append, Statement.isFinite_append]
  refine ⟨⟨Statement.isFinite_clauseIf, ?_⟩, Statement.isFinite_clauseIf⟩
  cases hvalue : c.defaultValue with
  | none => exact Statement.isFinite_nil
  | some value =>
    refine Statement.isFinite_clause.mpr fun x hx => ?_
    cases List.mem_singleton.mp hx
    exact h x hvalue

theorem isFinite_definition (h : c.definition = .ok s) : s.IsFinite ∧ s ≠ [] := by
  have hdefault : c.HasFiniteDefault := exists_definition_iff.mp ⟨s, h⟩
  rw [definition, nonFiniteDefault?_eq_none_iff.mpr hdefault] at h
  cases h
  have hconstraints := isFinite_constraints hdefault
  exact ⟨Statement.isFinite_name.mpr (Statement.isFinite_clause.mpr hconstraints),
    List.cons_ne_nil _ _⟩

end Column

theorem TableColumn.isFinite_definition {d : Dialect} {c : TableColumn} {s : Statement}
    (h : c.definition d = .ok s) : s.IsFinite ∧ s ≠ [] := by
  cases c with
  | key name options =>
    cases h
    exact ⟨Statement.isFinite_clause.mpr Statement.isFinite_nil, List.cons_ne_nil _ _⟩
  | ordinary column => exact Column.isFinite_definition h

namespace IndexDefinition

theorem isSound_createStatement {i : IndexDefinition} (h : i.columns ≠ []) :
    i.createStatement.IsSound := by
  refine ⟨?_, fun _ => Statement.hasColumns_parenthesized ?_ (by simpa using h) (by simp)⟩
  · simp only [createStatement, Statement.isFinite_append, Statement.isFinite_clause,
      Statement.isFinite_name]
    refine ⟨⟨⟨Statement.isFinite_clauseIf, Statement.isFinite_nil⟩, ?_⟩,
      Statement.isFinite_names _⟩
    cases i.method with
    | none => exact Statement.isFinite_nil
    | some method =>
      exact Statement.isFinite_clause.mpr (Statement.isFinite_name.mpr Statement.isFinite_nil)
  · unfold Statement.clauseIf
    cases i.unique <;> cases i.ifNotExists <;> cases i.method <;> simp [Fragment.name]

theorem isSound_of_mem_compile {i : IndexDefinition} {statements : List Statement}
    (h : i.compile = .ok statements) {s : Statement} (hs : s ∈ statements) : s.IsSound := by
  unfold compile at h
  split at h
  · cases h
  · rename_i hcolumns
    cases h
    rcases List.mem_append.mp hs with hs | hs
    · split at hs
      · rw [List.mem_singleton.mp hs]
        exact Statement.isSound_dropping (by decide)
      · cases hs
    · rw [List.mem_singleton.mp hs]
      exact isSound_createStatement (List.isEmpty_iff.not.mp hcolumns)

end IndexDefinition

namespace TableDefinition

variable {t : TableDefinition}

theorem isSound_createStatement {definitions : List Statement} (hne : definitions ≠ [])
    (hdefinitions : ∀ definition ∈ definitions, definition.IsFinite ∧ definition ≠ []) :
    (t.createStatement definitions).IsSound := by
  have hsplit : t.createStatement definitions =
      (.clause "CREATE TABLE" :: Statement.clauseIf t.ifNotExists "IF NOT EXISTS" ++
        [.name t.name]) ++ Statement.parenthesized definitions := by
    simp [createStatement]
  rw [hsplit]
  refine ⟨?_, fun _ => Statement.hasColumns_parenthesized ?_ hne fun _ h => (hdefinitions _ h).2⟩
  · exact Statement.isFinite_append.mpr ⟨Statement.isFinite_append.mpr
      ⟨Statement.isFinite_clause.mpr Statement.isFinite_clauseIf,
        Statement.isFinite_name.mpr Statement.isFinite_nil⟩,
      Statement.isFinite_parenthesized fun _ h => (hdefinitions _ h).1⟩
  · unfold Statement.clauseIf
    cases t.ifNotExists <;> simp [Fragment.name]

theorem isSound_of_mem_compile {d : Dialect} {statements : List Statement}
    (h : t.compile d = .ok statements) {s : Statement} (hs : s ∈ statements) : s.IsSound := by
  obtain ⟨hcolumns, definitions, hdefinitions, rfl⟩ := compile_eq_ok_iff.mp h
  rcases List.mem_append.mp hs with hs | hs
  · split at hs
    · rw [List.mem_singleton.mp hs]
      exact Statement.isSound_dropping (by decide)
    · cases hs
  rcases List.mem_cons.mp hs with rfl | hs
  · refine isSound_createStatement ?_ fun definition hdefinition => ?_
    · rintro rfl
      have hempty := mapM_eq_ok_iff.mp hdefinitions
      rw [List.forall₂_nil_right_iff] at hempty
      exact hcolumns hempty
    · obtain ⟨column, -, hcolumn⟩ := exists_of_mem_mapM hdefinitions hdefinition
      exact TableColumn.isFinite_definition hcolumn
  · obtain ⟨column, -, rfl⟩ := List.mem_map.mp hs
    exact IndexDefinition.isSound_createStatement (List.cons_ne_nil column [])

end TableDefinition

theorem ColumnChange.isSound_of_compile {can : Capabilities} {table : String} {c : ColumnChange}
    {s : Statement} (h : c.compile can table = .ok s) : s.IsSound := by
  cases c with
  | add column =>
    rw [compile_add] at h
    cases hdefinition : column.definition with
    | error reason =>
      rw [hdefinition] at h
      cases h
    | ok definition =>
      rw [hdefinition] at h
      cases h
      refine Statement.isSound_of_opening (by decide) (Statement.isFinite_name.mpr ?_)
      exact Statement.isFinite_clause.mpr (Column.isFinite_definition hdefinition).1
  | drop name ifExists =>
    cases h
    refine Statement.isSound_of_opening (by decide) (Statement.isFinite_name.mpr ?_)
    exact (Statement.isSound_dropping (by decide)).finite
  | rename name newName =>
    cases h
    refine Statement.isSound_of_opening (by decide) ?_
    simp [Statement.IsFinite, Fragment.name]
  | retype name sqlType =>
    cases h
    refine Statement.isSound_of_opening (by decide) (Statement.isFinite_name.mpr ?_)
    unfold retypeClauses
    split
    · simp [Statement.IsFinite, Fragment.name]
    · cases can.converts <;> simp [Statement.IsFinite, Fragment.name]

/-- The statements of an operation have no real literal that is not finite, and no empty list of
columns. -/
theorem Operation.isSound_of_mem_compile {d : Dialect} {op : Operation}
    {statements : List Statement} (h : op.compile d = .ok statements) {s : Statement}
    (hs : s ∈ statements) : s.IsSound := by
  cases op with
  | createTable t => exact TableDefinition.isSound_of_mem_compile h hs
  | alterTable table changes =>
    obtain ⟨change, -, hchange⟩ := exists_of_mem_mapM h hs
    exact ColumnChange.isSound_of_compile hchange
  | createIndex i => exact IndexDefinition.isSound_of_mem_compile h hs
  | dropTable table ifExists =>
    cases h
    rw [List.mem_singleton.mp hs]
    exact Statement.isSound_dropping (by decide)
  | renameTable table newName =>
    cases h
    rw [List.mem_singleton.mp hs]
    refine Statement.isSound_of_opening (by decide) ?_
    simp [Statement.IsFinite, Fragment.name]
  | dropIndex index ifExists =>
    cases h
    rw [List.mem_singleton.mp hs]
    exact Statement.isSound_dropping (by decide)

end SchemaEvolution
