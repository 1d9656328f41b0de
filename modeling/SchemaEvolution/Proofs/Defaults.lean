import SchemaEvolution.Proofs.Previews

/-!
# Default values

Values occur in a plan as the defaults of columns, and in its statements as literals.

* `Plan.defaults` and `Plan.mapDefaults`: all default values of a plan, in blocks at any depth too,
  and the plan with each of them changed.
* `Statement.mapLiterals`: a statement with the value of each literal changed.
* `Operation.compile_mapDefaults`: what is changed in an operation is changed in its statements, and
  nothing else is.  The change must leave alone what is not finite, for which there are no literals.
* `Plan.statements`: the statements of a preview (`Plan.preview_eq_statements`), in which defaults
  can be changed too (`Plan.statements_mapDefaults`).
-/

namespace SchemaEvolution

/-! ## The defaults of a plan -/

namespace Column

/-- The default of a column, if it has one. -/
def defaults (c : Column) : List Value :=
  c.defaultValue.toList

/-- The column with its default changed. -/
def mapDefaults (f : Value → Value) (c : Column) : Column :=
  { c with defaultValue := c.defaultValue.map f }

end Column

namespace TableColumn

/-- The default of a column; a key has none. -/
def defaults : TableColumn → List Value
  | key .. => []
  | ordinary column => column.defaults

/-- The column with its default changed. -/
def mapDefaults (f : Value → Value) : TableColumn → TableColumn
  | key name options => key name options
  | ordinary column => ordinary (column.mapDefaults f)

end TableColumn

namespace ColumnChange

/-- The default of a column that is added. -/
def defaults : ColumnChange → List Value
  | add column => column.defaults
  | drop .. | rename .. | retype .. => []

/-- The change with the default of a column that is added changed. -/
def mapDefaults (f : Value → Value) : ColumnChange → ColumnChange
  | add column => add (column.mapDefaults f)
  | change => change

end ColumnChange

namespace TableDefinition

/-- The defaults of the columns, in order. -/
def defaults (t : TableDefinition) : List Value :=
  t.columns.flatMap TableColumn.defaults

/-- The table with the defaults of its columns changed. -/
def mapDefaults (f : Value → Value) (t : TableDefinition) : TableDefinition :=
  { t with columns := t.columns.map (TableColumn.mapDefaults f) }

end TableDefinition

namespace Operation

/-- The defaults in an operation, in order. -/
def defaults : Operation → List Value
  | createTable t => t.defaults
  | alterTable _ changes => changes.flatMap ColumnChange.defaults
  | dropTable .. | renameTable .. | createIndex _ | dropIndex .. => []

/-- The operation with its defaults changed. -/
def mapDefaults (f : Value → Value) : Operation → Operation
  | createTable t => createTable (t.mapDefaults f)
  | alterTable table changes => alterTable table (changes.map (ColumnChange.mapDefaults f))
  | op => op

end Operation

mutual

/-- The defaults in a step, in order, whether its block is entered or not. -/
def Step.defaults : Step → List Value
  | .operation op => op.defaults
  | .guarded _ _ block => Plan.defaults block

/-- The defaults in a plan, in order. -/
def Plan.defaults : Plan → List Value
  | [] => []
  | step :: steps => step.defaults ++ Plan.defaults steps

end

mutual

/-- The step with its defaults changed. -/
def Step.mapDefaults (f : Value → Value) : Step → Step
  | .operation op => .operation (op.mapDefaults f)
  | .guarded table expectsTable block => .guarded table expectsTable (Plan.mapDefaults f block)

/-- The plan with its defaults changed. -/
def Plan.mapDefaults (f : Value → Value) : Plan → Plan
  | [] => []
  | step :: steps => step.mapDefaults f :: Plan.mapDefaults f steps

end

/-! ## The literals of a statement -/

/-- The fragment with its value changed, if it is a literal. -/
def Fragment.mapLiteral (f : Value → Value) : Fragment → Fragment
  | literal v => literal (f v)
  | fragment => fragment

namespace Statement

/-- The statement with the value of each literal changed. -/
def mapLiterals (f : Value → Value) (s : Statement) : Statement :=
  s.map (Fragment.mapLiteral f)

variable (f : Value → Value)

@[simp] theorem mapLiterals_nil : mapLiterals f [] = [] :=
  rfl

@[simp] theorem mapLiterals_clause (text : String) (s : Statement) :
    mapLiterals f (.clause text :: s) = .clause text :: mapLiterals f s :=
  rfl

@[simp] theorem mapLiterals_name (name : String) (s : Statement) :
    mapLiterals f (.name name :: s) = .name name :: mapLiterals f s :=
  rfl

@[simp] theorem mapLiterals_append (a b : Statement) :
    mapLiterals f (a ++ b) = mapLiterals f a ++ mapLiterals f b :=
  List.map_append

@[simp] theorem mapLiterals_clauseIf (wanted : Bool) (text : String) :
    mapLiterals f (clauseIf wanted text) = clauseIf wanted text := by
  cases wanted <;> rfl

@[simp] theorem mapLiterals_separated (items : List Statement) :
    mapLiterals f (separated items) = separated (items.map (mapLiterals f)) := by
  induction items with
  | nil => rfl
  | cons item items ih =>
    cases items with
    | nil => rfl
    | cons next items =>
      simp only [separated, mapLiterals_append, mapLiterals_clause, ih, List.map_cons]

@[simp] theorem mapLiterals_parenthesized (items : List Statement) :
    mapLiterals f (parenthesized items) = parenthesized (items.map (mapLiterals f)) := by
  simp [parenthesized]

/-- There are no values among names. -/
@[simp] theorem mapLiterals_names (identifiers : List Identifier) :
    mapLiterals f (names identifiers) = names identifiers := by
  rw [names, mapLiterals_parenthesized, List.map_map]
  rfl

end Statement

/-! ## What has no values in it -/

namespace IndexDefinition

variable (f : Value → Value)

theorem mapLiterals_dropStatement (index : String) (ifExists : Bool) :
    (dropStatement index ifExists).mapLiterals f = dropStatement index ifExists := by
  simp [dropStatement]

theorem mapLiterals_createStatement (i : IndexDefinition) :
    i.createStatement.mapLiterals f = i.createStatement := by
  unfold createStatement
  cases i.method <;> simp

theorem compile_mapLiterals (i : IndexDefinition) :
    i.compile.map (List.map (Statement.mapLiterals f)) = i.compile := by
  unfold compile
  split_ifs <;> simp [Except.map, mapLiterals_dropStatement, mapLiterals_createStatement]

end IndexDefinition

theorem TableDefinition.mapLiterals_dropStatement (f : Value → Value) (table : String)
    (ifExists : Bool) :
    (dropStatement table ifExists).mapLiterals f = dropStatement table ifExists := by
  simp [dropStatement]

/-! ## Compiling -/

/-- The value, if it is a real number that is not finite. -/
def Value.nonFinite? : Value → Option Binary64
  | real x => if x.isFinite then none else some x
  | _ => none

theorem Column.nonFiniteDefault?_eq (c : Column) :
    c.nonFiniteDefault? = c.defaultValue.bind Value.nonFinite? := by
  unfold nonFiniteDefault?
  cases c.defaultValue with
  | none => rfl
  | some v => cases v <;> rfl

/-- What becomes of items that are changed, if for each of them the change shows in what it is
compiled to. -/
theorem mapM_map_of_natural {ε α β : Type} {compile : α → Except ε β} {g : α → α} {h : β → β}
    (hnatural : ∀ x, compile (g x) = (compile x).map h) (xs : List α) :
    (xs.map g).mapM compile = (xs.mapM compile).map (List.map h) := by
  induction xs with
  | nil => rfl
  | cons x xs ih =>
    rw [List.map_cons, List.mapM_cons, List.mapM_cons, hnatural, ih]
    cases compile x with
    | error e => rfl
    | ok y => cases xs.mapM compile <;> rfl

section

-- The reasons against a column quote its default, so they stay the same.
variable {f : Value → Value} (hf : ∀ v, (f v).nonFinite? = v.nonFinite?)
include hf

theorem Column.definition_mapDefaults (c : Column) :
    (c.mapDefaults f).definition = c.definition.map (Statement.mapLiterals f) := by
  have hrejected : (c.mapDefaults f).nonFiniteDefault? = c.nonFiniteDefault? := by
    rw [nonFiniteDefault?_eq, nonFiniteDefault?_eq, mapDefaults]
    cases c.defaultValue with
    | none => rfl
    | some v => exact hf v
  have hconstraints : (c.mapDefaults f).constraints = c.constraints.mapLiterals f := by
    simp only [constraints, mapDefaults, Statement.mapLiterals_append,
      Statement.mapLiterals_clauseIf]
    cases c.defaultValue <;> rfl
  rw [definition, definition, hrejected]
  cases c.nonFiniteDefault? with
  | some x => rfl
  | none =>
    rw [hconstraints]
    rfl

theorem TableColumn.definition_mapDefaults (d : Dialect) (c : TableColumn) :
    (c.mapDefaults f).definition d = (c.definition d).map (Statement.mapLiterals f) := by
  cases c with
  | key name options => rfl
  | ordinary column => exact column.definition_mapDefaults hf

theorem ColumnChange.compile_mapDefaults (can : Capabilities) (table : String)
    (c : ColumnChange) : (c.mapDefaults f).compile can table =
      (c.compile can table).map (Statement.mapLiterals f) := by
  cases c with
  | add column =>
    rw [mapDefaults, compile_add, compile_add, column.definition_mapDefaults hf]
    cases column.definition <;> rfl
  | drop name ifExists =>
    simp [mapDefaults, compile, clauses, bind, Except.bind, pure, Except.pure, Except.map]
  | rename name newName => rfl
  | retype name sqlType =>
    simp only [mapDefaults, compile, clauses, retypeClauses]
    split_ifs <;> rfl

theorem TableDefinition.compile_mapDefaults (d : Dialect) (t : TableDefinition) :
    (t.mapDefaults f).compile d = (t.compile d).map (List.map (Statement.mapLiterals f)) := by
  have hcolumns : (t.mapDefaults f).columns.mapM (TableColumn.definition d) =
      (t.columns.mapM (TableColumn.definition d)).map (List.map (Statement.mapLiterals f)) :=
    mapM_map_of_natural (TableColumn.definition_mapDefaults hf d) t.columns
  cases hcompile : t.compile d with
  | error reason =>
    rw [compile_eq_error_iff] at hcompile
    refine compile_eq_error_iff.mpr (hcompile.imp (fun h => ?_) fun h => ?_)
    · exact ⟨List.map_eq_nil_iff.mpr h.1, h.2⟩
    · rw [hcolumns, h]
      rfl
  | ok statements =>
    obtain ⟨hne, definitions, hdefinitions, rfl⟩ := compile_eq_ok_iff.mp hcompile
    have hdrop : (if t.dropIfExists then [dropStatement t.name true] else []).map
        (Statement.mapLiterals f) = if t.dropIfExists then [dropStatement t.name true] else [] := by
      split_ifs <;> simp [mapLiterals_dropStatement]
    have hcreate : (t.createStatement definitions).mapLiterals f =
        (t.mapDefaults f).createStatement (definitions.map (Statement.mapLiterals f)) := by
      simp [createStatement, mapDefaults]
    have hindexes : (t.indexes.map fun column => (t.indexOn column).createStatement).map
        (Statement.mapLiterals f) =
          t.indexes.map fun column => (t.indexOn column).createStatement := by
      simp [IndexDefinition.mapLiterals_createStatement]
    refine compile_eq_ok_iff.mpr ⟨fun h => hne (List.map_eq_nil_iff.mp h),
      definitions.map (Statement.mapLiterals f), ?_, ?_⟩
    · rw [hcolumns, hdefinitions]
      rfl
    · rw [List.map_append, List.map_cons, hdrop, hcreate, hindexes]
      rfl

/-- What is changed in an operation is changed in its statements, and a reason against it stays. -/
theorem Operation.compile_mapDefaults (d : Dialect) (op : Operation) :
    (op.mapDefaults f).compile d = (op.compile d).map (List.map (Statement.mapLiterals f)) := by
  cases op with
  | createTable t => exact t.compile_mapDefaults hf d
  | alterTable table changes =>
    exact mapM_map_of_natural (ColumnChange.compile_mapDefaults hf d.capabilities table) changes
  | createIndex i => exact (i.compile_mapLiterals f).symm
  | dropTable table ifExists =>
    simp [mapDefaults, compile, Except.map, TableDefinition.mapLiterals_dropStatement]
  | dropIndex index ifExists =>
    simp [mapDefaults, compile, Except.map, IndexDefinition.mapLiterals_dropStatement]
  | renameTable table newName => rfl

end

/-! ## Previews -/

mutual

theorem Step.traversal_mapDefaults (f : Value → Value) : ∀ step : Step,
    (step.mapDefaults f).traversal = step.traversal.map (Operation.mapDefaults f)
  | .operation op => by
    rw [Step.mapDefaults, Step.traversal, Step.traversal]
    rfl
  | .guarded table expectsTable block => by
    rw [Step.mapDefaults, Step.traversal, Step.traversal]
    cases expectsTable with
    | true => rfl
    | false => exact Plan.traversal_mapDefaults f block

/-- A database without tables comes to the same operations, their defaults apart. -/
theorem Plan.traversal_mapDefaults (f : Value → Value) : ∀ plan : Plan,
    Plan.traversal (plan.mapDefaults f) = plan.traversal.map (Operation.mapDefaults f)
  | [] => by
    rw [Plan.mapDefaults, Plan.traversal]
    rfl
  | step :: steps => by
    rw [Plan.mapDefaults, Plan.traversal, Plan.traversal, List.map_append,
      Step.traversal_mapDefaults f step, Plan.traversal_mapDefaults f steps]

end

namespace Plan

/-- The statements of a plan on a database without tables, or the first reason against them. -/
def statements (d : Dialect) (plan : Plan) : Except Rejection (List Statement) :=
  (plan.traversal.mapM (Operation.compile d)).map List.flatten

/-- A preview has the texts of these statements. -/
theorem preview_eq_statements (d : Dialect) (plan : Plan) :
    Plan.preview d plan = (plan.statements d).map (List.map d.render) := by
  rw [preview_eq, statements]
  cases hverdict : Operation.verdict d plan.traversal with
  | ok _ =>
    obtain ⟨statements, hstatements, hissued⟩ := Operation.exists_of_verdict_ok hverdict
    rw [hstatements, hissued]
    rfl
  | error reason =>
    obtain ⟨before, op, after, statements, htraversal, hbefore, hreason, -⟩ :=
      Operation.exists_of_verdict d hverdict
    have hfails : (before ++ op :: after).mapM (Operation.compile d) = .error reason :=
      mapM_eq_error (exists_mapM_iff.mp ⟨statements, hbefore⟩) hreason
    rw [htraversal, hfails]
    rfl

theorem statements_mapDefaults {f : Value → Value} (hf : ∀ v, (f v).nonFinite? = v.nonFinite?)
    (d : Dialect) (plan : Plan) : (plan.mapDefaults f).statements d =
      (plan.statements d).map (List.map (Statement.mapLiterals f)) := by
  rw [statements, traversal_mapDefaults, mapM_map_of_natural (Operation.compile_mapDefaults hf d),
    statements]
  cases plan.traversal.mapM (Operation.compile d) with
  | error reason => rfl
  | ok statements => exact congrArg Except.ok List.map_flatten.symm

end Plan

end SchemaEvolution
