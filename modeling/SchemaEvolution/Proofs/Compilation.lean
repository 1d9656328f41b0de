import Mathlib.Data.List.Forall2
import SchemaEvolution.Change.Operation
import SchemaEvolution.Proofs.Statements

/-!
# Compiled statements

What the statements of an operation have in common.

* `exists_of_bind_eq_ok`: compiling something in two parts succeeds if both of them do.
* `mapM_eq_ok_iff`: compiling the parts of something succeeds if each of them compiles, and gives
  what they give in order.
* `mapM_eq_error_iff`: otherwise it fails with the error of the first part that does not compile.
* `Statement.Defines`: a statement that creates, alters or drops something.  The statements of an
  operation are of this kind (`Operation.defines_of_mem_compile`).
-/

namespace SchemaEvolution

/-- A computation in two parts that succeeds does so in both. -/
theorem exists_of_bind_eq_ok {ε α β : Type} {x : Except ε α} {f : α → Except ε β} {b : β}
    (h : (x >>= f) = .ok b) : ∃ a, x = .ok a ∧ f a = .ok b := by
  cases x with
  | error e => cases h
  | ok a => exact ⟨a, rfl, h⟩

/-- Compiling items in order succeeds with the results for each of them. -/
theorem mapM_eq_ok_iff {ε α β : Type} {f : α → Except ε β} {xs : List α} {ys : List β} :
    xs.mapM f = .ok ys ↔ List.Forall₂ (fun x y => f x = .ok y) xs ys := by
  induction xs generalizing ys with
  | nil =>
    rw [List.mapM_nil, List.forall₂_nil_left_iff]
    exact ⟨fun h => (Except.ok.inj h).symm, fun h => h ▸ rfl⟩
  | cons x xs ih =>
    rw [List.mapM_cons, List.forall₂_cons_left_iff]
    cases hx : f x with
    | error e => simp [bind, Except.bind]
    | ok y =>
      cases hxs : xs.mapM f with
      | error e => simp [bind, Except.bind, ← ih, hxs]
      | ok rest =>
        simp only [bind, Except.bind, pure, Except.pure, ← ih, hxs, Except.ok.injEq]
        constructor
        · rintro rfl
          exact ⟨y, rest, rfl, rfl, rfl⟩
        · rintro ⟨_, _, rfl, rfl, rfl⟩
          rfl

/-- Compiling items in order succeeds if each of them can be compiled. -/
theorem exists_mapM_iff {ε α β : Type} {f : α → Except ε β} {xs : List α} :
    (∃ ys, xs.mapM f = .ok ys) ↔ ∀ x ∈ xs, ∃ y, f x = .ok y := by
  simp only [mapM_eq_ok_iff]
  induction xs with
  | nil => simp
  | cons x xs ih =>
    rw [List.forall_mem_cons, ← ih]
    constructor
    · rintro ⟨_, hall⟩
      cases hall with
      | cons hx hxs => exact ⟨⟨_, hx⟩, _, hxs⟩
    · rintro ⟨⟨y, hx⟩, ys, hxs⟩
      exact ⟨y :: ys, .cons hx hxs⟩

/-- Compiling items in one way or another is the same if it is for each of them. -/
theorem mapM_congr {ε α β : Type} {f g : α → Except ε β} {xs : List α}
    (h : ∀ x ∈ xs, f x = g x) : xs.mapM f = xs.mapM g := by
  induction xs with
  | nil => rfl
  | cons x xs ih =>
    rw [List.mapM_cons, List.mapM_cons, h x List.mem_cons_self,
      ih fun x' hx' => h x' (List.mem_cons_of_mem _ hx')]

/-- Compiling items in order fails with the error of the first one that does. -/
theorem mapM_eq_error {ε α β : Type} {f : α → Except ε β} {before after : List α} {x : α} {e : ε}
    (hbefore : ∀ y ∈ before, ∃ b, f y = .ok b) (hx : f x = .error e) :
    (before ++ x :: after).mapM f = .error e := by
  induction before with
  | nil =>
    rw [List.nil_append, List.mapM_cons, hx]
    rfl
  | cons y before ih =>
    obtain ⟨b, hy⟩ := hbefore y List.mem_cons_self
    have hrest := ih fun y' hy' => hbefore y' (List.mem_cons_of_mem _ hy')
    rw [List.cons_append, List.mapM_cons, hy, hrest]
    rfl

/-- And it fails only so. -/
theorem mapM_eq_error_iff {ε α β : Type} {f : α → Except ε β} {xs : List α} {e : ε} :
    xs.mapM f = .error e ↔ ∃ before x after, xs = before ++ x :: after ∧
      (∀ y ∈ before, ∃ b, f y = .ok b) ∧ f x = .error e := by
  constructor
  · intro h
    induction xs with
    | nil => cases h
    | cons y ys ih =>
      rw [List.mapM_cons] at h
      cases hy : f y with
      | error e' =>
        rw [hy] at h
        cases h
        exact ⟨[], y, ys, rfl, List.forall_mem_nil _, hy⟩
      | ok b =>
        cases hys : ys.mapM f with
        | ok bs =>
          rw [hy, hys] at h
          cases h
        | error e' =>
          rw [hy, hys] at h
          cases h
          obtain ⟨before, x, after, rfl, hbefore, hx⟩ := ih hys
          exact ⟨y :: before, x, after, rfl, List.forall_mem_cons.mpr ⟨⟨b, hy⟩, hbefore⟩, hx⟩
  · rintro ⟨before, x, after, rfl, hbefore, hx⟩
    exact mapM_eq_error hbefore hx

/-- What compiling items gives comes from one of them. -/
theorem exists_of_mem_mapM {ε α β : Type} {f : α → Except ε β} {xs : List α} {ys : List β}
    (h : xs.mapM f = .ok ys) {y : β} (hy : y ∈ ys) : ∃ x ∈ xs, f x = .ok y := by
  have hall := mapM_eq_ok_iff.mp h
  clear h
  induction hall with
  | nil => simp at hy
  | @cons x y' xs ys hx _ ih =>
    rcases List.mem_cons.mp hy with rfl | hy
    · exact ⟨x, List.mem_cons_self, hx⟩
    · obtain ⟨x', hx', hf⟩ := ih hy
      exact ⟨x', List.mem_cons_of_mem _ hx', hf⟩

/-! ## The statements of an operation -/

/-- A statement begins as one that creates, alters or drops something. -/
def Statement.Defines (statement : Statement) : Prop :=
  statement.initial? = some 'C' ∨ statement.initial? = some 'A' ∨ statement.initial? = some 'D'

theorem IndexDefinition.defines_dropStatement (index : String) (ifExists : Bool) :
    (dropStatement index ifExists).Defines :=
  Or.inr (Or.inr rfl)

theorem IndexDefinition.defines_createStatement (i : IndexDefinition) :
    i.createStatement.Defines := by
  left
  unfold createStatement Statement.initial?
  cases i.unique <;> rfl

theorem IndexDefinition.defines_of_mem_compile {i : IndexDefinition}
    {statements : List Statement} (h : i.compile = .ok statements) {statement : Statement}
    (hs : statement ∈ statements) : statement.Defines := by
  unfold compile at h
  split at h
  · cases h
  · cases h
    rcases List.mem_append.mp hs with hs | hs
    · split at hs
      · rw [List.mem_singleton.mp hs]
        exact defines_dropStatement _ _
      · simp at hs
    · rw [List.mem_singleton.mp hs]
      exact i.defines_createStatement

theorem TableDefinition.defines_dropStatement (table : String) (ifExists : Bool) :
    (dropStatement table ifExists).Defines :=
  Or.inr (Or.inr rfl)

theorem TableDefinition.defines_createStatement (t : TableDefinition)
    (definitions : List Statement) : (t.createStatement definitions).Defines :=
  Or.inl rfl

/-- The indexes of a table's columns can always be written as statements. -/
theorem TableDefinition.compile_indexes (t : TableDefinition) :
    t.indexes.mapM (fun column => (t.indexOn column).compile) =
      .ok (t.indexes.map fun column => [(t.indexOn column).createStatement]) :=
  List.mapM_pure

/-- The statements of a table: perhaps one that drops it, the one that creates it, and those of its
indexes. -/
theorem TableDefinition.compile_eq_ok_iff {d : Dialect} {t : TableDefinition}
    {statements : List Statement} : t.compile d = .ok statements ↔
      t.columns ≠ [] ∧ ∃ definitions, t.columns.mapM (TableColumn.definition d) = .ok definitions ∧
        statements = (if t.dropIfExists then [dropStatement t.name true] else []) ++
          t.createStatement definitions ::
          t.indexes.map fun column => (t.indexOn column).createStatement := by
  have hflat : (t.indexes.map fun column => [(t.indexOn column).createStatement]).flatten =
      t.indexes.map fun column => (t.indexOn column).createStatement := by
    rw [← List.flatMap_def, ← List.map_eq_flatMap]
  unfold compile
  rw [t.compile_indexes]
  by_cases hempty : t.columns = []
  · rw [if_pos (List.isEmpty_iff.mpr hempty)]
    constructor
    · intro h
      cases h
    · rintro ⟨hne, -⟩
      exact absurd hempty hne
  · rw [if_neg (List.isEmpty_iff.not.mpr hempty)]
    constructor
    · intro h
      obtain ⟨definitions, hdefinitions, h⟩ := exists_of_bind_eq_ok h
      cases h
      exact ⟨hempty, definitions, hdefinitions, by rw [hflat]⟩
    · rintro ⟨-, definitions, hdefinitions, rfl⟩
      rw [hdefinitions, ← hflat]
      rfl

theorem TableDefinition.defines_of_mem_compile {d : Dialect} {t : TableDefinition}
    {statements : List Statement} (h : t.compile d = .ok statements) {statement : Statement}
    (hs : statement ∈ statements) : statement.Defines := by
  obtain ⟨-, definitions, -, rfl⟩ := compile_eq_ok_iff.mp h
  rcases List.mem_append.mp hs with hs | hs
  · split at hs
    · rw [List.mem_singleton.mp hs]
      exact defines_dropStatement _ _
    · simp at hs
  · rcases List.mem_cons.mp hs with rfl | hs
    · exact t.defines_createStatement definitions
    · obtain ⟨column, -, rfl⟩ := List.mem_map.mp hs
      exact (t.indexOn column).defines_createStatement

theorem ColumnChange.defines_of_compile {can : Capabilities} {table : String}
    {change : ColumnChange} {statement : Statement} (h : change.compile can table = .ok statement) :
    statement.Defines := by
  obtain ⟨clauses, -, hstatement⟩ := exists_of_bind_eq_ok h
  cases hstatement
  exact Or.inr (Or.inl rfl)

/-- The statements of an operation create, alter or drop something. -/
theorem Operation.defines_of_mem_compile {d : Dialect} {op : Operation}
    {statements : List Statement} (h : op.compile d = .ok statements) {statement : Statement}
    (hs : statement ∈ statements) : statement.Defines := by
  cases op with
  | createTable table => exact TableDefinition.defines_of_mem_compile h hs
  | alterTable table changes =>
    obtain ⟨change, _, hchange⟩ := exists_of_mem_mapM h hs
    exact ColumnChange.defines_of_compile hchange
  | dropTable table ifExists =>
    cases h
    rw [List.mem_singleton.mp hs]
    exact TableDefinition.defines_dropStatement table ifExists
  | renameTable table newName =>
    cases h
    rw [List.mem_singleton.mp hs]
    exact Or.inr (Or.inl rfl)
  | createIndex index => exact IndexDefinition.defines_of_mem_compile h hs
  | dropIndex index ifExists =>
    cases h
    rw [List.mem_singleton.mp hs]
    exact IndexDefinition.defines_dropStatement index ifExists

end SchemaEvolution
