import SchemaEvolution.Proofs.Quotes
import SchemaEvolution.Proofs.Spacing

/-!
# The words of a definition and of a change

How a table is created and how its columns are changed, in the words of the statements.

* `Column.text`, `TableColumn.text`: the definition of a column, which is the same in a table to
  create and in one to change.
* `TableDefinition.texts` and `ColumnChange.text`: the statements for a table, and what the one for
  a change says after the name of the table.
* `TableDefinition.texts_of_compile`: a table is compiled to these statements.
* `Operation.texts_of_compile_alterTable`: each change is compiled to its statement, unless one of
  them adds a column with a default that is not finite, and then none is.
-/

namespace SchemaEvolution

/-! ## Columns -/

namespace Column

/-- A default that is a real number is finite. -/
def HasFiniteDefault (c : Column) : Prop :=
  ∀ x, c.defaultValue = some (.real x) → x.isFinite = true

/-- The definition of a column in words: its name, its type as it stands, and what is said about
it. -/
def text (d : Dialect) (c : Column) : String :=
  d.quoting.quote c.name ++ " " ++ c.sqlType ++
    (if c.nullable = some false then " NOT NULL" else "") ++
    (match c.defaultValue with
      | some value => " DEFAULT " ++ value.literal
      | none => "") ++
    (if c.unique then " UNIQUE" else "")

theorem nonFiniteDefault?_eq_none_iff {c : Column} :
    c.nonFiniteDefault? = none ↔ c.HasFiniteDefault := by
  unfold nonFiniteDefault? HasFiniteDefault
  cases c.defaultValue with
  | none => simp
  | some value =>
    cases value with
    | real x => simp
    | null | boolean | integer | text | blob | timestamp => simp

instance (c : Column) : Decidable c.HasFiniteDefault :=
  decidable_of_iff _ nonFiniteDefault?_eq_none_iff

theorem nonFiniteDefault?_of_not_isFinite {c : Column} {x : Binary64}
    (h : c.defaultValue = some (.real x)) (hx : x.isFinite = false) :
    c.nonFiniteDefault? = some x := by
  simp [nonFiniteDefault?, h, hx]

variable (d : Dialect)

theorem continues_constraints (c : Column) :
    Statement.Continues d c.constraints
      ((if c.nullable = some false then " NOT NULL" else "") ++
        (match c.defaultValue with
          | some value => " DEFAULT " ++ value.literal
          | none => "") ++
        (if c.unique then " UNIQUE" else "")) := by
  have hnull : Statement.Continues d (Statement.clauseIf (c.nullable == some false) "NOT NULL")
      (if c.nullable = some false then " NOT NULL" else "") := by
    have hclause : Statement.Continues d
        (Statement.clauseIf (c.nullable == some false) "NOT NULL")
        (if c.nullable == some false then " " ++ "NOT NULL" else "") := .clauseIf (by decide) _
    simp only [beq_iff_eq] at hclause
    exact hclause
  have hdefault : Statement.Continues d
      (match c.defaultValue with
        | some value => [.clause "DEFAULT", .literal value]
        | none => [])
      (match c.defaultValue with
        | some value => " DEFAULT " ++ value.literal
        | none => "") := by
    cases c.defaultValue with
    | none => exact .nil
    | some value =>
      have hclause : Statement.Stands d [.clause "DEFAULT"] "DEFAULT" := .clause (by decide)
      have hvalue := (hclause.append (Statement.Stands.literal value).continues).continues
      rw [← String.append_assoc, ← String.append_assoc] at hvalue
      exact hvalue
  have hunique : Statement.Continues d (Statement.clauseIf c.unique "UNIQUE")
      (if c.unique then " UNIQUE" else "") := .clauseIf (by decide) c.unique
  exact (hnull.append hdefault).append hunique

/-- A column with a finite default has a definition, which stands with its text. -/
theorem stands_definition {c : Column} (htype : c.sqlType ∉ Statement.joints)
    (hdefault : c.HasFiniteDefault) :
    ∃ s, c.definition = .ok s ∧ Statement.Stands d s (c.text d) := by
  have hname : Statement.Stands d [.name c.name] (d.quoting.quote c.name) := .name c.name
  have hsqlType : Statement.Stands d [.clause c.sqlType] c.sqlType := .clause htype
  have hall := (hname.append hsqlType.continues).append (c.continues_constraints d)
  refine ⟨.name c.name :: .clause c.sqlType :: c.constraints, ?_, ?_⟩
  · rw [definition, nonFiniteDefault?_eq_none_iff.mpr hdefault]
  · simp only [text, String.append_assoc] at hall ⊢
    exact hall

end Column

namespace TableColumn

/-- The definition of a column in words; that of a key is the dialect's. -/
def text (d : Dialect) : TableColumn → String
  | key name options => d.keyColumn name options
  | ordinary column => column.text d

/-- A default that is a real number is finite. -/
def HasFiniteDefault : TableColumn → Prop
  | key .. => True
  | ordinary column => column.HasFiniteDefault

instance : (c : TableColumn) → Decidable c.HasFiniteDefault
  | key .. => inferInstanceAs (Decidable True)
  | ordinary column => inferInstanceAs (Decidable column.HasFiniteDefault)

end TableColumn

/-- The definition of a key column begins with a quoted name, so no space is missing around it. -/
theorem Dialect.IsBuiltIn.isApart_key {d : Dialect} (hd : d.IsBuiltIn) (name : String)
    (options : KeyOptions) : Fragment.IsApart d (.clause (d.keyColumn name options)) := by
  refine Fragment.glues_of_head? d.quoting.mark_mem ?_
  cases hd with
  | standard capabilities quoting =>
    simp [Dialect.standard, keyDefinition, QuoteStyle.quote, Quoting.write]
  | sqlite capabilities => simp [Dialect.sqlite, keyDefinition, QuoteStyle.quote, Quoting.write]

theorem TableColumn.stands_definition {d : Dialect} (hd : d.IsBuiltIn) {c : TableColumn}
    (htypes : ∀ sqlType ∈ c.types, sqlType ∉ Statement.joints) (hdefault : c.HasFiniteDefault) :
    ∃ s, c.definition d = .ok s ∧ Statement.Stands d s (c.text d) := by
  cases c with
  | key name options => exact ⟨_, rfl, .single (hd.isApart_key name options)⟩
  | ordinary column => exact column.stands_definition d (htypes _ List.mem_cons_self) hdefault

/-! ## Tables and indexes -/

namespace IndexDefinition

/-- The statement that creates an index in words. -/
def text (d : Dialect) (i : IndexDefinition) : String :=
  (if i.unique then "CREATE UNIQUE INDEX " else "CREATE INDEX ") ++
    (if i.ifNotExists then "IF NOT EXISTS " else "") ++ d.quoting.quote i.name ++
    " ON " ++ d.quoting.quote i.table ++
    (match i.method with
      | some method => " USING " ++ d.quoting.quote method
      | none => "") ++
    " (" ++ ", ".intercalate (i.columns.map d.quoting.quote) ++ ")"

theorem stands_createStatement (d : Dialect) (i : IndexDefinition) :
    Statement.Stands d i.createStatement (i.text d) := by
  have hname : Statement.Stands d
      (.clause (if i.unique then "CREATE UNIQUE INDEX" else "CREATE INDEX") ::
        Statement.clauseIf i.ifNotExists "IF NOT EXISTS" ++ [.name i.name])
      ((if i.unique then "CREATE UNIQUE INDEX" else "CREATE INDEX") ++ " " ++
        (if i.ifNotExists then "IF NOT EXISTS" ++ " " else "") ++ d.quoting.quote i.name) := by
    refine .guarded ?_ (by decide) i.ifNotExists i.name
    split <;> decide
  have hon : Statement.Stands d [.clause "ON"] "ON" := .clause (by decide)
  have htable : Statement.Stands d [.name i.table] (d.quoting.quote i.table) := .name i.table
  have hmethod : Statement.Continues d
      (match i.method with
        | some method => [.clause "USING", .name method]
        | none => [])
      (match i.method with
        | some method => " USING " ++ d.quoting.quote method
        | none => "") := by
    cases i.method with
    | none => exact .nil
    | some method =>
      have husing : Statement.Stands d [.clause "USING"] "USING" := .clause (by decide)
      have hall := (husing.append (Statement.Stands.name method).continues).continues
      rw [← String.append_assoc, ← String.append_assoc] at hall
      exact hall
  have hcolumns := Statement.Stands.names d i.columns
  have hall := ((hname.append (hon.append htable.continues).continues).append hmethod).append
    hcolumns.continues
  refine hall.of_eq ?_ ?_
  · unfold createStatement
    cases i.ifNotExists <;> rfl
  · unfold text
    cases i.unique <;> cases i.ifNotExists <;> simp

end IndexDefinition

namespace TableDefinition

/-- The statements for a table in words: perhaps one that drops it, the one that creates it, and one
for each of its indexes. -/
def texts (d : Dialect) (t : TableDefinition) : List String :=
  let table := d.quoting.quote t.name
  let unlessThere := if t.ifNotExists then "IF NOT EXISTS " else ""
  (if t.dropIfExists then ["DROP TABLE IF EXISTS " ++ table] else []) ++
    ("CREATE TABLE " ++ unlessThere ++ table ++
      " (" ++ ", ".intercalate (t.columns.map (TableColumn.text d)) ++ ")") ::
    t.indexes.map fun column =>
      "CREATE INDEX " ++ unlessThere ++ d.quoting.quote ("index_" ++ t.name ++ "_" ++ column) ++
        " ON " ++ table ++ " (" ++ d.quoting.quote column ++ ")"

variable (d : Dialect) (t : TableDefinition)

theorem render_dropStatement (table : String) :
    d.render (dropStatement table true) = "DROP TABLE IF EXISTS " ++ d.quoting.quote table :=
  (Statement.Stands.guarded (by decide) (by decide) true table).render

theorem render_indexOn (column : String) :
    d.render (t.indexOn column).createStatement =
      "CREATE INDEX " ++ (if t.ifNotExists then "IF NOT EXISTS " else "") ++
        d.quoting.quote ("index_" ++ t.name ++ "_" ++ column) ++
        " ON " ++ d.quoting.quote t.name ++ " (" ++ d.quoting.quote column ++ ")" := by
  rw [((t.indexOn column).stands_createStatement d).render]
  cases hguard : t.ifNotExists <;>
    simp [IndexDefinition.text, indexOn, indexName, hguard]

variable {d t}

theorem render_createStatement {definitions : List Statement} {texts : List String}
    (h : List.Forall₂ (Statement.Stands d) definitions texts) :
    d.render (t.createStatement definitions) =
      "CREATE TABLE " ++ (if t.ifNotExists then "IF NOT EXISTS " else "") ++
        d.quoting.quote t.name ++ " (" ++ ", ".intercalate texts ++ ")" := by
  have hname : Statement.Stands d
      (.clause "CREATE TABLE" :: Statement.clauseIf t.ifNotExists "IF NOT EXISTS" ++ [.name t.name])
      ("CREATE TABLE" ++ " " ++ (if t.ifNotExists then "IF NOT EXISTS" ++ " " else "") ++
        d.quoting.quote t.name) := .guarded (by decide) (by decide) t.ifNotExists t.name
  have hall := hname.append (Statement.Stands.parenthesized h).continues
  refine (hall.of_eq ?_ ?_).render
  · simp [createStatement]
  · cases t.ifNotExists <;> simp

/-- A table with a column and without defaults that are not finite is compiled to the statements in
words: the table is dropped before if this is wanted, its columns are defined in order, and each of
its indexes is created after it.  Both guards are there if the table has them, in every dialect. -/
theorem texts_of_compile (hd : d.IsBuiltIn) (hcolumns : t.columns ≠ [])
    (htypes : ∀ column ∈ t.columns, ∀ sqlType ∈ column.types, sqlType ∉ Statement.joints)
    (hdefaults : ∀ column ∈ t.columns, column.HasFiniteDefault) :
    ∃ statements, t.compile d = .ok statements ∧ statements.map d.render = t.texts d := by
  have hcolumn : ∀ column ∈ t.columns, ∃ s, column.definition d = .ok s ∧
      Statement.Stands d s (column.text d) := fun column h =>
    column.stands_definition hd (htypes column h) (hdefaults column h)
  obtain ⟨definitions, hdefinitions, hstand⟩ := Statement.exists_stands_of_forall hcolumn
  refine ⟨_, compile_eq_ok_iff.mpr ⟨hcolumns, definitions, hdefinitions, rfl⟩, ?_⟩
  have hdrop : (if t.dropIfExists then [dropStatement t.name true] else []).map d.render =
      if t.dropIfExists then ["DROP TABLE IF EXISTS " ++ d.quoting.quote t.name] else [] := by
    split
    · rw [List.map_singleton, render_dropStatement]
    · rfl
  have hindexes : (t.indexes.map fun column => (t.indexOn column).createStatement).map d.render =
      t.indexes.map fun column => "CREATE INDEX " ++
        (if t.ifNotExists then "IF NOT EXISTS " else "") ++
        d.quoting.quote ("index_" ++ t.name ++ "_" ++ column) ++
        " ON " ++ d.quoting.quote t.name ++ " (" ++ d.quoting.quote column ++ ")" := by
    rw [List.map_map]
    exact List.map_congr_left fun column _ => render_indexOn d t column
  rw [List.map_append, List.map_cons, hdrop, hindexes, render_createStatement hstand]
  rfl

/-- A table of comments, with a key of each kind and a column about which everything is said. -/
def commentTable : TableDefinition :=
  ofItems "comment" [.dropIfExists, .ifNotExists, .primaryKey none [], .foreignKey "post" [.notNull],
    .column "body" "TEXT" [.modify .notNull, .modify .unique,
      .modify (.defaultsTo (.text "it's")), .index]]

/-- The statements for this table, in the dialect of SQLite. -/
theorem texts_of_compile_commentTable :
    (Dialect.sqlite {}).IsBuiltIn ∧ commentTable.columns ≠ [] ∧
      (∀ column ∈ commentTable.columns, ∀ sqlType ∈ column.types,
        sqlType ∉ Statement.joints) ∧
      (∀ column ∈ commentTable.columns, column.HasFiniteDefault) ∧
      ∃ statements, commentTable.compile (.sqlite {}) = .ok statements ∧
        statements.map (Dialect.sqlite {}).render =
          ["DROP TABLE IF EXISTS \x60comment\x60",
            "CREATE TABLE IF NOT EXISTS \x60comment\x60 (\x60id\x60 INTEGER PRIMARY KEY, " ++
              "\x60post\x60 INTEGER NOT NULL, " ++
              "\x60body\x60 TEXT NOT NULL DEFAULT 'it''s' UNIQUE)",
            "CREATE INDEX IF NOT EXISTS \x60index_comment_post\x60 ON " ++
              "\x60comment\x60 (\x60post\x60)",
            "CREATE INDEX IF NOT EXISTS \x60index_comment_body\x60 ON " ++
              "\x60comment\x60 (\x60body\x60)"] := by
  have hd : (Dialect.sqlite {}).IsBuiltIn := .sqlite {}
  have hcolumns : commentTable.columns ≠ [] := by decide
  have htypes : ∀ column ∈ commentTable.columns, ∀ sqlType ∈ column.types,
      sqlType ∉ Statement.joints := by decide
  have hdefaults : ∀ column ∈ commentTable.columns, column.HasFiniteDefault := by decide
  obtain ⟨statements, hcompile, htexts⟩ := texts_of_compile hd hcolumns htypes hdefaults
  exact ⟨hd, hcolumns, htypes, hdefaults, statements, hcompile, htexts.trans (by decide)⟩

end TableDefinition

/-! ## Changes -/

namespace ColumnChange

/-- What the statement for a change says after the name of the table. -/
def text (d : Dialect) : ColumnChange → String
  | add column => "ADD COLUMN " ++ column.text d
  | drop name ifExists =>
    "DROP COLUMN " ++ (if ifExists && d.capabilities.conditionalDrop then "IF EXISTS " else "") ++
      d.quoting.quote name
  | rename name newName =>
    "RENAME COLUMN " ++ d.quoting.quote name ++ " TO " ++ d.quoting.quote newName
  | retype name sqlType =>
    if d.capabilities.columnModification then
      "MODIFY COLUMN " ++ d.quoting.quote name ++ " " ++ sqlType
    else
      "ALTER COLUMN " ++ d.quoting.quote name ++ " TYPE " ++ sqlType ++
        if d.capabilities.typeAlteration && d.capabilities.typeConversion then
          " USING " ++ d.quoting.quote name ++ "::" ++ sqlType
        else ""

/-- The change adds no column with a default that is not finite. -/
def HasFiniteDefault : ColumnChange → Prop
  | add column => column.HasFiniteDefault
  | _ => True

instance : (c : ColumnChange) → Decidable c.HasFiniteDefault
  | add column => inferInstanceAs (Decidable column.HasFiniteDefault)
  | drop .. | rename .. | retype .. => inferInstanceAs (Decidable True)

variable {d : Dialect}

theorem stands_retypeClauses {sqlType : String} (h : sqlType ∉ Statement.joints) (name : String) :
    Statement.Stands d (retypeClauses d.capabilities name sqlType)
      ((retype name sqlType).text d) := by
  have hname : Statement.Stands d [.name name] (d.quoting.quote name) := .name name
  have htype : Statement.Stands d [.clause sqlType] sqlType := .clause h
  unfold retypeClauses text
  cases hmodify : d.capabilities.columnModification with
  | true =>
    have hbegin : Statement.Stands d [.clause "MODIFY COLUMN"] "MODIFY COLUMN" :=
      .clause (by decide)
    have hall := (hbegin.append hname.continues).append htype.continues
    refine hall.of_eq rfl ?_
    simp
  | false =>
    have hbegin : Statement.Stands d [.clause "ALTER COLUMN"] "ALTER COLUMN" :=
      .clause (by decide)
    have hword : Statement.Stands d [.clause "TYPE"] "TYPE" := .clause (by decide)
    have hplain := (hbegin.append hname.continues).append
      (hword.append htype.continues).continues
    have hconverts : d.capabilities.converts =
        (d.capabilities.typeAlteration && d.capabilities.typeConversion) := by
      rw [Capabilities.converts, hmodify, Bool.not_false, Bool.true_and]
    rw [hconverts]
    cases d.capabilities.typeAlteration && d.capabilities.typeConversion with
    | false =>
      refine hplain.of_eq rfl ?_
      simp
    | true =>
      have husing : Statement.Stands d [.clause "USING"] "USING" := .clause (by decide)
      have hcast : Statement.Continues d [.name name, .clause "::", .clause sqlType]
          (" " ++ d.quoting.quote name ++ "::" ++ sqlType) := .cast h
      have hall := hplain.append (husing.append hcast).continues
      refine hall.of_eq rfl ?_
      simp

theorem stands_clauses {c : ColumnChange}
    (htypes : ∀ sqlType ∈ c.types, sqlType ∉ Statement.joints) (hdefault : c.HasFiniteDefault) :
    ∃ s, c.clauses d.capabilities = .ok s ∧ Statement.Stands d s (c.text d) := by
  cases c with
  | add column =>
    obtain ⟨s, hs, hstands⟩ := column.stands_definition d (htypes _ List.mem_cons_self) hdefault
    have hbegin : Statement.Stands d [.clause "ADD COLUMN"] "ADD COLUMN" := .clause (by decide)
    refine ⟨.clause "ADD COLUMN" :: s, ?_, ?_⟩
    · rw [clauses, hs]
      rfl
    · refine (hbegin.append hstands.continues).of_eq rfl ?_
      unfold text
      simp
  | drop name ifExists =>
    refine ⟨_, rfl, (Statement.Stands.guarded (by decide) (by decide)
      (ifExists && d.capabilities.conditionalDrop) name).of_eq rfl ?_⟩
    rfl
  | rename name newName =>
    have hbegin : Statement.Stands d [.clause "RENAME COLUMN"] "RENAME COLUMN" :=
      .clause (by decide)
    have hword : Statement.Stands d [.clause "TO"] "TO" := .clause (by decide)
    have hall := (hbegin.append (Statement.Stands.name name).continues).append
      (hword.append (Statement.Stands.name newName).continues).continues
    refine ⟨_, rfl, hall.of_eq rfl ?_⟩
    unfold text
    simp
  | retype name sqlType => exact ⟨_, rfl, stands_retypeClauses (htypes _ List.mem_cons_self) name⟩

/-- The statement for a change names the table and goes on with the text of the change. -/
theorem stands_compile {table : String} {c : ColumnChange}
    (htypes : ∀ sqlType ∈ c.types, sqlType ∉ Statement.joints) (hdefault : c.HasFiniteDefault) :
    ∃ s, c.compile d.capabilities table = .ok s ∧
      Statement.Stands d s ("ALTER TABLE " ++ d.quoting.quote table ++ " " ++ c.text d) := by
  obtain ⟨s, hs, hstands⟩ := stands_clauses (d := d) htypes hdefault
  have hbegin : Statement.Stands d [.clause "ALTER TABLE"] "ALTER TABLE" := .clause (by decide)
  have hall := (hbegin.append (Statement.Stands.name table).continues).append hstands.continues
  refine ⟨.clause "ALTER TABLE" :: .name table :: s, ?_, hall.of_eq rfl ?_⟩
  · rw [compile, hs]
    rfl
  · simp

/-- A column with a default that is not finite cannot be added. -/
theorem compile_of_not_isFinite {can : Capabilities} {table : String} {column : Column}
    {x : Binary64} (h : column.defaultValue = some (.real x)) (hx : x.isFinite = false) :
    (add column).compile can table = .error (.nonFiniteDefault column.name x) := by
  rw [compile, clauses, Column.definition, Column.nonFiniteDefault?_of_not_isFinite h hx]
  rfl

end ColumnChange

/-- Changes to the columns of a table are compiled all together or not at all.

* If a column is added with a default that is not finite, there are no statements, and the reason is
  the first such column.
* Otherwise there is one statement for each change, in order, which names the table and goes on with
  the text of this change alone. -/
theorem Operation.texts_of_compile_alterTable (d : Dialect) (table : String)
    (changes : List ColumnChange)
    (htypes : ∀ change ∈ changes, ∀ sqlType ∈ change.types, sqlType ∉ Statement.joints) :
    (∀ before column x after, changes = before ++ .add column :: after →
      (∀ change ∈ before, change.HasFiniteDefault) →
      column.defaultValue = some (.real x) → x.isFinite = false →
      (alterTable table changes).compile d = .error (.nonFiniteDefault column.name x)) ∧
    ((∀ change ∈ changes, change.HasFiniteDefault) →
      ∃ statements, (alterTable table changes).compile d = .ok statements ∧
        statements.map d.render = changes.map fun change =>
          "ALTER TABLE " ++ d.quoting.quote table ++ " " ++ change.text d) := by
  have hchange : ∀ change ∈ changes, change.HasFiniteDefault →
      ∃ s, change.compile d.capabilities table = .ok s ∧
        Statement.Stands d s ("ALTER TABLE " ++ d.quoting.quote table ++ " " ++ change.text d) :=
    fun change h hdefault => change.stands_compile (htypes change h) hdefault
  constructor
  · rintro before column x after rfl hbefore hdefault hx
    refine mapM_eq_error (fun change h => ?_) (ColumnChange.compile_of_not_isFinite hdefault hx)
    obtain ⟨s, hs, -⟩ := hchange change (List.mem_append_left _ h) (hbefore change h)
    exact ⟨s, hs⟩
  · intro hdefaults
    obtain ⟨statements, hstatements, hstand⟩ := Statement.exists_stands_of_forall
      fun change h => hchange change h (hdefaults change h)
    exact ⟨statements, hstatements, Statement.render_of_forall₂ hstand⟩

/-- One change of each kind. -/
def ColumnChange.ofEachKind : List ColumnChange :=
  [.add ⟨"age", "INTEGER", some false, some (.integer 0), true⟩,
    .drop "nick" true, .rename "mail" "email", .retype "age" "BIGINT"]

/-- The statements for these changes, and none if a column is added after them whose default is not
a number. -/
theorem Operation.texts_of_compile_ofEachKind :
    (∀ change ∈ ColumnChange.ofEachKind, ∀ sqlType ∈ change.types,
        sqlType ∉ Statement.joints) ∧
      (∃ statements, (alterTable "user" ColumnChange.ofEachKind).compile
          (.standard .postgres .doubleQuote) = .ok statements ∧
        statements.map (Dialect.standard .postgres .doubleQuote).render =
          ["ALTER TABLE \"user\" ADD COLUMN \"age\" INTEGER NOT NULL DEFAULT 0 UNIQUE",
            "ALTER TABLE \"user\" DROP COLUMN IF EXISTS \"nick\"",
            "ALTER TABLE \"user\" RENAME COLUMN \"mail\" TO \"email\"",
            "ALTER TABLE \"user\" ALTER COLUMN \"age\" TYPE BIGINT USING \"age\"::BIGINT"]) ∧
      (alterTable "user" (ColumnChange.ofEachKind ++
          [.add ⟨"ratio", "REAL", none, some (.real ⟨0x7ff8000000000000⟩), false⟩])).compile
          (.standard .postgres .doubleQuote) =
        .error (.nonFiniteDefault "ratio" ⟨0x7ff8000000000000⟩) := by
  have htypes : ∀ change ∈ ColumnChange.ofEachKind, ∀ sqlType ∈ change.types,
      sqlType ∉ Statement.joints := by decide
  have hdefaults : ∀ change ∈ ColumnChange.ofEachKind, change.HasFiniteDefault := by decide
  obtain ⟨statements, hcompile, htexts⟩ :=
    (texts_of_compile_alterTable (.standard .postgres .doubleQuote) "user" _ htypes).2 hdefaults
  refine ⟨htypes, ⟨statements, hcompile, htexts.trans (by decide)⟩, ?_⟩
  exact (texts_of_compile_alterTable (.standard .postgres .doubleQuote) "user" _ (by decide)).1
    ColumnChange.ofEachKind _ _ [] rfl hdefaults rfl (by decide)

end SchemaEvolution
