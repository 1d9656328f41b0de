import SchemaEvolution.Proofs.Ledger
import SchemaEvolution.Proofs.Regions

/-!
# Names and texts stay in their quotes

Whatever characters they have, the names and texts of a statement are what its regions contain, and
nothing of them is outside.

* `Operation.quoted` lists them for each statement of an operation, in order; `Operation.blank` is
  the operation without them.
* `Operation.allRead_compile`: the statements of an operation have the one in their regions, and are
  like those of the other outside of them.
* `Dialect.IsBuiltIn.names_stay_quoted` says so of the texts, together with those of the statements
  for the ledger and the catalog.
-/

namespace SchemaEvolution

/-! ## What stands in quotes -/

namespace Column

/-- What stands in quotes in the definition of a column. -/
def quoted (c : Column) : List String :=
  c.name :: match c.defaultValue with
    | some value => value.quoted
    | none => []

/-- The column without what stands in quotes. -/
def blank (c : Column) : Column :=
  { c with name := "", defaultValue := c.defaultValue.map Value.blank }

end Column

namespace TableColumn

/-- What stands in quotes in the definition of a column. -/
def quoted : TableColumn → List String
  | key name _ => [name]
  | ordinary column => column.quoted

/-- The column without what stands in quotes. -/
def blank : TableColumn → TableColumn
  | key _ options => key "" options
  | ordinary column => ordinary column.blank

/-- The types that are in the words of the database. -/
def types : TableColumn → List String
  | key .. => []
  | ordinary column => [column.sqlType]

end TableColumn

namespace IndexDefinition

/-- What stands in quotes in the statement that creates an index. -/
def quoted (i : IndexDefinition) : List String :=
  i.name :: i.table :: i.method.toList ++ i.columns

/-- The index without what stands in quotes. -/
def blank (i : IndexDefinition) : IndexDefinition :=
  { i with
    name := "", table := "", columns := i.columns.map fun _ => "",
    method := i.method.map fun _ => "" }

end IndexDefinition

namespace TableDefinition

/-- The table without what stands in quotes. -/
def blank (t : TableDefinition) : TableDefinition :=
  { t with
    name := "", columns := t.columns.map TableColumn.blank, indexes := t.indexes.map fun _ => "" }

end TableDefinition

namespace ColumnChange

/-- What stands in quotes in the statement for a change, after the name of the table. -/
def quoted (can : Capabilities) : ColumnChange → List String
  | add column => column.quoted
  | drop name _ => [name]
  | rename name newName => [name, newName]
  | retype name _ => if can.converts then [name, name] else [name]

/-- The change without what stands in quotes. -/
def blank : ColumnChange → ColumnChange
  | add column => add column.blank
  | drop _ ifExists => drop "" ifExists
  | rename _ _ => rename "" ""
  | retype _ sqlType => retype "" sqlType

/-- The types that are in the words of the database. -/
def types : ColumnChange → List String
  | add column => [column.sqlType]
  | retype _ sqlType => [sqlType]
  | _ => []

end ColumnChange

namespace Operation

/-- What stands in quotes in each statement of an operation. -/
def quoted (can : Capabilities) : Operation → List (List String)
  | createTable t =>
    (if t.dropIfExists then [[t.name]] else []) ++
      (t.name :: t.columns.flatMap TableColumn.quoted) ::
      t.indexes.map fun column => [t.indexName column, t.name, column]
  | alterTable table changes => changes.map fun change => table :: change.quoted can
  | dropTable table _ => [[table]]
  | renameTable table newName => [[table, newName]]
  | createIndex i => (if i.dropIfExists then [[i.name]] else []) ++ [i.quoted]
  | dropIndex index _ => [[index]]

/-- The operation without what stands in quotes. -/
def blank : Operation → Operation
  | createTable t => createTable t.blank
  | alterTable _ changes => alterTable "" (changes.map ColumnChange.blank)
  | dropTable _ ifExists => dropTable "" ifExists
  | renameTable _ _ => renameTable "" ""
  | createIndex i => createIndex i.blank
  | dropIndex _ ifExists => dropIndex "" ifExists

/-- The types that are in the words of the database. -/
def types : Operation → List String
  | createTable t => t.columns.flatMap TableColumn.types
  | alterTable _ changes => changes.flatMap ColumnChange.types
  | _ => []

/-- An operation keeps its types without what stands in quotes. -/
theorem types_blank (op : Operation) : op.blank.types = op.types := by
  have hcolumn : ∀ c : TableColumn, c.blank.types = c.types := by
    intro c
    cases c <;> rfl
  have hchange : ∀ c : ColumnChange, c.blank.types = c.types := by
    intro c
    cases c <;> rfl
  cases op with
  | createTable t => simp [blank, types, TableDefinition.blank, List.flatMap_map, hcolumn]
  | alterTable table changes => simp [blank, types, List.flatMap_map, hchange]
  | dropTable | renameTable | createIndex | dropIndex => rfl

end Operation

/-- What stands in quotes in the statement that looks a table up. -/
def TableCatalog.quoted (catalog : TableCatalog) (table : String) : List String :=
  catalog.relation.parts ++ catalog.nameColumn.parts ++ table ::
    match catalog.kind with
      | some (column, value) => column.parts ++ value.quoted
      | none => []

/-! ## The dialects -/

/-- The dialects that there are: those of the standard, and those of SQLite. -/
inductive Dialect.IsBuiltIn : Dialect → Prop
  | standard (capabilities : Capabilities) (quoting : QuoteStyle) :
      IsBuiltIn (.standard capabilities quoting)
  | sqlite (capabilities : Capabilities) : IsBuiltIn (.sqlite capabilities)

/-- A key column has its name in quotes. -/
theorem Dialect.IsBuiltIn.reads_key {d : Dialect} (hd : d.IsBuiltIn) (name : String)
    (options : KeyOptions) :
    Fragment.Reads d (.clause (d.keyColumn name options)) [name]
      (.clause (d.keyColumn "" options)) := by
  cases hd with
  | standard capabilities quoting => exact .key (by decide) name options
  | sqlite capabilities => exact .key (by decide) name options

/-! ## Columns -/

section

variable {d : Dialect}

theorem Column.reads_constraints (c : Column) :
    Statement.Reads d c.constraints
      (match c.defaultValue with
        | some value => value.quoted
        | none => [])
      c.blank.constraints := by
  have hdefault : Statement.Reads d
      (match c.defaultValue with
        | some value => [.clause "DEFAULT", .literal value]
        | none => [])
      (match c.defaultValue with
        | some value => value.quoted
        | none => [])
      (match c.blank.defaultValue with
        | some value => [.clause "DEFAULT", .literal value]
        | none => []) := by
    unfold blank
    cases c.defaultValue with
    | none => exact .nil
    | some value => exact .clause (by decide) (.single (.literal value))
  have hnull : Statement.Reads d (Statement.clauseIf (c.nullable == some false) "NOT NULL") []
      (Statement.clauseIf (c.blank.nullable == some false) "NOT NULL") := .clauseIf (by decide) _
  have hunique : Statement.Reads d (Statement.clauseIf c.unique "UNIQUE") []
      (Statement.clauseIf c.blank.unique "UNIQUE") := .clauseIf (by decide) _
  have hall := (hnull.append hdefault).append hunique
  rwa [List.nil_append, List.append_nil] at hall

/-- A default is as finite without its text as with it. -/
theorem Column.nonFiniteDefault?_blank (c : Column) :
    c.blank.nonFiniteDefault? = c.nonFiniteDefault? := by
  unfold nonFiniteDefault? blank
  cases c.defaultValue with
  | none => rfl
  | some value => cases value <;> rfl

theorem Column.reads_definition {c : Column} (htype : Quoting.IsPlain c.sqlType.toList)
    {s : Statement} (h : c.definition = .ok s) :
    ∃ like, c.blank.definition = .ok like ∧ Statement.Reads d s c.quoted like := by
  unfold definition at h ⊢
  rw [nonFiniteDefault?_blank]
  cases hdefault : c.nonFiniteDefault? with
  | some x =>
    rw [hdefault] at h
    cases h
  | none =>
    rw [hdefault] at h
    cases h
    exact ⟨_, rfl, .name c.name (.clause htype c.reads_constraints)⟩

theorem TableColumn.reads_definition (hd : d.IsBuiltIn) {c : TableColumn}
    (htypes : ∀ sqlType ∈ c.types, Quoting.IsPlain sqlType.toList) {s : Statement}
    (h : c.definition d = .ok s) :
    ∃ like, c.blank.definition d = .ok like ∧ Statement.Reads d s c.quoted like := by
  cases c with
  | key name options =>
    cases h
    exact ⟨_, rfl, .single (hd.reads_key name options)⟩
  | ordinary column => exact Column.reads_definition (htypes _ List.mem_cons_self) h

/-! ## Statements of an operation -/

theorem Statement.Reads.dropping {text : String} (htext : Quoting.IsPlain text.toList)
    (ifExists : Bool) (name : String) :
    Reads d (.clause text :: Statement.clauseIf ifExists "IF EXISTS" ++ [.name name]) [name]
      (.clause text :: Statement.clauseIf ifExists "IF EXISTS" ++ [.name ""]) :=
  (Reads.clause htext (.clauseIf (by decide) ifExists)).append (.name name .nil)

theorem IndexDefinition.reads_dropStatement (name : String) (ifExists : Bool) :
    Statement.Reads d (dropStatement name ifExists) [name] (dropStatement "" ifExists) :=
  .dropping (by decide) ifExists name

theorem IndexDefinition.reads_createStatement (i : IndexDefinition) :
    Statement.Reads d i.createStatement i.quoted i.blank.createStatement := by
  have hbegin : Statement.Reads d
      (.clause (if i.unique then "CREATE UNIQUE INDEX" else "CREATE INDEX") ::
        Statement.clauseIf i.ifNotExists "IF NOT EXISTS") []
      (.clause (if i.unique then "CREATE UNIQUE INDEX" else "CREATE INDEX") ::
        Statement.clauseIf i.ifNotExists "IF NOT EXISTS") := by
    refine .clause ?_ (.clauseIf (by decide) _)
    split <;> decide
  have htable : Statement.Reads d [.name i.name, .clause "ON", .name i.table] [i.name, i.table]
      [.name "", .clause "ON", .name ""] :=
    .name i.name (.clause (by decide) (.name i.table .nil))
  obtain ⟨name, table, columns, unique, method, _, ifNotExists⟩ := i
  cases method with
  | none => exact ((hbegin.append htable).append .nil).append (.names d columns)
  | some method =>
    have hmethod : Statement.Reads d [.clause "USING", .name method] [method]
        [.clause "USING", .name ""] := .clause (by decide) (.name method .nil)
    exact ((hbegin.append htable).append hmethod).append (.names d columns)

theorem IndexDefinition.allRead_compile {i : IndexDefinition} {ss : List Statement}
    (h : i.compile = .ok ss) :
    ∃ likes, i.blank.compile = .ok likes ∧
      Statement.AllRead d ss ((if i.dropIfExists then [[i.name]] else []) ++ [i.quoted]) likes := by
  unfold compile at h ⊢
  have hempty : i.blank.columns.isEmpty = i.columns.isEmpty := List.isEmpty_map
  rw [hempty]
  split at h
  · cases h
  · rename_i hcolumns
    cases h
    rw [if_neg hcolumns]
    have hdrop := Statement.AllRead.singleIf (d := d) (reads_dropStatement i.name true)
      i.dropIfExists
    exact ⟨_, rfl, hdrop.append (.cons i.reads_createStatement .nil)⟩

theorem TableDefinition.reads_dropStatement (name : String) (ifExists : Bool) :
    Statement.Reads d (dropStatement name ifExists) [name] (dropStatement "" ifExists) :=
  .dropping (by decide) ifExists name

theorem TableDefinition.reads_createStatement (t : TableDefinition)
    {definitions likes : List Statement} {contents : List (List String)}
    (h : Statement.AllRead d definitions contents likes) :
    Statement.Reads d (t.createStatement definitions) (t.name :: contents.flatten)
      (t.blank.createStatement likes) :=
  (Statement.Reads.clause (by decide) (.clauseIf (by decide) t.ifNotExists)).append
    (.name t.name h.parenthesized)

theorem TableDefinition.allRead_compile (hd : d.IsBuiltIn) {t : TableDefinition}
    (htypes : ∀ sqlType ∈ (Operation.createTable t).types, Quoting.IsPlain sqlType.toList)
    {ss : List Statement} (h : t.compile d = .ok ss) :
    ∃ likes, t.blank.compile d = .ok likes ∧
      Statement.AllRead d ss ((Operation.createTable t).quoted d.capabilities) likes := by
  obtain ⟨hcolumns, definitions, hdefinitions, rfl⟩ := compile_eq_ok_iff.mp h
  have hplain : ∀ c ∈ t.columns, ∀ sqlType ∈ c.types, Quoting.IsPlain sqlType.toList :=
    fun c hc sqlType htype => htypes sqlType (List.mem_flatMap.mpr ⟨c, hc, htype⟩)
  obtain ⟨blanks, hblanks, hall⟩ := Statement.AllRead.of_mapM hdefinitions fun c hc _ hs =>
    c.reads_definition hd (hplain c hc) hs
  have hblank : t.blank.columns ≠ [] := by
    simpa [blank] using hcolumns
  have hdrop := Statement.AllRead.singleIf (d := d) (reads_dropStatement t.name true)
    t.dropIfExists
  refine ⟨_, compile_eq_ok_iff.mpr ⟨hblank, blanks, hblanks, rfl⟩, hdrop.append (.cons ?_ ?_)⟩
  · rw [List.flatMap_def]
    exact t.reads_createStatement hall
  · -- The name of an index is made of other names, so it does not become empty with them.
    show Statement.AllRead d _ _
      ((t.indexes.map fun _ => "").map fun column => (t.blank.indexOn column).createStatement)
    rw [List.map_map]
    exact .map fun column _ => (t.indexOn column).reads_createStatement.of_like
      (t.blank.indexOn "").reads_createStatement

theorem ColumnChange.reads_retypeClauses {can : Capabilities} {sqlType : String}
    (htype : Quoting.IsPlain sqlType.toList) (name : String) :
    Statement.Reads d (retypeClauses can name sqlType) ((retype name sqlType).quoted can)
      (retypeClauses can "" sqlType) := by
  unfold retypeClauses quoted
  by_cases hmodify : can.columnModification = true
  · have hconverts : can.converts = false := by
      simp [Capabilities.converts, hmodify]
    rw [if_pos hmodify, if_pos hmodify, hconverts]
    exact .clause (by decide) (.name name (.clause htype .nil))
  · rw [if_neg hmodify, if_neg hmodify]
    have hbegin : Statement.Reads d
        [.clause "ALTER COLUMN", .name name, .clause "TYPE", .clause sqlType] [name]
        [.clause "ALTER COLUMN", .name "", .clause "TYPE", .clause sqlType] :=
      .clause (by decide) (.name name (.clause (by decide) (.clause htype .nil)))
    cases can.converts with
    | false => exact hbegin.append .nil
    | true =>
      exact hbegin.append (.clause (by decide)
        (.name name (.clause (by decide) (.clause htype .nil))))

theorem ColumnChange.reads_clauses {can : Capabilities} {c : ColumnChange}
    (htypes : ∀ sqlType ∈ c.types, Quoting.IsPlain sqlType.toList) {s : Statement}
    (h : c.clauses can = .ok s) :
    ∃ like, c.blank.clauses can = .ok like ∧ Statement.Reads d s (c.quoted can) like := by
  cases c with
  | add column =>
    obtain ⟨definition, hdefinition, hs⟩ := exists_of_bind_eq_ok h
    cases hs
    obtain ⟨like, hlike, hreads⟩ :=
      Column.reads_definition (d := d) (htypes _ List.mem_cons_self) hdefinition
    refine ⟨.clause "ADD COLUMN" :: like, ?_, .clause (by decide) hreads⟩
    rw [blank, clauses, hlike]
    rfl
  | drop name ifExists =>
    cases h
    exact ⟨_, rfl, .dropping (by decide) (ifExists && can.conditionalDrop) name⟩
  | rename name newName =>
    cases h
    exact ⟨_, rfl, .clause (by decide) (.name name (.clause (by decide) (.name newName .nil)))⟩
  | retype name sqlType =>
    cases h
    exact ⟨_, rfl, reads_retypeClauses (htypes _ List.mem_cons_self) name⟩

theorem ColumnChange.reads_compile {can : Capabilities} {table : String} {c : ColumnChange}
    (htypes : ∀ sqlType ∈ c.types, Quoting.IsPlain sqlType.toList) {s : Statement}
    (h : c.compile can table = .ok s) :
    ∃ like, c.blank.compile can "" = .ok like ∧
      Statement.Reads d s (table :: c.quoted can) like := by
  obtain ⟨clauses, hclauses, hs⟩ := exists_of_bind_eq_ok h
  cases hs
  obtain ⟨like, hlike, hreads⟩ := reads_clauses (d := d) htypes hclauses
  refine ⟨.clause "ALTER TABLE" :: .name "" :: like, ?_, .clause (by decide) (.name table hreads)⟩
  rw [compile, hlike]
  rfl

/-- The statements of an operation have its names and texts in their regions, and are like those of
the operation without them. -/
theorem Operation.allRead_compile (hd : d.IsBuiltIn) {op : Operation}
    (htypes : ∀ sqlType ∈ op.types, Quoting.IsPlain sqlType.toList) {ss : List Statement}
    (h : op.compile d = .ok ss) :
    ∃ likes, op.blank.compile d = .ok likes ∧
      Statement.AllRead d ss (op.quoted d.capabilities) likes := by
  cases op with
  | createTable t => exact TableDefinition.allRead_compile hd htypes h
  | alterTable table changes =>
    exact Statement.AllRead.of_mapM h fun c hc _ hs =>
      c.reads_compile (fun sqlType htype => htypes sqlType (List.mem_flatMap.mpr ⟨c, hc, htype⟩)) hs
  | dropTable table ifExists =>
    cases h
    exact ⟨_, rfl, .cons (TableDefinition.reads_dropStatement table ifExists) .nil⟩
  | renameTable table newName =>
    cases h
    exact ⟨_, rfl, .cons
      (.clause (by decide) (.name table (.clause (by decide) (.name newName .nil)))) .nil⟩
  | createIndex i => exact IndexDefinition.allRead_compile h
  | dropIndex index ifExists =>
    cases h
    exact ⟨_, rfl, .cons (IndexDefinition.reads_dropStatement index ifExists) .nil⟩

/-! ## Statements for the ledger and the catalog -/

variable (d)

theorem Ledger.exists_reads_lookup :
    ∃ like, ∀ name, Statement.Reads d (lookup name) ["id", tableName, "name", name] like :=
  ⟨_, fun name => .clause (by decide) (.name "id" (.clause (by decide) (.name tableName
    (.clause (by decide) (.name "name" (.clause (by decide) (.single (.text name))))))))⟩

theorem Ledger.exists_reads_insertion :
    ∃ like, ∀ now name, Statement.Reads d (insertion now name)
      [tableName, "name", "created_at", "updated_at", name, now.micros, now.micros] like := by
  have hvalues : ∀ (now : Timestamp) (name : String), Statement.AllRead d
      [[.text name], [.literal (.timestamp now)], [.literal (.timestamp now)]]
      [[name], [now.micros], [now.micros]] [[.text ""], [.text ""], [.text ""]] := fun now name =>
    have htime := Fragment.Reads.literal (d := d) (.timestamp now)
    .cons (.single (.text name)) (.cons (.single htime) (.cons (.single htime) .nil))
  have hcolumns : Statement.Reads d
      ([.clause "INSERT INTO", .name tableName] ++
        Statement.names (["name", "created_at", "updated_at"].map .of))
      [tableName, "name", "created_at", "updated_at"]
      ([.clause "INSERT INTO", .name ""] ++ Statement.names (["", "", ""].map .of)) :=
    (Statement.Reads.clause (by decide) (.name tableName .nil)).append (.names d _)
  exact ⟨_, fun now name => hcolumns.append (.clause (by decide) (hvalues now name).parenthesized)⟩

theorem TableCatalog.exists_reads_lookup (catalog : TableCatalog) :
    ∃ like, ∀ table, Statement.Reads d (catalog.lookup table) (catalog.quoted table) like := by
  have hname : ∃ like, ∀ table, Statement.Reads d
      [.clause "SELECT * FROM", .identifier catalog.relation, .clause "WHERE",
        .identifier catalog.nameColumn, .clause "=", .text table]
      (catalog.relation.parts ++ (catalog.nameColumn.parts ++ [table])) like :=
    ⟨_, fun table => .clause (by decide) (.cons (.identifier _) (.clause (by decide)
      (.cons (.identifier _) (.clause (by decide) (.single (.text table))))))⟩
  have hkind : ∃ like, Statement.Reads d
      (match catalog.kind with
        | some (column, value) => [.clause "AND", .identifier column, .clause "=", .literal value]
        | none => [])
      (match catalog.kind with
        | some (column, value) => column.parts ++ value.quoted
        | none => []) like := by
    rcases catalog.kind with _ | ⟨column, value⟩
    · exact ⟨[], .nil⟩
    · exact ⟨_, .clause (by decide) (.cons (.identifier column) (.clause (by decide)
        (.single (.literal value))))⟩
  obtain ⟨asked, hname⟩ := hname
  obtain ⟨kind, hkind⟩ := hkind
  refine ⟨asked ++ kind, fun table => ?_⟩
  have hreads := (hname table).append hkind
  rw [List.append_assoc, List.append_assoc, List.singleton_append, ← List.append_assoc] at hreads
  exact hreads

end

/-! ## Texts -/

/-- Every statement keeps its names and texts in quotes: scanning its text ends outside of the
regions, which contain what the statement has in quotes, in order and as it was.  What is outside of
them is the same for statements that differ only in this. -/
theorem Dialect.IsBuiltIn.names_stay_quoted {d : Dialect} (hd : d.IsBuiltIn) :
    (∀ (op : Operation) (statements : List Statement),
      (∀ sqlType ∈ op.types, Quoting.IsPlain sqlType.toList) → op.compile d = .ok statements →
      statements.map (fun s => Quoting.regions (d.render s)) =
          (op.quoted d.capabilities).map some ∧
        ∀ (op' : Operation) (statements' : List Statement), op'.blank = op.blank →
          op'.compile d = .ok statements' →
          statements'.map (fun s => Quoting.outside (d.render s)) =
            statements.map fun s => Quoting.outside (d.render s)) ∧
    (∀ name, Quoting.regions (d.render (Ledger.lookup name)) =
        some ["id", "migration", "name", name] ∧
      ∀ name', Quoting.outside (d.render (Ledger.lookup name')) =
        Quoting.outside (d.render (Ledger.lookup name))) ∧
    (∀ now name, Quoting.regions (d.render (Ledger.insertion now name)) =
        some ["migration", "name", "created_at", "updated_at", name, now.micros, now.micros] ∧
      ∀ now' name', Quoting.outside (d.render (Ledger.insertion now' name')) =
        Quoting.outside (d.render (Ledger.insertion now name))) ∧
    (∀ (catalog : TableCatalog) table, Quoting.regions (d.render (catalog.lookup table)) =
        some (catalog.quoted table) ∧
      ∀ table', Quoting.outside (d.render (catalog.lookup table')) =
        Quoting.outside (d.render (catalog.lookup table))) := by
  refine ⟨fun op statements htypes hcompile => ?_, fun name => ?_, fun now name => ?_,
    fun catalog table => ?_⟩
  · obtain ⟨likes, hlikes, hall⟩ := op.allRead_compile hd htypes hcompile
    refine ⟨hall.regions_render, fun op' statements' hblank hcompile' => ?_⟩
    have htypes' : ∀ sqlType ∈ op'.types, Quoting.IsPlain sqlType.toList := by
      rwa [← op'.types_blank, hblank, op.types_blank]
    obtain ⟨likes', hlikes', hall'⟩ := op'.allRead_compile hd htypes' hcompile'
    rw [hblank, hlikes, Except.ok.injEq] at hlikes'
    rw [hall.outside_render, hall'.outside_render, hlikes']
  · obtain ⟨like, hreads⟩ := Ledger.exists_reads_lookup d
    exact ⟨(hreads name).regions_render, fun name' =>
      ((hreads name').of_like (hreads name)).outside_render⟩
  · obtain ⟨like, hreads⟩ := Ledger.exists_reads_insertion d
    exact ⟨(hreads now name).regions_render, fun now' name' =>
      ((hreads now' name').of_like (hreads now name)).outside_render⟩
  · obtain ⟨like, hreads⟩ := catalog.exists_reads_lookup d
    exact ⟨(hreads table).regions_render, fun table' =>
      ((hreads table').of_like (hreads table)).outside_render⟩

/-- A table whose names and default have quote characters of all kinds keeps them in quotes, and so
does the lookup of such a name. -/
theorem Dialect.names_stay_quoted_marks :
    (Dialect.sqlite {}).IsBuiltIn ∧
      (∃ statements, (Operation.createTable (.ofItems "a\x60b" [.primaryKey none [],
          .column "say \"hi\"" "TEXT" [.modify (.defaultsTo (.text "it's"))]])).compile
            (.sqlite {}) = .ok statements ∧
        statements.map (fun s => Quoting.regions ((Dialect.sqlite {}).render s)) =
          [some ["a\x60b", "id", "say \"hi\"", "it's"]]) ∧
      Quoting.regions ((Dialect.sqlite {}).render (Ledger.lookup "it's")) =
        some ["id", "migration", "name", "it's"] := by
  have hd : (Dialect.sqlite {}).IsBuiltIn := .sqlite {}
  have htypes : ∀ sqlType ∈ (Operation.createTable (.ofItems "a\x60b" [.primaryKey none [],
      .column "say \"hi\"" "TEXT" [.modify (.defaultsTo (.text "it's"))]])).types,
      Quoting.IsPlain sqlType.toList := by decide
  have hquoted := Dialect.IsBuiltIn.names_stay_quoted hd
  exact ⟨hd, ⟨_, rfl, (hquoted.1 _ _ htypes rfl).1⟩, (hquoted.2.1 "it's").1⟩

end SchemaEvolution
