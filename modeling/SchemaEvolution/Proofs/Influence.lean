import SchemaEvolution.Proofs.Rehearsal
import SchemaEvolution.Proofs.Wording

/-!
# What a dialect has influence on

Of the capabilities of a dialect a preview shows three things, and only if the plan changes columns.

* `Capabilities.AgreeOnChanges`: the three things.
* `ColumnChange.isUniform`, `Operation.isUniform`: what is written in the same way whatever a
  dialect can express, as are all operations on whole tables and on indexes.
* `Plan.preview_congr`: previews are the same if the operations that they come to are compiled to
  the same statements.
* `Dialect.WritesAlike.preview_eq_iff`: previews tell two dialects apart if they disagree on the
  three things, and otherwise never.
-/

namespace SchemaEvolution

/-! ## Agreement -/

/-- What a change of columns shows of the capabilities: whether a column can be dropped under a
guard, and which of three forms a change of type has. -/
structure Capabilities.AgreeOnChanges (can can' : Capabilities) : Prop where
  conditionalDrop : can.conditionalDrop = can'.conditionalDrop
  columnModification : can.columnModification = can'.columnModification
  conversion : (!can.columnModification && can.typeAlteration && can.typeConversion) =
    (!can'.columnModification && can'.typeAlteration && can'.typeConversion)

/-- Two dialects write names and key columns in the same way. -/
structure Dialect.WritesAlike (d d' : Dialect) : Prop where
  quoting : d.quoting = d'.quoting
  keyColumn : d.keyColumn = d'.keyColumn

/-- The change is written in the same way whatever a dialect can express. -/
def ColumnChange.isUniform : ColumnChange → Bool
  | add _ | rename .. => true
  | drop _ ifExists => !ifExists
  | retype .. => false

/-- The operation is written in the same way whatever a dialect can express. -/
def Operation.isUniform : Operation → Bool
  | alterTable _ changes => changes.all ColumnChange.isUniform
  | _ => true

/-! ## Compiling -/

theorem ColumnChange.clauses_congr {can can' : Capabilities} (h : can.AgreeOnChanges can')
    (c : ColumnChange) : c.clauses can = c.clauses can' := by
  cases c with
  | add | rename => rfl
  | drop name ifExists => rw [clauses, clauses, h.conditionalDrop]
  | retype name sqlType =>
    have hconverts : can.converts = can'.converts := h.conversion
    rw [clauses, clauses, retypeClauses, retypeClauses, h.columnModification, hconverts]

theorem ColumnChange.clauses_of_isUniform {c : ColumnChange} (h : c.isUniform = true)
    (can can' : Capabilities) : c.clauses can = c.clauses can' := by
  cases c with
  | add | rename => rfl
  | drop name ifExists =>
    have hunguarded : ifExists = false := by simpa [isUniform] using h
    subst hunguarded
    rfl
  | retype => cases h

theorem TableDefinition.compile_congr {d d' : Dialect} (h : d.keyColumn = d'.keyColumn)
    (t : TableDefinition) : t.compile d = t.compile d' := by
  have hdefinition : TableColumn.definition d = TableColumn.definition d' := by
    funext c
    cases c with
    | key name options => rw [TableColumn.definition, TableColumn.definition, h]
    | ordinary column => rfl
  rw [compile, compile, hdefinition]

/-- An operation is compiled to the same statements if each of its changes is. -/
theorem Operation.compile_congr {d d' : Dialect} (h : d.keyColumn = d'.keyColumn) (op : Operation)
    (hchanges : ∀ table changes, op = .alterTable table changes → ∀ c ∈ changes,
      c.clauses d.capabilities = c.clauses d'.capabilities) : op.compile d = op.compile d' := by
  cases op with
  | createTable t => exact t.compile_congr h
  | alterTable table changes =>
    rw [compile, compile]
    refine mapM_congr fun c hc => ?_
    rw [ColumnChange.compile, ColumnChange.compile, hchanges table changes rfl c hc]
  | dropTable | renameTable | createIndex | dropIndex => rfl

theorem Operation.compile_of_isUniform {d d' : Dialect} (h : d.keyColumn = d'.keyColumn)
    {op : Operation} (hop : op.isUniform = true) : op.compile d = op.compile d' := by
  refine op.compile_congr h ?_
  rintro table changes rfl c hc
  exact c.clauses_of_isUniform (List.all_eq_true.mp hop c hc) _ _

theorem Dialect.render_congr {d d' : Dialect} (h : d.quoting = d'.quoting) :
    d.render = d'.render := by
  have hfragment : d.renderFragment = d'.renderFragment := by
    funext f
    cases f with
    | clause | literal => rfl
    | identifier i =>
      rw [renderFragment, renderFragment, renderIdentifier, renderIdentifier, h]
  funext s
  rw [render, render, hfragment]

/-! ## Previews -/

variable {d d' : Dialect}

/-- Operations that are compiled to the same statements end in the same way. -/
theorem Operation.verdict_congr {ops : List Operation}
    (h : ∀ op ∈ ops, op.compile d = op.compile d') : verdict d ops = verdict d' ops := by
  induction ops with
  | nil => rfl
  | cons op ops ih =>
    rw [verdict, verdict, h op List.mem_cons_self,
      ih fun op' hop' => h op' (List.mem_cons_of_mem _ hop')]

/-- And they issue the same texts. -/
theorem Operation.issued_congr {ops : List Operation} (hrender : d.render = d'.render)
    (h : ∀ op ∈ ops, op.compile d = op.compile d') : issued d ops = issued d' ops := by
  induction ops with
  | nil => rfl
  | cons op ops ih =>
    rw [issued, issued, h op List.mem_cons_self, hrender,
      ih fun op' hop' => h op' (List.mem_cons_of_mem _ hop')]

/-- A preview shows the operations that it comes to, and nothing else. -/
theorem Plan.preview_congr {plan : Plan} (hquoting : d.quoting = d'.quoting)
    (h : ∀ op ∈ plan.traversal, op.compile d = op.compile d') :
    Plan.preview d plan = Plan.preview d' plan := by
  rw [preview_eq, preview_eq, Operation.verdict_congr h,
    Operation.issued_congr (Dialect.render_congr hquoting) h]

theorem Body.preview_ok (d : Dialect) (plan : Plan) :
    Body.preview d (.ok plan) = (Plan.preview d plan).mapError .invalidOperation :=
  rfl

theorem Body.preview_error (d : Dialect) (e : MigrationError) :
    Body.preview d (.error e) = .error e :=
  rfl

/-- The preview of a single change is its text. -/
theorem Body.preview_change (table : String) {change : ColumnChange}
    (htypes : ∀ sqlType ∈ change.types, sqlType ∉ Statement.joints)
    (hdefault : change.HasFiniteDefault) :
    Body.preview d (.ok [.operation (.alterTable table [change])]) =
      .ok ["ALTER TABLE " ++ d.quoting.quote table ++ " " ++ change.text d] := by
  obtain ⟨s, hs, hstands⟩ : ∃ s, change.compile d.capabilities table = .ok s ∧
      Statement.Stands d s ("ALTER TABLE " ++ d.quoting.quote table ++ " " ++ change.text d) :=
    change.stands_compile htypes hdefault
  have hcompile : (Operation.alterTable table [change]).compile d = .ok [s] := by
    rw [Operation.compile, List.mapM_cons, hs]
    rfl
  have hplan : Plan.preview d [.operation (.alterTable table [change])] = .ok [d.render s] := by
    rw [Plan.preview_eq, Plan.traversal, Step.traversal, Plan.traversal, List.append_nil,
      Operation.verdict, hcompile, Operation.issued_singleton d hcompile]
    rfl
  rw [preview_ok, hplan, hstands.render]
  rfl

/-! ## Telling dialects apart -/

/-- If all previews are the same then so are the texts of each change. -/
theorem ColumnChange.text_congr (hquoting : d.quoting = d'.quoting)
    (h : ∀ body, Body.preview d body = Body.preview d' body) {change : ColumnChange}
    (htypes : ∀ sqlType ∈ change.types, sqlType ∉ Statement.joints)
    (hdefault : change.HasFiniteDefault) : change.text d = change.text d' := by
  have hbody := h (.ok [.operation (.alterTable "t" [change])])
  rw [Body.preview_change "t" htypes hdefault, Body.preview_change "t" htypes hdefault,
    hquoting] at hbody
  have htexts := List.singleton_inj.mp (Except.ok.inj hbody)
  exact String.append_right_inj _ |>.mp htexts

/-- The guard of a column that is dropped can be told from its text. -/
theorem Capabilities.conditionalDrop_eq_of_text {name : String} (hquoting : d.quoting = d'.quoting)
    (h : (ColumnChange.drop name true).text d = (ColumnChange.drop name true).text d') :
    d.capabilities.conditionalDrop = d'.capabilities.conditionalDrop := by
  unfold ColumnChange.text at h
  have hlength := congrArg String.length h
  simp only [hquoting, Bool.true_and, String.length_append] at hlength
  cases hd : d.capabilities.conditionalDrop <;> cases hd' : d'.capabilities.conditionalDrop <;>
    simp [hd, hd'] at hlength ⊢

/-- The length of a change of type: each of its three forms has its own. -/
theorem ColumnChange.length_retype (name sqlType : String) :
    ((retype name sqlType).text d).length =
      (d.quoting.quote name).length + sqlType.length +
        if d.capabilities.columnModification then 15
        else if d.capabilities.converts then
          28 + (d.quoting.quote name).length + sqlType.length
        else 19 := by
  have hmodify : "MODIFY COLUMN ".length = 14 ∧ " ".length = 1 := by decide
  have halter : "ALTER COLUMN ".length = 13 ∧ " TYPE ".length = 6 := by decide
  have husing : " USING ".length = 7 ∧ "::".length = 2 := by decide
  unfold text Capabilities.converts
  cases d.capabilities.columnModification with
  | true =>
    simp only [if_true, String.length_append, hmodify]
    omega
  | false =>
    rw [Bool.not_false, Bool.true_and]
    cases d.capabilities.typeAlteration && d.capabilities.typeConversion <;>
      simp only [Bool.false_eq_true, if_true, if_false, String.length_append, String.length_empty,
        halter, husing] <;>
      omega

/-- And so can the form of a change of type. -/
theorem Capabilities.retype_eq_of_text {name sqlType : String} (hquoting : d.quoting = d'.quoting)
    (h : (ColumnChange.retype name sqlType).text d = (ColumnChange.retype name sqlType).text d') :
    d.capabilities.columnModification = d'.capabilities.columnModification ∧
      d.capabilities.converts = d'.capabilities.converts := by
  have hlength := congrArg String.length h
  rw [ColumnChange.length_retype, ColumnChange.length_retype, hquoting] at hlength
  have hmodified (can : Capabilities) : can.columnModification = true → can.converts = false := by
    intro hcan
    rw [converts, hcan]
    rfl
  -- two forms have two lengths, and the same form shows the same capabilities
  split_ifs at hlength <;> first | omega | simp_all

/-- Dialects whose previews are all the same agree on what changes of columns show. -/
theorem Capabilities.agreeOnChanges_of_preview (hquoting : d.quoting = d'.quoting)
    (h : ∀ body, Body.preview d body = Body.preview d' body) :
    d.capabilities.AgreeOnChanges d'.capabilities := by
  have hdrop : (ColumnChange.drop "c" true).text d = (ColumnChange.drop "c" true).text d' :=
    ColumnChange.text_congr hquoting h (by decide) trivial
  have hretype : (ColumnChange.retype "c" "T").text d = (ColumnChange.retype "c" "T").text d' :=
    ColumnChange.text_congr hquoting h (by decide) trivial
  obtain ⟨hmodification, hconversion⟩ := retype_eq_of_text hquoting hretype
  exact ⟨conditionalDrop_eq_of_text hquoting hdrop, hmodification, hconversion⟩

theorem Body.preview_congr {body : Body} (hquoting : d.quoting = d'.quoting)
    (h : ∀ plan, body = .ok plan → ∀ op ∈ plan.traversal, op.compile d = op.compile d') :
    Body.preview d body = Body.preview d' body := by
  cases body with
  | error e => rw [preview_error, preview_error]
  | ok plan => rw [preview_ok, preview_ok, Plan.preview_congr hquoting (h plan rfl)]

/-- Let two dialects write names and key columns in the same way.

* They have the same previews if and only if they agree on three things: whether a column can be
  dropped under a guard, whether columns are modified, and whether a change of type ends in a
  conversion.  Nothing else about a dialect can be seen in a preview.
* Even if they do not agree, a body has the same preview in both if no column is dropped under a
  guard and no type is changed where a database without tables gets to.
* What is done to whole tables and to indexes, guards included, is written in the same way. -/
theorem Dialect.WritesAlike.preview_eq_iff (h : d.WritesAlike d') :
    ((∀ body, Body.preview d body = Body.preview d' body) ↔
        d.capabilities.AgreeOnChanges d'.capabilities) ∧
      (∀ body : Body,
        (∀ plan, body = .ok plan → ∀ op ∈ plan.traversal, op.isUniform = true) →
        Body.preview d body = Body.preview d' body) ∧
      (∀ op : Operation, (∀ table changes, op ≠ .alterTable table changes) →
        (op.compile d).map (List.map d.render) = (op.compile d').map (List.map d'.render)) := by
  refine ⟨⟨Capabilities.agreeOnChanges_of_preview h.quoting, fun hagree body => ?_⟩,
    fun body huniform => ?_, fun op hop => ?_⟩
  · exact Body.preview_congr h.quoting fun plan _ op _ =>
      op.compile_congr h.keyColumn fun _ _ _ c _ => c.clauses_congr hagree
  · exact Body.preview_congr h.quoting fun plan hplan op hop =>
      Operation.compile_of_isUniform h.keyColumn (huniform plan hplan op hop)
  · have hcompile : op.compile d = op.compile d' :=
      op.compile_congr h.keyColumn fun table changes heq => absurd heq (hop table changes)
    rw [hcompile, Dialect.render_congr h.quoting]

/-- MySQL with capabilities that are pointless where columns are modified, and with another catalog.
-/
def Dialect.elaborateMysql : Dialect where
  capabilities := { columnModification := true, typeAlteration := true, typeConversion := true }
  quoting := .backtick
  keyColumn := (Dialect.standard .mysql .backtick).keyColumn
  catalog := .sqliteMaster

/-- A plan that changes a type only if there is a table. -/
def Plan.tidying : Plan :=
  [.operation (.dropTable "draft" true),
    .guarded "post" false [.operation (.alterTable "post" [.drop "nick" false])],
    .guarded "post" true [.operation (.alterTable "post" [.retype "id" "BIGINT"])]]

/-- No preview shows the capabilities that are pointless.  Some preview shows those of PostgreSQL,
but not the one of this plan. -/
theorem Dialect.WritesAlike.preview_eq_iff_tidying :
    ((Dialect.standard .mysql .backtick).WritesAlike elaborateMysql ∧
      ∀ body, Body.preview (.standard .mysql .backtick) body = Body.preview elaborateMysql body) ∧
    (Dialect.standard .generic .doubleQuote).WritesAlike (.standard .postgres .doubleQuote) ∧
    (¬ ∀ body, Body.preview (.standard .generic .doubleQuote) body =
      Body.preview (.standard .postgres .doubleQuote) body) ∧
    Body.preview (.standard .generic .doubleQuote) (.ok Plan.tidying) =
      Body.preview (.standard .postgres .doubleQuote) (.ok Plan.tidying) := by
  have hmysql : (Dialect.standard .mysql .backtick).WritesAlike elaborateMysql := ⟨rfl, rfl⟩
  have hpostgres : (Dialect.standard .generic .doubleQuote).WritesAlike
      (.standard .postgres .doubleQuote) := ⟨rfl, rfl⟩
  refine ⟨⟨hmysql, hmysql.preview_eq_iff.1.mpr ⟨rfl, rfl, rfl⟩⟩, hpostgres, fun hsame => ?_, ?_⟩
  · have hagree := hpostgres.preview_eq_iff.1.mp hsame
    exact absurd hagree.conditionalDrop (by decide)
  · refine hpostgres.preview_eq_iff.2.1 _ fun plan hplan => ?_
    cases hplan
    decide

end SchemaEvolution
