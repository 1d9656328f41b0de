import SchemaEvolution.Proofs.Rehearsal
import SchemaEvolution.Proofs.Soundness

/-!
# Rejected plans

A preview goes through the operations that a database without tables comes to, and ends with the
first one that cannot be written.

* `Operation.verdict_eq_error_iff`, `Operation.verdict_eq_ok_iff`: how operations in order end.
* `Operation.exists_of_verdict_ok`: what is issued if they end well.
* `Body.preview_error_iff_verdict`, `Body.preview_ok_iff_verdict`: a preview ends like the
  operations of the traversal.
* `Plan.preview_eq_error_iff`: which plans have no preview, why, and what is never in one.
-/

namespace SchemaEvolution

/-! ## Operations in order -/

namespace Operation

variable {d : Dialect} {ops : List Operation}

/-- Operations in order end with the first one that is rejected. -/
theorem verdict_eq_error_iff {reason : Rejection} : verdict d ops = .error reason ↔
    ∃ before op after, ops = before ++ op :: after ∧ (∀ earlier ∈ before, earlier.IsWritable) ∧
      op.Rejected reason := by
  constructor
  · intro h
    obtain ⟨before, op, after, statements, hops, hbefore, hop, -⟩ := exists_of_verdict d h
    refine ⟨before, op, after, hops, fun earlier hmem => ?_, compile_eq_error_iff.mp hop⟩
    exact exists_compile_iff.mp (exists_mapM_iff.mp ⟨statements, hbefore⟩ earlier hmem)
  · rintro ⟨before, op, after, rfl, hbefore, hop⟩
    induction before with
    | nil =>
      rw [List.nil_append, verdict, compile_eq_error_iff.mpr hop]
    | cons earlier before ih =>
      obtain ⟨statements, hcompile⟩ :=
        exists_compile_iff (d := d).mpr (hbefore earlier List.mem_cons_self)
      rw [List.cons_append, verdict, hcompile]
      exact ih fun op' hop' => hbefore op' (List.mem_cons_of_mem _ hop')

/-- Operations in order end well if all of them can be written. -/
theorem verdict_eq_ok_iff : verdict d ops = .ok () ↔ ∀ op ∈ ops, op.IsWritable := by
  induction ops with
  | nil => simp [verdict]
  | cons op ops ih =>
    rw [List.forall_mem_cons, ← ih, ← exists_compile_iff (d := d), verdict]
    cases op.compile d with
    | error reason => simp
    | ok statements => simp

/-- Operations that end well are compiled one by one, and their texts are those that are issued. -/
theorem exists_of_verdict_ok (h : verdict d ops = .ok ()) : ∃ statements,
    ops.mapM (compile d) = .ok statements ∧ issued d ops = statements.flatten.map d.render := by
  induction ops with
  | nil => exact ⟨[], rfl, rfl⟩
  | cons op ops ih =>
    rw [verdict] at h
    cases hcompile : op.compile d with
    | error reason =>
      rw [hcompile] at h
      cases h
    | ok statements =>
      rw [hcompile] at h
      obtain ⟨rest, hrest, hissued⟩ := ih h
      refine ⟨statements :: rest, ?_, ?_⟩
      · rw [List.mapM_cons, hcompile, hrest]
        rfl
      · rw [issued, hcompile, List.flatten_cons, List.map_append, ← hissued]

/-- Nothing is wrong with any statement of operations that are compiled one by one. -/
theorem isSound_of_mem_flatten {statements : List (List Statement)}
    (h : ops.mapM (compile d) = .ok statements) {s : Statement} (hs : s ∈ statements.flatten) :
    s.IsSound := by
  obtain ⟨compiled, hcompiled, hmem⟩ := List.mem_flatten.mp hs
  obtain ⟨op, -, hop⟩ := exists_of_mem_mapM h hcompiled
  exact isSound_of_mem_compile hop hmem

end Operation

/-! ## Plans -/

namespace Body

variable {d : Dialect} {plan : Plan}

theorem preview_error_iff_verdict {e : MigrationError} :
    Body.preview d (.ok plan) = .error e ↔
      ∃ reason, Operation.verdict d plan.traversal = .error reason ∧
        e = .invalidOperation reason := by
  rw [preview_eq_verdict]
  cases Operation.verdict d plan.traversal <;> simp [Except.map, Except.mapError, eq_comm]

theorem preview_ok_iff_verdict {texts : List String} :
    Body.preview d (.ok plan) = .ok texts ↔
      Operation.verdict d plan.traversal = .ok () ∧
        texts = Operation.issued d plan.traversal := by
  rw [preview_eq_verdict]
  cases Operation.verdict d plan.traversal <;> simp [Except.map, Except.mapError, eq_comm]

end Body

/-- Which plans are rejected does not depend on the dialect.

* A preview ends with an error if and only if the traversal comes to an operation that is rejected,
  and the error is the reason against the first one.
* So there is an error if and only if some operation of the traversal cannot be written, and it is
  the same error in every dialect.
* If there is none, then no statement of an operation has a real literal that is not finite, and
  every table and every index is created with columns. -/
theorem Plan.preview_eq_error_iff (plan : Plan) :
    (∀ d e, Body.preview d (.ok plan) = .error e ↔
      ∃ before op after reason, plan.traversal = before ++ op :: after ∧
        (∀ earlier ∈ before, earlier.IsWritable) ∧ op.Rejected reason ∧
        e = .invalidOperation reason) ∧
    (∀ d, (∃ e, Body.preview d (.ok plan) = .error e) ↔ ∃ op ∈ plan.traversal, ¬op.IsWritable) ∧
    (∀ d d' e, Body.preview d (.ok plan) = .error e ↔ Body.preview d' (.ok plan) = .error e) ∧
    ∀ d texts, Body.preview d (.ok plan) = .ok texts →
      ∃ statements, plan.traversal.mapM (Operation.compile d) = .ok statements ∧
        texts = statements.flatten.map d.render ∧
        ∀ s ∈ statements.flatten, s.IsSound := by
  have herror : ∀ d e, Body.preview d (.ok plan) = .error e ↔
      ∃ before op after reason, plan.traversal = before ++ op :: after ∧
        (∀ earlier ∈ before, earlier.IsWritable) ∧ op.Rejected reason ∧
        e = .invalidOperation reason := by
    intro d e
    simp only [Body.preview_error_iff_verdict, Operation.verdict_eq_error_iff]
    constructor
    · rintro ⟨reason, ⟨before, op, after, htraversal, hbefore, hop⟩, he⟩
      exact ⟨before, op, after, reason, htraversal, hbefore, hop, he⟩
    · rintro ⟨before, op, after, reason, htraversal, hbefore, hop, he⟩
      exact ⟨reason, ⟨before, op, after, htraversal, hbefore, hop⟩, he⟩
  refine ⟨herror, fun d => ?_, fun d d' e => (herror d e).trans (herror d' e).symm,
    fun d texts htexts => ?_⟩
  · have hfails : (∃ e, Body.preview d (.ok plan) = .error e) ↔
        ¬Operation.verdict d plan.traversal = .ok () := by
      simp only [Body.preview_error_iff_verdict]
      cases Operation.verdict d plan.traversal <;> simp
    rw [hfails, Operation.verdict_eq_ok_iff]
    simp
  · obtain ⟨hverdict, rfl⟩ := Body.preview_ok_iff_verdict.mp htexts
    obtain ⟨statements, hstatements, hissued⟩ := Operation.exists_of_verdict_ok hverdict
    exact ⟨statements, hstatements, hissued,
      fun s hs => Operation.isSound_of_mem_flatten hstatements hs⟩

/-- A table with a default that is not a number. -/
def TableDefinition.ratioTable : TableDefinition :=
  ofItems "post" [.primaryKey none [],
    .column "ratio" "REAL" [.modify (.defaultsTo (.real ⟨0x7ff8000000000000⟩))]]

/-- A plan with three operations that cannot be written.  The traversal does not come to the index,
and comes to the column, in a block within a block, before the table without columns. -/
def Plan.unwritable : Plan :=
  [.operation (.dropTable "draft" true),
    .guarded "post" true
      [.operation (.createIndex { name := "i", table := "post", columns := [] })],
    .guarded "post" false [.guarded "user" false [.operation (.createTable .ratioTable)]],
    .operation (.createTable { name := "empty" })]

/-- A plan that creates a table with an index. -/
def Plan.writable : Plan :=
  [.guarded "post" false
    [.operation (.createTable (.ofItems "post" [.foreignKey "author" []]))]]

/-- The one is rejected for its column.  The other is not, and what it creates has columns. -/
theorem Plan.preview_eq_error_iff_nested :
    Body.preview (.sqlite {}) (.ok unwritable) =
        .error (.invalidOperation (.nonFiniteDefault "ratio" ⟨0x7ff8000000000000⟩)) ∧
      Body.preview (.sqlite {}) (.ok writable) =
        .ok ["CREATE TABLE \x60post\x60 (\x60author\x60 INTEGER)",
          "CREATE INDEX \x60index_post_author\x60 ON \x60post\x60 (\x60author\x60)"] ∧
      ∃ statements, writable.traversal.mapM (Operation.compile (.sqlite {})) = .ok statements ∧
        ∀ s ∈ statements.flatten, s.IsSound := by
  have hwritten : Body.preview (.sqlite {}) (.ok writable) =
      .ok ["CREATE TABLE \x60post\x60 (\x60author\x60 INTEGER)",
        "CREATE INDEX \x60index_post_author\x60 ON \x60post\x60 (\x60author\x60)"] := by
    rw [Body.preview_eq_verdict]
    decide
  have hcolumns : TableDefinition.ratioTable.columns = [.key "id" { primary := true }] ++
      .ordinary ⟨"ratio", "REAL", none, some (.real ⟨0x7ff8000000000000⟩), false⟩ :: [] := by
    decide
  refine ⟨(unwritable.preview_eq_error_iff.1 _ _).mpr ?_, hwritten, ?_⟩
  · exact ⟨[.dropTable "draft" true], _, [.createTable { name := "empty" }], _, rfl, by decide,
      .tableColumn hcolumns (by decide) rfl (by decide), rfl⟩
  · obtain ⟨statements, hstatements, -, hsound⟩ :=
      writable.preview_eq_error_iff.2.2.2 _ _ hwritten
    exact ⟨statements, hstatements, hsound⟩

end SchemaEvolution
