import Mathlib.Tactic.Tauto
import SchemaEvolution.Proofs.Defaults

/-!
# Equality of plans

Plans are equal if they say the same things and their defaults are equal as values.  Real numbers
are equal as numbers: a zero equals the other zero, and a NaN equals nothing.

* `ComparesBy`: a comparison that is one of normal forms, for regular items only.  Such a comparison
  is symmetric and transitive, and a regular item equals itself.  A list is compared in this way if
  its items are (`ComparesBy.list`).
* `Value.comparesBy`, `Column.comparesBy`, ...: each part of a plan is regular if it has no NaN, and
  in its normal form the zeros have no sign.
* `Plan.equal_iff`: so is a whole plan.
* `Plan.statements_of_equal`: equal plans have the same statements, the signs of zeros apart.
* `Plan.equal_iff_same_but_zeros` puts all of this together.
-/

namespace SchemaEvolution

/-! ## Comparing normal forms -/

/-- Two items are equal if both are regular and they have the same normal form. -/
def ComparesBy {α : Type} (equal : α → α → Bool) (regular : α → Prop) (normal : α → α) : Prop :=
  ∀ a b, equal a b = true ↔ regular a ∧ regular b ∧ normal a = normal b

namespace ComparesBy

variable {α : Type} {equal : α → α → Bool} {regular : α → Prop} {normal : α → α}

theorem refl_iff (h : ComparesBy equal regular normal) (a : α) :
    equal a a = true ↔ regular a := by
  rw [h]
  exact ⟨fun ha => ha.1, fun ha => ⟨ha, ha, rfl⟩⟩

theorem symm (h : ComparesBy equal regular normal) (a b : α) : equal a b = equal b a := by
  rw [Bool.eq_iff_iff, h, h]
  constructor
  · rintro ⟨ha, hb, hab⟩
    exact ⟨hb, ha, hab.symm⟩
  · rintro ⟨hb, ha, hba⟩
    exact ⟨ha, hb, hba.symm⟩

theorem trans (h : ComparesBy equal regular normal) {a b c : α} (hab : equal a b = true)
    (hbc : equal b c = true) : equal a c = true := by
  obtain ⟨ha, -, hab⟩ := (h a b).mp hab
  obtain ⟨-, hc, hbc⟩ := (h b c).mp hbc
  exact (h a c).mpr ⟨ha, hc, hab.trans hbc⟩

/-- Lists are compared item by item. -/
theorem list (h : ComparesBy equal regular normal) :
    ComparesBy (fun xs ys => xs.isEqv ys equal) (fun xs => ∀ x ∈ xs, regular x)
      (List.map normal) := by
  intro xs ys
  induction xs generalizing ys with
  | nil => cases ys <;> simp
  | cons x xs ih =>
    cases ys with
    | nil => simp
    | cons y ys =>
      simp only [List.isEqv_cons_cons, Bool.and_eq_true, ih, h x y, List.forall_mem_cons,
        List.map_cons, List.cons.injEq]
      tauto

end ComparesBy

/-! ## Values -/

namespace Binary64

/-- The number, or the positive zero instead of the negative one. -/
def withPlainZero (x : Binary64) : Binary64 :=
  if x = zero true then zero false else x

theorem isZero_iff {x : Binary64} : x.isZero = true ↔ x = zero true ∨ x = zero false := by
  have hbits := x.bits.toNat_lt
  have hfraction : twoTo 52 = 4503599627370496 := rfl
  have hexponent : twoTo 11 = 2048 := rfl
  have hcases : x.isZero = true ↔ x.bits.toNat = 9223372036854775808 ∨ x.bits.toNat = 0 := by
    simp only [isZero, biasedExponent, fraction, hfraction, hexponent, Bool.and_eq_true,
      beq_iff_eq]
    omega
  have heq (n : UInt64) : x = ⟨n⟩ ↔ x.bits.toNat = n.toNat :=
    ⟨fun h => congrArg UInt64.toNat (congrArg bits h),
      fun h => congrArg mk (UInt64.toNat_inj.mp h)⟩
  rw [hcases, zero, zero, heq, heq]
  rfl

theorem comparesBy : ComparesBy equal (fun x => x.isNaN = false) withPlainZero := by
  intro x y
  have hsame : x = y ∨ x.isZero = true ∧ y.isZero = true ↔
      x.withPlainZero = y.withPlainZero := by
    have hne : zero true ≠ zero false := by decide
    rw [isZero_iff, isZero_iff, withPlainZero, withPlainZero]
    split_ifs <;> grind
  simp only [equal, Bool.and_eq_true, Bool.or_eq_true, Bool.not_eq_true', beq_iff_eq, hsame,
    and_assoc]

end Binary64

namespace Value

/-- The value is a NaN. -/
def isNaN : Value → Bool
  | real x => x.isNaN
  | _ => false

/-- The value, or the positive zero instead of the negative one. -/
def withPlainZero : Value → Value
  | real x => real x.withPlainZero
  | v => v

theorem comparesBy : ComparesBy equal (fun v => v.isNaN = false) withPlainZero := by
  intro v w
  cases v with
  | real x =>
    cases w with
    | real y => simpa [equal, isNaN, withPlainZero] using Binary64.comparesBy x y
    | _ => simp [equal, isNaN, withPlainZero]
  | _ => cases w <;> simp [equal, isNaN, withPlainZero]

/-- Zeros are finite, whatever their sign. -/
theorem nonFinite?_withPlainZero (v : Value) : v.withPlainZero.nonFinite? = v.nonFinite? := by
  have hzero : ∀ negative, (Binary64.zero negative).isFinite = true := by decide
  cases v with
  | real x =>
    by_cases hx : x = Binary64.zero true
    · simp [withPlainZero, Binary64.withPlainZero, nonFinite?, hx, hzero]
    · simp [withPlainZero, Binary64.withPlainZero, hx]
  | _ => rfl

end Value

/-! ## Columns, tables and operations -/

theorem Column.comparesBy : ComparesBy equal (fun c => ∀ v ∈ c.defaults, v.isNaN = false)
    (mapDefaults Value.withPlainZero) := by
  rintro ⟨name, sqlType, nullable, default, unique⟩ ⟨name', sqlType', nullable', default', unique'⟩
  -- Of what is said about a column only the default is not compared by identity.
  simp only [equal, defaults, mapDefaults, Bool.and_eq_true, beq_iff_eq, mk.injEq]
  cases default with
  | none => cases default' <;> simp [and_assoc]
  | some v =>
    cases default' with
    | none => simp
    | some w =>
      have hdefault := Value.comparesBy v w
      simp only [hdefault, Option.toList_some, List.mem_singleton, forall_eq, Option.map_some,
        Option.some.injEq]
      tauto

theorem TableColumn.comparesBy : ComparesBy equal (fun c => ∀ v ∈ c.defaults, v.isNaN = false)
    (mapDefaults Value.withPlainZero) := by
  intro c c'
  cases c <;> cases c' <;> simp [equal, defaults, mapDefaults, Column.comparesBy _ _]

theorem ColumnChange.comparesBy : ComparesBy equal (fun c => ∀ v ∈ c.defaults, v.isNaN = false)
    (mapDefaults Value.withPlainZero) := by
  intro c c'
  cases c <;> cases c' <;> simp [equal, defaults, mapDefaults, Column.comparesBy _ _]

theorem TableDefinition.comparesBy :
    ComparesBy equal (fun t => ∀ v ∈ t.defaults, v.isNaN = false)
      (mapDefaults Value.withPlainZero) := by
  rintro ⟨name, columns, indexes, drops, spares⟩ ⟨name', columns', indexes', drops', spares'⟩
  have hcolumns := TableColumn.comparesBy.list columns columns'
  simp only [equal, defaults, mapDefaults, Bool.and_eq_true, beq_iff_eq, hcolumns,
    List.forall_mem_flatMap, mk.injEq]
  tauto

theorem Operation.comparesBy : ComparesBy equal (fun op => ∀ v ∈ op.defaults, v.isNaN = false)
    (mapDefaults Value.withPlainZero) := by
  intro op op'
  cases op with
  | createTable t =>
    cases op' with
    | createTable t' => simp [equal, defaults, mapDefaults, TableDefinition.comparesBy t t']
    | _ => simp [equal, defaults, mapDefaults]
  | alterTable table changes =>
    cases op' with
    | alterTable table' changes' =>
      have hchanges := ColumnChange.comparesBy.list changes changes'
      simp only [equal, defaults, mapDefaults, Bool.and_eq_true, beq_iff_eq, hchanges,
        List.forall_mem_flatMap, alterTable.injEq]
      tauto
    | _ => simp [equal, defaults, mapDefaults]
  | dropTable | renameTable | createIndex | dropIndex =>
    cases op' <;> simp [equal, defaults, mapDefaults]

/-! ## Plans -/

mutual

theorem Step.equal_iff : ∀ a b : Step, a.equal b = true ↔
    (∀ v ∈ a.defaults, v.isNaN = false) ∧ (∀ v ∈ b.defaults, v.isNaN = false) ∧
      a.mapDefaults Value.withPlainZero = b.mapDefaults Value.withPlainZero
  | .operation op, .operation op' => by
    simp [Step.equal, Step.defaults, Step.mapDefaults, Operation.comparesBy op op']
  | .guarded table expectsTable block, .guarded table' expectsTable' block' => by
    simp only [Step.equal, Step.defaults, Step.mapDefaults, Bool.and_eq_true, beq_iff_eq,
      Plan.equal_iff block block', Step.guarded.injEq]
    tauto
  | .operation _, .guarded .. => by simp [Step.equal, Step.mapDefaults]
  | .guarded .., .operation _ => by simp [Step.equal, Step.mapDefaults]

/-- Plans are equal if none of their defaults is a NaN and they are the same but for the signs of
zeros. -/
theorem Plan.equal_iff : ∀ a b : Plan, Plan.equal a b = true ↔
    (∀ v ∈ a.defaults, v.isNaN = false) ∧ (∀ v ∈ b.defaults, v.isNaN = false) ∧
      a.mapDefaults Value.withPlainZero = b.mapDefaults Value.withPlainZero
  | [], [] => by simp [Plan.equal, Plan.defaults]
  | step :: steps, step' :: steps' => by
    simp only [Plan.equal, Plan.defaults, Plan.mapDefaults, Bool.and_eq_true,
      Step.equal_iff step step', Plan.equal_iff steps steps', List.forall_mem_append,
      List.cons.injEq]
    tauto
  | [], _ :: _ => by simp [Plan.equal, Plan.mapDefaults]
  | _ :: _, [] => by simp [Plan.equal, Plan.mapDefaults]

end

namespace Plan

theorem comparesBy : ComparesBy Plan.equal (fun plan => ∀ v ∈ plan.defaults, v.isNaN = false)
    (mapDefaults Value.withPlainZero) :=
  Plan.equal_iff

/-- Equal plans have the same statements but for the signs of zeros, or are rejected for the same
reason. -/
theorem statements_of_equal {a b : Plan} (h : Plan.equal a b = true) (d : Dialect) :
    (a.statements d).map (List.map (Statement.mapLiterals Value.withPlainZero)) =
      (b.statements d).map (List.map (Statement.mapLiterals Value.withPlainZero)) := by
  have hstatements := statements_mapDefaults Value.nonFinite?_withPlainZero d
  rw [← hstatements a, ← hstatements b, ((equal_iff a b).mp h).2.2]

/-- Equal plans are rejected for the same reason, in every dialect. -/
theorem preview_error_of_equal {a b : Plan} (h : Plan.equal a b = true) {d : Dialect}
    {e : MigrationError} (he : Body.preview d (.ok a) = .error e) :
    Body.preview d (.ok b) = .error e := by
  have hpreview (plan : Plan) : Body.preview d (.ok plan) =
      ((plan.statements d).map (List.map d.render)).mapError .invalidOperation :=
    congrArg (Except.mapError MigrationError.invalidOperation) (plan.preview_eq_statements d)
  have hstatements := statements_of_equal h d
  rw [hpreview] at he ⊢
  cases ha : a.statements d with
  | ok statements =>
    rw [ha] at he
    cases he
  | error reason =>
    cases hb : b.statements d with
    | ok statements =>
      rw [ha, hb] at hstatements
      cases hstatements
    | error reason' =>
      rw [ha, hb] at hstatements
      cases hstatements
      rw [ha] at he
      exact he

/-- Equality of plans is identity, but for two things that are peculiar to numbers.

* Two plans are equal if and only if neither has a default that is a NaN, in blocks at any depth,
  and they are the same plan once each negative zero among their defaults is replaced by the
  positive one.
* So equality is symmetric and transitive, and the plans that equal themselves are those without a
  NaN.
* With zeros replaced, equal plans have the same preview in every dialect, the same texts or the
  same error.  As for errors, there is no need to replace anything. -/
theorem equal_iff_same_but_zeros :
    (∀ a b : Plan, Plan.equal a b = true ↔
      (∀ v ∈ a.defaults, v.isNaN = false) ∧ (∀ v ∈ b.defaults, v.isNaN = false) ∧
        a.mapDefaults Value.withPlainZero = b.mapDefaults Value.withPlainZero) ∧
    (∀ a b : Plan, Plan.equal a b = Plan.equal b a) ∧
    (∀ a b c : Plan, Plan.equal a b = true → Plan.equal b c = true → Plan.equal a c = true) ∧
    (∀ a : Plan, Plan.equal a a = true ↔ ∀ v ∈ a.defaults, v.isNaN = false) ∧
    ∀ a b : Plan, Plan.equal a b = true → ∀ d,
      Body.preview d (.ok (a.mapDefaults Value.withPlainZero)) =
        Body.preview d (.ok (b.mapDefaults Value.withPlainZero)) ∧
      ∀ e, Body.preview d (.ok a) = .error e ↔ Body.preview d (.ok b) = .error e := by
  refine ⟨equal_iff, comparesBy.symm, fun a b c => comparesBy.trans, comparesBy.refl_iff,
    fun a b h d => ⟨?_, fun e => ⟨preview_error_of_equal h, preview_error_of_equal ?_⟩⟩⟩
  · rw [((equal_iff a b).mp h).2.2]
  · rw [comparesBy.symm, h]

/-- A plan with a default in a block within a block, and one for a column that is added. -/
def withRatio (ratio : Binary64) : Plan :=
  [.guarded "post" true [.guarded "user" false
      [.operation (.createTable (.ofItems "post"
        [.column "ratio" "REAL" [.modify (.defaultsTo (.real ratio))]]))]],
    .operation (.alterTable "post"
      [.add { name := "ratio", sqlType := "REAL", defaultValue := some (.real ratio) }])]

/-- The plans with the two zeros are equal, although one writes `-0` and the other `0`; with zeros
replaced they write the same.  The plan with a NaN does not equal itself. -/
theorem equal_iff_same_but_zeros_ratio :
    Plan.equal (withRatio (.zero true)) (withRatio (.zero false)) = true ∧
      Body.preview (.sqlite {}) (.ok (withRatio (.zero true))) ≠
        Body.preview (.sqlite {}) (.ok (withRatio (.zero false))) ∧
      Body.preview (.sqlite {}) (.ok ((withRatio (.zero true)).mapDefaults Value.withPlainZero)) =
        Body.preview (.sqlite {})
          (.ok ((withRatio (.zero false)).mapDefaults Value.withPlainZero)) ∧
      ¬Plan.equal (withRatio ⟨0x7ff8000000000000⟩) (withRatio ⟨0x7ff8000000000000⟩) = true := by
  have hequal : Plan.equal (withRatio (.zero true)) (withRatio (.zero false)) = true := by decide
  have hdiffer : Body.preview (.sqlite {}) (.ok (withRatio (.zero true))) ≠
      Body.preview (.sqlite {}) (.ok (withRatio (.zero false))) := by
    rw [Body.preview_eq_verdict, Body.preview_eq_verdict]
    decide
  refine ⟨hequal, hdiffer, (equal_iff_same_but_zeros.2.2.2.2 _ _ hequal _).1, fun h => ?_⟩
  have hnumbers := equal_iff_same_but_zeros.2.2.2.1 _ |>.mp h
  exact absurd (hnumbers (.real ⟨0x7ff8000000000000⟩) (by decide)) (by decide)

end Plan

end SchemaEvolution
