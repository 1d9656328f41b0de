import Mathlib.Data.List.Nodup
import SchemaEvolution.Proofs.Declarations
import SchemaEvolution.Proofs.Soundness

/-!
# Columns with an index of their own

The list of these columns comes from the changes that a table's items make to it: a foreign key and
the word `index` give an index, `withoutIndex` takes one away.  Which column a change means is a
matter of its name.

* `IndexChange.mem_listed_iff`: a column is in the list if the last change to it gave it an index.
* `IndexChange.EntersAt`: the place among the changes at which a column came to stay in the list.
  The list is in the order of these places (`IndexChange.pairwise_listed`).
* `TableDefinition.filter_compile`: compiling a table creates one index for each entry.
* `TableDefinition.indexes_ofItems`: all of this for a table that is declared by any items.
-/

namespace SchemaEvolution

namespace IndexChange

variable {changes : List IndexChange} {change : IndexChange} {column : String} {k : Nat}

/-! ## Which columns are in the list -/

/-- The list of indexes after some changes, from none on. -/
def listed (changes : List IndexChange) : List String :=
  changes.foldl apply []

theorem listed_concat (changes : List IndexChange) (change : IndexChange) :
    listed (changes ++ [change]) = apply (listed changes) change := by
  rw [listed, List.foldl_append]
  rfl

/-- A change decides about its own column and about no other. -/
theorem mem_apply {indexes : List String} : column ∈ apply indexes change ↔
    if change.column = column then change = .give column else column ∈ indexes := by
  cases change with
  | give c =>
    by_cases hc : c = column
    · subst hc
      by_cases hmem : c ∈ indexes <;> simp [apply, IndexChange.column, hmem]
    · have hne : column ≠ c := Ne.symm hc
      by_cases hmem : c ∈ indexes <;> simp [apply, IndexChange.column, hmem, hc, hne]
  | take c =>
    by_cases hc : c = column
    · simp [apply, IndexChange.column, hc]
    · simp [apply, IndexChange.column, hc, Ne.symm hc]

theorem nodup_apply {indexes : List String} (h : indexes.Nodup) (change : IndexChange) :
    (apply indexes change).Nodup := by
  cases change with
  | give c =>
    by_cases hmem : c ∈ indexes
    · simpa [apply, hmem] using h
    · have hnew : (indexes ++ [c]).Nodup := by
        rw [List.nodup_append]
        refine ⟨h, List.pairwise_singleton _ c, fun a ha b hb hab => ?_⟩
        rw [List.mem_singleton.mp hb] at hab
        exact hmem (hab ▸ ha)
      simpa [apply, hmem] using hnew
  | take c => exact h.filter _

theorem nodup_listed (changes : List IndexChange) : (listed changes).Nodup := by
  induction changes using List.reverseRecOn with
  | nil => exact List.nodup_nil
  | append_singleton changes change ih =>
    rw [listed_concat]
    exact nodup_apply ih change

/-- The last change to a column decides whether it is in the list. -/
theorem mem_listed_iff : column ∈ listed changes ↔
    (changes.filter (·.column == column)).getLast? = some (.give column) := by
  induction changes using List.reverseRecOn with
  | nil => simp [listed]
  | append_singleton changes change ih =>
    rw [listed_concat, mem_apply, List.filter_append]
    by_cases hcolumn : change.column = column
    · simp [hcolumn]
    · simp [hcolumn, ih]

/-! ## In which order they are in the list -/

/-- The places of the changes after a further one. -/
theorem getElem?_concat {c : IndexChange} {i : Nat} : (changes ++ [change])[i]? = some c ↔
    changes[i]? = some c ∨ i = changes.length ∧ change = c := by
  rw [List.getElem?_append]
  by_cases hi : i < changes.length
  · rw [if_pos hi]
    exact ⟨Or.inl, fun h => h.elim id fun h => absurd h.1 (Nat.ne_of_lt hi)⟩
  · have hend : i - changes.length = 0 ↔ i = changes.length := by omega
    simp [hi, List.getElem?_singleton, hend]

/-- At this place a column gets an index for good: it is not taken away later, and no index that was
given earlier was still there. -/
structure EntersAt (changes : List IndexChange) (column : String) (k : Nat) : Prop where
  given : changes[k]? = some (.give column)
  kept : ∀ i, k < i → changes[i]? ≠ some (.take column)
  lacked : ∀ j, j < k → changes[j]? = some (.give column) →
    ∃ i, j < i ∧ i < k ∧ changes[i]? = some (.take column)

namespace EntersAt

/-- There is one such place at most. -/
theorem unique {j : Nat} (hj : EntersAt changes column j) (hk : EntersAt changes column k) :
    j = k := by
  have hlt : ∀ {j k : Nat}, EntersAt changes column j → EntersAt changes column k → ¬j < k := by
    intro j k hj hk hjk
    obtain ⟨i, hji, -, htake⟩ := hk.lacked j hjk hj.given
    exact hj.kept i hji htake
  have hjk := hlt hj hk
  have hkj := hlt hk hj
  omega

theorem lt_length (h : EntersAt changes column k) : k < changes.length :=
  (List.getElem?_eq_some_iff.mp h.given).1

/-- A further change leaves the place as it is, unless it takes the index away. -/
theorem concat (h : EntersAt changes column k) (hne : change ≠ .take column) :
    EntersAt (changes ++ [change]) column k := by
  have hlength := h.lt_length
  refine ⟨getElem?_concat.mpr (Or.inl h.given), fun i hki htake => ?_, fun j hjk hgive => ?_⟩
  · rcases getElem?_concat.mp htake with htake | ⟨-, htake⟩
    · exact h.kept i hki htake
    · exact hne htake
  · rcases getElem?_concat.mp hgive with hgive | ⟨rfl, -⟩
    · obtain ⟨i, hji, hik, htake⟩ := h.lacked j hjk hgive
      exact ⟨i, hji, hik, getElem?_concat.mpr (Or.inl htake)⟩
    · omega

end EntersAt

/-- An index that was given to a column that has none was taken away again. -/
theorem exists_take_of_give (h : column ∉ listed changes) {j : Nat}
    (hgive : changes[j]? = some (.give column)) :
    ∃ i, j < i ∧ i < changes.length ∧ changes[i]? = some (.take column) := by
  induction changes using List.reverseRecOn with
  | nil => cases hgive
  | append_singleton changes change ih =>
    rw [listed_concat, mem_apply] at h
    rcases getElem?_concat.mp hgive with hgive | ⟨-, rfl⟩
    · have hj : j < changes.length := (List.getElem?_eq_some_iff.mp hgive).1
      rw [List.length_append, List.length_singleton]
      by_cases hcolumn : change.column = column
      · -- The change is about this column and gives no index, so it takes one away.
        rw [if_pos hcolumn] at h
        refine ⟨changes.length, hj, by omega, getElem?_concat.mpr (Or.inr ⟨rfl, ?_⟩)⟩
        cases change with
        | give c => exact absurd (congrArg give hcolumn) h
        | take c => exact congrArg take hcolumn
      · rw [if_neg hcolumn] at h
        obtain ⟨i, hji, hi, htake⟩ := ih h hgive
        exact ⟨i, hji, by omega, getElem?_concat.mpr (Or.inl htake)⟩
    · simp [IndexChange.column] at h

/-- A column that has no index enters the list at the change that gives it one. -/
theorem entersAt_length (h : column ∉ listed changes) :
    EntersAt (changes ++ [.give column]) column changes.length := by
  refine ⟨by simp, fun i hi htake => ?_, fun j hj hgive => ?_⟩
  · rcases getElem?_concat.mp htake with htake | ⟨-, htake⟩
    · have hlength := (List.getElem?_eq_some_iff.mp htake).1
      omega
    · cases htake
  · rcases getElem?_concat.mp hgive with hgive | ⟨rfl, -⟩
    · obtain ⟨i, hji, hi, htake⟩ := exists_take_of_give h hgive
      exact ⟨i, hji, hi, getElem?_concat.mpr (Or.inl htake)⟩
    · omega

/-- Each column of the list entered it at some place. -/
theorem exists_entersAt (h : column ∈ listed changes) : ∃ k, EntersAt changes column k := by
  induction changes using List.reverseRecOn with
  | nil => cases h
  | append_singleton changes change ih =>
    by_cases hmem : column ∈ listed changes
    · obtain ⟨k, hk⟩ := ih hmem
      refine ⟨k, hk.concat ?_⟩
      rintro rfl
      simp [listed_concat, apply] at h
    · refine ⟨changes.length, ?_⟩
      rw [listed_concat, mem_apply] at h
      split at h
      · rw [h]
        exact entersAt_length hmem
      · exact absurd h hmem

/-- The columns of the list stand in the order in which they entered it. -/
theorem pairwise_listed (changes : List IndexChange) :
    (listed changes).Pairwise fun a b =>
      ∀ j k, EntersAt changes a j → EntersAt changes b k → j < k := by
  induction changes using List.reverseRecOn with
  | nil => exact .nil
  | append_singleton changes change ih =>
    -- A column that stays in the list has the place that it had.
    have hplace : ∀ {c : String} {j : Nat}, c ∈ listed changes → change ≠ .take c →
        EntersAt (changes ++ [change]) c j → EntersAt changes c j := by
      intro c j hc hne hj
      obtain ⟨k, hk⟩ := exists_entersAt hc
      rwa [hj.unique (hk.concat hne)]
    have hkept : ((listed changes).filter fun c => decide (change ≠ .take c)).Pairwise fun a b =>
        ∀ j k, EntersAt (changes ++ [change]) a j → EntersAt (changes ++ [change]) b k → j < k := by
      refine (List.Pairwise.filter _ ih).imp_of_mem fun ha hb hab j k hj hk => ?_
      simp only [List.mem_filter, decide_eq_true_eq] at ha hb
      exact hab j k (hplace ha.1 ha.2 hj) (hplace hb.1 hb.2 hk)
    rw [listed_concat]
    cases change with
    | take c =>
      have hfilter : apply (listed changes) (take c) =
          (listed changes).filter fun c' => decide (take c ≠ take c') := by
        simp [apply, bne, beq_eq_decide, eq_comm]
      rw [hfilter]
      exact hkept
    | give c =>
      simp only [ne_eq, reduceCtorEq, not_false_eq_true, decide_true, List.filter_true] at hkept
      by_cases hc : c ∈ listed changes
      · simpa [apply, hc] using hkept
      · have hnew : (listed changes ++ [c]).Pairwise fun a b => ∀ j k,
            EntersAt (changes ++ [.give c]) a j → EntersAt (changes ++ [.give c]) b k → j < k := by
          refine List.pairwise_append.mpr
            ⟨hkept, List.pairwise_singleton _ c, fun a ha b hb j k hj hk => ?_⟩
          rw [List.mem_singleton.mp hb] at hk
          rw [hk.unique (entersAt_length hc)]
          exact (hplace ha (by simp) hj).lt_length
        simpa [apply, hc] using hnew

end IndexChange

/-! ## Tables -/

/-- An item says something about the indexes of its own columns only. -/
theorem TableItem.exists_column_of_mem_indexChanges {item : TableItem} {change : IndexChange}
    (h : change ∈ item.indexChanges) : ∃ c ∈ item.columns, c.name = change.column := by
  have hkey : ∀ (name : String) (modifiers : List KeyModifier),
      change ∈ modifiers.filterMap (KeyModifier.indexChange? name) → name = change.column := by
    intro name modifiers hmem
    obtain ⟨m, -, hm⟩ := List.mem_filterMap.mp hmem
    cases m <;> cases hm <;> rfl
  have hcolumn : ∀ (name : String) (refinements : List ColumnRefinement),
      change ∈ refinements.filterMap (ColumnRefinement.indexChange? name) →
        name = change.column := by
    intro name refinements hmem
    obtain ⟨r, -, hr⟩ := List.mem_filterMap.mp hmem
    cases r <;> cases hr
    rfl
  cases item with
  | dropIfExists | ifNotExists | timestamps => cases h
  | primaryKey name modifiers => exact ⟨_, List.mem_singleton_self _, hkey _ _ h⟩
  | foreignKey name modifiers =>
    rcases List.mem_cons.mp h with rfl | h
    · exact ⟨_, List.mem_singleton_self _, rfl⟩
    · exact ⟨_, List.mem_singleton_self _, hkey _ _ h⟩
  | column name sqlType refinements =>
    refine ⟨_, List.mem_singleton_self _, ?_⟩
    rw [TableColumn.name, Column.modifyAll_eq]
    exact hcolumn name refinements h
  | declared c refinements =>
    refine ⟨_, List.mem_singleton_self _, ?_⟩
    rw [TableColumn.name, Column.modifyAll_eq]
    exact hcolumn c.name refinements h

namespace TableDefinition

variable {t : TableDefinition}

/-- Compiling a table creates one index for each entry of its list, and no other. -/
theorem filter_compile {d : Dialect} {statements : List Statement}
    (h : t.compile d = .ok statements) :
    statements.filter Statement.createsIndex =
      t.indexes.map fun column => (t.indexOn column).createStatement := by
  obtain ⟨-, definitions, -, rfl⟩ := compile_eq_ok_iff.mp h
  have hdrop : (if t.dropIfExists then [dropStatement t.name true] else []).filter
      Statement.createsIndex = [] := by
    cases t.dropIfExists <;> rfl
  have htable : (t.createStatement definitions).createsIndex = false := rfl
  have hindexes : ∀ columns : List String,
      (columns.map fun column => (t.indexOn column).createStatement).filter
        Statement.createsIndex = columns.map fun column => (t.indexOn column).createStatement := by
    intro columns
    refine List.filter_eq_self.mpr fun s hs => ?_
    obtain ⟨column, -, rfl⟩ := List.mem_map.mp hs
    rfl
  rw [List.filter_append, hdrop, List.filter_cons, htable, hindexes]
  rfl

/-- The indexes of different columns of a table have different names. -/
theorem indexName_injective (t : TableDefinition) : Function.Injective t.indexName := by
  intro a b h
  exact (String.append_right_inj _).mp h

/-- The list of indexes of a table follows from the changes to it, and the indexes of the table from
the list. -/
structure IndexesFollow (t : TableDefinition) (changes : List IndexChange) : Prop where
  /-- No column is listed twice. -/
  nodup : t.indexes.Nodup
  /-- A listed column is a column of the table. -/
  declared : ∀ column ∈ t.indexes, ∃ c ∈ t.columns, c.name = column
  /-- The last change to a column decides whether it is listed. -/
  mem_iff : ∀ column, column ∈ t.indexes ↔
    (changes.filter (·.column == column)).getLast? = some (.give column)
  /-- A listed column got its index by the first change that gave it one since the last change that
  took it away. -/
  enters : ∀ column ∈ t.indexes, ∃! k, IndexChange.EntersAt changes column k
  /-- The columns are listed in the order in which they got their indexes. -/
  ordered : t.indexes.Pairwise fun a b =>
    ∀ j k, IndexChange.EntersAt changes a j → IndexChange.EntersAt changes b k → j < k
  /-- A table that can be written is compiled in every dialect. -/
  compiles : ∀ d, t.columns ≠ [] → (∀ column ∈ t.columns, column.HasFiniteDefault) →
    ∃ statements, t.compile d = .ok statements
  /-- Of its statements one creates an index for each listed column, and no other one does. -/
  creates : ∀ d statements, t.compile d = .ok statements →
    statements.filter Statement.createsIndex =
      t.indexes.map fun column => (t.indexOn column).createStatement
  /-- These indexes have different names. -/
  named : (t.indexes.map t.indexName).Nodup

/-- Whatever items declare a table, with whatever names and modifiers, its list of indexes follows
from the changes that they make to it, in order. -/
theorem indexes_ofItems (name : String) (items : List TableItem) :
    (ofItems name items).IndexesFollow (items.flatMap TableItem.indexChanges) := by
  have htable := foldl_declare { name := name } items
  have hindexes : (ofItems name items).indexes =
      IndexChange.listed (items.flatMap TableItem.indexChanges) :=
    congrArg TableDefinition.indexes htable
  have hcolumns : (ofItems name items).columns = items.flatMap TableItem.columns :=
    congrArg TableDefinition.columns htable
  have hnodup := IndexChange.nodup_listed (items.flatMap TableItem.indexChanges)
  rw [← hindexes] at hnodup
  refine ⟨hnodup, fun column hmem => ?_, fun column => ?_, fun column hmem => ?_, ?_,
    fun d hne hdefaults => ?_, fun d statements h => filter_compile h,
    hnodup.map (indexName_injective _)⟩
  · rw [hindexes, IndexChange.mem_listed_iff] at hmem
    have hgive := (List.mem_filter.mp (List.mem_of_getLast? hmem)).1
    obtain ⟨item, hitem, hchange⟩ := List.mem_flatMap.mp hgive
    obtain ⟨c, hc, hname⟩ := TableItem.exists_column_of_mem_indexChanges hchange
    exact ⟨c, hcolumns ▸ List.mem_flatMap.mpr ⟨item, hitem, hc⟩, hname⟩
  · rw [hindexes]
    exact IndexChange.mem_listed_iff
  · rw [hindexes] at hmem
    obtain ⟨k, hk⟩ := IndexChange.exists_entersAt hmem
    exact ⟨k, hk, fun j hj => hj.unique hk⟩
  · rw [hindexes]
    exact IndexChange.pairwise_listed _
  · have hwritable : (Operation.createTable (ofItems name items)).IsWritable := ⟨hne, hdefaults⟩
    exact Operation.exists_compile_iff.mpr hwritable

/-- A column whose index is taken away and given again gets behind the others, even if it is another
column of the same name. -/
example : (ofItems "post" [.foreignKey "author" [], .column "slug" "TEXT" [.index, .index],
    .primaryKey (some "author") [.withoutIndex, .index]]).indexes = ["slug", "author"] := by
  decide

end TableDefinition

end SchemaEvolution
