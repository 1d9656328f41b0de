import Mathlib.Data.List.Induction
import SchemaEvolution.Change.Table

/-!
# Declaring a table

A table is declared item by item, and a column is refined through a cursor on its position.  The
cursor stays on the column that was added last, so what is said through it is said about this column
and nothing else.

* `TableDefinition.update_push`, `TableDefinition.withName_push`: what a refinement does to a table
  to which a column has just been added.
* `TableItem.columns` and `TableItem.indexChanges`: what an item adds to the columns, and what it
  does to the list of indexes.
* `Column.modifyAll_eq`, `KeyOptions.modifyAll_eq`: in a chain of modifiers the last word counts.
* `TableDefinition.foldl_declare`: the table after any items, field by field.
* `TableDefinition.declared_either_way`: modifiers may be given to a column before or after it is
  added to a table, and the guards may be declared anywhere.
-/

namespace SchemaEvolution

/-! ## Words on a column or a key -/

/-- What a modifier says about empty values. -/
def ColumnModifier.nullability? : ColumnModifier → Option Bool
  | notNull => some false
  | nullable => some true
  | _ => none

/-- The default that a modifier gives. -/
def ColumnModifier.defaultValue? : ColumnModifier → Option Value
  | defaultsTo value => some value
  | _ => none

/-- What a modifier says about empty values of a key. -/
def KeyModifier.nullability? : KeyModifier → Option Bool
  | notNull => some false
  | nullable => some true
  | _ => none

/-- What is said about the column itself. -/
def ColumnRefinement.modifier? : ColumnRefinement → Option ColumnModifier
  | modify modifier => some modifier
  | index => none

namespace Column

variable (c : Column)

theorem modifyAll_append (before after : List ColumnModifier) :
    c.modifyAll (before ++ after) = (c.modifyAll before).modifyAll after :=
  List.foldl_append

/-- A column is called as it was declared, and of what else is said about it the last word
counts. -/
theorem modifyAll_eq (modifiers : List ColumnModifier) :
    c.modifyAll modifiers =
      { c with
        nullable := (modifiers.filterMap ColumnModifier.nullability?).getLast?.or c.nullable
        defaultValue :=
          (modifiers.filterMap ColumnModifier.defaultValue?).getLast?.or c.defaultValue
        unique := c.unique || modifiers.contains .unique } := by
  induction modifiers using List.reverseRecOn with
  | nil => simp [modifyAll]
  | append_singleton modifiers m ih =>
    have hlast : c.modifyAll (modifiers ++ [m]) = (c.modifyAll modifiers).modify m :=
      c.modifyAll_append modifiers [m]
    rw [hlast, ih]
    cases m <;> simp [modify, ColumnModifier.nullability?, ColumnModifier.defaultValue?]

end Column

namespace KeyOptions

/-- The options of a key after one more thing is said about it. -/
def modify (o : KeyOptions) (m : KeyModifier) : KeyOptions :=
  { o with nullable := m.nullability?.or o.nullable }

/-- A key is as primary as it was declared, and of what is said about empty values the last word
counts. -/
theorem modifyAll_eq (o : KeyOptions) (modifiers : List KeyModifier) :
    modifiers.foldl modify o =
      { o with
        nullable := (modifiers.filterMap KeyModifier.nullability?).getLast?.or o.nullable } := by
  induction modifiers using List.reverseRecOn with
  | nil => simp
  | append_singleton modifiers m ih =>
    rw [List.foldl_append, ih]
    cases m <;> simp [modify, KeyModifier.nullability?]

end KeyOptions

/-! ## Changes to the list of indexes -/

/-- An index is given to a column, or taken away from it. -/
inductive IndexChange where
  | give (column : String)
  | take (column : String)
deriving DecidableEq

namespace IndexChange

/-- The column that gets an index or loses it. -/
def column : IndexChange → String
  | give column | take column => column

/-- The list of indexes after a change. -/
def apply (indexes : List String) : IndexChange → List String
  | give column => if indexes.contains column then indexes else indexes ++ [column]
  | take column => indexes.filter (· != column)

end IndexChange

/-- What is said about the index of a key of this name. -/
def KeyModifier.indexChange? (name : String) : KeyModifier → Option IndexChange
  | index => some (.give name)
  | withoutIndex => some (.take name)
  | _ => none

/-- What is said about the index of a column of this name. -/
def ColumnRefinement.indexChange? (name : String) : ColumnRefinement → Option IndexChange
  | modify _ => none
  | index => some (.give name)

namespace TableDefinition

variable (t : TableDefinition)

/-- The table after changes to its list of indexes. -/
def changeIndexes (changes : List IndexChange) : TableDefinition :=
  { t with indexes := changes.foldl IndexChange.apply t.indexes }

theorem addIndex_eq (column : String) : t.addIndex column = t.changeIndexes [.give column] := by
  unfold addIndex changeIndexes
  simp only [List.foldl_cons, List.foldl_nil, IndexChange.apply]
  split <;> rfl

theorem removeIndex_eq (column : String) : t.removeIndex column = t.changeIndexes [.take column] :=
  rfl

theorem changeIndexes_append (before after : List IndexChange) :
    t.changeIndexes (before ++ after) = (t.changeIndexes before).changeIndexes after := by
  simp only [changeIndexes, List.foldl_append]

/-! ## The cursor -/

/-- A change at the cursor reaches the column that was added last, whatever its name. -/
theorem update_push (c : TableColumn) (change : TableColumn → TableColumn) :
    (t.push c).update change = t.push (change c) := by
  have hlast : ∀ columns : List TableColumn,
      (columns ++ [c]).modify columns.length change = columns ++ [change c] := by
    intro columns
    induction columns with
    | nil => rfl
    | cons column columns ih => exact congrArg (column :: ·) ih
  simp only [TableCursor.update, push, hlast]

/-- What is done by the name of the column at the cursor is done by that of the column that was
added last. -/
theorem withName_push (c : TableColumn) (change : TableDefinition → String → TableDefinition) :
    (t.push c).withName change = { t.push c with table := change (t.push c).table c.name } := by
  have hlast : (t.columns ++ [c])[t.columns.length]? = some c := by simp
  simp only [TableCursor.withName, push, hlast]

/-- A word on a key that was added last changes its options, or the list of indexes. -/
theorem modifyKey_push (name : String) (o : KeyOptions) (m : KeyModifier) :
    (t.push (.key name o)).modifyKey m =
      (t.changeIndexes (m.indexChange? name).toList).push (.key name (o.modify m)) := by
  cases m with
  | notNull | nullable =>
    rw [TableCursor.modifyKey, TableCursor.setKeyNullable, update_push]
    rfl
  | index =>
    rw [TableCursor.modifyKey, withName_push, addIndex_eq]
    rfl
  | withoutIndex =>
    rw [TableCursor.modifyKey, withName_push, removeIndex_eq]
    rfl

/-- A word on an ordinary column that was added last changes the column, or the list of indexes. -/
theorem refine_push (c : Column) (r : ColumnRefinement) :
    (t.push (.ordinary c)).refine r =
      (t.changeIndexes (r.indexChange? c.name).toList).push
        (.ordinary (c.modifyAll r.modifier?.toList)) := by
  cases r with
  | modify modifier =>
    rw [TableCursor.refine, update_push]
    rfl
  | index =>
    rw [TableCursor.refine, withName_push, addIndex_eq]
    rfl

/-- A chain of words on a key that was added last. -/
theorem foldl_modifyKey_push (name : String) (o : KeyOptions) (modifiers : List KeyModifier) :
    modifiers.foldl TableCursor.modifyKey (t.push (.key name o)) =
      (t.changeIndexes (modifiers.filterMap (KeyModifier.indexChange? name))).push
        (.key name (modifiers.foldl KeyOptions.modify o)) := by
  induction modifiers generalizing t o with
  | nil => rfl
  | cons m modifiers ih =>
    rw [List.foldl_cons, modifyKey_push, ih, ← changeIndexes_append, List.foldl_cons,
      List.filterMap_cons]
    cases m.indexChange? name <;> rfl

/-- A chain of words on an ordinary column that was added last. -/
theorem foldl_refine_push (c : Column) (refinements : List ColumnRefinement) :
    refinements.foldl TableCursor.refine (t.push (.ordinary c)) =
      (t.changeIndexes (refinements.filterMap (ColumnRefinement.indexChange? c.name))).push
        (.ordinary (c.modifyAll (refinements.filterMap ColumnRefinement.modifier?))) := by
  induction refinements generalizing t c with
  | nil => rfl
  | cons r refinements ih =>
    -- No word changes the name by which the next one is understood.
    have hname : (c.modifyAll r.modifier?.toList).name = c.name := by
      rw [Column.modifyAll_eq]
    rw [List.foldl_cons, refine_push, ih, ← changeIndexes_append, ← Column.modifyAll_append, hname,
      List.filterMap_cons, List.filterMap_cons]
    cases r <;> rfl

end TableDefinition

/-! ## Items -/

namespace TableItem

/-- The item is a guard of the table, and declares no column. -/
def isGuard : TableItem → Bool
  | dropIfExists | ifNotExists => true
  | _ => false

/-- The columns that an item adds. -/
def columns : TableItem → List TableColumn
  | dropIfExists | ifNotExists => []
  | timestamps =>
    [.ordinary { name := "created_at", sqlType := "TIMESTAMP" },
      .ordinary { name := "updated_at", sqlType := "TIMESTAMP" }]
  | primaryKey name modifiers =>
    [.key (name.getD "id") (modifiers.foldl KeyOptions.modify { primary := true })]
  | foreignKey name modifiers =>
    [.key name (modifiers.foldl KeyOptions.modify { primary := false })]
  | column name sqlType refinements =>
    [.ordinary (Column.modifyAll { name := name, sqlType := sqlType }
      (refinements.filterMap ColumnRefinement.modifier?))]
  | declared c refinements =>
    [.ordinary (c.modifyAll (refinements.filterMap ColumnRefinement.modifier?))]

/-- What an item does to the list of indexes, in order: a foreign key gets an index at once. -/
def indexChanges : TableItem → List IndexChange
  | dropIfExists | ifNotExists | timestamps => []
  | primaryKey name modifiers => modifiers.filterMap (KeyModifier.indexChange? (name.getD "id"))
  | foreignKey name modifiers =>
    .give name :: modifiers.filterMap (KeyModifier.indexChange? name)
  | column name _ refinements => refinements.filterMap (ColumnRefinement.indexChange? name)
  | declared c refinements => refinements.filterMap (ColumnRefinement.indexChange? c.name)

/-- A guard declares nothing else. -/
theorem eq_nil_of_isGuard {item : TableItem} (h : item.isGuard = true) :
    item.columns = [] ∧ item.indexChanges = [] := by
  cases item with
  | dropIfExists | ifNotExists => exact ⟨rfl, rfl⟩
  | timestamps | primaryKey | foreignKey | column | declared => cases h

/-- What guards do not add to is added to by the other items alone. -/
theorem flatMap_unguarded {α : Type} {f : TableItem → List α}
    (hf : ∀ item : TableItem, item.isGuard = true → f item = []) (items : List TableItem) :
    items.flatMap f = (items.filter (!·.isGuard)).flatMap f := by
  induction items with
  | nil => rfl
  | cons item items ih =>
    cases hguard : item.isGuard with
    | true => simp [hguard, hf item hguard, ih]
    | false => simp [hguard, ih]

end TableItem

namespace TableDefinition

/-- The table after one more item, field by field. -/
theorem declare_eq (t : TableDefinition) (item : TableItem) :
    t.declare item =
      { name := t.name
        columns := t.columns ++ item.columns
        indexes := item.indexChanges.foldl IndexChange.apply t.indexes
        dropIfExists := t.dropIfExists || decide (item = .dropIfExists)
        ifNotExists := t.ifNotExists || decide (item = .ifNotExists) } := by
  cases item with
  | dropIfExists | ifNotExists => simp [declare, TableItem.columns, TableItem.indexChanges]
  | timestamps =>
    simp [declare, addColumn, push, TableItem.columns, TableItem.indexChanges]
  | primaryKey name modifiers =>
    rw [declare, TableCursor.modifyKeyAll, addPrimaryKey, foldl_modifyKey_push]
    simp [push, changeIndexes, TableItem.columns, TableItem.indexChanges]
  | foreignKey name modifiers =>
    rw [declare, TableCursor.modifyKeyAll, addForeignKey, foldl_modifyKey_push, addIndex_eq,
      ← changeIndexes_append]
    simp [push, changeIndexes, TableItem.columns, TableItem.indexChanges]
  | column name sqlType refinements =>
    rw [declare, TableCursor.refineAll, addColumn, foldl_refine_push]
    simp [push, changeIndexes, TableItem.columns, TableItem.indexChanges]
  | declared c refinements =>
    rw [declare, TableCursor.refineAll, addColumn, foldl_refine_push]
    simp [push, changeIndexes, TableItem.columns, TableItem.indexChanges]

/-- The table after any items, field by field. -/
theorem foldl_declare (t : TableDefinition) (items : List TableItem) :
    items.foldl declare t =
      { name := t.name
        columns := t.columns ++ items.flatMap TableItem.columns
        indexes := (items.flatMap TableItem.indexChanges).foldl IndexChange.apply t.indexes
        dropIfExists := t.dropIfExists || items.contains .dropIfExists
        ifNotExists := t.ifNotExists || items.contains .ifNotExists } := by
  induction items generalizing t with
  | nil => simp
  | cons item items ih =>
    rw [List.foldl_cons, ih, declare_eq]
    simp [Bool.or_assoc, List.foldl_append, eq_comm]

/-- Items that declare the same columns in the same order, under the same guards, declare the same
table. -/
theorem foldl_declare_congr (t : TableDefinition) {items items' : List TableItem}
    (hcolumns : items.filter (!·.isGuard) = items'.filter (!·.isGuard))
    (hdrop : .dropIfExists ∈ items ↔ .dropIfExists ∈ items')
    (hcreate : .ifNotExists ∈ items ↔ .ifNotExists ∈ items') :
    items.foldl declare t = items'.foldl declare t := by
  have hadds : ∀ items : List TableItem, items.flatMap TableItem.columns =
      (items.filter (!·.isGuard)).flatMap TableItem.columns :=
    TableItem.flatMap_unguarded fun _ h => (TableItem.eq_nil_of_isGuard h).1
  have hchanges : ∀ items : List TableItem, items.flatMap TableItem.indexChanges =
      (items.filter (!·.isGuard)).flatMap TableItem.indexChanges :=
    TableItem.flatMap_unguarded fun _ h => (TableItem.eq_nil_of_isGuard h).2
  have hguards : items.contains .dropIfExists = items'.contains .dropIfExists ∧
      items.contains .ifNotExists = items'.contains .ifNotExists := by
    simp [hdrop, hcreate]
  rw [foldl_declare, foldl_declare, hguards.1, hguards.2, hadds items, hadds items',
    hchanges items, hchanges items', hcolumns]

/-- A chain of words on empty values says nothing about indexes. -/
theorem indexChanges_of_nullability {chain : List KeyModifier}
    (hchain : ∀ m ∈ chain, m = .notNull ∨ m = .nullable) (name : String) :
    chain.filterMap (KeyModifier.indexChange? name) = [] := by
  refine List.filterMap_eq_nil_iff.mpr fun m hm => ?_
  rcases hchain m hm with rfl | rfl
  · rfl
  · rfl

/-- A column is declared in the table or apart from it, with the same outcome.

* Whatever is said about an ordinary column may be said before it is added to the table, after it,
  or partly before and partly after.  The table gets this one column at its end, about which the
  last words count, and is otherwise as it was.
* A chain of words on a key decides by its last one whether the key may be empty, and nothing else:
  a primary key stays one, and so does a foreign key, which gets an index.
* The guards of the table may be declared anywhere among the items, and more than once. -/
theorem declared_either_way (t : TableDefinition) :
    (∀ (name sqlType : String) (before after : List ColumnModifier),
      t.declare (.column name sqlType ((before ++ after).map .modify)) =
          t.declare (.declared (Column.modifyAll { name := name, sqlType := sqlType } before)
            (after.map .modify)) ∧
        t.declare (.column name sqlType ((before ++ after).map .modify)) =
          { t with
            columns := t.columns ++ [.ordinary
              { name := name
                sqlType := sqlType
                nullable := ((before ++ after).filterMap ColumnModifier.nullability?).getLast?
                defaultValue := ((before ++ after).filterMap ColumnModifier.defaultValue?).getLast?
                unique := (before ++ after).contains .unique }] }) ∧
    (∀ (name : Option String) (chain : List KeyModifier),
      (∀ m ∈ chain, m = .notNull ∨ m = .nullable) →
      t.declare (.primaryKey name chain) =
        { t with
          columns := t.columns ++ [.key (name.getD "id")
            { primary := true
              nullable := (chain.filterMap KeyModifier.nullability?).getLast? }] }) ∧
    (∀ (name : String) (chain : List KeyModifier), (∀ m ∈ chain, m = .notNull ∨ m = .nullable) →
      t.declare (.foreignKey name chain) =
        { t with
          columns := t.columns ++ [.key name
            { primary := false
              nullable := (chain.filterMap KeyModifier.nullability?).getLast? }]
          indexes := if name ∈ t.indexes then t.indexes else t.indexes ++ [name] }) ∧
    ∀ items items' : List TableItem,
      items.filter (!·.isGuard) = items'.filter (!·.isGuard) →
      (.dropIfExists ∈ items ↔ .dropIfExists ∈ items') →
      (.ifNotExists ∈ items ↔ .ifNotExists ∈ items') →
      items.foldl declare t = items'.foldl declare t := by
  refine ⟨fun name sqlType before after => ?_, fun name chain hchain => ?_,
    fun name chain hchain => ?_, fun items items' => t.foldl_declare_congr⟩
  · have hwords : ∀ modifiers : List ColumnModifier,
        (modifiers.map ColumnRefinement.modify).filterMap ColumnRefinement.modifier? =
          modifiers := by
      intro modifiers
      simp [List.filterMap_map, Function.comp_def, ColumnRefinement.modifier?]
    have hindexes : ∀ (column : String) (modifiers : List ColumnModifier),
        (modifiers.map ColumnRefinement.modify).filterMap (ColumnRefinement.indexChange? column) =
          [] := by
      intro column modifiers
      simp [ColumnRefinement.indexChange?]
    have hsplit := Column.modifyAll_append { name := name, sqlType := sqlType } before after
    rw [declare_eq, declare_eq]
    simp only [TableItem.columns, TableItem.indexChanges, hwords, hindexes, hsplit]
    refine ⟨by simp, ?_⟩
    rw [← hsplit, Column.modifyAll_eq]
    simp
  · rw [declare_eq, TableItem.columns, TableItem.indexChanges,
      indexChanges_of_nullability hchain, KeyOptions.modifyAll_eq]
    simp
  · rw [declare_eq, TableItem.columns, TableItem.indexChanges,
      indexChanges_of_nullability hchain, KeyOptions.modifyAll_eq]
    simp [IndexChange.apply]

/-- A table of users with a key. -/
def userTable : TableDefinition :=
  ofItems "user" [.ifNotExists, .primaryKey none []]

/-- A foreign key of a table of users about which two things are said, and guards that are declared
twice. -/
theorem declared_either_way_userTable :
    (∀ m ∈ [KeyModifier.notNull, .nullable], m = .notNull ∨ m = .nullable) ∧
      userTable.declare (.foreignKey "team" [.notNull, .nullable]) =
        { name := "user"
          columns := [.key "id" { primary := true },
            .key "team" { primary := false, nullable := some true }]
          indexes := ["team"]
          ifNotExists := true } ∧
      [TableItem.dropIfExists, .timestamps, .dropIfExists].foldl declare userTable =
        [TableItem.timestamps, .dropIfExists].foldl declare userTable := by
  have hchain : ∀ m ∈ [KeyModifier.notNull, .nullable], m = .notNull ∨ m = .nullable := by decide
  obtain ⟨-, -, hforeign, hguards⟩ := userTable.declared_either_way
  refine ⟨hchain, (hforeign "team" _ hchain).trans (by decide), ?_⟩
  exact hguards _ _ (by decide) (by decide) (by decide)

end TableDefinition

end SchemaEvolution
