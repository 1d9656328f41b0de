import SchemaEvolution.Proofs.Regions
import SchemaEvolution.Proofs.Wording

/-!
# Operations recovered from their texts

An operation that says nothing but names can be recovered from the texts of its statements, whatever
characters the names have.

* `Phrase`: a text in words and names.  Its words are what is outside of the quoted regions, so they
  can be told from the names in them (`Phrase.ofText?_text`).
* `Operation.ofText?`: the operation that is carried out by a single statement.
* `Operation.unite?`: the operation that is carried out by several statements in order.
* `Operation.ofTexts?_compile`: reading the texts of an operation gives the operation back.
* `Operation.eq_of_texts_eq`: so no two operations have the same texts.
-/

namespace SchemaEvolution

/-! ## Words and names -/

/-- A text in words and names: the words before the first name, and each name with the words that
follow it. -/
structure Phrase where
  words : String
  parts : List (String × String)
deriving DecidableEq

namespace Phrase

/-- The words and names of the pieces of a text. -/
def ofPieces : List Quoting.Piece → Phrase
  | [] => ⟨"", []⟩
  | .plain c :: pieces =>
    let rest := ofPieces pieces
    ⟨String.singleton c ++ rest.words, rest.parts⟩
  | .region _ name :: pieces =>
    let rest := ofPieces pieces
    ⟨"", (name, rest.words) :: rest.parts⟩

/-- The words and names of a text, unless it ends inside of quotes. -/
def ofText? (text : String) : Option Phrase :=
  (Quoting.scan text.toList).map ofPieces

/-- Names as a text, each of them in quotes and with the words that follow it. -/
def textOfParts (style : QuoteStyle) : List (String × String) → String
  | [] => ""
  | (name, words) :: parts => style.quote name ++ words ++ textOfParts style parts

/-- The phrase as a text. -/
def text (style : QuoteStyle) (p : Phrase) : String :=
  p.words ++ textOfParts style p.parts

/-- There are words between any two names, and no quotes in the words. -/
def AreApart : List (String × String) → Prop
  | [] => True
  | (_, words) :: parts =>
    Quoting.IsPlain words.toList ∧ (words = "" → parts = []) ∧ AreApart parts

theorem AreApart.last {words : String} (h : Quoting.IsPlain words.toList) (name : String) :
    AreApart [(name, words)] :=
  ⟨h, fun _ => rfl, trivial⟩

theorem AreApart.cons {words : String} (hplain : Quoting.IsPlain words.toList)
    (hwords : words ≠ "") (name : String) {parts : List (String × String)} (h : AreApart parts) :
    AreApart ((name, words) :: parts) :=
  ⟨hplain, fun hempty => absurd hempty hwords, h⟩

theorem ofPieces_plain (words : List Char) (pieces : List Quoting.Piece) :
    ofPieces (words.map .plain ++ pieces) =
      ⟨String.ofList words ++ (ofPieces pieces).words, (ofPieces pieces).parts⟩ := by
  induction words with
  | nil => simp
  | cons c words ih =>
    rw [List.map_cons, List.cons_append, ofPieces, ih, ← String.append_assoc]
    congr 2
    exact String.toList_inj.mp (by simp)

/-- Words without quotes are the words before the first name. -/
theorem scan_words {words : String} {more : List Char} {parts : List (String × String)}
    (hwords : Quoting.IsPlain words.toList)
    (hmore : (Quoting.scan more).map ofPieces = some ⟨"", parts⟩) :
    (Quoting.scan (words.toList ++ more)).map ofPieces = some ⟨words, parts⟩ := by
  obtain ⟨pieces, hpieces, hphrase⟩ := Option.map_eq_some_iff.mp hmore
  rw [Quoting.scan_plain_append hwords, hpieces, Option.map_some, Option.map_some,
    ofPieces_plain, hphrase, String.ofList_toList, String.append_empty]

theorem scan_textOfParts (style : QuoteStyle) {parts : List (String × String)}
    (h : AreApart parts) :
    (Quoting.scan (textOfParts style parts).toList).map ofPieces = some ⟨"", parts⟩ := by
  induction parts with
  | nil =>
    rw [textOfParts, String.toList_empty, Quoting.scan]
    rfl
  | cons part parts ih =>
    obtain ⟨name, words⟩ := part
    obtain ⟨hplain, hend, hparts⟩ := h
    have hrest := scan_words hplain (ih hparts)
    -- What follows the closing quote is a word, or nothing at all.
    have hhead : ∀ c, (words.toList ++ (textOfParts style parts).toList).head? = some c →
        c ∉ Quoting.marks := by
      intro c hc
      cases hlist : words.toList with
      | nil =>
        have hempty : words = "" := String.toList_inj.mp hlist
        rw [hlist, hend hempty] at hc
        cases hc
      | cons c' rest =>
        rw [hlist, List.cons_append, List.head?_cons, Option.some.injEq] at hc
        subst hc
        exact hplain c' (hlist ▸ List.mem_cons_self)
    obtain ⟨pieces, hpieces, hphrase⟩ := Option.map_eq_some_iff.mp hrest
    have hscan := Quoting.scan_append (Quoting.scan_write style.mark_mem name) (Or.inr hhead)
    rw [textOfParts, String.toList_append, String.toList_append, List.append_assoc,
      QuoteStyle.quote, hscan, hpieces, Option.map_some, Option.map_some, List.singleton_append,
      ofPieces, hphrase]

/-- A phrase is recovered from its text, in either style of quotes. -/
theorem ofText?_text (style : QuoteStyle) {p : Phrase} (hwords : Quoting.IsPlain p.words.toList)
    (hparts : AreApart p.parts) : ofText? (p.text style) = some p := by
  rw [ofText?, text, String.toList_append]
  exact scan_words hwords (scan_textOfParts style hparts)

end Phrase

/-! ## Reading an operation -/

/-- The columns of an index: names with commas between them, and a parenthesis after the last. -/
def IndexDefinition.columns? : List (String × String) → Option (List String)
  | [] => none
  | (column, words) :: parts =>
    if words = ", " then (columns? parts).map (column :: ·)
    else if words = ")" ∧ parts = [] then some [column]
    else none

/-- The words before the name of an index that is created: whether it is unique, and whether one of
the same name is left alone. -/
def IndexDefinition.opening? : String → Option (Bool × Bool)
  | "CREATE INDEX " => some (false, false)
  | "CREATE INDEX IF NOT EXISTS " => some (false, true)
  | "CREATE UNIQUE INDEX " => some (true, false)
  | "CREATE UNIQUE INDEX IF NOT EXISTS " => some (true, true)
  | _ => none

/-- The index that a phrase creates. -/
def IndexDefinition.ofPhrase? (p : Phrase) : Option IndexDefinition := do
  let (unique, ifNotExists) ← opening? p.words
  match p.parts with
  | (name, " ON ") :: (table, " (") :: parts =>
    return { name, table, columns := ← columns? parts, unique, ifNotExists }
  | (name, " ON ") :: (table, " USING ") :: (method, " (") :: parts =>
    return { name, table, columns := ← columns? parts, unique, method := some method, ifNotExists }
  | _ => none

namespace Operation

/-- The operation that a phrase carries out, if it says nothing but names. -/
def ofPhrase? (p : Phrase) : Option Operation :=
  match p.words, p.parts with
  | "DROP TABLE ", [(table, "")] => some (dropTable table false)
  | "DROP TABLE IF EXISTS ", [(table, "")] => some (dropTable table true)
  | "DROP INDEX ", [(index, "")] => some (dropIndex index false)
  | "DROP INDEX IF EXISTS ", [(index, "")] => some (dropIndex index true)
  | "ALTER TABLE ", [(table, " RENAME TO "), (newName, "")] => some (renameTable table newName)
  | "ALTER TABLE ", [(table, " RENAME COLUMN "), (name, " TO "), (newName, "")] =>
    some (alterTable table [.rename name newName])
  | "ALTER TABLE ", [(table, " DROP COLUMN "), (name, "")] =>
    some (alterTable table [.drop name false])
  | "ALTER TABLE ", [(table, " DROP COLUMN IF EXISTS "), (name, "")] =>
    some (alterTable table [.drop name true])
  | _, _ => (IndexDefinition.ofPhrase? p).map createIndex

/-- The operation that a single statement carries out, read from its text. -/
def ofText? (text : String) : Option Operation :=
  Phrase.ofText? text >>= ofPhrase?

/-- The operation that is carried out by several operations of one statement each: the changes of
one table, or the creation of an index that is dropped before. -/
def unite? : List Operation → Option Operation
  | [] => none
  | [op] => some op
  | [dropIndex index true, createIndex i] =>
    if index = i.name then some (createIndex { i with dropIfExists := true }) else none
  | alterTable table changes :: ops =>
    match unite? ops with
    | some (alterTable table' changes') =>
      if table = table' then some (alterTable table (changes ++ changes')) else none
    | _ => none
  | _ => none

/-- The operation that statements carry out, read from their texts. -/
def ofTexts? (texts : List String) : Option Operation :=
  texts.mapM ofText? >>= unite?

/-- A text is read as the phrase of which it is the text. -/
theorem ofText?_eq {style : QuoteStyle} {text words : String} {parts : List (String × String)}
    (htext : text = Phrase.text style ⟨words, parts⟩) (hwords : Quoting.IsPlain words.toList)
    (hparts : Phrase.AreApart parts) : ofText? text = ofPhrase? ⟨words, parts⟩ := by
  have hphrase : Phrase.ofText? text = some ⟨words, parts⟩ := by
    rw [htext]
    exact Phrase.ofText?_text style hwords hparts
  rw [ofText?, hphrase]
  rfl

end Operation

/-! ## Indexes -/

namespace IndexDefinition

/-- The words before the name of an index that is created. -/
def openingWords (i : IndexDefinition) : String :=
  (if i.unique then "CREATE UNIQUE INDEX " else "CREATE INDEX ") ++
    if i.ifNotExists then "IF NOT EXISTS " else ""

/-- The columns of an index, each with the words that follow it. -/
def columnParts : List String → List (String × String)
  | [] => []
  | [column] => [(column, ")")]
  | column :: columns => (column, ", ") :: columnParts columns

/-- The names in the statement that creates an index, each with the words that follow it. -/
def parts (i : IndexDefinition) : List (String × String) :=
  match i.method with
  | none => (i.name, " ON ") :: (i.table, " (") :: columnParts i.columns
  | some method =>
    (i.name, " ON ") :: (i.table, " USING ") :: (method, " (") :: columnParts i.columns

variable {columns : List String}

theorem textOfParts_columnParts (style : QuoteStyle) (h : columns ≠ []) :
    Phrase.textOfParts style (columnParts columns) =
      ", ".intercalate (columns.map style.quote) ++ ")" := by
  induction columns with
  | nil => exact absurd rfl h
  | cons column columns ih =>
    cases columns with
    | nil => simp [columnParts, Phrase.textOfParts]
    | cons next columns =>
      rw [columnParts, Phrase.textOfParts, ih (List.cons_ne_nil next columns)]
      · simp [String.intercalate_cons_cons, String.append_assoc]
      · exact List.cons_ne_nil next columns

theorem areApart_columnParts (columns : List String) : Phrase.AreApart (columnParts columns) := by
  induction columns with
  | nil => trivial
  | cons column columns ih =>
    cases columns with
    | nil => exact .last (by decide) column
    | cons next columns => exact .cons (by decide) (by decide) column ih

theorem columns?_columnParts (h : columns ≠ []) :
    columns? (columnParts columns) = some columns := by
  induction columns with
  | nil => exact absurd rfl h
  | cons column columns ih =>
    cases columns with
    | nil => rfl
    | cons next columns =>
      have hrest := ih (List.cons_ne_nil next columns)
      rw [columnParts, columns?, if_pos rfl, hrest]
      · rfl
      · exact List.cons_ne_nil next columns

/-- The text of the statement that creates an index, in words and names. -/
theorem text_eq (d : Dialect) {i : IndexDefinition} (h : i.columns ≠ []) :
    i.text d = Phrase.text d.quoting ⟨i.openingWords, i.parts⟩ := by
  have hcolumns := textOfParts_columnParts d.quoting h
  unfold text openingWords parts Phrase.text
  cases i.method with
  | none => simp [Phrase.textOfParts, hcolumns, String.append_assoc]
  | some method => simp [Phrase.textOfParts, hcolumns, String.append_assoc]

theorem opening?_openingWords (i : IndexDefinition) :
    opening? i.openingWords = some (i.unique, i.ifNotExists) := by
  unfold openingWords
  cases i.unique <;> cases i.ifNotExists <;> rfl

/-- The index is recovered from this phrase, but for what the statement does not say. -/
theorem ofPhrase?_parts {i : IndexDefinition} (h : i.columns ≠ []) :
    ofPhrase? ⟨i.openingWords, i.parts⟩ = some { i with dropIfExists := false } := by
  unfold ofPhrase? parts
  rw [opening?_openingWords]
  cases hmethod : i.method with
  | none => simp [columns?_columnParts h]
  | some method => simp [columns?_columnParts h]

theorem areApart_parts (i : IndexDefinition) : Phrase.AreApart i.parts := by
  have hcolumns := areApart_columnParts i.columns
  unfold parts
  cases i.method with
  | none =>
    refine .cons (by decide) (by decide) i.name ?_
    exact .cons (by decide) (by decide) i.table hcolumns
  | some method =>
    refine .cons (by decide) (by decide) i.name (.cons (by decide) (by decide) i.table ?_)
    exact .cons (by decide) (by decide) method hcolumns

theorem isPlain_openingWords (i : IndexDefinition) :
    Quoting.IsPlain i.openingWords.toList := by
  unfold openingWords
  cases i.unique <;> cases i.ifNotExists <;> decide

end IndexDefinition

/-! ## Single statements -/

namespace ColumnChange

/-- The change says nothing but names. -/
def NamesOnly : ColumnChange → Prop
  | drop .. | rename .. => True
  | add _ | retype .. => False

/-- Such a change has no type and no default, so nothing stands against it. -/
theorem NamesOnly.stands_compile {c : ColumnChange} (h : c.NamesOnly) (d : Dialect)
    (table : String) : ∃ s, c.compile d.capabilities table = .ok s ∧
      Statement.Stands d s ("ALTER TABLE " ++ d.quoting.quote table ++ " " ++ c.text d) := by
  cases c with
  | add | retype => exact h.elim
  | drop | rename =>
    refine ColumnChange.stands_compile (fun sqlType hmem => ?_) trivial
    cases hmem

end ColumnChange

namespace Operation

variable (d : Dialect)

theorem ofText?_createStatement {i : IndexDefinition} (h : i.columns ≠ []) :
    ofText? (d.render i.createStatement) = some (createIndex { i with dropIfExists := false }) := by
  have htext : d.render i.createStatement = Phrase.text d.quoting ⟨i.openingWords, i.parts⟩ :=
    (i.stands_createStatement d).render.trans (i.text_eq d h)
  have hother : ofPhrase? ⟨i.openingWords, i.parts⟩ =
      (IndexDefinition.ofPhrase? ⟨i.openingWords, i.parts⟩).map createIndex := by
    unfold IndexDefinition.openingWords
    cases i.unique <;> cases i.ifNotExists <;> rfl
  rw [ofText?_eq htext i.isPlain_openingWords i.areApart_parts, hother,
    IndexDefinition.ofPhrase?_parts h]
  rfl

/-- A statement that says something about one name, perhaps under a guard. -/
theorem ofText?_guarded {words guard : String} (hwords : words ∉ Statement.joints)
    (hguard : guard ∉ Statement.joints)
    (hplain : ∀ wanted : Bool,
      Quoting.IsPlain (words ++ " " ++ if wanted then guard ++ " " else "").toList)
    (wanted : Bool) (name : String) :
    ofText? (d.render (.clause words :: Statement.clauseIf wanted guard ++ [.name name])) =
      ofPhrase? ⟨words ++ " " ++ if wanted then guard ++ " " else "", [(name, "")]⟩ := by
  have htext := (Statement.Stands.guarded (d := d) hwords hguard wanted name).render
  have hphrase : words ++ " " ++ (if wanted then guard ++ " " else "") ++ d.quoting.quote name =
      Phrase.text d.quoting
        ⟨words ++ " " ++ if wanted then guard ++ " " else "", [(name, "")]⟩ := by
    simp [Phrase.text, Phrase.textOfParts]
  exact ofText?_eq (htext.trans hphrase) (hplain wanted) (.last (by decide) name)

theorem ofText?_dropTable (table : String) (ifExists : Bool) :
    ofText? (d.render (TableDefinition.dropStatement table ifExists)) =
      some (dropTable table ifExists) := by
  refine (ofText?_guarded d (by decide) (by decide) (by decide) ifExists table).trans ?_
  cases ifExists <;> rfl

theorem ofText?_dropIndex (index : String) (ifExists : Bool) :
    ofText? (d.render (IndexDefinition.dropStatement index ifExists)) =
      some (dropIndex index ifExists) := by
  refine (ofText?_guarded d (by decide) (by decide) (by decide) ifExists index).trans ?_
  cases ifExists <;> rfl

theorem ofText?_renameStatement (table newName : String) :
    ofText? (d.render (renameStatement table newName)) = some (renameTable table newName) := by
  have hbegin : Statement.Stands d [.clause "ALTER TABLE"] "ALTER TABLE" := .clause (by decide)
  have hword : Statement.Stands d [.clause "RENAME TO"] "RENAME TO" := .clause (by decide)
  have htext := ((hbegin.append (Statement.Stands.name table).continues).append
    (hword.append (Statement.Stands.name newName).continues).continues).render
  have hphrase : d.render (renameStatement table newName) =
      Phrase.text d.quoting ⟨"ALTER TABLE ", [(table, " RENAME TO "), (newName, "")]⟩ := by
    refine htext.trans (String.toList_inj.mp ?_)
    simp [Phrase.text, Phrase.textOfParts]
  exact ofText?_eq hphrase (by decide)
    (.cons (by decide) (by decide) table (.last (by decide) newName))

variable {d}

/-- A change to a column that says nothing but names is recovered with the name of its table, where
columns are dropped under a guard if this is wanted. -/
theorem ofText?_change (hd : d.capabilities.conditionalDrop = true) (table : String)
    {change : ColumnChange} (h : change.NamesOnly) :
    ∃ s, change.compile d.capabilities table = .ok s ∧
      ofText? (d.render s) = some (alterTable table [change]) := by
  obtain ⟨s, hs, hstands⟩ := h.stands_compile d table
  refine ⟨s, hs, ?_⟩
  cases change with
  | add | retype => exact h.elim
  | drop name ifExists =>
    have hphrase : d.render s = Phrase.text d.quoting ⟨"ALTER TABLE ",
        [(table, " DROP COLUMN " ++ if ifExists then "IF EXISTS " else ""), (name, "")]⟩ := by
      refine hstands.render.trans ?_
      have hjoin : " DROP COLUMN " = " " ++ "DROP COLUMN " := by decide
      unfold ColumnChange.text
      rw [hjoin, hd]
      simp only [Bool.and_true, Phrase.text, Phrase.textOfParts, String.append_assoc,
        String.append_empty]
    cases ifExists with
    | false | true =>
      exact ofText?_eq hphrase (by decide)
        (.cons (by decide) (by decide) table (.last (by decide) name))
  | rename name newName =>
    have hphrase : d.render s = Phrase.text d.quoting ⟨"ALTER TABLE ",
        [(table, " RENAME COLUMN "), (name, " TO "), (newName, "")]⟩ := by
      refine hstands.render.trans ?_
      have hjoin : " RENAME COLUMN " = " " ++ "RENAME COLUMN " := by decide
      unfold ColumnChange.text
      rw [hjoin]
      simp only [Phrase.text, Phrase.textOfParts, String.append_assoc, String.append_empty]
    exact ofText?_eq hphrase (by decide)
      (.cons (by decide) (by decide) table
        (.cons (by decide) (by decide) name (.last (by decide) newName)))

/-! ## Several statements -/

/-- The operation says nothing but names, and it has something to carry out. -/
def NamesOnly : Operation → Prop
  | createTable _ => False
  | alterTable _ changes => changes ≠ [] ∧ ∀ change ∈ changes, change.NamesOnly
  | createIndex i => i.columns ≠ []
  | dropTable .. | renameTable .. | dropIndex .. => True

/-- A single statement is the operation that is read from it. -/
theorem ofTexts?_singleton {text : String} {op : Operation} (h : ofText? text = some op) :
    ofTexts? [text] = some op := by
  rw [ofTexts?, List.mapM_cons, h]
  rfl

/-- The changes of one table are put together again. -/
theorem unite?_changes (table : String) {changes : List ColumnChange} (h : changes ≠ []) :
    unite? (changes.map fun change => alterTable table [change]) =
      some (alterTable table changes) := by
  induction changes with
  | nil => exact absurd rfl h
  | cons change changes ih =>
    cases changes with
    | nil => rfl
    | cons next changes =>
      have hrest := ih (List.cons_ne_nil next changes)
      rw [List.map_cons] at hrest
      rw [List.map_cons, List.map_cons, unite?, hrest]
      · simp
      all_goals simp

theorem ofText?_changes (hd : d.capabilities.conditionalDrop = true) (table : String)
    {changes : List ColumnChange} (h : ∀ change ∈ changes, change.NamesOnly) :
    ∃ statements, changes.mapM (ColumnChange.compile d.capabilities table) = .ok statements ∧
      (statements.map d.render).mapM ofText? =
        some (changes.map fun change => alterTable table [change]) := by
  induction changes with
  | nil => exact ⟨[], rfl, rfl⟩
  | cons change changes ih =>
    obtain ⟨hchange, hchanges⟩ := List.forall_mem_cons.mp h
    obtain ⟨s, hs, htext⟩ := ofText?_change hd table hchange
    obtain ⟨statements, hstatements, htexts⟩ := ih hchanges
    refine ⟨s :: statements, ?_, ?_⟩
    · rw [List.mapM_cons, hs, hstatements]
      rfl
    · rw [List.map_cons, List.mapM_cons, htext, htexts]
      rfl

theorem ofTexts?_createIndex {i : IndexDefinition} (h : i.columns ≠ []) :
    ∃ statements, (createIndex i).compile d = .ok statements ∧
      ofTexts? (statements.map d.render) = some (createIndex i) := by
  have hcreate := ofText?_createStatement d h
  have hcompile : (createIndex i).compile d =
      .ok ((if i.dropIfExists then [IndexDefinition.dropStatement i.name true] else []) ++
        [i.createStatement]) := by
    rw [compile, IndexDefinition.compile, if_neg (by simpa using h)]
  refine ⟨_, hcompile, ?_⟩
  cases hdrop : i.dropIfExists with
  | false =>
    have hsame : { i with dropIfExists := false } = i := by
      rw [← hdrop]
    rw [hsame] at hcreate
    exact ofTexts?_singleton hcreate
  | true =>
    have hsame : { i with dropIfExists := true } = i := by
      rw [← hdrop]
    rw [if_pos rfl, List.singleton_append, List.map_cons, List.map_singleton, ofTexts?,
      List.mapM_cons, List.mapM_cons, ofText?_dropIndex, hcreate]
    change unite? [_, _] = _
    rw [unite?, if_pos rfl, hsame]

/-- Reading the texts of an operation gives the operation back. -/
theorem ofTexts?_compile (hd : d.capabilities.conditionalDrop = true) {op : Operation}
    (h : op.NamesOnly) :
    ∃ statements, op.compile d = .ok statements ∧
      ofTexts? (statements.map d.render) = some op := by
  cases op with
  | createTable => exact h.elim
  | alterTable table changes =>
    obtain ⟨hchanges, hnames⟩ := h
    obtain ⟨statements, hstatements, htexts⟩ := ofText?_changes hd table hnames
    refine ⟨statements, hstatements, ?_⟩
    rw [ofTexts?, htexts]
    exact unite?_changes table hchanges
  | dropTable table ifExists =>
    exact ⟨_, rfl, ofTexts?_singleton (ofText?_dropTable d table ifExists)⟩
  | renameTable table newName =>
    exact ⟨_, rfl, ofTexts?_singleton (ofText?_renameStatement d table newName)⟩
  | createIndex i => exact ofTexts?_createIndex h
  | dropIndex index ifExists =>
    exact ⟨_, rfl, ofTexts?_singleton (ofText?_dropIndex d index ifExists)⟩

/-- No two operations that say nothing but names have the same texts, in either style of quotes.

Where columns are dropped under a guard if this is wanted, each of them can be written as
statements, and it is recovered from the texts of these alone: its kind, every name in it, the
columns of an index in order, its access method, whether it is unique, and each guard.  So two of
them are the same if their texts are. -/
theorem eq_of_texts_eq {d : Dialect} (hd : d.capabilities.conditionalDrop = true)
    {op op' : Operation} (h : op.NamesOnly) (h' : op'.NamesOnly) :
    ∃ statements statements', op.compile d = .ok statements ∧ op'.compile d = .ok statements' ∧
      ofTexts? (statements.map d.render) = some op ∧
      (statements.map d.render = statements'.map d.render → op = op') := by
  obtain ⟨statements, hcompile, hread⟩ := ofTexts?_compile hd h
  obtain ⟨statements', hcompile', hread'⟩ := ofTexts?_compile hd h'
  refine ⟨statements, statements', hcompile, hcompile', hread, fun htexts => ?_⟩
  have hsome : some op = some op' := by
    rw [← hread, htexts, hread']
  exact Option.some.inj hsome

/-- An index with an access method, dropped before. -/
def withMethod : Operation :=
  createIndex ⟨"i", "t", ["a", "b"], true, some "m", true, false⟩

/-- An index without one, on a table and a column whose names look like more of the statement. -/
def withoutMethod : Operation :=
  createIndex ⟨"i", "t\" USING \"m", ["a\", \"b"], true, none, true, false⟩

/-- The texts for these indexes differ in their quotes alone, and the first is recovered from its
own. -/
theorem eq_of_texts_eq_withMethod :
    (Dialect.standard .postgres .doubleQuote).capabilities.conditionalDrop = true ∧
      withMethod.NamesOnly ∧ withoutMethod.NamesOnly ∧
      ∃ statements statements',
        withMethod.compile (.standard .postgres .doubleQuote) = .ok statements ∧
        withoutMethod.compile (.standard .postgres .doubleQuote) = .ok statements' ∧
        statements.map (Dialect.standard .postgres .doubleQuote).render =
          ["DROP INDEX IF EXISTS \"i\"",
            "CREATE UNIQUE INDEX \"i\" ON \"t\" USING \"m\" (\"a\", \"b\")"] ∧
        statements'.map (Dialect.standard .postgres .doubleQuote).render =
          ["DROP INDEX IF EXISTS \"i\"",
            "CREATE UNIQUE INDEX \"i\" ON \"t\"\" USING \"\"m\" (\"a\"\", \"\"b\")"] ∧
        ofTexts? (statements.map (Dialect.standard .postgres .doubleQuote).render) =
          some withMethod ∧
        (statements.map (Dialect.standard .postgres .doubleQuote).render =
            statements'.map (Dialect.standard .postgres .doubleQuote).render →
          withMethod = withoutMethod) := by
  have hd : (Dialect.standard .postgres .doubleQuote).capabilities.conditionalDrop = true := by
    decide
  have h : withMethod.NamesOnly := List.cons_ne_nil _ _
  have h' : withoutMethod.NamesOnly := List.cons_ne_nil _ _
  obtain ⟨statements, statements', hcompile, hcompile', hread, heq⟩ := eq_of_texts_eq hd h h'
  have htexts : (withMethod.compile (.standard .postgres .doubleQuote)).map
      (List.map (Dialect.standard .postgres .doubleQuote).render) = .ok
        ["DROP INDEX IF EXISTS \"i\"",
          "CREATE UNIQUE INDEX \"i\" ON \"t\" USING \"m\" (\"a\", \"b\")"] := by
    decide
  have htexts' : (withoutMethod.compile (.standard .postgres .doubleQuote)).map
      (List.map (Dialect.standard .postgres .doubleQuote).render) = .ok
        ["DROP INDEX IF EXISTS \"i\"",
          "CREATE UNIQUE INDEX \"i\" ON \"t\"\" USING \"\"m\" (\"a\"\", \"\"b\")"] := by
    decide
  rw [hcompile] at htexts
  rw [hcompile'] at htexts'
  exact ⟨hd, h, h', statements, statements', hcompile, hcompile', Except.ok.inj htexts,
    Except.ok.inj htexts', hread, heq⟩

end Operation

end SchemaEvolution
