import SchemaEvolution.Database.Transaction
import SchemaEvolution.Proofs.Numerals

/-!
# Queries for a number

A statement that selects one number is read, given a meaning and carried out; it leaves the database
as it is, whatever the database.

* `Grammar.command_select`: the tokens are read as a selection of one expression, which is the
  number or its opposite.
* `Binding.result_query`: if the token of the number writes a cell, the query has a meaning, and
  this cell is its only row.  As it has no sources, nothing of this depends on what is defined.
* `run_select`: so this is the answer to the statement.
-/

namespace SchemaEvolution.Database

/-- An action that succeeds hands its result on. -/
theorem run_bind_of_ok {σ ε α β : Type} {x : StateT σ (Except ε) α} {f : α → StateT σ (Except ε) β}
    {s t : σ} {a : α} (h : x s = .ok (a, t)) : (x >>= f) s = f a t := by
  simp only [bind, StateT.bind, h, Except.bind]

theorem bind_of_eq_ok {ε α β : Type} {x : Except ε α} {a : α} (h : x = .ok a)
    (f : α → Except ε β) : (x >>= f) = f a := by
  rw [h]
  rfl

/-- A number as an expression: below its sign if it has one. -/
def numberExpression (negative : Bool) (ds : List Char) : Expression :=
  if negative then .unary .minus (.numeral ds) else .numeral ds

/-- The selection of a number. -/
def numberSelection (negative : Bool) (ds : List Char) : Selection where
  columns := [.expression (numberExpression negative ds) none
    (Grammar.onOneLine (Lexeme.slice (numberLexemes negative ds)))]

/-- The query for a number. -/
def numberQuery (negative : Bool) (ds : List Char) : Query where
  first := numberSelection negative ds

/-! ## Reading -/

namespace Grammar

open Reader

variable {inner : Level} {negative : Bool} {ds : List Char} {ls : List Lexeme}

/-- The number and the end of the statement are left to read. -/
abbrev numberInput (negative : Bool) (ds : List Char) : Input where
  lexemes := numberLexemes negative ds ++ [endLexeme negative]

/-- The end of the statement is left to read. -/
abbrev endInput (negative : Bool) : Input where
  lexemes := [endLexeme negative]

/-- The word and what follows it are left to read. -/
abbrev selectInput (ls : List Lexeme) : Input where
  lexemes := selectLexeme :: ls

/-- A number at the end of a statement is an operand, and no operator follows. -/
theorem expression_numeral (h : withoutLowLines ds = .ok ds) (power : Nat) (blanks : List Char)
    (place : Nat) :
    Grammar.expression inner power false
        { lexemes := [{ token := .number ds, written := ds, blanks, place }, endLexeme negative] } =
      .ok (.numeral ds, endInput negative) := by
  have hnumeral : Reader.numeral ds (endInput negative) = .ok (ds, endInput negative) := by
    unfold Reader.numeral
    rw [h]
    rfl
  have hoperand : operand inner
      { lexemes := [{ token := .number ds, written := ds, blanks, place }, endLexeme negative] } =
        .ok (.numeral ds, endInput negative) :=
    run_bind_of_ok (x := Reader.numeral ds)
      (f := fun cs => (pure (.numeral cs) : Reader Expression)) hnumeral
  unfold Grammar.expression
  rw [run_bind_of_ok hoperand]
  cases power <;> rfl

/-- A number with a sign is an operand if the number is one. -/
theorem expression_number (h : withoutLowLines ds = .ok ds) (depth : Nat) :
    (level (depth + 2)).expression 0 false (numberInput negative ds) =
      .ok (numberExpression negative ds, endInput negative) := by
  cases negative
  · exact expression_numeral h 0 _ _
  · have hoperand : operand (level (depth + 1)) (numberInput true ds) =
        .ok (.unary .minus (.numeral ds), endInput true) :=
      run_bind_of_ok (x := (level (depth + 1)).expression signPower false)
        (f := fun e => (pure (.unary .minus e) : Reader Expression)) (expression_numeral h _ _ _)
    show Grammar.expression (level (depth + 1)) 0 false (numberInput true ds) = _
    unfold Grammar.expression
    rw [run_bind_of_ok hoperand]
    rfl

section

variable (h : inner.expression 0 false (numberInput negative ds) =
  .ok (numberExpression negative ds, endInput negative))
include h

theorem resultColumns_number :
    resultColumns inner (numberInput negative ds) =
      .ok ((numberSelection negative ds).columns, endInput negative) := by
  have hwritten : withWritten inner.any (numberInput negative ds) =
      .ok ((numberExpression negative ds, Lexeme.slice (numberLexemes negative ds)),
        endInput negative) := by
    have hrest : rest (numberInput negative ds) =
        .ok ((numberInput negative ds).lexemes, numberInput negative ds) := rfl
    unfold withWritten
    rw [run_bind_of_ok hrest, run_bind_of_ok (x := inner.any) h]
    cases negative <;> rfl
  have hcolumn : resultColumn inner (numberInput negative ds) =
      .ok (.expression (numberExpression negative ds) none
        (onOneLine (Lexeme.slice (numberLexemes negative ds))), endInput negative) := by
    let named (p : Expression × String) : Reader ResultColumn := do
      return .expression p.1 (← aliasIf) (onOneLine p.2)
    cases negative
    · exact run_bind_of_ok (f := named) hwritten
    · exact run_bind_of_ok (f := named) hwritten
  unfold resultColumns separated
  rw [run_bind_of_ok hcolumn]
  rfl

theorem selection_number :
    Grammar.selection inner (numberInput negative ds) =
      .ok (numberSelection negative ds, endInput negative) := by
  have hdistinct : wordIf "DISTINCT" (numberInput negative ds) =
      .ok (false, numberInput negative ds) := by
    cases negative <;> rfl
  have hall : wordIf "ALL" (numberInput negative ds) = .ok (false, numberInput negative ds) := by
    cases negative <;> rfl
  unfold Grammar.selection
  rw [run_bind_of_ok hdistinct]
  simp only [Bool.not_false, if_true]
  rw [run_bind_of_ok hall]
  simp only [pure_bind]
  rw [run_bind_of_ok (resultColumns_number h)]
  rfl

end

/-! ### Behind the word of the selection -/

theorem isWord_select (w : String) : Token.isWord w selectLexeme.token = ("SELECT" == w) := by
  have hupper : "SELECT".map Char.toUpper = "SELECT" := by
    rw [← String.toList_inj, String.toList_map]
    decide
  show ("SELECT".map Char.toUpper == w) = _
  rw [hupper]

/-- The word is no other word of the language. -/
theorem wordIf_select {w : String} (h : "SELECT" ≠ w) :
    wordIf w (selectInput ls) = .ok (false, selectInput ls) := by
  have hword : Token.isWord w selectLexeme.token = false := by
    rw [isWord_select]
    exact beq_eq_false_iff_ne.mpr h
  have hpeek : peek (selectInput ls) = .ok (selectLexeme, selectInput ls) := rfl
  unfold wordIf take?
  rw [map_eq_pure_bind, bind_assoc, run_bind_of_ok hpeek, hword]
  rfl

theorem run_wordIf_select {α : Type} {w : String} {f : Bool → Reader α} (h : "SELECT" ≠ w) :
    (wordIf w >>= f) (selectInput ls) = f false (selectInput ls) :=
  run_bind_of_ok (wordIf_select h)

theorem word_select : word "SELECT" (selectInput ls) = .ok ((), { lexemes := ls }) := by
  have hword : Token.isWord "SELECT" selectLexeme.token = true := by
    rw [isWord_select]
    decide
  have hpeek : peek (selectInput ls) = .ok (selectLexeme, selectInput ls) := rfl
  unfold word wordIf take?
  rw [map_eq_pure_bind, bind_assoc, bind_assoc, run_bind_of_ok hpeek, hword]
  rfl

section

variable (h : inner.expression 0 false (numberInput negative ds) =
  .ok (numberExpression negative ds, endInput negative))
include h

theorem plainQuery_number :
    plainQuery inner (selectInput (numberInput negative ds).lexemes) =
      .ok (numberQuery negative ds, endInput negative) := by
  have hpart : part inner (selectInput (numberInput negative ds).lexemes) =
      .ok ({ selections := [numberSelection negative ds] }, endInput negative) := by
    unfold part
    rw [run_wordIf_select (by decide)]
    simp only [Bool.false_eq_true, if_false]
    rw [run_bind_of_ok word_select, run_bind_of_ok (selection_number h)]
    rfl
  unfold plainQuery
  rw [run_bind_of_ok hpart]
  rfl

theorem rowCommand_number :
    rowCommand? inner (selectInput (numberInput negative ds).lexemes) =
      .ok (some (.select (numberQuery negative ds)), endInput negative) := by
  have htables : commonTablesIf inner (selectInput (numberInput negative ds).lexemes) =
      .ok ([], selectInput (numberInput negative ds).lexemes) := by
    unfold commonTablesIf
    rw [run_wordIf_select (by decide)]
    rfl
  have hquery : atQuery (selectInput (numberInput negative ds).lexemes) =
      .ok (true, selectInput (numberInput negative ds).lexemes) := by
    have hpeek : peek (selectInput (numberInput negative ds).lexemes) =
        .ok (selectLexeme, selectInput (numberInput negative ds).lexemes) := rfl
    unfold atQuery atToken
    rw [run_bind_of_ok hpeek]
    simp only [isWord_select]
    rfl
  unfold rowCommand?
  rw [run_bind_of_ok htables]
  simp (disch := decide) only [run_wordIf_select, Bool.false_eq_true, if_false]
  rw [run_bind_of_ok hquery]
  simp only [if_true]
  rw [run_bind_of_ok (plainQuery_number h)]
  rfl

/-- Of all commands a query is the last that is looked for. -/
theorem plainCommand_number :
    plainCommand inner (selectInput (numberInput negative ds).lexemes) =
      .ok (.select (numberQuery negative ds), endInput negative) := by
  have htransaction : transactionCommand? (selectInput (numberInput negative ds).lexemes) =
      .ok (none, selectInput (numberInput negative ds).lexemes) := by
    unfold transactionCommand?
    simp (disch := decide) only [run_wordIf_select, Bool.false_eq_true, if_false, Bool.false_or]
    rfl
  have hmaintenance : maintenanceCommand? inner (selectInput (numberInput negative ds).lexemes) =
      .ok (none, selectInput (numberInput negative ds).lexemes) := by
    unfold maintenanceCommand?
    simp (disch := decide) only [run_wordIf_select, Bool.false_eq_true, if_false]
    rfl
  unfold plainCommand wordsIf
  simp (disch := decide) only [run_wordIf_select, Bool.false_eq_true, if_false, bind_assoc,
    pure_bind]
  rw [run_bind_of_ok htransaction]
  dsimp only
  rw [run_bind_of_ok hmaintenance]
  dsimp only
  rw [run_bind_of_ok (rowCommand_number h)]
  rfl

end

theorem command_select (negative : Bool) (h : withoutLowLines ds = .ok ds) :
    command (selectInput (numberInput negative ds).lexemes).lexemes =
      .ok ⟨.select (numberQuery negative ds), [], [endLexeme negative]⟩ := by
  have hdepth : ∃ depth, (selectInput (numberInput negative ds).lexemes).lexemes.length + 1 =
      depth + 2 := ⟨_, rfl⟩
  obtain ⟨depth, hdepth⟩ := hdepth
  have hany : anyCommand (level (depth + 2)) (selectInput (numberInput negative ds).lexemes) =
      .ok (.select (numberQuery negative ds), endInput negative) := by
    unfold anyCommand
    rw [run_wordIf_select (by decide)]
    exact plainCommand_number (expression_number h depth)
  unfold command
  rw [hdepth]
  exact bind_of_eq_ok hany _

end Grammar

/-! ## Meaning -/

namespace Binding

/-- A number means the cell that its token writes, whatever is around it. -/
def numberMeaning (c : Cell) : Meaning :=
  { Meaning.constant c (ScalarFunction.quote c).string with classes := ⟨true, false, false⟩ }

section

variable {inner : Binder} {negative : Bool} {ds : List Char} {c : Cell} {db : Database}

theorem one_number (inner : Binder) (h : numberToken negative ds = some c) (ctx : Context) :
    (next inner).one ctx (numberExpression negative ds) = pure (numberMeaning c) := by
  have hnumeral : numeral negative ds = pure (numberMeaning c) := by
    unfold numeral
    rw [h]
    rfl
  have hexpression : (next inner).expression ctx (numberExpression negative ds) =
      pure [numberMeaning c] := by
    cases negative
    all_goals
      show (numeral _ ds >>= fun m => pure [m]) = _
      rw [hnumeral, pure_bind]
  unfold Binder.one
  rw [hexpression, pure_bind]

/-- The context of the clauses of a selection without sources. -/
abbrev clauseContext (db : Database) : Context where
  database := db
  scopes := [{ allowsAggregates := true, allowsWindows := true }]

theorem exists_results (db : Database)
    (h : ∀ ctx, inner.one ctx (numberExpression negative ds) = pure (numberMeaning c)) :
    ∃ r : Result, r.meaning = numberMeaning c ∧
      results inner (clauseContext db) false (numberSelection negative ds).columns = pure [r] := by
  have hresult : ∃ r : Result, r.meaning = numberMeaning c ∧
      resultsOf inner (clauseContext db) false (.expression (numberExpression negative ds) none
        (Grammar.onOneLine (Lexeme.slice (numberLexemes negative ds)))) 0 = pure [r] := by
    unfold resultsOf
    simp only [h]
    exact ⟨_, rfl, rfl⟩
  obtain ⟨r, hmeaning, hresult⟩ := hresult
  refine ⟨r, hmeaning, ?_⟩
  unfold results numberSelection
  simp only [List.foldlM_cons, List.length_nil, hresult]
  rfl

/-- The clauses of a selection that has but one column. -/
def columnClauses (db : Database) (r : Result) : Clauses where
  sources := {}
  results := [r]
  isAggregate := false
  having := none
  conditions := []
  order := []
  groups := []
  isDistinct := false
  reverses := db.isOn .reversedScans

/-- How the row of a selection that has but one column is made. -/
def columnProduction (db : Database) (r : Result) : Production :=
  (columnClauses db r).production {} 0 {}

/-- A selection that has but one column, with its meaning. -/
def columnSelection (db : Database) (r : Result) : BoundSelection where
  query := {
    columns := [r.column]
    rows := (columnProduction db r).rows
    documents := (columnProduction db r).documents
    uses := Use.outward (columnClauses db r).uses
    plain := (columnClauses db r).plain? {} (columnProduction db r) }
  results := [r]
  context := {
    database := db
    scopes := [{ aliases := [r].filterMap fun r => r.givenName.map fun n => (n, r.meaning) }] }

/-! ### States of the search -/

section

variable {α : Type} {action : Bind α} {a : α} {s t : BindState}

theorem within_of_ok
    (h : action { s with levels := {} :: s.levels } =
      .ok (a, { s with levels := {} :: s.levels })) :
    Bind.within action s = .ok ((a, {}), s) := by
  have hpush : (modify fun s : BindState => { s with levels := {} :: s.levels } : Bind PUnit) s =
      .ok ((), { s with levels := {} :: s.levels }) := rfl
  unfold Bind.within
  rw [run_bind_of_ok hpush, run_bind_of_ok h]
  rfl

theorem prepared_of_ok (h : action { s with isStrict := false } = .ok (a, t))
    (hfault : t.fault = none) :
    Bind.prepared action s = .ok (a, { t with isStrict := s.isStrict }) := by
  have hget : ∀ s : BindState, (get : Bind BindState) s = .ok (s, s) := fun _ => rfl
  have hbefore : (modify fun s : BindState => { s with isStrict := false } : Bind PUnit) s =
      .ok ((), { s with isStrict := false }) := rfl
  have hafter : (modify fun t : BindState => { t with isStrict := s.isStrict } : Bind PUnit) t =
      .ok ((), { t with isStrict := s.isStrict }) := rfl
  unfold Bind.prepared
  rw [run_bind_of_ok (hget _), run_bind_of_ok hbefore, run_bind_of_ok h, run_bind_of_ok hafter,
    run_bind_of_ok (hget _)]
  simp only [hfault]
  rfl

theorem settled_of_ok (h : action { s with pending := none } = .ok (a, t))
    (hpending : t.pending = none) :
    Bind.settled action s = .ok (a, { t with pending := s.pending }) := by
  have hget : ∀ s : BindState, (get : Bind BindState) s = .ok (s, s) := fun _ => rfl
  have hbefore : (modify fun s : BindState => { s with pending := none } : Bind PUnit) s =
      .ok ((), { s with pending := none }) := rfl
  have hafter : (modify fun t : BindState => { t with pending := s.pending } : Bind PUnit) t =
      .ok ((), { t with pending := s.pending }) := rfl
  unfold Bind.settled
  rw [run_bind_of_ok (hget _), run_bind_of_ok hbefore, run_bind_of_ok h, run_bind_of_ok (hget _),
    run_bind_of_ok hafter]
  simp only [hpending]
  rfl

end

theorem selection_number {r : Result} {s : BindState}
    (h : results inner (clauseContext db) false (numberSelection negative ds).columns = pure [r]) :
    selection inner { database := db } (numberSelection negative ds) {} s =
      .ok (columnSelection db r, s) := by
  have hsources : ∀ dropsOrder, sources inner { database := db } dropsOrder
      (numberSelection negative ds).sources s = .ok ({}, s) := fun _ => rfl
  have hclauses : clauses inner { database := db } (numberSelection negative ds) [] {}
      { s with levels := {} :: s.levels } =
        .ok ((columnClauses db r, (columnSelection db r).context),
          { s with levels := {} :: s.levels }) := by
    have hresults : results inner (clauseContext db) false (numberSelection negative ds).columns
        { s with levels := {} :: s.levels } = .ok ([r], { s with levels := {} :: s.levels }) := by
      rw [h]
      rfl
    unfold clauses
    exact run_bind_of_ok hresults
  unfold selection
  rw [run_bind_of_ok (hsources _), run_bind_of_ok (within_of_ok hclauses)]
  rfl

/-! ### Rows -/

/-- Without sources there is nothing to join, whatever the plan. -/
theorem stepsOf_nil (hasKept : Bool) (conditions : List Plan.Condition) (known : List Nat)
    (steps : List Plan.Step) : Joining.stepsOf [] hasKept conditions known steps = [] := by
  induction steps generalizing conditions known with
  | nil => rfl
  | cons step steps ih => exact ih _ _

theorem joining_column (db : Database) (r : Result) :
    (columnProduction db r).joining = { empty := {}, first := [], steps := [] } := by
  show (⟨{}, [], Joining.stepsOf [] false [] [] _⟩ : Joining) = _
  rw [stepsOf_nil]

/-- The one row has the value of the column. -/
theorem rows_column {r : Result} {env : Env} (h : ∀ env, r.meaning.value env = .ok c) :
    (columnProduction db r).rows {} env = .ok [[c]] := by
  have hcells : ∀ row, (columnProduction db r).cells row = .ok [c] := by
    intro row
    show [r.meaning].mapM (·.value row) = _
    simp only [List.mapM_cons, h, List.mapM_nil]
    rfl
  have hsizes : (columnProduction db r).cut.sizes env = .ok (0, none) := rfl
  have hframes : ∀ count accepts,
      (columnProduction db r).joining.frames count accepts env = .ok [{}] := by
    intro count accepts
    rw [joining_column]
    rfl
  have hresults : (columnProduction db r).results {} env = .ok [(env.push {}, [c])] := by
    unfold Production.results
    rw [bind_of_eq_ok hsizes]
    simp only [bind_of_eq_ok (hframes _ _)]
    show [env.push {}].mapM (fun row => (do
      return (row, ← (columnProduction db r).cells row) : Except Stop (Env × List Cell))) = _
    simp only [List.mapM_cons, hcells, List.mapM_nil]
    rfl
  exact bind_of_eq_ok hresults _

/-- The query for a number has a meaning, and one row. -/
theorem result_query (db : Database)
    (h : ∀ ctx, inner.one ctx (numberExpression negative ds) = pure (numberMeaning c)) :
    ∃ bound : BoundQuery,
      Bind.result { database := db } (query inner { database := db } (numberQuery negative ds)) =
        .ok bound ∧
      ∀ env, bound.all env = .ok [[c]] := by
  obtain ⟨r, hmeaning, hresults⟩ := exists_results db h
  refine ⟨(columnSelection db r).query, ?_, fun env => rows_column fun env => by rw [hmeaning]; rfl⟩
  have hselection : (do
      let s ← selection inner { database := db } (numberSelection negative ds) {}
      return s.query : Bind BoundQuery) { isStrict := false, queries := 1 } =
        .ok ((columnSelection db r).query, { isStrict := false, queries := 1 }) := by
    rw [run_bind_of_ok (selection_number hresults)]
    rfl
  have hquery : query inner { database := db } (numberQuery negative ds) {} =
      .ok ((columnSelection db r).query, { queries := 1 }) :=
    prepared_of_ok (t := { isStrict := false, queries := 1 }) hselection rfl
  unfold Bind.result Bind.traced
  have hsettled := settled_of_ok (s := {}) hquery rfl
  simp only [List.map_nil, StateT.run, hsettled]
  rfl

end

end Binding

/-! ## The answer -/

section

variable {negative : Bool} {ds : List Char} {c : Cell}

/-- A query without sources does not read what is defined. -/
theorem readsDefinitions_number :
    readsDefinitions (numberLexemes negative ds ++ [endLexeme negative]).length
      (.select (numberQuery negative ds)) = false := by
  cases negative <;> rfl

theorem perform_number (sql : String) (db : Database) (rest : List Lexeme)
    (h : numberToken negative ds = some c) :
    perform sql (numberLexemes negative ds ++ [endLexeme negative]).length db
      ⟨.select (numberQuery negative ds), [], rest⟩ = ⟨.ok [[c]], db⟩ := by
  set depth := (numberLexemes negative ds ++ [endLexeme negative]).length
  have hreads : readsDefinitions depth (.select (numberQuery negative ds)) = false :=
    readsDefinitions_number
  obtain ⟨bound, hbound, hall⟩ := Binding.result_query db
    (Binding.one_number (Binding.level (Binding.depthOf db + 2 * depth + 6)) h)
  have hprepare : prepare (Binding.binder db depth) depth db (.select (numberQuery negative ds)) =
      .ok (select bound false) := by
    unfold prepare
    simp only [hreads]
    exact bind_of_eq_ok hbound _
  unfold perform
  simp only [informed, hreads, Bool.false_eq_true, if_false]
  rw [bind_of_eq_ok (a := db) rfl, bind_of_eq_ok hprepare]
  show select bound false sql db = _
  simp only [select, hall, Bool.false_eq_true, if_false]

/-- A statement that selects a number is answered with the cell that its token writes. -/
theorem run_select (sql : String) (db : Database) (hlines : withoutLowLines ds = .ok ds)
    (h : numberToken negative ds = some c)
    (hlexemes : lexemes sql =
      selectLexeme :: (numberLexemes negative ds ++ [endLexeme negative])) :
    run sql db = ⟨.ok [[c]], db⟩ := by
  have hlength : ∃ n, (selectLexeme ::
      (numberLexemes negative ds ++ [endLexeme negative])).length = n + 2 := by
    cases negative
    · exact ⟨1, rfl⟩
    · exact ⟨2, rfl⟩
  obtain ⟨n, hlength⟩ := hlength
  have hcommand := Grammar.command_select negative hlines
  have hend : runLexemes sql (n + 1) db [endLexeme negative] = ⟨.ok [], db⟩ := rfl
  unfold run
  simp only [hlexemes, hlength]
  rw [runLexemes, if_neg (by decide), if_neg (by decide), hcommand]
  simp only [perform_number sql db _ h, hend]
  rfl

end

end SchemaEvolution.Database
