import SchemaEvolution.Database.Binding.Source

/-!
# Columns of results

A column of a result is an expression, or one of those that an asterisk stands for.  Each has a
name, and other clauses of the query may refer to it by that.

* `Binding.results` finds the meanings of all columns of a result.
-/

namespace SchemaEvolution.Database.Binding

/-- A column of a result. -/
structure Result where
  meaning : Meaning
  /-- The column as it is for a query around. -/
  column : QueryColumn
  /-- The name by which other clauses refer to it. -/
  givenName : Option String := none

/-! ## Names -/

/-- An expression without the collations around it. -/
def withoutCollation : Expression → Expression
  | .collated e _ => withoutCollation e
  | e => e

/-- The name of a column that has no alias. -/
def plainName (e : Expression) (written : String) : String :=
  match withoutCollation e with
  | .name path => (path.getLast?.map (·.text)).getD written
  | _ => written

/-- The name of the column that a name stands for, as it was defined. -/
def definedName? (ctx : Context) (e : Expression) : Option String :=
  match e with
  | .name path =>
    ctx.scopes.findSome? fun scope =>
      match scope.find (.of path) ctx.allowsNumbers with
      | .one source column =>
        (scope.sources[source]?).map fun s =>
          let name := (column <|> s.numberColumn).bind fun i => (s.columns[i]?).map (·.name)
          name.getD "rowid"
      | _ => none
  | _ => none

/-! ## Columns -/

/-- A column as it is for a query around. -/
def columnOfMeaning (name lasting : String) (isCast : Bool) (m : Meaning) : QueryColumn where
  name := name
  lasting := lasting
  sqlType := m.sqlType
  affinity := m.affinity.map fun a => if isCast && a.isNumeric then .flexible else a
  collation := m.collation
  classes := m.classes

/-- An expression is a cast. -/
def isCast : Expression → Bool
  | .cast .. => true
  | _ => false

/-- A column agrees with one of a later source, while the rows of a later source all stay. -/
def isMergedLater (scope : Scope) (i : Nat) (column : String) : Bool :=
  let later := scope.sources.drop (i + 1)
  later.any (·.join.keepsRight) && later.any fun s => s.shared.any (sameName column)

/-- The columns of a source that an asterisk stands for. -/
def columnsOf (ctx : Context) (isBare : Bool) (s : ScopeSource) (i : Nat) : Bind (List Result) := do
  let shown := s.columns.zipIdx.filter fun (c, _) =>
    !c.isHidden && !(isBare && s.shared.any (sameName c.name))
  shown.mapM fun (c, j) => do
    let m ←
      if isMergedLater ctx.scope i c.name then
        Bind.lift (ctx.lookup { store := none, source := none, column := { text := c.name } })
      else pure (ctx.scope.columnMeaning 0 i (s.columnOf j))
    return {
      meaning := m, column := columnOfMeaning c.name c.name false m, givenName := some c.name }

/-- The columns that a column of a result stands for. -/
def resultsOf (inner : Binder) (ctx : Context) (isValues : Bool) (c : ResultColumn) (i : Nat) :
    Bind (List Result) := do
  match c with
  | .all =>
    if ctx.scope.sources.isEmpty then Bind.stop .noTables
    return (← ctx.scope.shown.mapM fun (s, i) => columnsOf ctx true s i).flatten
  | .allOf n =>
    let found := ctx.scope.shown.filter fun (s, _) => s.names.any (sameName n.text)
    if found.isEmpty then throw (.noSuchTable [n.text])
    return (← found.mapM fun (s, i) => columnsOf ctx false s i).flatten
  | .expression e givenName written =>
    let m ← Bind.settled (inner.one ctx e)
    let name := match givenName with
      | some n => n.text
      | none => usableName i (if isValues then "" else plainName e written)
    let lasting := match givenName with
      | some n => n.text
      | none =>
        if isValues then name
        else (definedName? ctx (withoutCollation e)).getD (plainName e written)
    return [{
      meaning := m, column := columnOfMeaning name lasting (isCast e) m
      givenName := givenName.map (·.text) }]

/-- How many columns a column of a result stands for. -/
def widthOf (ctx : Context) (c : ResultColumn) : Nat :=
  let count (isBare : Bool) (s : ScopeSource) : Nat :=
    (s.columns.filter fun c =>
      !c.isHidden && !(isBare && s.shared.any (sameName c.name))).length
  match c with
  | .all => sumOf (ctx.scope.shown.map fun (s, _) => count true s)
  | .allOf n =>
    let found := ctx.scope.shown.filter fun (s, _) => s.names.any (sameName n.text)
    sumOf (found.map fun (s, _) => count false s)
  | .expression .. => 1

/-- The columns of a result. -/
def results (inner : Binder) (ctx : Context) (isValues : Bool) (columns : List ResultColumn) :
    Bind (List Result) := do
  if mostColumns < sumOf (columns.map (widthOf ctx)) then throw (.tooMany "columns in result set")
  columns.foldlM (fun found c => do
    return found ++ (← resultsOf inner ctx isValues c found.length)) []

end SchemaEvolution.Database.Binding
