import SchemaEvolution.Database.Meaning

/-!
# Scopes

A name in an expression stands for a column of a source of the query around it, or of a query
further out.  A `Scope` holds the sources of one query and the names that its results go by, and a
`Context` the scopes around an expression, with all else that its meaning depends on.

* `Scope.find` looks a name up among the sources of one query.
* `Context.lookup` looks it up in all scopes, the innermost first.
-/

namespace SchemaEvolution.Database.Binding

/-! ## Sources -/

/-- A column as a name stands for it. -/
structure ScopeColumn where
  name : String
  sqlType : String := ""
  affinity : Option Affinity := none
  collation : Option Collation := none
  isHidden : Bool := false
  /-- What the column means, if it is not a column of its source. -/
  meaning : Option Meaning := none
  /-- The column that tells what kind of document the column holds. -/
  kindColumn : Option Nat := none

/-- A source of rows, as names stand for its columns. -/
structure ScopeSource where
  /-- The names that stand before a column of the source. -/
  names : List String
  /-- The names of the store that may stand before those. -/
  stores : List String := []
  columns : List ScopeColumn
  /-- The place of its row among those of a frame. -/
  place : Nat := 0
  /-- The column that shows the number of a row. -/
  numberColumn : Option Nat := none
  /-- The number of a row can be named. -/
  hasNumber : Bool := false
  /-- The name of the source must stand before its columns. -/
  isDistant : Bool := false
  /-- The table that it is, with its store. -/
  table : Option (String × String) := none
  /-- It goes by another name than the table. -/
  isAliased : Bool := false
  /-- How it is joined to the sources before it, and in which columns it agrees with them. -/
  join : Join := {}
  shared : List String := []

/-- The sources of a query, and what else names stand for in it. -/
structure Scope where
  sources : List ScopeSource := []
  /-- The names of results. -/
  aliases : List (String × Meaning) := []
  /-- Functions of several rows may stand here. -/
  allowsAggregates : Bool := false
  allowsWindows : Bool := false
  /-- The named windows. -/
  windows : List Window := []

/-- What a name stands for among sources: places of columns, or numbers of rows. -/
inductive Match where
  | nothing
  | one (source : Nat) (column : Option Nat)
  /-- The first of several columns that is something. -/
  | merged (columns : List (Nat × Option Nat))
  | ambiguous

/-- A name of up to three parts: the store, the source and the column. -/
structure Path where
  store : Option String
  source : Option String
  column : Name

namespace Path

/-- The parts of a name. -/
def of : List Name → Path
  | [column] => ⟨none, none, column⟩
  | [source, column] => ⟨none, some source.text, column⟩
  | store :: source :: column :: _ => ⟨some store.text, some source.text, column⟩
  | [] => ⟨none, none, default⟩

/-- The parts that are there. -/
def parts (p : Path) : List String :=
  p.store.toList ++ p.source.toList ++ [p.column.text]

end Path

namespace ScopeSource

/-- The parts before a column lead to the source. -/
def isNamedBy (s : ScopeSource) (p : Path) : Bool :=
  match p.source with
  | none => !s.isDistant
  | some name =>
    s.names.any (sameName name) && p.store.all fun store => s.stores.any (sameName store)

/-- The place of a column. -/
def column? (s : ScopeSource) (column : String) : Option Nat :=
  s.columns.findIdx? fun c => sameName column c.name

/-- The column at a place, which may be that of the number. -/
def columnOf (s : ScopeSource) (place : Nat) : Option Nat :=
  if s.numberColumn = some place then none else some place

end ScopeSource

namespace Scope

/-- The sources that an asterisk stands for, with their places. -/
def shown (scope : Scope) : List (ScopeSource × Nat) :=
  scope.sources.zipIdx.filter fun (s, _) => !s.isDistant

/-- The sources that have a column, each with the column, as far as the name leads to them. -/
def candidates (scope : Scope) (p : Path) : List (Nat × ScopeSource × Nat) :=
  scope.sources.zipIdx.filterMap fun (s, i) =>
    if s.isNamedBy p then (s.column? p.column.text).map fun place => (i, s, place) else none

/-- The candidates that count, and whether only the first of them that is something does: a column
in which sources agree is that of the source whose rows all stay. -/
def counted (column : String) : (found : List (Nat × Option Nat)) → (isMerged : Bool) →
    List (Nat × ScopeSource × Nat) → List (Nat × Option Nat) × Bool
  | found, isMerged, [] => (found, isMerged)
  | found, isMerged, (i, s, place) :: rest =>
    let this := (i, s.columnOf place)
    if found.isEmpty then counted column [this] true rest
    else if !s.shared.any (sameName column) then counted column (found ++ [this]) false rest
    else if !s.join.keepsRight then counted column found isMerged rest
    else if !s.join.keepsLeft then counted column [this] true rest
    else counted column (found ++ [this]) isMerged rest

/-- What a name stands for among the sources of one query. -/
def find (scope : Scope) (p : Path) (allowsNumbers : Bool) : Match :=
  match counted p.column.text [] true (scope.candidates p) with
  | ([(source, column)], _) => .one source column
  | ([], _) =>
    let numbered := scope.sources.zipIdx.filter fun (s, _) => s.isNamedBy p && s.hasNumber
    if allowsNumbers && isRowNumberName p.column.text then
      match numbered with
      | [(_, i)] => .one i none
      | [] => .nothing
      | _ => .ambiguous
    else .nothing
  | (several, true) => .merged several
  | _ => .ambiguous

/-- The meaning of a column of a source so many levels up. -/
def columnMeaning (scope : Scope) (level source : Nat) (column : Option Nat) : Meaning :=
  let s := scope.sources.getD source { names := [], columns := [] }
  let c : ScopeColumn := (column.bind fun i => s.columns[i]?).getD { name := "" }
  match c.meaning with
  | some m => if level = 0 then m else m.inward level
  | none =>
    let affinity := if column.isNone then some .integer else c.affinity
    let numbered := s.numberColumn.bind fun i => s.columns[i]?
    let sqlType :=
      if column.isNone then (numbered.map (·.sqlType)).getD "INTEGER" else c.sqlType
    let use : Use := ⟨level, s.place, column⟩
    { value := fun env => .ok (env.column level s.place column)
      affinity := affinity
      sqlType := sqlType
      collation := if column.isNone then none else c.collation
      classes := .ofAffinity affinity
      uses := [use]
      column := some use
      key := s!"c{level}.{s.place}.{column}"
      isDocument := fun env => .ok <| c.kindColumn.any fun k =>
        let kind := env.column level s.place (some k)
        kind == .text "array" || kind == .text "object" }

/-- The meaning of the first of several columns that is something. -/
def mergedMeaning (scope : Scope) (level : Nat) (columns : List (Nat × Option Nat)) : Meaning :=
  let meanings := columns.map fun (source, column) => scope.columnMeaning level source column
  { value := fun env => do
      let cells ← meanings.mapM fun m => m.value env
      return (cells.find? (!·.isNull)).getD .null
    uses := meanings.flatMap (·.uses)
    key := "first of " ++ ",".intercalate (meanings.map (·.key)) }

end Scope

/-! ## Contexts -/

/-- Where an expression stands, if not everything may stand there. -/
inductive Place where
  | anywhere
  | check
  | index
  | indexCondition
  | generated
deriving DecidableEq

namespace Place

/-- The place in words. -/
def words : Place → String
  | anywhere => ""
  | check => "CHECK constraints"
  | index => "index expressions"
  | indexCondition => "partial index WHERE clauses"
  | generated => "generated columns"

/-- What an expression at the place belongs to, in words. -/
def definition : Place → String
  | check => "a CHECK constraint"
  | generated => "a generated column"
  | _ => "an index"

end Place

/-- What a name of a table stands for, if it is defined by a query around. -/
inductive NamedTable where
  /-- A query, among all that are defined together with it. -/
  | defined (table : CommonTable) (isOpen : Bool)
  /-- A query that is being computed from itself, with its number and columns. -/
  | recursive (name : String) (number : Nat) (columns : List ScopeColumn)

/-- What a name that is written somewhere refers to. -/
inductive Referent where
  /-- A table that is a source. -/
  | source
  /-- A table, before one of its columns. -/
  | qualifier
  /-- A column, or the number of a row. -/
  | column (place : Option Nat)
deriving DecidableEq

/-- A name that stands for a table, or for a part of it; the name is given by its place. -/
structure Mention where
  place : Nat
  store : String
  table : String
  referent : Referent
deriving DecidableEq

/-- What becomes of calls of functions that there are not. -/
inductive FunctionRule where
  | known
  /-- They are not looked up. -/
  | any
  /-- They are looked up when a value is given by default. -/
  | ofDefault
deriving DecidableEq

/-- What the meaning of an expression depends on. -/
structure Context where
  database : Database
  /-- The scopes around the expression, the innermost first. -/
  scopes : List Scope := []
  /-- The tables that queries around define, those of the innermost first. -/
  tables : List (List NamedTable) := []
  place : Place := .anywhere
  /-- A name between quotation marks may be a text. -/
  quotedTexts : Bool := true
  /-- A trigger is being carried out. -/
  isInTrigger : Bool := false
  functions : FunctionRule := .known
  /-- The views that are being looked into. -/
  views : List (String × String) := []
  /-- The store in which all tables are. -/
  store : Option String := none
  /-- The place of the first source of the next query in its frames. -/
  offset : Nat := 0
  /-- What names stand for is noted. -/
  isTraced : Bool := false

namespace Context

/-- The innermost scope. -/
def scope (ctx : Context) : Scope :=
  ctx.scopes.headD {}

/-- The context with its innermost scope changed. -/
def modifyScope (ctx : Context) (change : Scope → Scope) : Context :=
  { ctx with scopes := change ctx.scope :: ctx.scopes.tail }

/-- The context of a further query. -/
def push (ctx : Context) (scope : Scope) : Context :=
  { ctx with scopes := scope :: ctx.scopes }

/-- Numbers of rows can be named. -/
def allowsNumbers (ctx : Context) : Bool :=
  ctx.place != .index && ctx.place != .generated

/-- The meaning of a name as a truth value. -/
def truth? (n : Name) : Option Meaning :=
  if n.written != n.text then none
  else if sameName n.text "true" then some (.constant (.integer 1) "true")
  else if sameName n.text "false" then some (.constant (.integer 0) "false")
  else none

/-- The meaning of a name that is no column. -/
def otherMeaning (ctx : Context) (p : Path) : Except Fault Meaning :=
  let isBare := p.source.isNone
  if isBare && p.column.isInQuotationMarks && ctx.quotedTexts then
    .ok { Meaning.constant (.text p.column.text) s!"'{p.column.text}'" with
      classes := ⟨false, true, false⟩ }
  else
    match if isBare then truth? p.column else none with
    | some m => .ok m
    | none =>
      if isBare && p.column.isInQuotationMarks then .error (.noSuchQuotedColumn p.column.text)
      else .error (.noSuchColumn p.parts)

/-- The meaning of a name in a scope so many levels up, if it has one there. -/
def lookupIn (ctx : Context) (scope : Scope) (level : Nat) (p : Path) :
    Except Fault (Option Meaning) :=
  match scope.find p ctx.allowsNumbers with
  | .one source column => .ok (some (scope.columnMeaning level source column))
  | .merged columns => .ok (some (scope.mergedMeaning level columns))
  | .ambiguous => .error (.ambiguousColumn p.parts)
  | .nothing =>
    if p.source.isSome then .ok none
    else
      match scope.aliases.find? fun (name, _) => sameName name p.column.text with
      | some (name, m) =>
        if m.isAggregate && !scope.allowsAggregates then .error (.aliasedAggregateMisused name)
        else if m.isWindowed && !scope.allowsWindows then .error (.aliasedWindowMisused name)
        else .ok (some (m.inward level))
      | none => .ok none

/-- The meaning of a name. -/
def lookup (ctx : Context) (p : Path) : Except Fault Meaning :=
  go ctx.scopes 0
where
  /-- The meaning in one of the scopes from a level on. -/
  go : List Scope → Nat → Except Fault Meaning
    | [], _ => ctx.otherMeaning p
    | scope :: scopes, level => do
      match ← ctx.lookupIn scope level p with
      | some m => return m
      | none => go scopes (level + 1)

/-- What the parts of a name refer to in tables, and whether the name is a text instead. -/
def mentions (ctx : Context) (names : List Name) : List Mention × Bool :=
  go ctx.scopes
where
  /-- What the parts refer to in one of some scopes. -/
  go : List Scope → List Mention × Bool
    | [] =>
      match names with
      | [n] => ([], n.isInQuotationMarks && ctx.quotedTexts)
      | _ => ([], false)
    | scope :: scopes =>
      match scope.find (.of names) ctx.allowsNumbers with
      | .one source column =>
        match scope.sources[source]?.bind fun s => s.table.map (s, ·) with
        | some (s, store, table) =>
          let last := names.getLast?.toList.map fun n => ⟨n.place, store, table, .column column⟩
          let before := if s.isAliased then [] else (names.dropLast.getLast?).toList
          (last ++ before.map (fun n => ⟨n.place, store, table, .qualifier⟩), false)
        | none => ([], false)
      | .nothing =>
        let isAlias := names.length = 1 && scope.aliases.any fun (name, _) =>
          names.any fun n => sameName name n.text
        if isAlias then ([], false) else go scopes
      | _ => ([], false)

end Context

end SchemaEvolution.Database.Binding
