import SchemaEvolution.Database.State

/-!
# Meanings of expressions

The meaning of an expression is a function from an environment to a cell, together with what else
counts where the expression stands: the affinity and collation under which it is compared, and the
columns on which it depends.

An environment has a frame for each query around the expression, the innermost first.  A frame holds
a row of each source of the query, and the results of what is computed of several rows.
-/

namespace SchemaEvolution.Database

/-! ## Environments -/

/-- A row as a source gives it. -/
structure SourceRow where
  /-- The number of the row, if it has one. -/
  number : Cell := .null
  cells : List Cell
deriving Inhabited, DecidableEq

namespace SourceRow

/-- The cell of a column, or the number of the row. -/
def get (r : SourceRow) : (column : Option Nat) → Cell
  | some i => r.cells.getD i .null
  | none => r.number

end SourceRow

/-- A row of each source of a query.  A source that does not match the others has none. -/
structure Frame where
  rows : List (Option SourceRow) := []
  /-- The results of aggregate functions. -/
  aggregates : List Cell := []
  /-- The results of window functions. -/
  windows : List Cell := []
deriving Inhabited

/-- What the value of an expression depends on. -/
structure Env where
  database : Database
  /-- The frames of the queries around the expression, the innermost first. -/
  frames : List Frame := []
  /-- The rows of tables that are being computed from themselves, by their numbers. -/
  pending : List (Nat × List SourceRow) := []
  /-- The database as queries see it that do not depend on the rows around them, if they were
  carried out before. -/
  earlier : Option Database := none

namespace Env

/-- The environment of a query that does not depend on the rows around it, but for the last so many
frames: it is carried out only once. -/
def once (env : Env) (kept : Nat) : Env :=
  let count := env.frames.length - kept
  { env with
    database := env.earlier.getD env.database
    frames := List.replicate count {} ++ env.frames.drop count }

/-- The environment within a further query. -/
def push (env : Env) (f : Frame) : Env :=
  { env with frames := f :: env.frames }

/-- The environment around some of the queries. -/
def outer (env : Env) (levels : Nat) : Env :=
  { env with frames := env.frames.drop levels }

/-- The frame of a query so many levels up. -/
def frame (env : Env) (level : Nat) : Frame :=
  env.frames.getD level {}

/-- A column of a source, or the number of its row. -/
def column (env : Env) (level source : Nat) (column : Option Nat) : Cell :=
  match (env.frame level).rows.getD source none with
  | some row => row.get column
  | none => .null

end Env

/-! ## Meanings -/

/-- A column that an expression depends on: of a source of a query so many levels up. -/
structure Use where
  level : Nat
  source : Nat
  /-- Without a column, it is the number of the row. -/
  column : Option Nat
deriving DecidableEq

namespace Use

/-- The columns that something depends on, as seen from around the innermost query. -/
def outward (uses : List Use) : List Use :=
  uses.filterMap fun u => if u.level = 0 then none else some { u with level := u.level - 1 }

/-- The sources of the innermost query that something depends on. -/
def sources (uses : List Use) : List Nat :=
  ((uses.filter (·.level = 0)).map (·.source)).eraseDups

end Use

/-- The classes that the cells of an expression may have. -/
structure Classes where
  number : Bool := true
  text : Bool := true
  bytes : Bool := true

namespace Classes

/-- The classes of either of two expressions. -/
def or (a b : Classes) : Classes :=
  ⟨a.number || b.number, a.text || b.text, a.bytes || b.bytes⟩

/-- No class. -/
def none : Classes :=
  ⟨false, false, false⟩

/-- The classes of cells that have an affinity. -/
def ofAffinity : Option Affinity → Classes
  | some .text => ⟨false, true, true⟩
  | some .blob | .none => {}
  | some _ => ⟨true, false, true⟩

end Classes

/-- How a condition bounds something. -/
inductive BoundKind where
  | equal
  /-- Equal, or both nothing. -/
  | same
  | isNull
  | isSomething
  /-- One of so many values, or of those of a query. -/
  | oneOf (count : Option Nat)
  | above
  | below
deriving DecidableEq

/-- A bound of a column of the innermost query, or of an expression with one source. -/
structure Bound where
  source : Nat
  /-- The column, or the number of the row. -/
  column : Option Nat := none
  /-- The key of the expression, if it is no column. -/
  expression : Option String := none
  kind : BoundKind
  /-- What the bound depends on. -/
  uses : List Use := []
  /-- The affinity and the collation under which it holds. -/
  affinity : Affinity := .blob
  collation : Collation := .binary
  /-- The bound is an integer next to zero, which is nothing special. -/
  isCommon : Bool := false
  /-- The bound itself. -/
  limit : Env → Except Stop Cell := fun _ => .ok .null

/-- A condition as a part of another one. -/
structure Side where
  holds : Env → Except Stop Bool
  uses : List Use

/-- A value with the columns on which it depends. -/
structure Operand where
  value : Env → Except Stop Cell
  uses : List Use

/-- What a condition consists of, as far as it helps to find rows. -/
inductive Shape where
  | other
  /-- Bounds, each of which is the whole condition. -/
  | bounds (bs : List Bound)
  /-- Bounds follow from the condition: one out of each list. -/
  | implied (bss : List (List Bound))
  /-- Both conditions hold. -/
  | both (a b : Shape) (left right : Side)
  /-- One of two conditions holds. -/
  | either (a b : Shape) (left right : Side)

/-- What an expression means. -/
structure Meaning where
  value : Env → Except Stop Cell
  affinity : Option Affinity := none
  collation : Option Collation := none
  /-- The collation is asked for by an operator. -/
  isCollated : Bool := false
  classes : Classes := {}
  uses : List Use := []
  /-- The column that it is, and the type under which it was declared. -/
  column : Option Use := none
  sqlType : String := ""
  shape : Shape := .other
  /-- A text that is the same for the same expressions. -/
  key : String := ""
  /-- An aggregate or a window function is part of it. -/
  isAggregate : Bool := false
  isWindowed : Bool := false
  /-- Its value is known to hold a document. -/
  isDocument : Env → Except Stop Bool := fun _ => .ok false
  /-- How it is decided as a condition, given what counts where its value is nothing, if not by its
  value: the parts of it that settle nothing are not looked at. -/
  decision : Option ((nothing : Bool) → Env → Except Stop Bool) := none

instance : Inhabited Meaning := ⟨{ value := fun _ => .ok .null }⟩

namespace Meaning

/-- A cell. -/
def constant (c : Cell) (key : String := "") : Meaning where
  value := fun _ => .ok c
  key := key

/-- The collation under which an expression is compared with another one. -/
def collationWith (a b : Meaning) : Collation :=
  let chosen :=
    if a.isCollated then a.collation
    else if b.isCollated then b.collation
    else a.collation <|> b.collation
  chosen.getD .binary

/-- The meaning as it is for an expression so many levels further inside. -/
def inward (m : Meaning) (levels : Nat) : Meaning :=
  let moved (u : Use) : Use := { u with level := u.level + levels }
  { m with
    value := fun env => m.value (env.outer levels)
    isDocument := fun env => m.isDocument (env.outer levels)
    decision := m.decision.map fun decide nothing env => decide nothing (env.outer levels)
    uses := m.uses.map moved
    column := m.column.map moved
    shape := .other }

/-- It depends on no column at all. -/
def isConstant (m : Meaning) : Bool :=
  m.uses.isEmpty && !m.isAggregate && !m.isWindowed

/-- The condition is decided, given what counts where its value is nothing. -/
def decide (m : Meaning) (nothing : Bool) (env : Env) : Except Stop Bool :=
  match m.decision with
  | some decide => decide nothing env
  | none => do return (← m.value env).truth?.getD nothing

/-- The condition holds. -/
def holds (m : Meaning) (env : Env) : Except Stop Bool :=
  m.decide false env

/-- The meaning as a value. -/
def operand (m : Meaning) : Operand :=
  ⟨m.value, m.uses⟩

/-- The meaning as a part of another condition. -/
def side (m : Meaning) : Side :=
  ⟨m.holds, m.uses⟩

end Meaning

end SchemaEvolution.Database
