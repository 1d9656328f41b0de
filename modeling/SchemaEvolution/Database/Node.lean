import SchemaEvolution.Database.Command

/-!
# Nodes of expressions and queries

Expressions, queries and sources contain one another.  `Node.all` lists a node with all that is
within it, and `TriggerStep.nodes` gives the nodes of a step of a trigger.
-/

namespace SchemaEvolution.Database

/-- An expression, a query, or a source of a query. -/
inductive Node where
  | expression (e : Expression)
  | query (q : Query)
  | source (s : Source)

namespace Node

/-- Terms of an order as nodes. -/
def ofOrder (terms : List OrderTerm) : List Node :=
  terms.map fun t => expression t.expression

/-- The nodes of a window. -/
def ofWindow (w : Window) : List Node :=
  (w.partition ++ w.firstDistance.toList ++ w.lastDistance.toList).map expression ++
    ofOrder w.order

/-- The nodes of a column of a result. -/
def ofResult : ResultColumn → List Node
  | .expression e .. => [expression e]
  | _ => []

/-- The nodes of a selection. -/
def ofSelection (s : Selection) : List Node :=
  s.columns.flatMap ofResult ++ s.sources.map source ++
    (s.condition.toList ++ s.groups ++ s.having.toList).map expression ++ s.windows.flatMap ofWindow

/-- The nodes of what a source takes its rows from. -/
def ofItem : SourceItem → List Node
  | .table _ => []
  | .function _ arguments => arguments.map expression
  | .query q => [query q]
  | .group sources => sources.map source

/-- The nodes directly within a node. -/
def children : Node → List Node
  | expression e =>
    match e with
    | .literal _ | .numeral _ | .clock _ | .parameter _ | .name _ | .raise .. => []
    | .unary _ e | .collated e _ | .cast e _ => [expression e]
    | .binary _ a b => [expression a, expression b]
    | .call c =>
      (c.arguments ++ c.filter.toList).map expression ++ ofOrder c.order ++
        c.window.toList.flatMap ofWindow
    | .choice base conditions results otherwise =>
      (base.toList ++ conditions ++ results ++ otherwise.toList).map expression
    | .between e low high => [expression e, expression low, expression high]
    | .inList e es => (e :: es).map expression
    | .inQuery e q => [expression e, query q]
    | .inTable e table arguments =>
      let item := if arguments.isEmpty then .table table else .function table arguments
      [expression e, source { item := item }]
    | .tuple es => es.map expression
    | .exists q | .subquery q => [query q]
  | query q =>
    q.tables.map (fun t => query t.query) ++ q.selections.flatMap ofSelection ++
      ofOrder q.order ++ (q.limit.toList ++ q.offset.toList).map expression
  | source s => ofItem s.item ++ s.on.toList.map expression

/-- A node and all that is within it, to a depth. -/
def all : (depth : Nat) → Node → List Node
  | 0, _ => []
  | depth + 1, n => n :: n.children.flatMap (all depth)

/-- The name that a node takes rows from, if it is a source. -/
def sourceName? : Node → Option ObjectName
  | source { item := .table n, .. } | source { item := .function n _, .. } => some n
  | _ => none

end Node

/-! ## Constants -/

namespace Expression

/-- A node does not keep an expression from being the same for all rows. -/
def isConstantNode : Node → Bool
  | .expression (.name [n]) =>
    n.written == n.text && (sameName n.text "true" || sameName n.text "false")
  | .expression (.name _) | .expression (.parameter _) | .expression (.raise ..) => false
  | .expression (.call c) => c.window.isNone && c.filter.isNone
  | .expression _ => true
  | .query _ | .source _ => false

/-- An expression that is nested at most to a depth is the same for all rows. -/
def isConstant (depth : Nat) (e : Expression) : Bool :=
  (Node.all depth (.expression e)).all isConstantNode

/-- A condition is seen not to hold before the names in it are looked up. -/
def isPlainlyFalse : Expression → Bool
  | .numeral ('0' :: x :: cs) => (x == '0' || x == 'x' || x == 'X') && cs.all (· == '0')
  | .numeral cs => cs == ['0']
  | .inList _ [] => true
  | .binary .and a b => isPlainlyFalse a || isPlainlyFalse b
  | _ => false

end Expression

/-! ## Steps of triggers -/

namespace TriggerStep

/-- The nodes of assignments. -/
def ofAssignments (as : List Assignment) : List Node :=
  as.map fun a => .expression a.value

/-- The nodes of what is done about conflicts. -/
def ofConflict (c : ConflictClause) : List Node :=
  Node.ofOrder c.target ++ ofAssignments c.assignments ++
    (c.condition.toList ++ c.updateCondition.toList).map Node.expression

/-- The nodes directly within a step. -/
def nodes : TriggerStep → List Node
  | insert i =>
    i.tables.map (fun t => .query t.query) ++ i.rows.toList.map .query ++
      i.clauses.flatMap ofConflict
  | update u =>
    u.tables.map (fun t => .query t.query) ++ u.sources.map .source ++
      ofAssignments u.assignments ++ u.condition.toList.map .expression
  | delete d => d.tables.map (fun t => .query t.query) ++ d.condition.toList.map .expression
  | select q => [.query q]

end TriggerStep

end SchemaEvolution.Database
