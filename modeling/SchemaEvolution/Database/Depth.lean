import SchemaEvolution.Database.Limit
import SchemaEvolution.Database.Node

/-!
# The depth of expressions

An expression is one deeper than the deepest of its operands, and a query is as deep as its deepest
expression.  Bounds, casts and collations count in ways of their own: those of `BETWEEN` count for
nothing, and a collation begins anew.

* `Node.height` is the depth of a node.
* `Expression.isTooDeep` says that somewhere within an expression the depth is too great.
-/

namespace SchemaEvolution.Database

namespace Node

/-- The nodes that count for the depth of a node. -/
def counted : Node → List Node
  | expression (.collated ..) => []
  | expression (.between e ..) => [expression e]
  | expression (.tuple _) => []
  | expression (.inTable e ..) => [expression e]
  | expression (.call c) => c.arguments.map expression
  | query q =>
    q.selections.flatMap fun s =>
      s.columns.flatMap ofResult ++
        (s.condition.toList ++ s.groups ++ s.having.toList).map expression ++
        ofOrder q.order ++ (q.limit.toList ++ q.offset.toList).map expression
  | source _ => []
  | n => n.children

/-- The depth of a node, as far as it is not greater than a bound. -/
def height : (bound : Nat) → Node → Nat
  | 0, _ => 0
  | bound + 1, n =>
    let inner := (n.counted.map (height bound)).foldl max 0
    match n with
    | expression (.name path) => path.length
    | expression _ => inner + 1
    | query _ | source _ => inner

end Node

namespace Expression

/-- The operands of an expression that may be too deep, while it counts for less itself. -/
def hiddenParts : Expression → List Expression
  | .collated e _ => [e]
  | .between _ low high => [low, high]
  | .tuple es => es
  | _ => []

/-- An expression is too deep, or what it hides is; what is nested deeper than a bound is not
looked at. -/
def isTooDeep : (bound : Nat) → Expression → Bool
  | 0, _ => false
  | bound + 1, e =>
    mostDepth < (Node.expression e).height (mostDepth + 2) ||
      e.hiddenParts.any (isTooDeep bound)

end Expression

end SchemaEvolution.Database
