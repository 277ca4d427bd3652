/-!
# Conditions

The condition of a statement, reduced to what can be compiled: conjunction, disjunction,
parentheses and comparisons of a field with a literal. Everything else is kept as its text,
with nested queries set apart because they are refused whatever the strictness.

## Main definitions

* `CompareOp`: the comparisons
* `Condition`: the tree
* `Condition.findSubquery?`: the text of the leftmost nested query
-/

namespace SqlSearch

/-- A comparison of two values. -/
inductive CompareOp where
  | eq
  | ne
  | gt
  | ge
  | lt
  | le
  deriving DecidableEq, Repr

/-- The sign of a comparison. -/
def CompareOp.symbol : CompareOp → String
  | .eq => "="
  | .ne => "<>"
  | .gt => ">"
  | .ge => ">="
  | .lt => "<"
  | .le => "<="

/-- A condition on records. -/
inductive Condition where
  /-- Both hold. -/
  | and (left right : Condition)
  /-- One of the two holds. -/
  | or (left right : Condition)
  /-- A condition in parentheses. -/
  | group (inner : Condition)
  /-- A field compares to a value, given by the text of its literal. -/
  | compare (op : CompareOp) (field literal : String)
  /-- A condition with a nested query, as its text. -/
  | subquery (text : String)
  /-- A condition of another kind, as its text. -/
  | other (text : String)
  deriving DecidableEq, Repr

namespace Condition

/-- The text of the leftmost nested query. -/
def findSubquery? : Condition → Option String
  | .and left right => left.findSubquery? <|> right.findSubquery?
  | .or left right => left.findSubquery? <|> right.findSubquery?
  | .group inner => inner.findSubquery?
  | .compare _ _ _ => none
  | .subquery text => some text
  | .other _ => none

end Condition

end SqlSearch
