import SqlSearch.Json.Basic

/-!
# Filter clauses

The query of a document is a tree of filter clauses: leaves that compare a field with a value,
and combinations that ask for all, or for a number, of their parts to match.

## Main definitions

* `Clause`: the tree
* `Clause.shouldDepth`: how many `should` clauses follow one another down the first parts
* `Clause.toJson`: the written form
-/

namespace SqlSearch

/-- The bound of a range. -/
inductive RangeOp where
  | gt
  | gte
  | lt
  | lte
  deriving DecidableEq, Repr

/-- The key of a bound in the document. -/
def RangeOp.key : RangeOp → String
  | .gt => "gt"
  | .gte => "gte"
  | .lt => "lt"
  | .lte => "lte"

/-- A filter clause. -/
inductive Clause where
  /-- Every record matches. -/
  | matchAll
  /-- The field has the value. -/
  | term (field value : String)
  /-- The field lies on one side of the value. -/
  | range (field : String) (op : RangeOp) (value : String)
  /-- All parts match. -/
  | must (clauses : List Clause)
  /-- At least `minimum` of the parts match. -/
  | should (clauses : List Clause) (minimum : Nat)

namespace Clause

/-- At least one of the parts matches. -/
def anyOf (clauses : List Clause) : Clause := .should clauses 1

/-- The clause that every record matches. -/
def isMatchAll : Clause → Bool
  | .matchAll => true
  | _ => false

/-- The number of `should` clauses that follow one another from here down the first parts. -/
def shouldDepth : Clause → Nat
  | .should (first :: _) _ => 1 + first.shouldDepth
  | .should [] _ => 1
  | _ => 0

mutual

/-- The written form of a clause. -/
def toJson : Clause → Json
  | .matchAll => .single "match_all" (.obj [])
  | .term field value => .single "term" (.single field (.str value))
  | .range field op value => .single "range" (.single field (.single op.key (.str value)))
  | .must clauses => .single "bool" (.single "must" (.arr (listToJson clauses)))
  | .should clauses minimum =>
    .single "bool"
      (.obj [("should", .arr (listToJson clauses)), ("minimum_should_match", .num minimum)])

/-- The written forms of several clauses. -/
def listToJson : List Clause → List Json
  | [] => []
  | clause :: rest => clause.toJson :: listToJson rest

end

end Clause

end SqlSearch
