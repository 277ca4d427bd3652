import SqlSearch.Entries
import SqlSearch.Json.Basic
import SqlSearch.Text.Lowercase

/-!
# Aggregations

The aggregations of a document form a tree. A *metric* condenses the values of one field to a
number; a *terms bucket* splits the records by the values of a field and holds the aggregations
of each part. Every aggregation has a name, and names are written in the order in which they
were given.

## Main definitions

* `MetricKind`: the metrics, and `MetricKind.ofFunction?`, the SQL functions that compute them
* `Aggregation`, `Aggregations`: the tree
* `nestBuckets`: one bucket for each of several fields, the first outermost
-/

namespace SqlSearch

/-- A metric over the values of a field. -/
inductive MetricKind where
  /-- The number of values. -/
  | count
  /-- The number of distinct values. -/
  | distinctCount
  | sum
  | avg
  | min
  | max
  deriving DecidableEq, Repr

/-- The key of a metric in the document. -/
def MetricKind.key : MetricKind → String
  | .count => "value_count"
  | .distinctCount => "cardinality"
  | .sum => "sum"
  | .avg => "avg"
  | .min => "min"
  | .max => "max"

/-- The metric that an SQL function computes, its name read without regard to the case of ASCII
letters. `DISTINCT` makes a difference for `COUNT` only. -/
def MetricKind.ofFunction? (name : String) (distinct : Bool) : Option MetricKind :=
  let lowered := Text.asciiLower name
  if lowered = "count" then some (if distinct then .distinctCount else .count)
  else if lowered = "sum" then some .sum
  else if lowered = "avg" then some .avg
  else if lowered = "min" then some .min
  else if lowered = "max" then some .max
  else none

/-- A node of the aggregation tree. -/
inductive Aggregation where
  /-- A number computed from the values of a field. -/
  | metric (kind : MetricKind) (field : String)
  /-- One part for each value of a field, with the aggregations of the parts. -/
  | terms (field : String) (inner : List (String × Aggregation))

/-- Named aggregations, in the order in which the names were given. -/
abbrev Aggregations := Entries Aggregation

namespace Aggregation

/-- The field that every record has; counting its values counts records. -/
def countField : String := "_index"

/-- The number of records. -/
def countAll : Aggregation := .metric .count countField

/-- The number of distinct values of the field that every record has. -/
def distinctCountAll : Aggregation := .metric .distinctCount countField

/-- The field of a node. -/
def field : Aggregation → String
  | .metric _ field => field
  | .terms field _ => field

/-- The aggregations inside a bucket; a metric has none. -/
def inner? : Aggregation → Option Aggregations
  | .metric _ _ => none
  | .terms _ inner => some inner

mutual

/-- The written form of a node. A bucket without inner aggregations does not mention them. -/
def toJson : Aggregation → Json
  | .metric kind field => .single kind.key (.single "field" (.str field))
  | .terms field [] => .single "terms" (.single "field" (.str field))
  | .terms field (entry :: rest) =>
    .obj [("terms", .single "field" (.str field)),
      ("aggregations", .obj (entriesToJson (entry :: rest)))]

/-- The written forms of named aggregations. -/
def entriesToJson : List (String × Aggregation) → List (String × Json)
  | [] => []
  | (name, aggregation) :: rest => (name, aggregation.toJson) :: entriesToJson rest

end

end Aggregation

/-- The written form of a table of aggregations. -/
def Aggregations.toJson (aggregations : Aggregations) : Json :=
  .obj (Aggregation.entriesToJson aggregations)

/-- The name of the bucket of a field. -/
def bucketName (field : String) : String := "group_by_" ++ field

/-- Puts `inner` into one bucket for each field, the first field outermost. -/
def nestBuckets (fields : List String) (inner : Aggregations) : Aggregations :=
  fields.foldr (fun field nested => [(bucketName field, .terms field nested)]) inner

@[simp] theorem nestBuckets_nil (inner : Aggregations) : nestBuckets [] inner = inner := rfl

@[simp] theorem nestBuckets_cons (field : String) (fields : List String)
    (inner : Aggregations) :
    nestBuckets (field :: fields) inner =
      [(bucketName field, .terms field (nestBuckets fields inner))] := rfl

end SqlSearch
