import SqlSearch.Compile.Error
import SqlSearch.Document.Aggregation
import SqlSearch.Field
import SqlSearch.Options

/-!
# From select lists to aggregations

A `SELECT` is answered with aggregations when its select list calls one of `COUNT`, `SUM`,
`AVG`, `MIN` and `MAX` or when it has a `GROUP BY`. The calls become metrics; the fields of
`GROUP BY` become nested buckets around them, the first field outermost.

Counting is approximate. `COUNT(*)` and `COUNT(1)` count the values of the field that every
record has; `COUNT(field)` counts distinct values.

## Main definitions

* `SelectItem.metricKind?`: the metric that an item calls for
* `FunctionCall.metric?`: the metric of a call, if it has a usable operand
* `extractMetrics`: the metrics of a select list
* `buildAggregations`: the whole tree
* `needsAggregation`: whether there is one
-/

namespace SqlSearch

/-- The metric that an item of the select list calls for. -/
def SelectItem.metricKind? (item : SelectItem) : Option MetricKind :=
  match item.expr with
  | .call call => MetricKind.ofFunction? call.name call.distinct
  | _ => none

/-- The statement is answered with aggregations. -/
def needsAggregation (select : Select) : Bool :=
  !select.groupBy.isEmpty || select.projection.any fun item => item.metricKind?.isSome

/-- The field that a call works on: a column or a quoted name, if anything is left of it. -/
def Argument.field? : Argument → Option String
  | .column path => nonEmpty (Field.bare path)
  | .literal text => if text.startsWith "'" then nonEmpty (Field.bare text) else none
  | .wildcard => none
  | .other _ => none
where
  /-- The name, unless it is empty. -/
  nonEmpty (name : String) : Option String := if name = "" then none else some name

/-- The arguments with which `COUNT` counts records. -/
def countsRecords : List Argument → Bool
  | [] => true
  | .wildcard :: _ => true
  | .literal text :: _ => text = "1"
  | _ => false

/-- The kind of a metric over a named field: counting a field counts its distinct values. -/
def MetricKind.ofField : MetricKind → MetricKind
  | .count => .distinctCount
  | kind => kind

/-- The metric that a call computes, if it has a usable operand. -/
def FunctionCall.metric? (call : FunctionCall) (kind : MetricKind) : Option Aggregation :=
  if kind = .count ∧ countsRecords call.args then some .countAll
  else (call.args.head?.bind Argument.field?).map (.metric kind.ofField)

/-- The name of the metric of an item: the name given to it, else its text in lower case. -/
def SelectItem.metricName (item : SelectItem) : String :=
  item.as?.getD (Text.lower item.text)

/-- **A metric is known by** the name given to it, or else by its text in lower case. -/
theorem SelectItem.metricName_eq_iff (item : SelectItem) (name : String) :
    item.metricName = name ↔
      item.as? = some name ∨ item.as? = none ∧ Text.lower item.text = name := by
  rw [metricName]
  cases item.as? with
  | none => simp
  | some given => simp

/-- Adds the metrics of a select list to those in `metrics`. An aggregate call without a usable
operand is passed over in permissive mode and refused in strict mode. -/
def collectMetrics (strictness : Strictness) (metrics : Aggregations) :
    List SelectItem → Except CompileError Aggregations
  | [] => .ok metrics
  | item :: rest =>
    match item.expr with
    | .call call =>
      match MetricKind.ofFunction? call.name call.distinct with
      | none => collectMetrics strictness metrics rest
      | some kind =>
        match call.metric? kind with
        | some metric =>
          collectMetrics strictness (metrics.insert item.metricName metric) rest
        | none =>
          if strictness.isStrict then .error (.function item.text)
          else collectMetrics strictness metrics rest
    | _ => collectMetrics strictness metrics rest

/-- The metrics of a select list. -/
def extractMetrics (strictness : Strictness) (projection : List SelectItem) :
    Except CompileError Aggregations :=
  collectMetrics strictness [] projection

/-- The metrics of a bucket: those of the select list, or a count if it has none. -/
def bucketMetrics (metrics : Aggregations) : Aggregations :=
  if metrics.isEmpty then [("count", .distinctCountAll)] else metrics

/-- The aggregation tree of a statement. -/
def buildAggregations (strictness : Strictness) (projection : List SelectItem)
    (groupBy : List String) : Except CompileError Aggregations := do
  let metrics ← extractMetrics strictness projection
  match groupBy with
  | [] => return metrics
  | _ => return nestBuckets (groupBy.map Field.bare) (bucketMetrics metrics)

end SqlSearch
