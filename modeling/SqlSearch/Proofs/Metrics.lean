import SqlSearch.Compile.Metrics
import SqlSearch.Proofs.Outcome

/-!
# Metrics of a select list

The select list is read from left to right, and each item either adds a metric, adds nothing,
or stops the reading.  Everything about the loop follows from the one equation
`collectMetrics_cons`, which says which of the three happens.

Which calls can be compiled is said here in terms of the call itself: its name, whether it has
`DISTINCT`, and its first argument.

## Main definitions

* `IsAggregateName`: the names of the five aggregates
* `FunctionCall.Usable`: the call has something to work on
* `SelectItem.CallsUnknown`, `SelectItem.CallsUnusable`: the two faults of an item
* `SelectItem.addMetric`: what an item adds to the metrics in front of it

## Main statements

* `MetricKind.ofFunction?_eq_none_iff`, `FunctionCall.metric?_eq_none_iff`: when a call has no
  metric
* `collectMetrics_cons`: one step of the loop
* `collectMetrics_reports`, `eq_foldl_of_collectMetrics`: the errors and the result of the loop
* `buildAggregations_reports`, `buildAggregations_refines`: the same of the whole tree
-/

namespace SqlSearch

/-! ## Names of aggregates -/

/-- The functions that compute a metric. -/
def aggregateNames : List String := ["COUNT", "SUM", "AVG", "MIN", "MAX"]

/-- The name is that of an aggregate, the case of ASCII letters apart. -/
def IsAggregateName (name : String) : Prop :=
  ∃ aggregate ∈ aggregateNames, Text.asciiLower name = Text.asciiLower aggregate

instance : DecidablePred IsAggregateName := fun name =>
  inferInstanceAs
    (Decidable (∃ aggregate ∈ aggregateNames, Text.asciiLower name =
      Text.asciiLower aggregate))

theorem isAggregateName_iff (name : String) :
    IsAggregateName name ↔
      Text.asciiLower name = "count" ∨ Text.asciiLower name = "sum" ∨
        Text.asciiLower name = "avg" ∨
        Text.asciiLower name = "min" ∨ Text.asciiLower name = "max" := by
  have lowered : aggregateNames.map Text.asciiLower =
      ["count", "sum", "avg", "min", "max"] := by
    decide
  have mapped : IsAggregateName name ↔
      Text.asciiLower name ∈ aggregateNames.map Text.asciiLower := by
    simp only [IsAggregateName, List.mem_map, eq_comm]
  rw [mapped, lowered]
  simp

namespace MetricKind

/-- A function has no metric exactly if it is no aggregate, whether or not it has
`DISTINCT`. -/
theorem ofFunction?_eq_none_iff (name : String) (distinct : Bool) :
    ofFunction? name distinct = none ↔ ¬ IsAggregateName name := by
  rw [isAggregateName_iff, ofFunction?]
  grind

/-- Only `COUNT` without `DISTINCT` counts all values. -/
theorem ofFunction?_eq_count_iff (name : String) (distinct : Bool) :
    ofFunction? name distinct = some .count ↔
      Text.asciiLower name = "count" ∧ distinct = false := by
  rw [ofFunction?]
  grind

end MetricKind

/-! ## Operands -/

/-- The argument names a field: it is a column or a quoted name, and something is left of
it. -/
def Argument.NamesField : Argument → Prop
  | .column path => Field.bare path ≠ ""
  | .literal text => text.toList.head? = some '\'' ∧ Field.bare text ≠ ""
  | .wildcard => False
  | .other _ => False

instance : DecidablePred Argument.NamesField
  | .column path => inferInstanceAs (Decidable (Field.bare path ≠ ""))
  | .literal text =>
    inferInstanceAs (Decidable (text.toList.head? = some '\'' ∧ Field.bare text ≠ ""))
  | .wildcard => inferInstanceAs (Decidable False)
  | .other _ => inferInstanceAs (Decidable False)

/-- A text starts with a single quote if its first character is one. -/
theorem startsWith_quote_iff (text : String) :
    text.startsWith "'" = true ↔ text.toList.head? = some '\'' := by
  rw [String.startsWith_string_iff]
  change ['\''] <+: text.toList ↔ _
  cases text.toList with
  | nil => simp
  | cons first rest => simp [List.cons_prefix_cons, eq_comm]

theorem Argument.field?_eq_none_iff (argument : Argument) :
    argument.field? = none ↔ ¬ argument.NamesField := by
  cases argument with
  | wildcard => simp [field?, NamesField]
  | column path => simp [field?, field?.nonEmpty, NamesField]
  | literal text =>
    simp only [field?, NamesField, ← startsWith_quote_iff]
    by_cases quoted : text.startsWith "'" = true <;> simp [quoted, field?.nonEmpty]
  | other text => simp [field?, NamesField]

namespace FunctionCall

/-- The call counts records: it is `COUNT` without `DISTINCT`, of nothing, of `*` or of `1`. -/
def CountsRecords (call : FunctionCall) : Prop :=
  Text.asciiLower call.name = Text.asciiLower "COUNT" ∧ call.distinct = false ∧
    (call.args = [] ∨ call.args.head? = some .wildcard ∨ call.args.head? = some (.literal "1"))

/-- The call has something to work on: it counts records, or its first argument names a
field. -/
def Usable (call : FunctionCall) : Prop :=
  call.CountsRecords ∨ ∃ argument ∈ call.args.head?, argument.NamesField

instance : DecidablePred CountsRecords := fun call =>
  inferInstanceAs (Decidable (Text.asciiLower call.name = Text.asciiLower "COUNT" ∧
    call.distinct = false ∧
    (call.args = [] ∨ call.args.head? = some .wildcard ∨
      call.args.head? = some (.literal "1"))))

instance : DecidablePred Usable := fun call =>
  inferInstanceAs (Decidable (call.CountsRecords ∨
    ∃ argument ∈ call.args.head?, argument.NamesField))

end FunctionCall

theorem countsRecords_iff (args : List Argument) :
    countsRecords args = true ↔
      args = [] ∨ args.head? = some .wildcard ∨ args.head? = some (.literal "1") := by
  cases args with
  | nil => simp [countsRecords]
  | cons first rest => cases first <;> simp [countsRecords]

/-- An aggregate has no metric exactly if it has nothing to work on. -/
theorem FunctionCall.metric?_eq_none_iff {call : FunctionCall} {kind : MetricKind}
    (known : MetricKind.ofFunction? call.name call.distinct = some kind) :
    call.metric? kind = none ↔ ¬ call.Usable := by
  have counts : kind = .count ∧ countsRecords call.args = true ↔ call.CountsRecords := by
    rw [countsRecords_iff, CountsRecords, ← Option.some_inj, ← known,
      MetricKind.ofFunction?_eq_count_iff, and_assoc]
    rfl
  have noField : (call.args.head?.bind Argument.field?) = none ↔
      ¬ ∃ argument ∈ call.args.head?, argument.NamesField := by
    cases call.args.head? with
    | none => simp
    | some argument => simp [Argument.field?_eq_none_iff]
  rw [metric?, Usable, ← counts]
  by_cases isCount : kind = .count ∧ countsRecords call.args = true
  · simp [isCount]
  · rw [if_neg isCount, Option.map_eq_none_iff, noField, or_iff_right isCount]

/-! ## Items -/

namespace SelectItem

/-- The call of an item, if it is one. -/
def call? (item : SelectItem) : Option FunctionCall :=
  match item.expr with
  | .call call => some call
  | _ => none

/-- The item calls a function that is no aggregate. -/
def CallsUnknown (item : SelectItem) : Prop :=
  ∃ call ∈ item.call?, ¬ IsAggregateName call.name

/-- The item calls an aggregate that has nothing to work on. -/
def CallsUnusable (item : SelectItem) : Prop :=
  ∃ call ∈ item.call?, IsAggregateName call.name ∧ ¬ call.Usable

instance : DecidablePred CallsUnknown := fun item =>
  inferInstanceAs (Decidable (∃ call ∈ item.call?, ¬ IsAggregateName call.name))

instance : DecidablePred CallsUnusable := fun item =>
  inferInstanceAs (Decidable (∃ call ∈ item.call?, IsAggregateName call.name ∧ ¬ call.Usable))

/-- The metric of an item, if it calls an aggregate that has something to work on. -/
def metric? (item : SelectItem) : Option Aggregation :=
  item.call?.bind fun call =>
    (MetricKind.ofFunction? call.name call.distinct).bind call.metric?

/-- **What an item adds** to the metrics of the items in front of it. -/
def addMetric (metrics : Aggregations) (item : SelectItem) : Aggregations :=
  match item.metric? with
  | some metric => metrics.insert item.metricName metric
  | none => metrics

theorem metricKind?_eq (item : SelectItem) :
    item.metricKind? =
      item.call?.bind fun call => MetricKind.ofFunction? call.name call.distinct := by
  rw [metricKind?, call?]
  cases item.expr <;> rfl

/-- An item is unusable if it calls for a metric and has none. -/
theorem callsUnusable_iff (item : SelectItem) :
    item.CallsUnusable ↔ item.metricKind?.isSome = true ∧ item.metric? = none := by
  rw [metricKind?_eq, metric?, CallsUnusable]
  cases item.call? with
  | none => simp
  | some call =>
    cases known : MetricKind.ofFunction? call.name call.distinct with
    | none =>
      have unknown := (MetricKind.ofFunction?_eq_none_iff _ _).mp known
      simp [known, unknown]
    | some kind =>
      have aggregate : IsAggregateName call.name := by
        rw [← Decidable.not_not (p := IsAggregateName call.name),
          ← MetricKind.ofFunction?_eq_none_iff _ call.distinct, known]
        exact Option.some_ne_none kind
      simp [known, aggregate, FunctionCall.metric?_eq_none_iff known]

end SelectItem

/-! ## Errors of items -/

/-- The errors of the items of a list that have a fault, each named by its text. -/
def functionFaults (Faulty : SelectItem → Prop) [DecidablePred Faulty]
    (items : List SelectItem) :
    List CompileError :=
  (items.filter fun item => Faulty item).map fun item => .function item.text

section FunctionFaults

variable {Faulty : SelectItem → Prop} [DecidablePred Faulty] {item : SelectItem}

@[simp] theorem functionFaults_nil : functionFaults Faulty [] = [] := rfl

theorem functionFaults_cons_of_faulty (faulty : Faulty item) (rest : List SelectItem) :
    functionFaults Faulty (item :: rest) =
      .function item.text :: functionFaults Faulty rest := by
  simp [functionFaults, faulty]

theorem functionFaults_cons_of_sound (sound : ¬ Faulty item) (rest : List SelectItem) :
    functionFaults Faulty (item :: rest) = functionFaults Faulty rest := by
  simp [functionFaults, sound]

theorem functionFaults_eq_nil_iff {items : List SelectItem} :
    functionFaults Faulty items = [] ↔ ∀ item ∈ items, ¬ Faulty item := by
  simp [functionFaults]

end FunctionFaults

/-! ## The loop over the select list -/

/-- **One step of the loop.** An unusable item stops it in strict mode; any other item adds
what it has. -/
theorem collectMetrics_cons (strictness : Strictness) (metrics : Aggregations)
    (item : SelectItem) (rest : List SelectItem) :
    collectMetrics strictness metrics (item :: rest) =
      if strictness = .strict ∧ item.CallsUnusable then .error (.function item.text)
      else collectMetrics strictness (item.addMetric metrics) rest := by
  simp only [SelectItem.callsUnusable_iff, SelectItem.addMetric, SelectItem.metric?,
    SelectItem.metricKind?, SelectItem.call?, collectMetrics]
  cases item.expr with
  | wildcard | column path | other text => simp
  | call call =>
    -- The code asks first for the kind and then for the metric; only a call with the one and
    -- without the other depends on the mode.
    cases known : MetricKind.ofFunction? call.name call.distinct with
    | none => simp [known]
    | some kind =>
      cases found : call.metric? kind with
      | some metric => simp [known, found]
      | none => cases strictness <;> simp [known, found, Strictness.isStrict]

/-- The loop reports the first unusable item, in strict mode only. -/
theorem collectMetrics_reports (strictness : Strictness) (metrics : Aggregations)
    (items : List SelectItem) :
    Reports (collectMetrics strictness metrics items)
      (strictness.enforce (functionFaults SelectItem.CallsUnusable items)) := by
  induction items generalizing metrics with
  | nil =>
    rw [functionFaults_nil, Strictness.enforce_nil]
    exact reports_ok metrics
  | cons item rest ih =>
    rw [collectMetrics_cons]
    by_cases unusable : item.CallsUnusable
    · rw [functionFaults_cons_of_faulty unusable]
      cases strictness with
      | permissive => exact ih _
      | strict =>
        rw [if_pos ⟨rfl, unusable⟩]
        exact reports_error _ _
    · rw [functionFaults_cons_of_sound unusable, if_neg fun stops => unusable stops.2]
      exact ih _

/-- The result of the loop does not depend on the mode: every item has added what it has. -/
theorem eq_foldl_of_collectMetrics {strictness : Strictness} {metrics result : Aggregations}
    {items : List SelectItem}
    (returned : collectMetrics strictness metrics items = .ok result) :
    result = items.foldl SelectItem.addMetric metrics := by
  induction items generalizing metrics with
  | nil =>
    cases returned
    rfl
  | cons item rest ih =>
    rw [collectMetrics_cons] at returned
    split at returned
    · cases returned
    · exact ih returned

/-- In permissive mode every select list has metrics. -/
theorem collectMetrics_permissive (metrics : Aggregations) (items : List SelectItem) :
    collectMetrics .permissive metrics items =
      .ok (items.foldl SelectItem.addMetric metrics) := by
  obtain ⟨result, returned⟩ :=
    (collectMetrics_reports .permissive metrics items).exists_ok_iff.mpr rfl
  rw [returned, eq_foldl_of_collectMetrics returned]

/-! ## The whole tree -/

/-- The tree is built unless the select list has an unusable item and the mode is strict. -/
theorem buildAggregations_reports (strictness : Strictness) (items : List SelectItem)
    (groupBy : List String) :
    Reports (buildAggregations strictness items groupBy)
      (strictness.enforce (functionFaults SelectItem.CallsUnusable items)) := by
  rw [buildAggregations]
  cases groupBy with
  | nil => exact (collectMetrics_reports strictness [] items).map id
  | cons field fields =>
    exact (collectMetrics_reports strictness [] items).map fun metrics =>
      nestBuckets ((field :: fields).map Field.bare) (bucketMetrics metrics)

/-- A tree of strict mode is the tree of permissive mode. -/
theorem buildAggregations_refines (items : List SelectItem) (groupBy : List String) :
    Refines (buildAggregations .strict items groupBy)
      (buildAggregations .permissive items groupBy) := by
  have metrics : Refines (extractMetrics .strict items)
      (extractMetrics .permissive items) := by
    intro result returned
    rw [eq_foldl_of_collectMetrics returned]
    exact collectMetrics_permissive [] items
  rw [buildAggregations, buildAggregations]
  exact metrics.bind fun result => Refines.refl _

/-- Without aggregation no item can be unusable, so that it does no harm to look for unusable
items only when a tree is built. -/
theorem unusable_eq_nil_of_plain {select : Select} (plain : needsAggregation select = false) :
    functionFaults SelectItem.CallsUnusable select.projection = [] := by
  rw [functionFaults_eq_nil_iff]
  intro item member
  rw [SelectItem.callsUnusable_iff]
  rintro ⟨callsFor, -⟩
  have found : needsAggregation select = true := by
    rw [needsAggregation, Bool.or_eq_true, List.any_eq_true]
    exact Or.inr ⟨item, member, callsFor⟩
  rw [found] at plain
  cases plain

end SqlSearch
