import SqlSearch.Proofs.MetricTable

/-!
# Buckets from the outside in

The tree of aggregations is built from the inside out: the table of metrics is put into the
bucket of the last field, the result into the bucket of the field before it, and so on.  It is
read from the outside in.  This module goes down the finished tree level by level and finds the
fields of `GROUP BY` in order, repeated ones included, and the metrics below the last of them.

## Main definitions

* `Aggregations.level?`: the table at a depth of the tree
* `Aggregations.MetricsOnly`: the table has no buckets

## Main statements

* `nestBuckets_append`: buckets nest in two steps as in one
* `exists_bucket_of_getElem?`, `level?_nestBuckets`: the tables inside and below nested buckets
* `buildAggregations_eq_ok_iff`: the two forms of a tree
* `metricsOnly_of_extractMetrics`: the table of a select list has no buckets
* `buildAggregations_levels`: the shape of the tree
-/

namespace SqlSearch

/-! ## Levels of a tree -/

namespace Aggregations

/-- **The table at a depth** of a tree that goes down without branching: each step leads from a
table into the bucket that is its only entry. -/
def level? : Nat → Aggregations → Option Aggregations
  | 0, table => some table
  | depth + 1, [(_, node)] => node.inner?.bind (level? depth)
  | _ + 1, _ => none

/-- The table has no buckets. -/
def MetricsOnly (table : Aggregations) : Prop :=
  ∀ entry ∈ table, ∃ kind field, entry.2 = .metric kind field

/-- A tree ends where there are only metrics. -/
theorem MetricsOnly.level?_one {table : Aggregations} (metrics : table.MetricsOnly) :
    table.level? 1 = none := by
  cases table with
  | nil => rfl
  | cons entry rest =>
    cases rest with
    | nil =>
      obtain ⟨kind, field, isMetric⟩ := metrics entry (List.mem_singleton_self entry)
      rw [level?, isMetric]
      rfl
    | cons entry' rest => rfl

end Aggregations

/-! ## Nested buckets -/

/-- Buckets nest in two steps as in one. -/
theorem nestBuckets_append (outer inner : List String) (metrics : Aggregations) :
    nestBuckets (outer ++ inner) metrics = nestBuckets outer (nestBuckets inner metrics) :=
  List.foldr_append

/-- The bucket of a field lies as deep as there are fields in front of it, alone in its
table. -/
theorem exists_bucket_of_getElem? {fields : List String} {depth : Nat} {field : String}
    (atDepth : fields[depth]? = some field) (inner : Aggregations) :
    ∃ nested, (nestBuckets fields inner).level? depth =
      some [(bucketName field, .terms field nested)] ∧
      (nestBuckets fields inner).level? (depth + 1) = some nested := by
  induction fields generalizing depth with
  | nil => cases atDepth
  | cons first rest ih =>
    cases depth with
    | zero =>
      cases atDepth
      exact ⟨nestBuckets rest inner, rfl, rfl⟩
    | succ depth => exact ih atDepth

/-- Below the buckets of all fields the tree goes on as the inner one does. -/
theorem level?_nestBuckets (fields : List String) (inner : Aggregations) (depth : Nat) :
    (nestBuckets fields inner).level? (fields.length + depth) = inner.level? depth := by
  induction fields with
  | nil => rw [List.length_nil, Nat.zero_add, nestBuckets_nil]
  | cons field rest ih =>
    rw [List.length_cons, Nat.succ_add]
    exact ih

/-! ## Metrics -/

/-- A call computes a metric, never a bucket. -/
theorem FunctionCall.exists_eq_metric_of_metric? {call : FunctionCall} {kind : MetricKind}
    {node : Aggregation} (found : call.metric? kind = some node) :
    ∃ kind' field, node = .metric kind' field := by
  rw [metric?] at found
  split at found
  · cases found
    exact ⟨_, _, rfl⟩
  · obtain ⟨field, -, rfl⟩ := Option.map_eq_some_iff.mp found
    exact ⟨_, field, rfl⟩

theorem SelectItem.exists_eq_metric_of_metric? {item : SelectItem} {node : Aggregation}
    (found : item.metric? = some node) : ∃ kind field, node = .metric kind field := by
  obtain ⟨call, -, called⟩ := Option.bind_eq_some_iff.mp found
  obtain ⟨kind, -, computed⟩ := Option.bind_eq_some_iff.mp called
  exact FunctionCall.exists_eq_metric_of_metric? computed

/-- The table of a select list has no buckets. -/
theorem metricsOnly_of_extractMetrics {strictness : Strictness} {items : List SelectItem}
    {table : Aggregations} (returned : extractMetrics strictness items = .ok table) :
    table.MetricsOnly := by
  intro entry member
  rw [eq_foldl_of_extractMetrics returned] at member
  obtain ⟨item, -, found⟩ := exists_item_of_mem_foldl_addMetric member
  exact SelectItem.exists_eq_metric_of_metric? found

/-- The metrics of a bucket are metrics, whether or not the count has to stand in. -/
theorem Aggregations.MetricsOnly.bucketMetrics {table : Aggregations}
    (metrics : table.MetricsOnly) :
    (bucketMetrics table).MetricsOnly := by
  cases table with
  | nil =>
    intro entry member
    cases List.mem_singleton.mp member
    exact ⟨_, _, rfl⟩
  | cons entry rest => exact metrics

/-! ## The whole tree -/

/-- **The two forms of a tree**: the table of metrics, or the same inside the buckets of the
fields. -/
theorem buildAggregations_eq_ok_iff {strictness : Strictness} {items : List SelectItem}
    {groupBy : List String} {tree : Aggregations} :
    buildAggregations strictness items groupBy = .ok tree ↔
      ∃ metrics, extractMetrics strictness items = .ok metrics ∧
        ((groupBy = [] ∧ tree = metrics) ∨
          (groupBy ≠ [] ∧ tree =
            nestBuckets (groupBy.map Field.bare) (bucketMetrics metrics))) := by
  rw [buildAggregations, bind_eq_ok_iff]
  refine exists_congr fun metrics => and_congr_right fun _ => ?_
  cases groupBy with
  | nil => simp [pure, Except.pure, eq_comm]
  | cons path paths => simp [pure, Except.pure, eq_comm]

/-- **The shape of the tree.** Without `GROUP BY` it is the table of metrics. With `GROUP BY`
it has one level for each field, in order and with repeated fields kept apart. Each level is a
table with a single bucket, named after its field. Below the last one are the metrics, or a
count if there are none, and nothing deeper. Buckets nest in two steps as in one. -/
theorem buildAggregations_levels :
    (∀ (select : Select) (strictness : Strictness) (tree : Aggregations),
      buildAggregations strictness select.projection select.groupBy = .ok tree →
      ∃ metrics, extractMetrics strictness select.projection = .ok metrics ∧
        (select.groupBy = [] → tree = metrics ∧ tree.MetricsOnly) ∧
        (select.groupBy ≠ [] →
          (∀ depth path, select.groupBy[depth]? = some path →
            ∃ nested,
              tree.level? depth =
                some [("group_by_" ++ Field.bare path, .terms (Field.bare path) nested)] ∧
              tree.level? (depth + 1) = some nested) ∧
          ∃ innermost, tree.level? select.groupBy.length = some innermost ∧
            (metrics ≠ [] → innermost = metrics) ∧
            (metrics = [] → innermost = [("count", .metric .distinctCount "_index")]) ∧
            innermost.MetricsOnly ∧ tree.level? (select.groupBy.length + 1) = none)) ∧
    ∀ (outer inner : List String) (metrics : Aggregations),
      nestBuckets (outer ++ inner) metrics =
        nestBuckets outer (nestBuckets inner metrics) := by
  refine ⟨?_, nestBuckets_append⟩
  intro select strictness tree built
  obtain ⟨metrics, extracted, form⟩ := buildAggregations_eq_ok_iff.mp built
  have metricsOnly : metrics.MetricsOnly := metricsOnly_of_extractMetrics extracted
  refine ⟨metrics, extracted, ?_, ?_⟩
  · intro noFields
    rcases form with ⟨-, rfl⟩ | ⟨fields, -⟩
    · exact ⟨rfl, metricsOnly⟩
    · exact absurd noFields fields
  · intro fields
    rcases form with ⟨noFields, -⟩ | ⟨-, rfl⟩
    · exact absurd noFields fields
    -- The levels are counted by the fields as they are written; the buckets have their bare
    -- names.
    have below (depth : Nat) :=
      level?_nestBuckets (select.groupBy.map Field.bare) (bucketMetrics metrics) depth
    rw [List.length_map] at below
    refine ⟨?_, bucketMetrics metrics, below 0, ?_, ?_, metricsOnly.bucketMetrics, ?_⟩
    · intro depth path atDepth
      have bare : (select.groupBy.map Field.bare)[depth]? = some (Field.bare path) := by
        rw [List.getElem?_map, atDepth]
        rfl
      exact exists_bucket_of_getElem? bare (bucketMetrics metrics)
    · intro nonEmpty
      rw [bucketMetrics, if_neg (by simpa using nonEmpty)]
    · rintro rfl
      rfl
    · rw [below 1]
      exact metricsOnly.bucketMetrics.level?_one

/-- `SELECT name, SUM(t.pay) AS total FROM staff GROUP BY t.city, rank, city` -/
def regroupedSelect : Select :=
  { projection :=
      [{ expr := .column "name" },
        { expr := .call { name := "SUM", args := [.column "t.pay"] }, as? := some "total" }]
    source := .table "staff"
    groupBy := ["t.city", "rank", "city"] }

/-- The field that comes again has a level of its own, with the metrics below it. -/
theorem buildAggregations_levels_regrouped :
    ∃ tree nested,
      buildAggregations .strict regroupedSelect.projection regroupedSelect.groupBy =
        .ok tree ∧
      tree.level? 2 =
        some [("group_by_" ++ Field.bare "city", .terms (Field.bare "city") nested)] ∧
      tree.level? 3 = some [("total", .metric .sum "pay")] := by
  have extracted : extractMetrics .strict regroupedSelect.projection =
      .ok [("total", .metric .sum "pay")] := rfl
  obtain ⟨tree, built⟩ :
      ∃ tree, buildAggregations .strict regroupedSelect.projection regroupedSelect.groupBy =
        .ok tree :=
    ⟨_, rfl⟩
  obtain ⟨metrics, extracted', -, shape⟩ :=
    buildAggregations_levels.1 regroupedSelect .strict tree built
  rw [extracted] at extracted'
  cases extracted'
  obtain ⟨levels, innermost, below, same, -⟩ := shape (by simp [regroupedSelect])
  obtain ⟨nested, third, -⟩ := levels 2 "city" rfl
  rw [same (List.cons_ne_nil _ _)] at below
  exact ⟨tree, nested, built, third, below⟩

end SqlSearch
