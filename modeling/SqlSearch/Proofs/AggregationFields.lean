import SqlSearch.Proofs.Buckets
import SqlSearch.Proofs.FieldName
import SqlSearch.Proofs.Shape

/-!
# Fields of aggregations

A node of the tree of aggregations gets its field in one of three ways.  A bucket has the bare
name of a path of `GROUP BY`.  A metric of an operand has the bare name of a column or of a
quoted name, if anything is left of it.  A count of records, and the count that stands in for
missing metrics, have the field that every record has.

What is said here of a node is shown for each of the three, and then carried down the tree by
`Aggregations.forall_occurs_nestBuckets`.

## Main definitions

* `Aggregations.Occurs`: a node occurs in a tree, at any depth
* `Aggregation.FieldSound`: what holds of the field of every node

## Main statements

* `FunctionCall.metric?_cases`: the two kinds of metrics
* `Aggregations.forall_occurs_nestBuckets`: what holds of a bucket and of the inner nodes holds
  of all nodes
* `fieldSound_of_buildAggregations`: the fields of a tree are sound
* `Statement.aggregation_fields_are_bare`: the fields of the aggregations of a document
-/

namespace SqlSearch

/-! ## Nodes of a tree -/

namespace Aggregations

/-- The node **occurs** in a tree: it is an entry of the table, or it occurs in the table
inside a bucket. -/
inductive Occurs (node : Aggregation) : Aggregations → Prop
  | entry {table : Aggregations} {name : String} (member : (name, node) ∈ table) :
    Occurs node table
  | inside {table inner : Aggregations} {name field : String}
    (member : (name, .terms field inner) ∈ table)
    (below : Occurs node inner) : Occurs node table

/-- Where there are only metrics, nothing occurs but the entries of the table. -/
theorem MetricsOnly.exists_entry_of_occurs {table : Aggregations} {node : Aggregation}
    (metrics : table.MetricsOnly) (occurs : table.Occurs node) :
    ∃ entry ∈ table, entry.2 = node := by
  cases occurs with
  | entry member => exact ⟨_, member, rfl⟩
  | inside member below =>
    obtain ⟨kind, field, impossible⟩ := metrics _ member
    cases impossible

/-- What holds of the bucket of every field, and of the nodes that occur inside, holds of all
nodes that occur in the nested buckets. -/
theorem forall_occurs_nestBuckets {P : Aggregation → Prop} {fields : List String}
    {inner : Aggregations} (bucket : ∀ field ∈ fields, ∀ nested, P (.terms field nested))
    (below : ∀ node, inner.Occurs node → P node) :
    ∀ node, (nestBuckets fields inner).Occurs node → P node := by
  induction fields with
  | nil => exact below
  | cons field rest ih =>
    have rest := ih fun other member => bucket other (List.mem_cons_of_mem field member)
    intro node occurs
    rw [nestBuckets_cons] at occurs
    cases occurs with
    | entry member =>
      cases List.mem_singleton.mp member
      exact bucket field List.mem_cons_self _
    | inside member deeper =>
      cases List.mem_singleton.mp member
      exact rest node deeper

end Aggregations

/-! ## Fields of metrics -/

/-- A field that a call works on has a name without a period. -/
theorem Argument.name_of_field? {argument : Argument} {field : String}
    (found : argument.field? = some field) :
    field ≠ "" ∧ '.' ∉ field.toList := by
  have ofPath : ∀ {path : String}, field?.nonEmpty (Field.bare path) = some field →
      field ≠ "" ∧ '.' ∉ field.toList := by
    intro path left
    rw [field?.nonEmpty, Option.ite_none_left_eq_some, Option.some_inj] at left
    obtain ⟨nonEmpty, rfl⟩ := left
    exact ⟨nonEmpty, Field.period_notMem_bare path⟩
  cases argument with
  | wildcard | other text => cases found
  | column path => exact ofPath found
  | literal text =>
    rw [field?, Option.ite_none_right_eq_some] at found
    exact ofPath found.2

/-- A metric over a named field does not count all values. -/
theorem MetricKind.ofField_ne_count (kind : MetricKind) : kind.ofField ≠ .count := by
  cases kind <;> simp [ofField]

/-- `COUNT` of nothing, of `*` or of `1` is the count that asks for records. -/
theorem FunctionCall.countsRecords_of_kind {call : FunctionCall} {kind : MetricKind}
    (known : MetricKind.ofFunction? call.name call.distinct = some kind)
    (counts : kind = .count ∧ countsRecords call.args = true) : call.CountsRecords := by
  obtain ⟨rfl, args⟩ := counts
  obtain ⟨name, plain⟩ := (MetricKind.ofFunction?_eq_count_iff _ _).mp known
  exact ⟨name, plain, (countsRecords_iff call.args).mp args⟩

/-- **The two kinds of metrics**: the count of records, and a metric over the field that the
first argument names. -/
theorem FunctionCall.metric?_cases {call : FunctionCall} {kind : MetricKind}
    {node : Aggregation} (known : MetricKind.ofFunction? call.name call.distinct = some kind)
    (found : call.metric? kind = some node) :
    (call.CountsRecords ∧ node = .countAll) ∨
      ∃ argument field, call.args.head? = some argument ∧ argument.field? = some field ∧
        node = .metric kind.ofField field := by
  rw [metric?] at found
  split at found
  · next counts =>
    exact Or.inl ⟨countsRecords_of_kind known counts, (Option.some.inj found).symm⟩
  · obtain ⟨field, named, rfl⟩ := Option.map_eq_some_iff.mp found
    obtain ⟨argument, first, named⟩ := Option.bind_eq_some_iff.mp named
    exact Or.inr ⟨argument, field, first, named, rfl⟩

/-! ## Every node -/

/-- **What holds of the field of every node** of the tree of a select list: it has no period,
that of a metric has a name, and values are counted of no field but the one that every record
has, and only for a call that counts records. -/
structure Aggregation.FieldSound (items : List SelectItem) (node : Aggregation) : Prop where
  /-- The field has no period. -/
  noPeriod : '.' ∉ node.field.toList
  /-- The field of a metric has a name. -/
  nonEmpty : ∀ kind field, node = .metric kind field → field ≠ ""
  /-- Values are counted of the field that every record has. -/
  countField : ∀ field, node = .metric .count field → field = Aggregation.countField
  /-- Values are counted for a call that counts records. -/
  countsRecords : ∀ field, node = .metric .count field →
    ∃ item ∈ items, ∃ call ∈ item.call?, call.CountsRecords

namespace Aggregation

variable {items : List SelectItem}

/-- The bucket of a path is sound, whatever it holds. -/
theorem fieldSound_terms (path : String) (inner : Aggregations) :
    FieldSound items (.terms (Field.bare path) inner) :=
  ⟨Field.period_notMem_bare path, nofun, nofun, nofun⟩

/-- The count that stands in for missing metrics is sound. -/
theorem fieldSound_distinctCountAll : FieldSound items .distinctCountAll := by
  refine ⟨by decide, ?_, nofun, nofun⟩
  rintro kind field ⟨⟩
  decide

/-- The metric of an item of the list is sound. -/
theorem fieldSound_of_metric? {item : SelectItem} {node : Aggregation} (member : item ∈ items)
    (found : item.metric? = some node) : FieldSound items node := by
  obtain ⟨call, isCall, called⟩ := Option.bind_eq_some_iff.mp found
  obtain ⟨kind, known, computed⟩ := Option.bind_eq_some_iff.mp called
  obtain ⟨counts, rfl⟩ | ⟨argument, field, -, named, rfl⟩ :=
    FunctionCall.metric?_cases known computed
  · refine ⟨by decide, ?_, ?_, fun _ _ => ⟨item, member, call, isCall, counts⟩⟩
    · rintro kind field ⟨⟩
      decide
    · rintro field ⟨⟩
      rfl
  · obtain ⟨nonEmpty, noPeriod⟩ := Argument.name_of_field? named
    have noCount : ∀ other, Aggregation.metric kind.ofField field ≠ .metric .count other := by
      intro other same
      exact kind.ofField_ne_count (Aggregation.metric.inj same).1
    refine ⟨noPeriod, ?_, fun other same => absurd same (noCount other),
      fun other same => absurd same (noCount other)⟩
    rintro kind' field' ⟨⟩
    exact nonEmpty

end Aggregation

section Tree

variable {strictness : Strictness} {items : List SelectItem} {metrics : Aggregations}

theorem fieldSound_of_extractMetrics
    (extracted : extractMetrics strictness items = .ok metrics) (node : Aggregation)
    (occurs : metrics.Occurs node) : node.FieldSound items := by
  obtain ⟨entry, member, rfl⟩ :=
    (metricsOnly_of_extractMetrics extracted).exists_entry_of_occurs occurs
  rw [eq_foldl_of_extractMetrics extracted] at member
  obtain ⟨item, among, found⟩ := exists_item_of_mem_foldl_addMetric member
  exact Aggregation.fieldSound_of_metric? among found

theorem fieldSound_bucketMetrics (sound : ∀ node, metrics.Occurs node → node.FieldSound items)
    (node : Aggregation) (occurs : (bucketMetrics metrics).Occurs node) :
    node.FieldSound items := by
  cases metrics with
  | cons entry rest => exact sound node occurs
  | nil =>
    have count : (bucketMetrics []).MetricsOnly := Aggregations.MetricsOnly.bucketMetrics nofun
    obtain ⟨entry, member, rfl⟩ := count.exists_entry_of_occurs occurs
    cases List.mem_singleton.mp member
    exact Aggregation.fieldSound_distinctCountAll

/-- **The fields of a tree are sound**, at every depth. -/
theorem fieldSound_of_buildAggregations {groupBy : List String} {tree : Aggregations}
    (built : buildAggregations strictness items groupBy = .ok tree) :
    ∀ node, tree.Occurs node → node.FieldSound items := by
  obtain ⟨metrics, extracted, form⟩ := buildAggregations_eq_ok_iff.mp built
  have sound := fieldSound_of_extractMetrics extracted
  rcases form with ⟨-, rfl⟩ | ⟨-, rfl⟩
  · exact sound
  · apply Aggregations.forall_occurs_nestBuckets
    · intro field member nested
      obtain ⟨path, -, rfl⟩ := List.mem_map.mp member
      exact Aggregation.fieldSound_terms path nested
    · exact fieldSound_bucketMetrics sound

end Tree

namespace Statement

/-- **The fields of the aggregations of a document.** Of every node, at any depth: its field
has no period; the field of a metric is not empty; and a metric that is written as a count of
values is over the field `_index`, and the statement has a `COUNT` of nothing, of `*` or of `1`
for it, so that `COUNT` of a named field is never a count of values. -/
theorem aggregation_fields_are_bare (statement : Statement) (strictness : Strictness)
    (document : Document) (compiled : statement.compile strictness = .ok document)
    (tree : Aggregations) (present : document.aggregations = some tree) (node : Aggregation)
    (occurs : tree.Occurs node) :
    '.' ∉ node.field.toList ∧
      ∀ kind field, node = .metric kind field →
        field ≠ "" ∧
          (kind.key = "value_count" →
            field = "_index" ∧
              ∃ select, statement = .select select ∧
                ∃ item ∈ select.projection, ∃ call ∈ item.call?, call.CountsRecords) := by
  obtain ⟨select, rfl, built⟩ := exists_select_of_compile compiled
  obtain ⟨query, -, pattern⟩ := Select.compile_eq_ok_iff.mp built
  rcases pattern with ⟨-, tree', ofSelect, rfl⟩ | ⟨-, rfl⟩
  · cases present
    have sound : node.FieldSound select.projection :=
      fieldSound_of_buildAggregations ofSelect node occurs
    refine ⟨sound.noPeriod,
      fun kind field isMetric => ⟨sound.nonEmpty kind field isMetric, fun written => ?_⟩⟩
    have isCount : kind = .count := by
      cases kind with
      | count => rfl
      | distinctCount | sum | avg | min | max => exact absurd written (by decide)
    subst isCount
    exact ⟨sound.countField field isMetric, select, rfl, sound.countsRecords field isMetric⟩
  · cases present

/-- `SELECT COUNT(*) AS n, COUNT(t.rank) AS ranks FROM staff GROUP BY 'org.city', t."team"`, by
its paths. -/
def countedStatement : Statement :=
  .select
    { projection :=
        [{ expr := .call { name := "COUNT", args := [.wildcard] }, as? := some "n" },
          { expr := .call { name := "COUNT", args := [.column "t.rank"] },
            as? := some "ranks" }]
      source := .table "staff"
      groupBy := ["'org.city'", "t.\"team\""] }

/-- The tree of `countedStatement`. -/
def countedTree : Aggregations :=
  [("group_by_city", .terms "city"
    [("group_by_team", .terms "team"
      [("n", .metric .count "_index"), ("ranks", .metric .distinctCount "rank")])])]

/-- The count of values below the two buckets is over `_index`, and comes from `COUNT(*)`. -/
theorem aggregation_fields_are_bare_counted :
    countedStatement.compile .strict = .ok ⟨.matchAll, 0, 0, some countedTree, []⟩ ∧
      countedTree.Occurs (.metric .count "_index") ∧
      ∃ select, countedStatement = .select select ∧
        ∃ item ∈ select.projection, ∃ call ∈ item.call?, call.CountsRecords := by
  have compiled : countedStatement.compile .strict =
      .ok ⟨.matchAll, 0, 0, some countedTree, []⟩ := rfl
  have occurs : countedTree.Occurs (.metric .count "_index") :=
    .inside List.mem_cons_self (.inside List.mem_cons_self (.entry List.mem_cons_self))
  have fields :=
    aggregation_fields_are_bare countedStatement .strict _ compiled countedTree rfl _ occurs
  exact ⟨compiled, occurs, ((fields.2 .count "_index" rfl).2 rfl).2⟩

end Statement

end SqlSearch
