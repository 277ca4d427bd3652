import SqlSearch.Proofs.Shape

/-!
# What a document depends on

Most of a statement leaves no trace in its document.  Of the table only that there is one
matters; of the select list only the calls of aggregates, and of such a call only its
*request*: which metric, of what, under which name.  Columns, wildcards, other expressions and
unknown functions may stand anywhere between the calls.  The counts and the order of the
records matter only without aggregations.

The proof reads the metrics of a select list off its requests, item by item, and the rest off
the two patterns of a document.

## Main definitions

* `MetricRequest`, `SelectItem.request?`: what counts of a call of an aggregate
* `Select.requests`: the requests of a select list, in order

## Main statements

* `foldl_addMetric_eq`: the metrics of a select list are those of its requests
* `Select.aggregates_iff_requests`: whether there are aggregations depends on the fields and
  the requests
* `Select.documents_agree`: two `SELECT`s that agree on what counts have one document
-/

namespace SqlSearch

/-! ## Requests -/

/-- **What counts of a call** of an aggregate: the metric it calls for, its first argument, and
its name in the document. -/
structure MetricRequest where
  /-- The metric. -/
  kind : MetricKind
  /-- The first argument, if there is one. -/
  operand : Option Argument
  /-- The name in the document. -/
  name : String
  deriving DecidableEq, Repr

namespace MetricRequest

/-- The request asks for the number of records. -/
def CountsRecords (request : MetricRequest) : Prop :=
  request.kind = .count ∧
    (request.operand = none ∨ request.operand = some .wildcard ∨
      request.operand = some (.literal "1"))

instance : DecidablePred CountsRecords := fun request =>
  inferInstanceAs (Decidable (request.kind = .count ∧
    (request.operand = none ∨ request.operand = some .wildcard ∨
      request.operand = some (.literal "1"))))

/-- The metric of a request, if its operand is usable. -/
def metric? (request : MetricRequest) : Option Aggregation :=
  if request.CountsRecords then some .countAll
  else (request.operand.bind Argument.field?).map (.metric request.kind.ofField)

/-- Adds the metric of a request to those in front of it. -/
def addTo (metrics : Aggregations) (request : MetricRequest) : Aggregations :=
  request.metric?.elim metrics (metrics.insert request.name)

end MetricRequest

namespace SelectItem

/-- The request of an item, if it calls an aggregate. -/
def request? (item : SelectItem) : Option MetricRequest :=
  item.call?.bind fun call =>
    (MetricKind.ofFunction? call.name call.distinct).map fun kind =>
      ⟨kind, call.args.head?, item.metricName⟩

/-- An item has a request exactly if it calls an aggregate. -/
theorem isSome_request?_iff (item : SelectItem) :
    item.request?.isSome = true ↔ item.CallsAggregate := by
  rw [← isSome_metricKind?_iff, metricKind?_eq, request?]
  cases item.call? <;> simp

end SelectItem

/-- The requests of a select list, in order. -/
def Select.requests (select : Select) : List MetricRequest :=
  select.projection.filterMap SelectItem.request?

/-! ## The metrics of a select list -/

/-- The metric of a call is that of its request: arguments behind the first do not count. -/
theorem FunctionCall.metric?_eq_request (call : FunctionCall) (kind : MetricKind)
    (name : String) :
    call.metric? kind = (⟨kind, call.args.head?, name⟩ : MetricRequest).metric? := by
  have counts : kind = .count ∧ countsRecords call.args = true ↔
      (⟨kind, call.args.head?, name⟩ : MetricRequest).CountsRecords := by
    rw [countsRecords_iff, MetricRequest.CountsRecords, List.head?_eq_none_iff]
  rw [metric?, MetricRequest.metric?]
  simp only [counts]

/-- An item adds what its request adds; an item without a request adds nothing. -/
theorem SelectItem.addMetric_eq (metrics : Aggregations) (item : SelectItem) :
    item.addMetric metrics = item.request?.elim metrics (MetricRequest.addTo metrics) := by
  rw [addMetric, metric?, request?]
  cases item.call? with
  | none => rfl
  | some call =>
    cases known : MetricKind.ofFunction? call.name call.distinct with
    | none => simp [known]
    | some kind =>
      simp only [Option.bind_some, known, Option.map_some, Option.elim_some,
        MetricRequest.addTo, call.metric?_eq_request kind item.metricName]
      cases (⟨kind, call.args.head?, item.metricName⟩ : MetricRequest).metric? <;> rfl

/-- **The metrics of a select list are those of its requests.** -/
theorem foldl_addMetric_eq (metrics : Aggregations) (items : List SelectItem) :
    items.foldl SelectItem.addMetric metrics =
      (items.filterMap SelectItem.request?).foldl MetricRequest.addTo metrics := by
  induction items generalizing metrics with
  | nil => rfl
  | cons item rest ih =>
    rw [List.foldl_cons, ih, item.addMetric_eq]
    cases requested : item.request? with
    | none => rw [List.filterMap_cons_none requested, Option.elim_none]
    | some request =>
      rw [List.filterMap_cons_some requested, Option.elim_some, List.foldl_cons]

/-- In permissive mode the tree depends on the requests and on the fields of `GROUP BY`
only. -/
theorem buildAggregations_permissive_congr {first second : List SelectItem}
    (groupBy : List String)
    (same : first.filterMap SelectItem.request? = second.filterMap SelectItem.request?) :
    buildAggregations .permissive first groupBy =
      buildAggregations .permissive second groupBy := by
  have metrics : extractMetrics .permissive first = extractMetrics .permissive second := by
    rw [extractMetrics, extractMetrics, collectMetrics_permissive, collectMetrics_permissive,
      foldl_addMetric_eq, foldl_addMetric_eq, same]
  rw [buildAggregations, buildAggregations, metrics]

namespace Select

/-- Whether there are aggregations depends on the fields of `GROUP BY` and on the requests
only. -/
theorem aggregates_iff_requests (select : Select) :
    select.Aggregates ↔ select.groupBy ≠ [] ∨ select.requests ≠ [] := by
  have called : (∃ item ∈ select.projection, item.CallsAggregate) ↔ select.requests ≠ [] := by
    simp only [requests, ne_eq, List.filterMap_eq_nil_iff, ← SelectItem.isSome_request?_iff,
      ← Option.not_isSome_iff_eq_none, not_forall, Decidable.not_not, exists_prop]
  rw [Aggregates, called]

/-! ## The page and the order -/

/-- The page depends on the `LIMIT` and, if there is one, on the `OFFSET`. -/
theorem page_congr {first second : Select} (sameLimit : first.limit = second.limit)
    (sameOffset : first.limit.isSome = true → first.offset = second.offset) :
    first.page = second.page := by
  cases given : first.limit with
  | none => rw [page_of_no_limit given, page_of_no_limit (sameLimit ▸ given)]
  | some limit =>
    rw [page_of_limit given, page_of_limit (sameLimit ▸ given),
      sameOffset (by rw [given]; rfl)]

/-- A `SELECT` of a table without nested queries has a document in permissive mode. -/
theorem exists_permissive_document {select : Select} (reads : select.ReadsTable)
    (free : select.SubqueryFree) :
    ∃ document, (Statement.select select).compile .permissive = .ok document := by
  rw [(Statement.compile_reports .permissive (.select select)).exists_ok_iff,
    Statement.faults_permissive_eq_nil_iff]
  exact ⟨select, rfl, reads, free⟩

/-- **What a document depends on.** Two `SELECT`s of tables without nested queries, with one
condition, one list of fields and the same requests, have documents with the same filter and
the same aggregations. If there are aggregations the documents are equal; if there are none
they are equal as soon as the order, the `LIMIT` and, next to a `LIMIT`, the `OFFSET` agree. -/
theorem documents_agree (first second : Select)
    (firstReads : first.ReadsTable) (secondReads : second.ReadsTable)
    (firstFree : first.SubqueryFree) (secondFree : second.SubqueryFree)
    (sameCondition : first.condition = second.condition)
    (sameFields : first.groupBy = second.groupBy)
    (sameRequests : first.requests = second.requests) :
    ∃ document document', (Statement.select first).compile .permissive = .ok document ∧
      (Statement.select second).compile .permissive = .ok document' ∧
      document.query = document'.query ∧ document.aggregations = document'.aggregations ∧
      (document.aggregations.isSome = true → document = document') ∧
      (document.aggregations = none → first.orderBy = second.orderBy →
        first.limit = second.limit →
        (first.limit.isSome = true → first.offset = second.offset) →
          document = document') := by
  obtain ⟨document, compiled⟩ := exists_permissive_document firstReads firstFree
  obtain ⟨document', compiled'⟩ := exists_permissive_document secondReads secondFree
  refine ⟨document, document', compiled, compiled', ?_⟩
  obtain ⟨_, same, built⟩ := Statement.exists_select_of_compile compiled
  cases same
  obtain ⟨_, same, built'⟩ := Statement.exists_select_of_compile compiled'
  cases same
  obtain ⟨query, filtered, pattern⟩ := compile_eq_ok_iff.mp built
  obtain ⟨query', filtered', pattern'⟩ := compile_eq_ok_iff.mp built'
  rw [sameCondition, filtered'] at filtered
  cases filtered
  -- Both documents follow the same pattern, since what decides between the two is the same.
  have together : first.Aggregates ↔ second.Aggregates := by
    rw [aggregates_iff_requests, aggregates_iff_requests, sameFields, sameRequests]
  rcases pattern with ⟨aggregates, tree, treeOk, rfl⟩ | ⟨plain, rfl⟩
  · rcases pattern' with ⟨-, tree', treeOk', rfl⟩ | ⟨plain', -⟩
    · rw [buildAggregations_permissive_congr first.groupBy sameRequests, sameFields,
        treeOk'] at treeOk
      cases treeOk
      exact ⟨rfl, rfl, fun _ => rfl, nofun⟩
    · exact absurd (together.mp aggregates) plain'
  · rcases pattern' with ⟨aggregates', -⟩ | ⟨-, rfl⟩
    · exact absurd (together.mpr aggregates') plain
    · refine ⟨rfl, rfl, nofun, fun _ sameOrder sameLimit sameOffset => ?_⟩
      rw [page_congr sameLimit sameOffset, sameOrder]

/-- `SELECT name, COUNT(*), UPPER(name), SUM(t.pay) AS total FROM staff
WHERE age > 30 GROUP BY city LIMIT 5` -/
def crowdedSelect : Select :=
  { projection :=
      [{ expr := .column "name" }, { expr := .call { name := "COUNT", args := [.wildcard] } },
        { expr := .call { name := "UPPER", args := [.column "name"] } },
        { expr := .call { name := "SUM", args := [.column "t.pay"] }, as? := some "total" }]
    source := .table "staff"
    condition := some (.compare .gt "age" "30")
    groupBy := ["city"]
    limit := some 5 }

/-- `SELECT count(*), *, Sum(DISTINCT t.pay, 2) AS total FROM people
WHERE age > 30 GROUP BY city ORDER BY name` -/
def sparseSelect : Select :=
  { projection :=
      [{ expr := .call { name := "count", args := [.wildcard] } }, { expr := .wildcard },
        { expr := .call
            { name := "Sum", distinct := true, args := [.column "t.pay", .literal "2"] }
          as? := some "total" }]
    source := .table "people"
    condition := some (.compare .gt "age" "30")
    groupBy := ["city"]
    orderBy := [⟨"name", true⟩] }

/-- The two statements have one document, though nearly everything else about them differs. -/
theorem documents_agree_crowded :
    crowdedSelect.requests = sparseSelect.requests ∧
      (Statement.select crowdedSelect).compile .permissive =
        (Statement.select sparseSelect).compile .permissive := by
  have same : crowdedSelect.requests = sparseSelect.requests := by decide +kernel
  have free : crowdedSelect.SubqueryFree := ⟨rfl, by simp [crowdedSelect, Condition.leaves]⟩
  have free' : sparseSelect.SubqueryFree := ⟨rfl, by simp [sparseSelect, Condition.leaves]⟩
  obtain ⟨document, document', compiled, compiled', -, -, aggregated, -⟩ :=
    documents_agree crowdedSelect sparseSelect ⟨_, rfl⟩ ⟨_, rfl⟩ free free' rfl rfl same
  have tree : ((Statement.select crowdedSelect).compile .permissive).map (·.isAggregation) =
      .ok true := rfl
  rw [compiled] at tree
  refine ⟨same, ?_⟩
  rw [compiled, compiled', aggregated (Except.ok.inj tree)]

end Select

end SqlSearch
