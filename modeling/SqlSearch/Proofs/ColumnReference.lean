import SqlSearch.Proofs.AggregationFields
import SqlSearch.Proofs.Dependence
import SqlSearch.Proofs.Reduction

/-!
# Column references in aggregations

A column reference is a path of identifiers.  Its reduction joins their values by periods, and
the aggregation cuts the name out of the joined text again.  By then it is forgotten where one
identifier ends and the next begins, and which characters stood between quotes, so that an
identifier that holds periods, quotes or white space may lose a part of itself.

This module says which references keep their name, and follows a reference through `GROUP BY`
and through the operand of an aggregate into the document.

## Main definitions

* `Path.NameReadable`: the name of a path can be read back from its joined text
* `Expr.AggregatesColumn`: the expression is an aggregate of a single column
* `Query.groupKeys`, `Query.selectItems`: the two clauses in which references are followed

## Main statements

* `Path.bare_joined_eq_iff`: which paths keep their name
* `SelectItem.metric?_of_column`: the metric of a column
* `get?_foldl_addMetric_of_last`: the metric of the last item of its name
* `Query.column_references_keep_name`: column references in the document of a query
* `Query.dotted_column_cut`: references that lose a part of their name
-/

namespace SqlSearch

/-! ## Metrics of a select list -/

/-- The last item of its name gives the table its metric under that name. -/
theorem get?_foldl_addMetric_of_last {before after : List SelectItem} {item : SelectItem}
    {metric : Aggregation} (found : item.metric? = some metric)
    (isLast : ∀ other ∈ after, other.metricName ≠ item.metricName) :
    Entries.get? item.metricName ((before ++ item :: after).foldl SelectItem.addMetric []) =
      some metric := by
  have usable : item.CallsUsable := by
    rw [← SelectItem.isSome_metric?_iff, found]
    rfl
  have behind : ((usableItems after).filter fun other => other.metricName = item.metricName) =
      [] := by
    rw [List.filter_eq_nil_iff]
    intro other member
    have among : other ∈ after := (List.mem_filter.mp member).1
    simpa using isLast other among
  have items : usableItems (before ++ item :: after) =
      usableItems before ++ item :: usableItems after := by
    simp [usableItems, usable]
  rw [get?_foldl_addMetric, items, List.filter_append, List.filter_cons_of_pos (by simp),
    behind, List.getLast?_concat]
  exact found

/-- The metric of a column, if a name is left of it. -/
theorem FunctionCall.metric?_of_column {call : FunctionCall} {path : String}
    (operand : call.args = [.column path]) (kind : MetricKind) :
    call.metric? kind =
      if Field.bare path = "" then none
      else some (.metric kind.ofField (Field.bare path)) := by
  have noRecords : ¬ (kind = .count ∧ countsRecords call.args = true) := by
    rw [operand]
    simp [countsRecords]
  rw [metric?, if_neg noRecords, operand, List.head?_cons, Option.bind_some, Argument.field?,
    Argument.field?.nonEmpty]
  split
  · rfl
  · rfl

/-- An item with a metric calls an aggregate. -/
theorem SelectItem.callsAggregate_of_metric? {item : SelectItem} {metric : Aggregation}
    (found : item.metric? = some metric) : item.CallsAggregate := by
  have usable : item.metric?.isSome = true := by
    rw [found]
    rfl
  obtain ⟨call, isCall, aggregate, -⟩ := item.isSome_metric?_iff.mp usable
  exact ⟨call, SelectItem.call?_eq_some_iff.mp isCall, aggregate⟩

/-! ## The tree of a document -/

/-- Where aggregations are called for, the document has the tree of the `SELECT`. -/
theorem Select.exists_tree_of_compile {strictness : Strictness} {select : Select}
    {document : Document}
    (compiled : (Statement.select select).compile strictness = .ok document)
    (aggregates : select.Aggregates) :
    ∃ tree, document.aggregations = some tree ∧
      buildAggregations strictness select.projection select.groupBy = .ok tree := by
  obtain ⟨select', same, built⟩ := Statement.exists_select_of_compile compiled
  cases same
  obtain ⟨query, -, ⟨-, tree, ofSelect, rfl⟩ | ⟨plain, -⟩⟩ := Select.compile_eq_ok_iff.mp built
  · exact ⟨tree, rfl, ofSelect⟩
  · exact absurd aggregates plain

/-- The bucket of a path of `GROUP BY` lies as deep as there are paths in front of it. -/
theorem exists_bucket_of_buildAggregations {strictness : Strictness} {items : List SelectItem}
    {groupBy : List String} {tree : Aggregations} {depth : Nat} {path : String}
    (built : buildAggregations strictness items groupBy = .ok tree)
    (atDepth : groupBy[depth]? = some path) :
    ∃ nested, tree.level? depth =
      some [("group_by_" ++ Field.bare path, .terms (Field.bare path) nested)] := by
  obtain ⟨metrics, -, ⟨rfl, -⟩ | ⟨-, rfl⟩⟩ := buildAggregations_eq_ok_iff.mp built
  · cases atDepth
  · have bare : (groupBy.map Field.bare)[depth]? = some (Field.bare path) := by
      rw [List.getElem?_map, atDepth]
      rfl
    obtain ⟨nested, level, -⟩ := exists_bucket_of_getElem? bare (bucketMetrics metrics)
    exact ⟨nested, level⟩

/-- The metrics of a select list are the innermost table of the tree, unless there are none. -/
theorem level?_of_buildAggregations {strictness : Strictness} {items : List SelectItem}
    {groupBy : List String} {tree : Aggregations}
    (built : buildAggregations strictness items groupBy = .ok tree)
    (nonEmpty : items.foldl SelectItem.addMetric [] ≠ []) :
    tree.level? groupBy.length = some (items.foldl SelectItem.addMetric []) := by
  obtain ⟨metrics, extracted, form⟩ := buildAggregations_eq_ok_iff.mp built
  rw [← eq_foldl_of_extractMetrics extracted] at nonEmpty ⊢
  rcases form with ⟨rfl, rfl⟩ | ⟨-, rfl⟩
  · rfl
  · have inner : bucketMetrics metrics = metrics := by
      rw [bucketMetrics, if_neg (by simpa using nonEmpty)]
    have below := level?_nestBuckets (groupBy.map Field.bare) (bucketMetrics metrics) 0
    rw [List.length_map, Nat.add_zero] at below
    rw [below, inner]
    rfl

namespace Sql

/-! ## Names that can be read back -/

namespace Path

/-- **The name of a path can be read back** from its joined text: it has no period, no quotes
around it and no white space at its end, nor at its start if it stands alone; and the path does
not start with a quote that the name ends in. -/
structure NameReadable (path : Path) : Prop where
  /-- The name has no period. -/
  noPeriod : '.' ∉ path.name.value.toList
  /-- The name does not stand between quotes. -/
  notQuoted : ¬ Field.IsQuoted path.name.value.toList
  /-- The path does not stand between quotes. -/
  pathNotQuoted : ¬ Field.IsQuoted (Text.trimChars path.joined.toList)
  /-- The name does not end in white space. -/
  solidEnd : ∀ c ∈ path.name.value.toList.getLast?, Text.isBlank c = false
  /-- A name without a qualifier does not start with white space. -/
  solidStart : path.qualifiers = [] →
    ∀ c ∈ path.name.value.toList.head?, Text.isBlank c = false

theorem joined_of_unqualified {path : Path} (alone : path.qualifiers = []) :
    path.joined = path.name.value := by
  rw [joined, idents, alone]
  exact String.intercalate_singleton

/-- Where there are qualifiers, they and a period stand in front of the name. -/
theorem exists_toList_joined {path : Path} (qualified : path.qualifiers ≠ []) :
    ∃ qualifier, path.joined.toList = qualifier ++ '.' :: path.name.value.toList := by
  have front : path.qualifiers.map Ident.value ≠ [] := by simpa using qualified
  refine ⟨(String.intercalate "." (path.qualifiers.map Ident.value)).toList, ?_⟩
  rw [joined, idents, List.map_append, String.intercalate_append_of_ne_nil front (by simp)]
  simp

/-- **Which paths keep their name** when it is cut out of the joined text. -/
theorem bare_joined_eq_iff (path : Path) :
    Field.bare path.joined = path.name.value ↔ path.NameReadable := by
  rw [← String.toList_inj, Field.toList_bare]
  by_cases alone : path.qualifiers = []
  · have whole := joined_of_unqualified alone
    rw [whole, Field.bareChars_eq_self_iff]
    constructor
    · rintro ⟨trimmed, noPeriod, plain⟩
      obtain ⟨start, stop⟩ := (Field.trimChars_eq_self_iff _).mp trimmed
      exact ⟨noPeriod, plain, by rw [whole, trimmed]; exact plain, stop, fun _ => start⟩
    · intro readable
      exact ⟨(Field.trimChars_eq_self_iff _).mpr ⟨readable.solidStart alone,
        readable.solidEnd⟩, readable.noPeriod, readable.notQuoted⟩
  · obtain ⟨qualifier, whole⟩ := exists_toList_joined alone
    rw [whole, Field.bareChars_qualified_eq_iff, ← whole]
    constructor
    · rintro ⟨stop, noPeriod, plain, pathPlain⟩
      exact ⟨noPeriod, plain, pathPlain, stop, fun none => absurd none alone⟩
    · intro readable
      exact ⟨readable.solidEnd, readable.noPeriod, readable.notQuoted, readable.pathNotQuoted⟩

instance : DecidablePred NameReadable := fun path => decidable_of_iff _ path.bare_joined_eq_iff

end Path

/-! ## The metric of a column -/

/-- Parentheses aside, the expression is an aggregate of a single column and calls for a
metric. It has no window. -/
def Expr.AggregatesColumn (e : Expr) (kind : MetricKind) (path : Path) : Prop :=
  ∃ head parameters operands duplicates,
    e.unparenthesized = .call head parameters [.column path] operands ∧ head.window = none ∧
      head.form = .list duplicates ∧
      MetricKind.ofFunction? head.name.name.value (duplicates == some .distinct) = some kind

/-- **The metric of a column** as the only operand of an aggregate, if a name is left of it. -/
theorem SelectItem.metric?_of_column {e : Expr} {kind : MetricKind} {path : Path}
    (aggregates : e.AggregatesColumn kind path) (as? : Option Ident) :
    (SelectItem.expr e as?).toItem.metric? =
      if Field.bare path.joined = "" then none
      else some (.metric kind.ofField (Field.bare path.joined)) := by
  obtain ⟨head, parameters, operands, duplicates, isCall, noWindow, form, known⟩ := aggregates
  have call : (SelectItem.expr e as?).toItem.call? =
      some ⟨head.name.name.value, duplicates == some .distinct, [.column path.joined]⟩ := by
    show (⟨e.toSelectExpr, as?.map Ident.value, e.render⟩ : SqlSearch.SelectItem).call? = _
    rw [e.call?_toSelectExpr, Expr.keptCall?_of_call isCall, CallHead.toFunctionCall?,
      noWindow, form]
    rfl
  rw [SelectItem.metric?, call, Option.bind_some, known, Option.bind_some]
  exact FunctionCall.metric?_of_column rfl kind

/-- The metric of a column with a name is over that name exactly if the name can be read
back. -/
theorem SelectItem.metric?_eq_name_iff {e : Expr} {kind : MetricKind} {path : Path}
    (aggregates : e.AggregatesColumn kind path) (named : path.name.value ≠ "")
    (as? : Option Ident) :
    (SelectItem.expr e as?).toItem.metric? = some (.metric kind.ofField path.name.value) ↔
      path.NameReadable := by
  rw [metric?_of_column aggregates, ← path.bare_joined_eq_iff, Option.ite_none_left_eq_some,
    Option.some_inj, Aggregation.metric.injEq, and_iff_right rfl]
  constructor
  · exact fun kept => kept.2
  · intro kept
    rw [kept]
    exact ⟨named, rfl⟩

/-! ## The clauses of a query -/

/-- The paths to group by are those of the expressions of the clause. -/
theorem GroupBy.eq_of_toPaths {groupBy : GroupBy} {paths : List String}
    (given : groupBy.toPaths = .ok paths) :
    paths = groupBy.keys.map Expr.fieldPath := by
  cases groupBy with
  | all modifiers => cases given
  | exprs list modifiers =>
    cases given
    rfl

namespace Query

/-- The expressions of `GROUP BY`, in order. -/
def groupKeys (q : Query) : List Expr :=
  match q.body with
  | .select s => s.groupBy.keys
  | .compound _ => []

/-- The items of the select list, in order. -/
def selectItems (q : Query) : List SelectItem :=
  match q.body with
  | .select s => s.items
  | .compound _ => []

section Reduced

variable {q : Query} {select : SqlSearch.Select}
  (reduced : q.toStatement = .ok (.select select))
include reduced

theorem groupBy_eq : select.groupBy = q.groupKeys.map Expr.fieldPath := by
  obtain ⟨s, limit, offset, groupBy, -, body, -, -, given, rfl⟩ :=
    exists_select_of_toStatement reduced
  have keys : q.groupKeys = s.groupBy.keys := by rw [groupKeys, body]
  rw [keys]
  exact GroupBy.eq_of_toPaths given

theorem projection_eq : select.projection = q.selectItems.map SelectItem.toItem := by
  obtain ⟨s, limit, offset, groupBy, -, body, -, -, -, rfl⟩ :=
    exists_select_of_toStatement reduced
  have items : q.selectItems = s.items := by rw [selectItems, body]
  rw [items]

end Reduced

/-- **Column references in the document of a query.** A query of a plain table without nested
queries has a document in permissive mode. In every document of a query, in either mode, let a
path have a name that is not empty. Where the path is an expression of `GROUP BY`, it has the
bucket of its level, and the field of the bucket is the name exactly if the name can be read
back. Where the path is the only operand of an aggregate of the select list, the field of the
metric is the name exactly under the same condition; and if no later item takes its place, that
metric stands below the buckets. -/
theorem column_references_keep_name (q : Query) (select : SqlSearch.Select)
    (reduced : q.toStatement = .ok (.select select)) (path : Path)
    (named : path.name.value ≠ "") :
    (select.ReadsTable → q.SubqueryFree →
      ∃ document, (Statement.select select).compile .permissive = .ok document) ∧
    ∀ (strictness : Strictness) (document : Document),
      (Statement.select select).compile strictness = .ok document →
      (∀ (depth : Nat) (key : Expr), q.groupKeys[depth]? = some key →
        key.unparenthesized = .column path →
        ∃ tree field nested, document.aggregations = some tree ∧
          tree.level? depth = some [("group_by_" ++ field, .terms field nested)] ∧
          (field = path.name.value ↔ path.NameReadable)) ∧
      ∀ (before after : List SelectItem) (e : Expr) (as? : Option Ident) (kind : MetricKind),
        q.selectItems = before ++ .expr e as? :: after → e.AggregatesColumn kind path →
        ((SelectItem.expr e as?).toItem.metric? = some (.metric kind.ofField path.name.value) ↔
          path.NameReadable) ∧
        (path.NameReadable →
          (∀ other ∈ after, other.toItem.metricName ≠
            (SelectItem.expr e as?).toItem.metricName) →
          ∃ tree metrics, document.aggregations = some tree ∧
            tree.level? q.groupKeys.length = some metrics ∧
            Entries.get? (SelectItem.expr e as?).toItem.metricName metrics =
              some (.metric kind.ofField path.name.value)) := by
  have keys := groupBy_eq reduced
  have items := projection_eq reduced
  refine ⟨fun table free =>
    Select.exists_permissive_document table ((subqueryFree_iff reduced).mpr free), ?_⟩
  intro strictness document compiled
  have built := Select.exists_tree_of_compile compiled
  refine ⟨?_, ?_⟩
  · intro depth key atDepth isColumn
    have listed : select.groupBy[depth]? = some path.joined := by
      rw [keys, List.getElem?_map, atDepth, Option.map_some, ← key.fieldPath_unparenthesized,
        isColumn]
      rfl
    have grouped : select.groupBy ≠ [] := List.ne_nil_of_mem (List.mem_of_getElem? listed)
    obtain ⟨tree, present, ofSelect⟩ := built (Or.inl grouped)
    obtain ⟨nested, level⟩ := exists_bucket_of_buildAggregations ofSelect listed
    exact ⟨tree, Field.bare path.joined, nested, present, level, path.bare_joined_eq_iff⟩
  · intro before after e as? kind split aggregates
    have metric := SelectItem.metric?_eq_name_iff aggregates named as?
    refine ⟨metric, fun readable isLast => ?_⟩
    have found := metric.mpr readable
    have projection : select.projection =
        before.map SelectItem.toItem ++ (SelectItem.expr e as?).toItem ::
          after.map SelectItem.toItem := by
      rw [items, split, List.map_append, List.map_cons]
    have value : Entries.get? (SelectItem.expr e as?).toItem.metricName
        (select.projection.foldl SelectItem.addMetric []) =
          some (.metric kind.ofField path.name.value) := by
      rw [projection]
      exact get?_foldl_addMetric_of_last found (by simpa using isLast)
    have calls : (SelectItem.expr e as?).toItem.CallsAggregate :=
      SelectItem.callsAggregate_of_metric? found
    have member : (SelectItem.expr e as?).toItem ∈ select.projection := by
      rw [projection]
      simp
    obtain ⟨tree, present, ofSelect⟩ := built (Or.inr ⟨_, member, calls⟩)
    have nonEmpty : select.projection.foldl SelectItem.addMetric [] ≠ [] := by
      intro empty
      rw [empty] at value
      cases value
    have innermost := level?_of_buildAggregations ofSelect nonEmpty
    rw [keys, List.length_map] at innermost
    exact ⟨tree, _, present, innermost, value⟩

/-- The path `t." pay's"`, the name of which holds a blank and a quote. -/
def awkwardPath : Path :=
  { qualifiers := [{ value := "t" }], name := { value := " pay's", quote := some '"' } }

/-- `SELECT SUM(t." pay's") AS total, MAX(age) AS top FROM staff
GROUP BY city, (t." pay's")` -/
def awkwardColumn : Query :=
  { body := .select
      { items :=
          [.expr (.call { name := { name := { value := "SUM" } }, form := .list none } []
              [.column awkwardPath] []) (some { value := "total" }),
            .expr (.call { name := { name := { value := "MAX" } }, form := .list none } []
              [.column { name := { value := "age" } }] []) (some { value := "top" })]
        tables :=
          [{ relation :=
              { kind := .table { name := { value := "staff" } }, body := "staff" } }]
        groupBy :=
          .exprs [.column { name := { value := "city" } },
              .nested (.column awkwardPath)] "" } }

/-- The name comes through as it is, both as the field of the inner bucket and as that of the
metric. -/
theorem column_references_keep_name_awkward :
    awkwardColumn.render =
        "SELECT SUM(t.\" pay's\") AS total, MAX(age) AS top FROM staff " ++
          "GROUP BY city, (t.\" pay's\")" ∧
      ∃ select document, awkwardColumn.toStatement = .ok (.select select) ∧
        (Statement.select select).compile .strict = .ok document ∧ awkwardPath.NameReadable ∧
        (∃ tree field nested, document.aggregations = some tree ∧
          tree.level? 1 = some [("group_by_" ++ field, .terms field nested)] ∧
            field = " pay's") ∧
        ∃ tree metrics, document.aggregations = some tree ∧ tree.level? 2 = some metrics ∧
          Entries.get? "total" metrics = some (.metric .sum " pay's") := by
  have readable : awkwardPath.NameReadable := by decide +kernel
  obtain ⟨select, reduced⟩ : ∃ select, awkwardColumn.toStatement = .ok (.select select) :=
    ⟨_, rfl⟩
  obtain ⟨document, compiled⟩ : ∃ document, (Statement.select select).compile .strict =
      .ok document := by
    cases reduced
    exact ⟨_, rfl⟩
  obtain ⟨buckets, metrics⟩ :=
    (column_references_keep_name awkwardColumn select reduced awkwardPath (by decide)).2
      .strict document compiled
  obtain ⟨tree, field, nested, present, level, kept⟩ := buckets 1 _ rfl rfl
  have sum :=
    (metrics [] _ _ (some { value := "total" }) .sum rfl ⟨_, _, _, none, rfl, rfl, rfl,
      by decide +kernel⟩).2
    readable (by decide +kernel)
  exact ⟨by decide +kernel, select, document, reduced, compiled, readable,
    ⟨tree, field, nested, present, level, kept.mpr readable⟩, sum⟩

/-- `SELECT COUNT(*) FROM t GROUP BY "a.b"` -/
def dottedColumn : Query :=
  { body := .select
      { items :=
          [.expr (.call { name := { name := { value := "COUNT" } }, form := .list none } []
              [.wildcard] []) none]
        tables :=
          [{ relation := { kind := .table { name := { value := "t" } }, body := "t" } }]
        groupBy := .exprs [.column { name := { value := "a.b", quote := some '"' } }] "" } }

/-- **A part of a quoted name is taken for a qualifier.** The only column of `GROUP BY` is
called `a.b` and has no qualifier, and its bucket is over `b`, in both modes. Quotes and white
space at the ends of a name are lost as well, and where nothing is left, so is the metric. -/
theorem dotted_column_cut :
    (∃ select, dottedColumn.toStatement = .ok (.select select) ∧ select.source = .table "t" ∧
      dottedColumn.groupKeys[0]? = some (.column ⟨[], ⟨"a.b", some '"'⟩⟩) ∧
      ∀ strictness, ∃ tree nested,
        (Statement.select select).compile strictness = .ok ⟨.matchAll, 0, 0, some tree, []⟩ ∧
          tree.level? 0 = some [("group_by_b", .terms "b" nested)]) ∧
    dottedColumn.render = "SELECT COUNT(*) FROM t GROUP BY \"a.b\"" ∧
    ∀ written ∈
      [("SELECT COUNT(*) FROM t GROUP BY \"a.b\"",
          "\x7b\"group_by_b\":\x7b\"terms\":\x7b\"field\":\"b\"\x7d,\"aggregations\":" ++
          "\x7b\"count(*)\":\x7b\"value_count\":\x7b\"field\":\"_index\"\x7d\x7d\x7d\x7d\x7d"),
        ("SELECT SUM(\"'a'\") AS n FROM t",
          "\x7b\"n\":\x7b\"sum\":\x7b\"field\":\"a\"\x7d\x7d\x7d"),
        ("SELECT SUM(t.\"a \") AS n FROM t",
          "\x7b\"n\":\x7b\"sum\":\x7b\"field\":\"a\"\x7d\x7d\x7d"),
        ("SELECT SUM(\" \") AS n FROM t", "\x7b\x7d")],
      (Document.ofSql ⟨.generic, .permissive⟩ written.1).map
          (fun document => (Document.aggregationField document.aggregations).map
            (·.2.compact)) =
        .ok [written.2] := by
  refine ⟨⟨_, rfl, rfl, rfl, fun strictness => ?_⟩, by decide +kernel, by decide +kernel⟩
  cases strictness <;> exact ⟨_, _, rfl, rfl⟩

end Query

end Sql

end SqlSearch
