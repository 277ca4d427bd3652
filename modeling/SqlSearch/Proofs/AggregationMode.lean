import SqlSearch.Proofs.ColumnReference

/-!
# When a query is answered with aggregations

A document either has aggregations and no page, or a page and no aggregations.  The decision
falls on the reduced `SELECT`, by the functions that are left in its select list; here it is
read off the query.  A `GROUP BY` calls for aggregations, and so does a call of an aggregate as
an item of the select list.  Nothing else does: neither a name, be it that of a column or one
given to an item, nor a literal, nor a call inside a larger expression or over a window.

## Main definitions

* `Expr.IsAggregateCall`: the expressions that call for aggregations
* `Expr.IsInert`: expressions that do not, whatever is written in them

## Main statements

* `Expr.keepsCall_iff_isAggregateCall`: the calls that are left by the reduction
* `Query.aggregates_iff`: what calls for aggregations, in terms of the query
* `Query.aggregation_mode_follows_structure`: when a document has aggregations
-/

namespace SqlSearch.Sql

namespace Expr

/-- **The expressions that call for aggregations**: the call of an aggregate that has no window
and is not made on a query, and each of them in parentheses. -/
inductive IsAggregateCall : Expr → Prop
  | call {head : CallHead} (parameters args operands : List Expr)
    (noWindow : head.window = none) (noQuery : ∀ q, head.form ≠ .query q)
    (aggregate : IsAggregateName head.name.name.value) :
    IsAggregateCall (.call head parameters args operands)
  | nested {inner : Expr} : IsAggregateCall inner → IsAggregateCall (.nested inner)

/-- **Inert expressions**: columns, literals, operators and other phrases whatever their
operands are, calls over a window, and each of them in parentheses. -/
inductive IsInert : Expr → Prop
  | column (path : Path) : IsInert (.column path)
  | value (v : Value) : IsInert (.value v)
  | unary (op : UnaryOp) (operand : Expr) : IsInert (.unary op operand)
  | binary (left : Expr) (op : BinaryOp) (right : Expr) : IsInert (.binary left op right)
  | phrase (layout : Layout) (operands : List Expr) : IsInert (.phrase layout operands)
  | windowed {head : CallHead} (parameters args operands : List Expr)
    (window : head.window ≠ none) :
    IsInert (.call head parameters args operands)
  | nested {inner : Expr} : IsInert inner → IsInert (.nested inner)

theorem IsInert.not_isAggregateCall {e : Expr} (inert : e.IsInert) : ¬ e.IsAggregateCall := by
  induction inert with
  | windowed parameters args operands window =>
    rintro (⟨_, _, _, noWindow, _, _⟩ | _)
    exact window noWindow
  | nested _ ih =>
    rintro (_ | aggregate)
    exact ih aggregate
  | column path | value v | unary op operand | binary left op right | phrase layout operands =>
    nofun

/-- The call of an aggregate is kept exactly if it has no window and is not made on a query. -/
theorem exists_kept_aggregate_iff (head : CallHead) (parameters args operands : List Expr) :
    (∃ call ∈ head.toFunctionCall? args, IsAggregateName call.name) ↔
      (Expr.call head parameters args operands).IsAggregateCall := by
  constructor
  · rintro ⟨call, kept, aggregate⟩
    obtain ⟨noWindow, noQuery⟩ := (head.exists_toFunctionCall?_iff args).mp ⟨call, kept⟩
    rw [CallHead.name_of_toFunctionCall? kept] at aggregate
    refine .call parameters args operands noWindow (fun q onQuery => ?_) aggregate
    rw [onQuery] at noQuery
    cases noQuery
  · rintro (⟨_, _, _, noWindow, noQuery, aggregate⟩ | _)
    have noQuery : head.form.isQuery = false := by
      cases form : head.form with
      | query q => exact absurd form (noQuery q)
      | bare | list duplicates => rfl
    obtain ⟨call, kept⟩ := (head.exists_toFunctionCall?_iff args).mpr ⟨noWindow, noQuery⟩
    exact ⟨call, kept, by rwa [CallHead.name_of_toFunctionCall? kept]⟩

/-- **The calls that are left**: a call of an aggregate is kept of an expression exactly if the
expression calls for aggregations. -/
theorem keepsCall_iff_isAggregateCall (e : Expr) :
    e.KeepsCall (fun call => IsAggregateName call.name) ↔ e.IsAggregateCall := by
  rw [KeepsCall, keptCall?]
  fun_induction unparenthesized e with
  | case1 inner ih =>
    rw [ih]
    constructor
    · exact .nested
    · rintro (_ | aggregate)
      exact aggregate
  | case2 e noNested =>
    cases e with
    | nested inner => exact absurd rfl (noNested inner)
    | call head parameters args operands =>
      exact exists_kept_aggregate_iff head parameters args operands
    | wildcard | qualifiedWildcard path | column path | value v | unary op operand
    | binary left op right | subquery q | inSubquery operand negated q | «exists» negated q
    | phrase layout operands =>
      constructor
      · rintro ⟨call, ⟨⟩, -⟩
      · rintro ⟨⟩

end Expr

/-- An item of the select list calls an aggregate exactly if it is an expression that calls for
aggregations. The name given to it does not count. -/
theorem SelectItem.callsAggregate_toItem_iff (item : SelectItem) :
    item.toItem.CallsAggregate ↔ ∃ e ∈ item.expr?, e.IsAggregateCall := by
  have kept : item.toItem.CallsAggregate ↔
      ∃ call ∈ item.toItem.call?, IsAggregateName call.name := by
    simp only [SelectItem.CallsAggregate, Option.mem_def, SelectItem.call?_eq_some_iff]
  rw [kept]
  cases item with
  | expr e as? =>
    have same : (SelectItem.expr e as?).toItem.call? = e.keptCall? := e.call?_toSelectExpr _ _
    rw [same]
    exact e.keepsCall_iff_isAggregateCall.trans (by simp [expr?])
  | wildcard qualifier options operands =>
    refine iff_of_false ?_ (by simp [expr?])
    cases qualifier <;> rintro ⟨call, ⟨⟩, -⟩

namespace Query

theorem selectExprs_eq (q : Query) :
    q.selectExprs = q.selectItems.filterMap SelectItem.expr? := by
  rw [selectExprs, selectItems]
  cases q.body <;> rfl

/-- **What calls for aggregations**, in terms of the query. -/
theorem aggregates_iff {q : Query} {select : SqlSearch.Select}
    (reduced : q.toStatement = .ok (.select select)) :
    select.Aggregates ↔ q.groupKeys ≠ [] ∨ ∃ e ∈ q.selectExprs, e.IsAggregateCall := by
  rw [Select.Aggregates, groupBy_eq reduced, projection_eq reduced, selectExprs_eq]
  refine or_congr (by simp) ?_
  simp only [List.mem_map, List.mem_filterMap]
  constructor
  · rintro ⟨_, ⟨item, listed, rfl⟩, calls⟩
    obtain ⟨e, isExpr, aggregate⟩ := item.callsAggregate_toItem_iff.mp calls
    exact ⟨e, ⟨item, listed, isExpr⟩, aggregate⟩
  · rintro ⟨e, ⟨item, listed, isExpr⟩, aggregate⟩
    exact ⟨item.toItem, ⟨item, listed, rfl⟩,
      item.callsAggregate_toItem_iff.mpr ⟨e, isExpr, aggregate⟩⟩

/-- **Structure decides on aggregations.** Of every query that has a document, in either mode:
the document has aggregations exactly if the query has a `GROUP BY` or, among the expressions
of its select list, one that calls for them. So it has none if there is no `GROUP BY` and every
expression of the select list is inert. -/
theorem aggregation_mode_follows_structure (q : Query) (statement : SqlSearch.Statement)
    (strictness : Strictness) (document : Document) (reduced : q.toStatement = .ok statement)
    (compiled : statement.compile strictness = .ok document) :
    (document.isAggregation = true ↔
      q.groupKeys ≠ [] ∨ ∃ e ∈ q.selectExprs, e.IsAggregateCall) ∧
    (q.groupKeys = [] → (∀ e ∈ q.selectExprs, e.IsInert) →
      document.isAggregation = false) := by
  obtain ⟨select, rfl, built⟩ := Statement.exists_select_of_compile compiled
  have mode : document.isAggregation = true ↔
      q.groupKeys ≠ [] ∨ ∃ e ∈ q.selectExprs, e.IsAggregateCall := by
    rw [← aggregates_iff reduced]
    obtain ⟨query, -, ⟨aggregates, tree, -, rfl⟩ | ⟨plain, rfl⟩⟩ :=
      Select.compile_eq_ok_iff.mp built
    · exact iff_of_true rfl aggregates
    · exact iff_of_false Bool.false_ne_true plain
  refine ⟨mode, fun ungrouped inert => ?_⟩
  rw [Bool.eq_false_iff, ne_eq, mode]
  rintro (grouped | ⟨e, listed, aggregate⟩)
  · exact grouped ungrouped
  · exact (inert e listed).not_isAggregateCall aggregate

/-- `SELECT count, 'max' AS "sum", 1 + MIN(a), (COUNT(*) OVER ()) FROM t` -/
def inertSelectList : Query :=
  { body := .select
      { items :=
          [.expr (.column { name := { value := "count" } }) none,
            .expr (.value (.text "max")) (some { value := "sum", quote := some '"' }),
            .expr (.binary (.value (.number "1" false)) (.other "+")
              (.call { name := { name := { value := "MIN" } }, form := .list none } []
                [.column { name := { value := "a" } }] [])) none,
            .expr (.nested (.call
              { name := { name := { value := "COUNT" } }, form := .list none,
                window := some [.text " OVER ()"] }
              [] [.wildcard] [])) none]
        tables :=
          [{ relation := { kind := .table { name := { value := "t" } }, body := "t" } }] } }

/-- `SELECT a, ((lib.Max(a))) FROM t` -/
def parenthesizedAggregate : Query :=
  { body := .select
      { items :=
          [.expr (.column { name := { value := "a" } }) none,
            .expr (.nested (.nested (.call
              { name := { qualifiers := [{ value := "lib" }], name := { value := "Max" } },
                form := .list none }
              [] [.column { name := { value := "a" } }] []))) none]
        tables :=
          [{ relation := { kind := .table { name := { value := "t" } }, body := "t" } }] } }

/-- Names, literals, an inner call and a call over a window do not call for aggregations; a
qualified aggregate in two pairs of parentheses does. -/
theorem aggregation_mode_follows_structure_inert :
    inertSelectList.render =
      "SELECT count, 'max' AS \"sum\", 1 + MIN(a), (COUNT(*) OVER ()) FROM t" ∧
      parenthesizedAggregate.render = "SELECT a, ((lib.Max(a))) FROM t" ∧
      (∃ statement document, inertSelectList.toStatement = .ok statement ∧
        statement.compile .strict = .ok document ∧ document.isAggregation = false) ∧
      ∃ statement document, parenthesizedAggregate.toStatement = .ok statement ∧
        statement.compile .permissive = .ok document ∧ document.isAggregation = true := by
  refine ⟨by decide +kernel, by decide +kernel, ⟨_, _, rfl, rfl, ?_⟩, ⟨_, _, rfl, rfl, ?_⟩⟩
  · refine (aggregation_mode_follows_structure inertSelectList _ .strict _ rfl rfl).2 rfl ?_
    simp only [selectExprs_eq, selectItems, inertSelectList, List.filterMap_cons,
      SelectItem.expr?, List.filterMap_nil, List.forall_mem_cons]
    exact ⟨.column _, .value _, .binary _ _ _, .nested (.windowed _ _ _ (by simp)),
      List.forall_mem_nil _⟩
  · refine (aggregation_mode_follows_structure parenthesizedAggregate _ .permissive _
      rfl rfl).1.mpr (.inr ?_)
    refine ⟨_, List.mem_cons_of_mem _ List.mem_cons_self,
      .nested (.nested (.call _ _ _ rfl ?_ ?_))⟩
    · intro q onQuery
      cases onQuery
    · decide +kernel

end Query

end SqlSearch.Sql
