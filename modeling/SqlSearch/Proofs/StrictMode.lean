import SqlSearch.Proofs.Reduction

/-!
# What strict mode asks of a query

Strict mode refuses what has no counterpart in a document.  It looks at the reduced query only,
and so it can refuse only what the reduction keeps apart.  This module says, in terms of the
expressions of a query, what that amounts to.

* **The condition.**  Every leaf has to be a comparison other than an inequality.  Its operands
  are not looked at, and so a comparison of two columns passes as one of a field with a
  literal.
* **The select list.**  A call has to be an aggregate with something to work on.  Of its
  arguments only the first is looked at, its `FILTER` is not, and a call over a window is not
  seen as a call at all.

Both clauses are also described from the other side: which leaf, or which call, a query is
refused for.

## Main definitions

* `Query.whereLeaves`: the leaves of the condition
* `Expr.CallsUnknown`, `Expr.CallsUnusable`: the two faults of an expression of the select list
* `CallHead.Passes`: what is asked of a call
* `Expr.IsColumn`, `Expr.IsLiteral`, `CallHead.IsPlainAggregate`: what has an exact counterpart
  in a document

## Main statements

* `Select.strict_error_iff`: the errors of strict mode, one check after the other
* `Query.exists_strict_document_iff`: which queries strict mode accepts
* `Query.strict_leaves_are_comparisons`: what it asks of the condition
* `Query.strict_calls_pass`: what it asks of the select list
* `Query.column_comparison_accepted`, `Query.dropped_call_parts_accepted`: what passes beyond
  that
-/

namespace SqlSearch

/-! ## The errors of strict mode -/

/-- The faults of functions are errors of functions. -/
theorem exists_text_of_head?_functionFaults {Faulty : SelectItem → Prop} [DecidablePred Faulty]
    {items : List SelectItem} {error : CompileError}
    (first : (functionFaults Faulty items).head? = some error) :
    ∃ text, error = .function text := by
  obtain ⟨item, -, rfl⟩ := List.mem_map.mp (List.mem_of_head? first)
  exact ⟨item.text, rfl⟩

namespace Select

/-- **The errors of strict mode** on a `SELECT`: its source comes first, then nested queries,
then names of functions, then predicates, and operands last. -/
theorem strict_error_iff (select : Select) (error : CompileError) :
    (Statement.select select).compile .strict = .error error ↔
      select.source.faults.head? = some error ∨ select.ReadsTable ∧
        ((select.subqueries.map CompileError.subquery).head? = some error ∨
          select.SubqueryFree ∧
          ((functionFaults SelectItem.CallsUnknown select.projection).head? = some error ∨
            select.CallsAggregates ∧
            ((select.untranslated.map CompileError.predicate).head? = some error ∨
              select.untranslated = [] ∧
              (functionFaults SelectItem.CallsUnusable select.projection).head? =
                some error))) := by
  rw [Statement.compile_reports .strict (.select select), Statement.faults, commonFaults,
    List.append_assoc, Strictness.enforce_strict, strictFaults]
  simp only [List.head?_append, Option.or_eq_some_iff, List.head?_eq_none_iff,
    List.map_eq_nil_iff, Source.faults_eq_nil_iff, subqueries_eq_nil_iff, unknown_eq_nil_iff,
    ReadsTable]

/-- A `SELECT` is refused for a predicate exactly if nothing comes before the first leaf
without a clause. -/
theorem strict_error_predicate_iff (select : Select) (text : String) :
    (Statement.select select).compile .strict = .error (.predicate text) ↔
      select.ReadsTable ∧ select.SubqueryFree ∧ select.CallsAggregates ∧
        select.untranslated.head? = some text := by
  have noSource : ¬ select.source.faults.head? = some (.predicate text) := by
    cases select.source <;> simp [Source.faults]
  have noFunction : ∀ (Faulty : SelectItem → Prop) [DecidablePred Faulty],
      ¬ (functionFaults Faulty select.projection).head? = some (.predicate text) := by
    intro Faulty _ first
    obtain ⟨_, impossible⟩ := exists_text_of_head?_functionFaults first
    cases impossible
  rw [strict_error_iff]
  simp [noSource, noFunction]

/-- A `SELECT` is refused for a function exactly if the function is unknown and nothing comes
before it, or its operand cannot be used and all other checks are passed. -/
theorem strict_error_function_iff (select : Select) (text : String) :
    (Statement.select select).compile .strict = .error (.function text) ↔
      select.ReadsTable ∧ select.SubqueryFree ∧
        ((functionFaults SelectItem.CallsUnknown select.projection).head? =
          some (.function text) ∨
          select.CallsAggregates ∧ select.untranslated = [] ∧
            (functionFaults SelectItem.CallsUnusable select.projection).head? =
              some (.function text)) := by
  have noSource : ¬ select.source.faults.head? = some (.function text) := by
    cases select.source <;> simp [Source.faults]
  rw [strict_error_iff]
  simp [noSource]

end Select

namespace Sql

/-! ## Operands that have a counterpart -/

namespace Expr

/-- The expression is a column, possibly in parentheses. -/
inductive IsColumn : Expr → Prop
  | column (path : Path) : IsColumn (.column path)
  | nested {inner : Expr} : IsColumn inner → IsColumn (.nested inner)

/-- The expression is a literal: a text, a number, a truth value or null, but no parameter; or
a number with a sign. -/
inductive IsLiteral : Expr → Prop
  | value (v : Value) (given : ∀ name, v ≠ .placeholder name) : IsLiteral (.value v)
  | signed (sign : UnaryOp) (isSign : sign = .plus ∨ sign = .minus) (digits : String)
    (long : Bool) :
    IsLiteral (.unary sign (.value (.number digits long)))

/-- The operands of a comparison in which no nested query stands are no nested queries. -/
theorem IsComparison.of_subqueryFree {leaf : Expr} (comparison : leaf.IsComparison)
    (free : leaf.SubqueryFree) :
    leaf.Compares (fun e => ¬ e.StandsForQuery) (fun e => ¬ e.StandsForQuery) := by
  have noQuery : ∀ operand ∈ leaf.operands, ¬ operand.StandsForQuery := by
    intro operand member
    rw [← operand.isSubquery_iff, (free.operand member).self]
    exact Bool.false_ne_true
  cases leaf with
  | binary left op right =>
    cases op with
    | compare op =>
      exact ⟨comparison.1, noQuery left (by simp [operands]),
        noQuery right (by simp [operands])⟩
    | and | or | other sign => exact comparison.elim
  | wildcard | qualifiedWildcard path | column path | value v | unary op operand | nested inner
  | subquery q | inSubquery operand negated q | «exists» negated q
  | call head parameters args operands | phrase layout operands => exact comparison.elim

end Expr

/-! ## What is asked of a call -/

namespace Expr

/-- The expression is a call that is kept, of a function that is no aggregate. -/
def CallsUnknown (e : Expr) : Prop := e.KeepsCall fun call => ¬ IsAggregateName call.name

/-- The expression is a call that is kept, of an aggregate that has nothing to work on. -/
def CallsUnusable (e : Expr) : Prop :=
  e.KeepsCall fun call => IsAggregateName call.name ∧ ¬ call.Usable

end Expr

/-- **What is asked of a call**: it is one of the aggregates, and it has something to work on.
Only its name, its `DISTINCT` and its first argument matter for that. -/
def CallHead.Passes (head : CallHead) (args : List Expr) : Prop :=
  IsAggregateName head.name.name.value ∧ ∃ call ∈ head.toFunctionCall? args, call.Usable

/-- A plain call of an aggregate: with at most one argument, without a window and without a
`FILTER`. -/
structure CallHead.IsPlainAggregate (head : CallHead) (args : List Expr) : Prop where
  /-- It is one of the aggregates. -/
  aggregate : IsAggregateName head.name.name.value
  /-- It has at most one argument. -/
  length_args : args.length ≤ 1
  /-- It has no window. -/
  window : head.window = none
  /-- It has no `FILTER`. -/
  filter : head.filter = none

/-- A call without a window passes if it is not made on a query and has neither of the two
faults. -/
theorem CallHead.passes_of_sound {e : Expr} {head : CallHead}
    {parameters args operands : List Expr}
    (isCall : e.unparenthesized = .call head parameters args operands)
    (plain : head.window = none) (free : e.isSubquery = false) (known : ¬ e.CallsUnknown)
    (usable : ¬ e.CallsUnusable) : head.Passes args := by
  have noQuery : head.form.isQuery = false := by
    rw [← free, ← e.isSubquery_unparenthesized, isCall]
    rfl
  obtain ⟨call, kept⟩ := (head.exists_toFunctionCall?_iff args).mpr ⟨plain, noQuery⟩
  have member : call ∈ e.keptCall? := by rw [Expr.keptCall?_of_call isCall, kept]; rfl
  have aggregate : IsAggregateName call.name := by
    by_contra unknown
    exact known ⟨call, member, unknown⟩
  refine ⟨?_, call, kept, ?_⟩
  · rw [← CallHead.name_of_toFunctionCall? kept]
    exact aggregate
  · by_contra unusable
    exact usable ⟨call, member, aggregate, unusable⟩

namespace Query

/-- The leaves of the condition, from left to right; without `WHERE` there are none. -/
def whereLeaves (q : Query) : List Expr := q.condition?.toList.flatMap Expr.leaves

/-! ## The checks as statements about expressions -/

section Reduced

variable {q : Query} {select : SqlSearch.Select}
  (reduced : q.toStatement = .ok (.select select))

theorem isLeaf_of_mem_whereLeaves {leaf : Expr} (member : leaf ∈ q.whereLeaves) :
    leaf.IsLeaf := by
  obtain ⟨e, -, inside⟩ := List.mem_flatMap.mp member
  exact Expr.isLeaf_of_mem_leaves inside

theorem SubqueryFree.whereLeaf (free : q.SubqueryFree) {leaf : Expr}
    (member : leaf ∈ q.whereLeaves) :
    leaf.SubqueryFree := by
  obtain ⟨e, present, inside⟩ := List.mem_flatMap.mp member
  exact (free.expr (mem_clauseExprs_of_condition (Option.mem_toList.mp present))).leaf inside

include reduced

/-- The first leaf without a clause is the first that is no comparison, or an inequality. -/
theorem head?_untranslated_iff (free : q.SubqueryFree) (text : String) :
    select.untranslated.head? = some text ↔
      ∃ leaf, FirstOf (fun leaf => ¬ leaf.IsComparison) q.whereLeaves leaf ∧
        leaf.refusal = text := by
  rw [untranslated_eq reduced]
  exact head?_filterMap_eq_some_iff
    (fun leaf member => Expr.textWithoutClause?_toCondition (isLeaf_of_mem_whereLeaves member)
      (free.whereLeaf member)) text

/-- Every leaf has a clause if all of them are comparisons other than inequalities. -/
theorem untranslated_eq_nil_iff (free : q.SubqueryFree) :
    select.untranslated = [] ↔ ∀ leaf ∈ q.whereLeaves, leaf.IsComparison := by
  rw [untranslated_eq reduced, List.filterMap_eq_nil_iff]
  refine forall₂_congr fun leaf member => ?_
  have refused :=
    Expr.textWithoutClause?_toCondition (isLeaf_of_mem_whereLeaves member)
      (free.whereLeaf member)
  rw [Option.eq_none_iff_forall_ne_some]
  constructor
  · intro none
    by_contra noComparison
    exact none leaf.refusal ((refused leaf.refusal).mpr ⟨noComparison, rfl⟩)
  · intro comparison text found
    exact ((refused text).mp found).1 comparison

/-- The first call with a fault is the one that is kept of the first expression with that
fault. -/
theorem head?_functionFaults_iff (P : FunctionCall → Prop) [DecidablePred P] (text : String) :
    (functionFaults (fun item => ∃ call ∈ item.call?, P call) select.projection).head? =
      some (.function text) ↔
      ∃ e, FirstOf (Expr.KeepsCall P) q.selectExprs e ∧ e.render = text := by
  rw [functionFaults_eq reduced P,
    head?_filterMap_eq_some_iff fun e _ => e.callFault?_eq_some_iff P]
  simp

theorem functionFaults_eq_nil_iff (P : FunctionCall → Prop) [DecidablePred P] :
    functionFaults (fun item => ∃ call ∈ item.call?, P call) select.projection = [] ↔
      ∀ e ∈ q.selectExprs, ¬ e.KeepsCall P := by
  rw [functionFaults_eq reduced P, List.filterMap_eq_nil_iff]
  simp [Expr.callFault?]

/-- Every function that is kept is an aggregate if no expression calls an unknown one. -/
theorem callsAggregates_iff :
    select.CallsAggregates ↔ ∀ e ∈ q.selectExprs, ¬ e.CallsUnknown := by
  rw [← unknown_eq_nil_iff]
  exact functionFaults_eq_nil_iff reduced _

/-- **Which queries strict mode accepts**, in terms of their expressions. -/
theorem exists_strict_document_iff :
    (∃ document, (Statement.select select).compile .strict = .ok document) ↔
      select.ReadsTable ∧ q.SubqueryFree ∧ (∀ leaf ∈ q.whereLeaves, leaf.IsComparison) ∧
        ∀ e ∈ q.selectExprs, ¬ e.CallsUnknown ∧ ¬ e.CallsUnusable := by
  rw [(Statement.compile_reports .strict (.select select)).exists_ok_iff, Statement.faults,
    List.append_eq_nil_iff, select.commonFaults_eq_nil_iff, Strictness.enforce_strict,
    Select.strictFaults, List.append_eq_nil_iff, List.append_eq_nil_iff, List.map_eq_nil_iff,
    unknown_eq_nil_iff, callsAggregates_iff reduced, subqueryFree_iff reduced]
  have unusable : functionFaults SelectItem.CallsUnusable select.projection = [] ↔
      ∀ e ∈ q.selectExprs, ¬ e.CallsUnusable := functionFaults_eq_nil_iff reduced _
  rw [unusable]
  constructor
  · rintro ⟨⟨reads, free⟩, known, translated, usable⟩
    exact ⟨reads, free, (untranslated_eq_nil_iff reduced free).mp translated,
      fun e member => ⟨known e member, usable e member⟩⟩
  · rintro ⟨reads, free, comparisons, calls⟩
    exact ⟨⟨reads, free⟩, fun e member => (calls e member).1,
      (untranslated_eq_nil_iff reduced free).mpr comparisons,
      fun e member => (calls e member).2⟩

end Reduced

/-! ## The condition -/

/-- **Strict mode accepts comparisons.** Of a query that is reduced to a `SELECT` of a table:
if it is accepted, every leaf of its condition is a comparison, but no inequality, of two
operands that are no nested queries. It is refused for a predicate exactly if some leaf is no
such comparison and neither a nested query nor an unknown function comes before; and then it is
refused for the first such leaf. -/
theorem strict_leaves_are_comparisons (q : Query) (select : SqlSearch.Select) (table : String)
    (reduced : q.toStatement = .ok (.select select)) (reads : select.source = .table table) :
    (∀ document, (Statement.select select).compile .strict = .ok document →
      ∀ leaf ∈ q.whereLeaves,
        leaf.Compares (fun e => ¬ e.StandsForQuery) (fun e => ¬ e.StandsForQuery)) ∧
    ((∃ text, (Statement.select select).compile .strict = .error (.predicate text)) ↔
      q.SubqueryFree ∧ (∀ e ∈ q.selectExprs, ¬ e.CallsUnknown) ∧
        ∃ leaf ∈ q.whereLeaves, ¬ leaf.IsComparison) ∧
    (∀ text, (Statement.select select).compile .strict = .error (.predicate text) ↔
      q.SubqueryFree ∧ (∀ e ∈ q.selectExprs, ¬ e.CallsUnknown) ∧
        ∃ leaf, FirstOf (fun leaf => ¬ leaf.IsComparison) q.whereLeaves leaf ∧
          leaf.refusal = text) := by
  have refused : ∀ text, (Statement.select select).compile .strict = .error (.predicate text) ↔
      q.SubqueryFree ∧ (∀ e ∈ q.selectExprs, ¬ e.CallsUnknown) ∧
        ∃ leaf, FirstOf (fun leaf => ¬ leaf.IsComparison) q.whereLeaves leaf ∧
          leaf.refusal = text := by
    intro text
    rw [select.strict_error_predicate_iff, and_iff_right ⟨table, reads⟩,
      subqueryFree_iff reduced, callsAggregates_iff reduced]
    exact and_congr_right fun free => and_congr_right fun _ =>
      head?_untranslated_iff reduced free text
  refine ⟨fun document accepted leaf member => ?_, ?_, refused⟩
  · obtain ⟨-, free, comparisons, -⟩ :=
      (exists_strict_document_iff reduced).mp ⟨document, accepted⟩
    exact (comparisons leaf member).of_subqueryFree (free.whereLeaf member)
  · rw [exists_congr refused, ← exists_firstOf_iff]
    constructor
    · rintro ⟨text, free, known, leaf, first, -⟩
      exact ⟨free, known, leaf, first⟩
    · rintro ⟨free, known, leaf, first⟩
      exact ⟨leaf.refusal, free, known, leaf, first, rfl⟩

/-- `SELECT id FROM t WHERE a = 1 AND (b < 2 OR t.c <> 3 OR d IS NULL)` -/
def mixedLeaves : Query :=
  { body := .select
      { items := [.expr (.column { name := { value := "id" } }) none]
        tables :=
          [{ relation := { kind := .table { name := { value := "t" } }, body := "t" } }]
        condition := some (.binary
          (.binary (.column { name := { value := "a" } }) (.compare .eq)
            (.value (.number "1" false)))
          .and
          (.nested (.binary
            (.binary
              (.binary (.column { name := { value := "b" } }) (.compare .lt)
                (.value (.number "2" false)))
              .or
              (.binary (.column { qualifiers := [{ value := "t" }], name := { value := "c" } })
                (.compare .ne) (.value (.number "3" false))))
            .or
            (.ofPieces [.operand (.column { name := { value := "d" } }),
              .text " IS NULL"])))) } }

/-- Of the two leaves without a clause the inequality is reported. -/
theorem strict_leaves_are_comparisons_mixed :
    mixedLeaves.render = "SELECT id FROM t WHERE a = 1 AND (b < 2 OR t.c <> 3 OR d IS NULL)" ∧
      ∃ select, mixedLeaves.toStatement = .ok (.select select) ∧ select.source = .table "t" ∧
        ∃ leaf, FirstOf (fun leaf => ¬ leaf.IsComparison) mixedLeaves.whereLeaves leaf ∧
          leaf.refusal = "t.c <> 3" :=
  ⟨by decide +kernel, _, rfl, rfl,
    (((strict_leaves_are_comparisons mixedLeaves _ "t" rfl rfl).2.2 "t.c <> 3").mp rfl).2.2⟩

/-! ### Operands that have no counterpart -/

/-- `SELECT id FROM t WHERE a = b` -/
def columnComparison : Query :=
  { body := .select
      { items := [.expr (.column { name := { value := "id" } }) none]
        tables :=
          [{ relation := { kind := .table { name := { value := "t" } }, body := "t" } }]
        condition := some (.binary (.column { name := { value := "a" } }) (.compare .eq)
          (.column { name := { value := "b" } })) } }

/-- **Operands are not looked at.** Strict mode accepts a comparison of two columns and takes
the second for a literal. It accepts other operands as well, on either side: they become the
name of a field, or a value, that nothing has. -/
theorem column_comparison_accepted :
    (∃ leaf ∈ columnComparison.whereLeaves, ¬ leaf.Compares Expr.IsColumn Expr.IsLiteral) ∧
    (∃ select, columnComparison.toStatement = .ok (.select select) ∧
      select.source = .table "t" ∧
      (Statement.select select).compile .strict = .ok ⟨.term "a" "b", 0, 1, none, []⟩) ∧
    columnComparison.render = "SELECT id FROM t WHERE a = b" ∧
    ∀ written ∈
      [("a = b", "\x7b\"term\":\x7b\"a\":\"b\"\x7d\x7d"),
        ("1 = a", "\x7b\"term\":\x7b\"1\":\"a\"\x7d\x7d"),
        ("a + 1 > 2", "\x7b\"range\":\x7b\"a + 1\":\x7b\"gt\":\"2\"\x7d\x7d\x7d"),
        ("a = 'x' || 'y'", "\x7b\"term\":\x7b\"a\":\"x' || 'y\"\x7d\x7d")],
      (Document.ofSql ⟨.generic, .strict⟩ ("SELECT id FROM t WHERE " ++ written.1)).map
        (·.query.toJson.compact) =
        .ok written.2 := by
  refine ⟨⟨_, List.mem_singleton.mpr rfl, ?_⟩, ⟨_, rfl, rfl, rfl⟩, by decide +kernel,
    by decide +kernel⟩
  rintro ⟨-, -, literal⟩
  cases literal

/-! ## The select list -/

/-- **Strict mode checks calls.** Of a query that is reduced to a `SELECT`: if it is accepted,
every call of its select list, parentheses aside, is over a window or is one of the aggregates
with something to work on; and a call without a window that is not makes it fail. It is refused
for a function exactly if it reads a table, no nested query stands in it, and either the
function is the first unknown one, or there is none, every leaf of the condition has a clause,
and the call is the first that has nothing to work on. -/
theorem strict_calls_pass (q : Query) (select : SqlSearch.Select)
    (reduced : q.toStatement = .ok (.select select)) :
    (∀ document, (Statement.select select).compile .strict = .ok document →
      ∀ e ∈ q.selectExprs, ∀ head parameters args operands,
        e.unparenthesized = .call head parameters args operands →
          head.window ≠ none ∨ head.Passes args) ∧
    (∀ e ∈ q.selectExprs, ∀ head parameters args operands,
      e.unparenthesized = .call head parameters args operands → head.window = none →
        ¬ head.Passes args →
        ∃ error, (Statement.select select).compile .strict = .error error) ∧
    ∀ text, (Statement.select select).compile .strict = .error (.function text) ↔
      select.ReadsTable ∧ q.SubqueryFree ∧
        ((∃ e, FirstOf Expr.CallsUnknown q.selectExprs e ∧ e.render = text) ∨
          (∀ e ∈ q.selectExprs, ¬ e.CallsUnknown) ∧
            (∀ leaf ∈ q.whereLeaves, leaf.IsComparison) ∧
            ∃ e, FirstOf Expr.CallsUnusable q.selectExprs e ∧ e.render = text) := by
  have checked : ∀ document, (Statement.select select).compile .strict = .ok document →
      ∀ e ∈ q.selectExprs, ∀ head parameters args operands,
        e.unparenthesized = .call head parameters args operands →
          head.window ≠ none ∨ head.Passes args := by
    intro document accepted e member head parameters args operands isCall
    obtain ⟨-, free, -, calls⟩ := (exists_strict_document_iff reduced).mp ⟨document, accepted⟩
    rw [or_iff_not_imp_left, Decidable.not_not]
    intro plain
    exact CallHead.passes_of_sound isCall plain
      (free.expr (mem_clauseExprs_of_select member)).self
      (calls e member).1 (calls e member).2
  refine ⟨checked, ?_, fun text => ?_⟩
  · intro e member head parameters args operands isCall plain fails
    cases outcome : (Statement.select select).compile .strict with
    | error error => exact ⟨error, rfl⟩
    | ok document =>
      rcases checked document outcome e member head parameters args operands isCall with
        windowed | passes
      · exact absurd plain windowed
      · exact absurd passes fails
  · rw [select.strict_error_function_iff, subqueryFree_iff reduced,
      callsAggregates_iff reduced]
    refine and_congr_right fun _ => and_congr_right fun free =>
      or_congr (head?_functionFaults_iff reduced _ text) ?_
    rw [untranslated_eq_nil_iff reduced free]
    exact and_congr_right fun _ => and_congr_right fun _ =>
      head?_functionFaults_iff reduced _ text

/-- `SELECT MAX(a), (SUM(b + 1)), LOWER(c) FROM t` -/
def mixedCalls : Query :=
  { body := .select
      { items :=
          [.expr (.call { name := { name := { value := "MAX" } }, form := .list none } []
              [.column { name := { value := "a" } }] []) none,
            .expr (.nested (.call
              { name := { name := { value := "SUM" } }, form := .list none } []
              [.binary (.column { name := { value := "b" } }) (.other "+")
                (.value (.number "1" false))] [])) none,
            .expr (.call { name := { name := { value := "LOWER" } }, form := .list none } []
              [.column { name := { value := "c" } }] []) none]
        tables :=
          [{ relation := { kind := .table { name := { value := "t" } }, body := "t" } }] } }

/-- The unknown function is reported, though the call in front of it has nothing to work on. -/
theorem strict_calls_pass_mixed :
    mixedCalls.render = "SELECT MAX(a), (SUM(b + 1)), LOWER(c) FROM t" ∧
      ∃ select, mixedCalls.toStatement = .ok (.select select) ∧
        (Statement.select select).compile .strict = .error (.function "LOWER(c)") ∧
        mixedCalls.SubqueryFree :=
  ⟨by decide +kernel, _, rfl, rfl,
    (((strict_calls_pass mixedCalls _ rfl).2.2 "LOWER(c)").mp rfl).2.1⟩

/-! ### Parts of a call that are not looked at -/

/-- `SELECT ROW_NUMBER() OVER (ORDER BY a) FROM t` -/
def rankedRows : Query :=
  { body := .select
      { items :=
          [.expr (.call
            { name := { name := { value := "ROW_NUMBER" } }
              form := .list none
              window := some [.text " OVER (ORDER BY ", .operand 0, .text ")"] }
            [] [] [.column { name := { value := "a" } }]) none]
        tables :=
          [{ relation := { kind := .table { name := { value := "t" } }, body := "t" } }] } }

/-- **Parts of a call are dropped.** Strict mode accepts a call of an unknown function over a
window, and its document says nothing of it. It also passes over a second argument and over a
`FILTER`: with and without them the metric is the same. -/
theorem dropped_call_parts_accepted :
    (∃ e ∈ rankedRows.selectExprs, ∃ head parameters args operands,
      e.unparenthesized = .call head parameters args operands ∧ ¬ head.IsPlainAggregate args ∧
        ¬ IsAggregateName head.name.name.value) ∧
    (∃ select, rankedRows.toStatement = .ok (.select select) ∧ select.source = .table "t" ∧
      (Statement.select select).compile .strict = .ok ⟨.matchAll, 0, 1, none, []⟩) ∧
    rankedRows.render = "SELECT ROW_NUMBER() OVER (ORDER BY a) FROM t" ∧
    (Document.ofSql ⟨.generic, .strict⟩ "SELECT ROW_NUMBER() OVER (ORDER BY a) FROM t").map
      (·.render .compact) =
      .ok "\x7b\"query\":\x7b\"match_all\":\x7b\x7d\x7d,\"from\":0,\"size\":1\x7d" ∧
    ∀ call ∈ ["SUM(a)", "SUM(a, b)", "SUM(a) FILTER (WHERE b > 1)"],
      (Document.ofSql ⟨.postgres, .strict⟩ ("SELECT " ++ call ++ " AS total FROM t")).map
          (fun document => (Document.aggregationField document.aggregations).map
            (·.2.compact)) =
        .ok ["\x7b\"total\":\x7b\"sum\":\x7b\"field\":\"a\"\x7d\x7d\x7d"] := by
  have unknown : ¬ IsAggregateName "ROW_NUMBER" := by decide +kernel
  refine ⟨⟨_, List.mem_singleton.mpr rfl, _, _, _, _, rfl,
    fun plain => unknown plain.aggregate, unknown⟩, ⟨_, rfl, rfl, rfl⟩, by decide +kernel,
    by decide +kernel, by decide +kernel⟩

end Query

end Sql

end SqlSearch
