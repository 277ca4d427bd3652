import Mathlib.Data.List.Forall2
import SqlSearch.Proofs.Acceptance

/-!
# The shape of documents

A document that comes out of compilation is more regular than its type says.  The filter is
built from the leaves up by two operations, `Clause.conj` and `Clause.anyOf`, and only their
results occur in it: choices between two parts, and lists of at least two parts that do not
start with a list.  The rest of the document follows one of two patterns, according to whether
there are aggregations.

## Main definitions

* `Clause.Occurs`: a clause occurs in another, at any depth
* `Clause.NodeShape`, `Clause.Canonical`: the shape of one node, and of all nodes
* `SelectItem.CallsAggregate`, `Select.Aggregates`: what calls for aggregations
* `OrderItem.SortsAs`: the sort key that an item of `ORDER BY` becomes

## Main statements

* `Clause.Canonical.conj`, `Clause.Canonical.anyOf`: the two operations keep the shape
* `Condition.canonical_of_compile`: the clause of a condition has the shape
* `Statement.exists_select_of_compile`: the two patterns of a document
* `Statement.compile_keeps_invariants`: the invariants of a document
-/

namespace SqlSearch

/-! ## Clauses inside a clause -/

namespace Clause

/-- The parts of a combination; a leaf has none. -/
def parts : Clause → List Clause
  | .must clauses => clauses
  | .should clauses _ => clauses
  | .matchAll => []
  | .term _ _ => []
  | .range _ _ _ => []

/-- The clause `inner` **occurs** in a clause: it is the clause, or it occurs in one of its
parts. -/
inductive Occurs (inner : Clause) : Clause → Prop
  | here : Occurs inner inner
  | part {clause part : Clause} (member : part ∈ clause.parts) (inside : Occurs inner part) :
    Occurs inner clause

/-- The shape of a single node: a `should` asks for one of two parts, and a `must` has at least
two parts, the first of which is no `must`. -/
def NodeShape : Clause → Prop
  | .should clauses minimum => clauses.length = 2 ∧ minimum = 1
  | .must clauses => 2 ≤ clauses.length ∧ ∀ inner, clauses.head? ≠ some (.must inner)
  | .matchAll => True
  | .term _ _ => True
  | .range _ _ _ => True

/-- **The shape of a compiled clause**: every node has it, at every depth. -/
def Canonical (clause : Clause) : Prop := ∀ inner, Occurs inner clause → inner.NodeShape

/-- A clause has the shape if its outermost node and all of its parts do. -/
theorem canonical_iff (clause : Clause) :
    clause.Canonical ↔ clause.NodeShape ∧ ∀ part ∈ clause.parts, part.Canonical := by
  constructor
  · intro canonical
    exact ⟨canonical clause .here,
      fun part member inner inside => canonical inner (.part member inside)⟩
  · rintro ⟨shape, below⟩ inner (_ | ⟨member, inside⟩)
    · exact shape
    · exact below _ member inner inside

/-- A leaf has the shape. -/
theorem canonical_of_leaf {clause : Clause} (leaf : clause.parts = [])
    (shape : clause.NodeShape) :
    clause.Canonical := by
  rw [canonical_iff, leaf]
  exact ⟨shape, by simp⟩

namespace Canonical

variable {left right : Clause}

/-- A choice between two clauses has the shape if they do. -/
theorem anyOf (isLeft : left.Canonical) (isRight : right.Canonical) :
    (anyOf [left, right]).Canonical := by
  rw [canonical_iff]
  refine ⟨⟨rfl, rfl⟩, fun part member => ?_⟩
  rcases List.mem_pair.mp member with rfl | rfl
  · exact isLeft
  · exact isRight

/-- A list that starts with a clause that is no list has the shape. -/
theorem must_pair (isLeft : left.Canonical) (isRight : right.Canonical)
    (noList : ∀ inner, left ≠ .must inner) : (must [left, right]).Canonical := by
  rw [canonical_iff]
  refine ⟨⟨Nat.le_refl 2, fun inner first => noList inner (Option.some.inj first)⟩,
    fun part member => ?_⟩
  rcases List.mem_pair.mp member with rfl | rfl
  · exact isLeft
  · exact isRight

/-- A list keeps the shape when a clause joins it: it still starts as before. -/
theorem must_append {clauses : List Clause} (isList : (must clauses).Canonical)
    (isRight : right.Canonical) : (must (clauses ++ [right])).Canonical := by
  rw [canonical_iff] at isList ⊢
  obtain ⟨⟨two, noList⟩, each⟩ := isList
  refine ⟨⟨?_, fun inner => ?_⟩, fun part member => ?_⟩
  · rw [List.length_append]
    omega
  · cases clauses with
    | nil => simp at two
    | cons first rest => exact noList inner
  · rcases List.mem_append.mp member with member | member
    · exact each part member
    · cases List.mem_singleton.mp member
      exact isRight

/-- The conjunction of two clauses has the shape if they do. -/
theorem conj (isLeft : left.Canonical) (isRight : right.Canonical) :
    (left.conj right).Canonical := by
  cases left with
  | must clauses => exact isLeft.must_append isRight
  | matchAll | term field value | range field op value | should clauses minimum =>
    exact isLeft.must_pair isRight nofun

end Canonical

end Clause

/-! ## The clause of a condition -/

theorem canonical_of_fallback {strictness : Strictness} {text : String} {clause : Clause}
    (compiled : strictness.fallback text = .ok clause) : clause.Canonical := by
  cases strictness with
  | permissive =>
    cases compiled
    exact Clause.canonical_of_leaf rfl trivial
  | strict => cases compiled

theorem canonical_of_compileCompare {strictness : Strictness} {op : CompareOp}
    {field literal : String} {clause : Clause}
    (compiled : compileCompare strictness op field literal = .ok clause) :
    clause.Canonical := by
  cases op with
  | ne => exact canonical_of_fallback compiled
  | eq | gt | ge | lt | le =>
    cases compiled
    exact Clause.canonical_of_leaf rfl trivial

/-- The clause of a condition has the shape. -/
theorem Condition.canonical_of_compile {strictness : Strictness} {condition : Condition}
    {clause : Clause} (compiled : condition.compile strictness = .ok clause) :
    clause.Canonical := by
  induction condition generalizing clause with
  | and left right ihLeft ihRight =>
    obtain ⟨l, r, leftOk, rightOk, rfl⟩ := compile_and_eq_ok_iff.mp compiled
    exact (ihLeft leftOk).conj (ihRight rightOk)
  | or left right ihLeft ihRight =>
    obtain ⟨l, r, leftOk, rightOk, rfl⟩ := compile_or_eq_ok_iff.mp compiled
    exact (ihLeft leftOk).anyOf (ihRight rightOk)
  | group inner ih => exact ih compiled
  | compare op field literal => exact canonical_of_compileCompare compiled
  | subquery text => exact canonical_of_fallback compiled
  | other text => exact canonical_of_fallback compiled

theorem canonical_of_compileFilter {strictness : Strictness} {condition : Option Condition}
    {clause : Clause} (compiled : compileFilter strictness condition = .ok clause) :
    clause.Canonical := by
  cases condition with
  | none =>
    cases compiled
    exact Clause.canonical_of_leaf rfl trivial
  | some condition => exact condition.canonical_of_compile compiled

/-! ## What calls for aggregations -/

/-- The item calls one of the aggregates. -/
def SelectItem.CallsAggregate (item : SelectItem) : Prop :=
  ∃ call, item.expr = .call call ∧ IsAggregateName call.name

/-- Aggregations are called for: by a field of `GROUP BY`, or by a call of the select list. -/
def Select.Aggregates (select : Select) : Prop :=
  select.groupBy ≠ [] ∨ ∃ item ∈ select.projection, item.CallsAggregate

theorem SelectItem.isSome_metricKind?_iff (item : SelectItem) :
    item.metricKind?.isSome = true ↔ item.CallsAggregate := by
  rw [metricKind?, CallsAggregate]
  cases item.expr with
  | call call =>
    rw [← Option.ne_none_iff_isSome, ne_eq, MetricKind.ofFunction?_eq_none_iff,
      Decidable.not_not]
    simp
  | wildcard | column path | other text => simp

theorem needsAggregation_iff (select : Select) :
    needsAggregation select = true ↔ select.Aggregates := by
  rw [needsAggregation, Select.Aggregates]
  simp [SelectItem.isSome_metricKind?_iff]

/-! ## The two patterns of a document -/

/-- The sort key says what the item of `ORDER BY` says. -/
def OrderItem.SortsAs (item : OrderItem) (directive : SortDirective) : Prop :=
  directive.field = item.field ∧ (directive.order = .asc ↔ item.ascending = true)

theorem OrderItem.sortsAs_directive (item : OrderItem) : item.SortsAs item.directive := by
  refine ⟨rfl, ?_⟩
  cases ascending : item.ascending <;> simp [directive, ascending]

theorem Select.page_of_limit {select : Select} {limit : Nat}
    (given : select.limit = some limit) :
    select.page = (select.offset.getD 0, limit) := by
  rw [page, given]

theorem Select.page_of_no_limit {select : Select} (none : select.limit = none) :
    select.page = (0, 1) := by
  rw [page, none]
  rfl

/-- **The two patterns of a document.** With aggregations there is no page and no order;
without them both are those of the statement. -/
theorem Select.compile_eq_ok_iff {strictness : Strictness} {select : Select}
    {document : Document} :
    select.compile strictness = .ok document ↔
      ∃ query, compileFilter strictness select.condition = .ok query ∧
        ((select.Aggregates ∧
            ∃ tree, buildAggregations strictness select.projection select.groupBy = .ok tree ∧
              document = ⟨query, 0, 0, some tree, []⟩) ∨
          (¬ select.Aggregates ∧
            document =
              ⟨query, select.page.1, select.page.2, none,
                select.orderBy.map OrderItem.directive⟩)) := by
  rw [compile, bind_eq_ok_iff]
  refine exists_congr fun query => and_congr_right fun _ => ?_
  rw [← needsAggregation_iff]
  cases needsAggregation select with
  | true =>
    simp only [↓reduceIte, bind_eq_ok_iff, pure, Except.pure, Except.ok.injEq, true_and,
      not_true_eq_false, false_and, or_false]
    exact exists_congr fun tree => and_congr_right fun _ => eq_comm
  | false =>
    simp only [Bool.false_eq_true, ↓reduceIte, pure, Except.pure, Except.ok.injEq, false_and,
      not_false_eq_true, true_and, false_or]
    exact eq_comm

namespace Statement

/-- Only a `SELECT` has a document, and it is the one that is built once the checks are
passed. -/
theorem exists_select_of_compile {strictness : Strictness} {statement : Statement}
    {document : Document} (compiled : statement.compile strictness = .ok document) :
    ∃ select, statement = .select select ∧ select.compile strictness = .ok document := by
  obtain ⟨select, passed, built⟩ := bind_eq_ok_iff.mp compiled
  cases statement with
  | select query =>
    obtain ⟨-, -, same⟩ := bind_eq_ok_iff.mp passed
    cases same
    exact ⟨select, rfl, built⟩
  | change kind table => cases passed
  | compound text | other text => cases passed

/-- **The invariants of a document.** Every node of its filter has its shape. It has
aggregations exactly if the `SELECT` calls for them. With aggregations it has no page and no
order; without them the sort keys are the items of `ORDER BY`, and the page is that of `LIMIT`
and `OFFSET`, or the first record if there is no `LIMIT`. -/
theorem compile_keeps_invariants (statement : Statement) (strictness : Strictness)
    (document : Document) (compiled : statement.compile strictness = .ok document) :
    ∃ select, statement = .select select ∧
      document.query.Canonical ∧
      (document.aggregations.isSome = true ↔
        select.groupBy ≠ [] ∨ ∃ item ∈ select.projection, item.CallsAggregate) ∧
      (document.aggregations.isSome = true →
        document.start = 0 ∧ document.size = 0 ∧ document.sort = []) ∧
      (document.aggregations = none →
        List.Forall₂ OrderItem.SortsAs select.orderBy document.sort ∧
        (∀ limit, select.limit = some limit →
          (document.start, document.size) = (select.offset.getD 0, limit)) ∧
        (select.limit = none → (document.start, document.size) = (0, 1))) := by
  obtain ⟨select, rfl, built⟩ := exists_select_of_compile compiled
  obtain ⟨query, filtered, pattern⟩ := Select.compile_eq_ok_iff.mp built
  have canonical : query.Canonical := canonical_of_compileFilter filtered
  rcases pattern with ⟨aggregates, tree, -, rfl⟩ | ⟨plain, rfl⟩
  · exact ⟨select, rfl, canonical, iff_of_true rfl aggregates, fun _ => ⟨rfl, rfl, rfl⟩, nofun⟩
  · refine ⟨select, rfl, canonical, iff_of_false nofun plain, nofun, fun _ => ⟨?_, ?_, ?_⟩⟩
    · rw [List.forall₂_map_right_iff, List.forall₂_same]
      exact fun item _ => item.sortsAs_directive
    · exact fun limit given => Select.page_of_limit given
    · exact fun none => Select.page_of_no_limit none

/-- A statement with a conjunction in parentheses, a choice, sort keys, and an `OFFSET`. -/
def pagedStatement : Statement :=
  .select
    { projection := [{ expr := .column "name" }]
      source := .table "staff"
      condition := some (.and
        (.group (.and (.compare .eq "city" "'Rome'") (.compare .gt "age" "30")))
        (.or (.compare .le "rank" "3") (.compare .eq "lead" "true")))
      orderBy := [⟨"name", true⟩, ⟨"age", false⟩]
      limit := some 20
      offset := some 40 }

/-- The document of `pagedStatement`: one list of three parts, and the page and the order as
given. -/
def pagedDocument : Document :=
  ⟨.must [.term "city" "Rome", .range "age" .gt "30",
      .anyOf [.range "rank" .lte "3", .term "lead" "true"]],
    40, 20, none, [⟨"name", .asc⟩, ⟨"age", .desc⟩]⟩

theorem compile_keeps_invariants_paged :
    pagedStatement.compile .strict = .ok pagedDocument ∧ pagedDocument.query.Canonical ∧
      ∃ select, pagedStatement = .select select ∧
        List.Forall₂ OrderItem.SortsAs select.orderBy pagedDocument.sort := by
  have compiled : pagedStatement.compile .strict = .ok pagedDocument := rfl
  obtain ⟨select, same, canonical, -, -, plain⟩ :=
    compile_keeps_invariants pagedStatement .strict pagedDocument compiled
  exact ⟨compiled, canonical, select, same, (plain rfl).1⟩

end Statement

end SqlSearch
