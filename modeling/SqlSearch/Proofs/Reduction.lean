import SqlSearch.Proofs.Subquery

/-!
# What the reduction keeps of a query

The reduction of a query turns its condition and its select list into simpler trees, in which
most expressions are their text.  This module follows the two clauses through it, so that what
is said of the reduced clauses can be read as a statement about the expressions of the query.

* **The condition.**  The leaves of the reduced condition are the reductions of the leaves, one
  by one and in order. Where there is no nested query a leaf is kept as a comparison or becomes
  its text.
* **The select list.**  A call is kept if it has no window and no query as its argument,
  whether or not it stands in parentheses.

## Main definitions

* `FirstOf`: the first expression of a list that has a property
* `Expr.leaves`: the leaves of an expression that is read as a condition
* `Expr.Compares`: the leaf is a comparison other than an inequality, with operands of given
  kinds
* `Expr.refusal`: the text that a leaf without a clause is known by
* `Expr.unparenthesized`, `Expr.keptCall?`: an expression without parentheses, and the call
  that is kept of it
* `Query.condition?`, `Query.selectExprs`: the two clauses of a query
* `Query.SubqueryFree`: no nested query stands in the clauses

## Main statements

* `Expr.leaves_toCondition`: the leaves of the reduced condition
* `Expr.textWithoutClause?_toCondition`: which leaves have no clause
* `CallHead.exists_toFunctionCall?_iff`: which calls are kept
* `Query.subqueryFree_iff`, `Query.untranslated_eq`, `Query.functionFaults_eq`: the checks on a
  reduced query as statements about its expressions
-/

namespace SqlSearch.Sql

/-! ## The first of several expressions -/

/-- `e` is **the first** of a list of expressions that has a property. -/
def FirstOf (p : Expr → Prop) (list : List Expr) (e : Expr) : Prop :=
  ∃ before after, list = before ++ e :: after ∧ p e ∧ ∀ other ∈ before, ¬ p other

/-- Where something in a list has a property, something has it first. -/
theorem exists_firstOf_iff {p : Expr → Prop} {list : List Expr} :
    (∃ e, FirstOf p list e) ↔ ∃ e ∈ list, p e := by
  constructor
  · rintro ⟨e, before, after, rfl, has, -⟩
    exact ⟨e, by simp, has⟩
  · rintro ⟨e, member, has⟩
    induction list with
    | nil => cases member
    | cons head rest ih =>
      by_cases isFirst : p head
      · exact ⟨head, [], rest, rfl, isFirst, by simp⟩
      · have behind : e ∈ rest := by
          rcases List.mem_cons.mp member with rfl | behind
          · exact absurd has isFirst
          · exact behind
        obtain ⟨first, before, after, rfl, hasFirst, none⟩ := ih behind
        exact ⟨first, head :: before, after, rfl, hasFirst,
          List.forall_mem_cons.mpr ⟨isFirst, none⟩⟩

section Selection

variable {β : Type} {f : Expr → Option β} {p : Expr → Prop} {g : Expr → β} {list : List Expr}

/-- Where a list is searched for the expressions with a property, the first result is that of
the first of them. -/
theorem head?_filterMap_eq_some_iff (each : ∀ e ∈ list, ∀ b, f e = some b ↔ p e ∧ g e = b)
    (b : β) :
    (list.filterMap f).head? = some b ↔ ∃ e, FirstOf p list e ∧ g e = b := by
  have passed : ∀ e ∈ list, f e = none ↔ ¬ p e := by
    intro e member
    rw [Option.eq_none_iff_forall_ne_some]
    simp only [ne_eq, each e member, not_and]
    exact ⟨fun none has => none (g e) has rfl, fun hasNot _ has => absurd has hasNot⟩
  rw [List.head?_filterMap, List.findSome?_eq_some_iff]
  constructor
  · rintro ⟨before, e, after, rfl, found, none⟩
    obtain ⟨has, value⟩ := (each e (by simp) b).mp found
    refine ⟨e, ⟨before, after, rfl, has, fun other member => ?_⟩, value⟩
    exact (passed other (by simp [member])).mp (none other member)
  · rintro ⟨e, ⟨before, after, rfl, has, none⟩, value⟩
    refine ⟨before, e, after, rfl, (each e (by simp) b).mpr ⟨has, value⟩,
      fun other member => ?_⟩
    exact (passed other (by simp [member])).mpr (none other member)

end Selection

/-! ## Leaves of a condition -/

namespace Expr

/-- **The leaves** of a condition, from left to right: the largest expressions inside it that
are no conjunction, no disjunction and not in parentheses. -/
def leaves : Expr → List Expr
  | .binary left .and right => left.leaves ++ right.leaves
  | .binary left .or right => left.leaves ++ right.leaves
  | .nested inner => inner.leaves
  | e => [e]

/-- The expression is no conjunction, no disjunction and not in parentheses. -/
structure IsLeaf (e : Expr) : Prop where
  /-- It is no conjunction. -/
  ne_and : ∀ left right, e ≠ .binary left .and right
  /-- It is no disjunction. -/
  ne_or : ∀ left right, e ≠ .binary left .or right
  /-- It is not in parentheses. -/
  ne_nested : ∀ inner, e ≠ .nested inner

/-- The leaf is a comparison, but no inequality, between a left operand of one kind and a right
operand of another. -/
def Compares (Left Right : Expr → Prop) : Expr → Prop
  | .binary left (.compare op) right => op ≠ .ne ∧ Left left ∧ Right right
  | _ => False

/-- The leaf is a comparison, but no inequality, whatever its operands are. -/
def IsComparison : Expr → Prop := Compares (fun _ => True) (fun _ => True)

/-- The text that a leaf without a clause is known by: an inequality is put together anew from
the field and the literal it is read as, and any other leaf is written as it is. -/
def refusal : Expr → String
  | .binary left (.compare .ne) right => left.fieldPath ++ " <> " ++ right.render
  | e => e.render

theorem isLeaf_of_mem_leaves {e leaf : Expr} (member : leaf ∈ e.leaves) : leaf.IsLeaf := by
  fun_induction leaves e with
  | case1 left right ihLeft ihRight | case2 left right ihLeft ihRight =>
    rcases List.mem_append.mp member with member | member
    · exact ihLeft member
    · exact ihRight member
  | case3 inner ih => exact ih member
  | case4 e noAnd noOr noNested =>
    cases List.mem_singleton.mp member
    exact ⟨noAnd, noOr, noNested⟩

/-- Where no nested query stands in a condition, none stands in its leaves. -/
theorem SubqueryFree.leaf {e leaf : Expr} (free : e.SubqueryFree) (member : leaf ∈ e.leaves) :
    leaf.SubqueryFree := by
  fun_induction leaves e with
  | case1 left right ihLeft ihRight | case2 left right ihLeft ihRight =>
    rcases List.mem_append.mp member with member | member
    · exact ihLeft (free.operand (by simp [operands])) member
    · exact ihRight (free.operand (by simp [operands])) member
  | case3 inner ih => exact ih (free.operand (by simp [operands])) member
  | case4 e noAnd noOr noNested =>
    cases List.mem_singleton.mp member
    exact free

/-- A leaf is reduced to a leaf. -/
theorem IsLeaf.leaves_toCondition {leaf : Expr} (isLeaf : leaf.IsLeaf) :
    leaf.toCondition.leaves = [leaf.toCondition] := by
  cases leaf with
  | binary left op right =>
    cases op with
    | and => exact absurd rfl (isLeaf.ne_and left right)
    | or => exact absurd rfl (isLeaf.ne_or left right)
    | compare op | other sign =>
      rw [toCondition]
      split <;> rfl
  | nested inner => exact absurd rfl (isLeaf.ne_nested inner)
  | wildcard | qualifiedWildcard path | column path | value v | unary op operand | subquery q
  | inSubquery operand negated q | «exists» negated q | call head parameters args operands
  | phrase layout operands => rfl

/-- **The leaves of the reduced condition** are the reductions of the leaves. -/
theorem leaves_toCondition (e : Expr) : e.toCondition.leaves = e.leaves.map toCondition := by
  fun_induction leaves e with
  | case1 left right ihLeft ihRight | case2 left right ihLeft ihRight =>
    rw [List.map_append, ← ihLeft, ← ihRight]
    rfl
  | case3 inner ih => exact ih
  | case4 e noAnd noOr noNested => exact IsLeaf.leaves_toCondition ⟨noAnd, noOr, noNested⟩

/-- **A leaf has no clause** exactly if it is no comparison, or an inequality. -/
theorem textWithoutClause?_toCondition {leaf : Expr} (isLeaf : leaf.IsLeaf)
    (free : leaf.SubqueryFree) (text : String) :
    leaf.toCondition.textWithoutClause? = some text ↔
      ¬ leaf.IsComparison ∧ leaf.refusal = text := by
  cases leaf with
  | binary left op right =>
    have plain : ¬ (left.isSubquery || right.isSubquery) = true := by
      have isLeft : left.SubqueryFree := free.operand (by simp [operands])
      have isRight : right.SubqueryFree := free.operand (by simp [operands])
      simp [isLeft.self, isRight.self]
    cases op with
    | and => exact absurd rfl (isLeaf.ne_and left right)
    | or => exact absurd rfl (isLeaf.ne_or left right)
    | compare op =>
      rw [toCondition, if_neg plain]
      cases op <;> simp [Condition.textWithoutClause?, IsComparison, Compares, refusal]
    | other sign =>
      rw [toCondition, if_neg plain]
      simp [Condition.textWithoutClause?, IsComparison, Compares, refusal]
  | nested inner => exact absurd rfl (isLeaf.ne_nested inner)
  | wildcard | qualifiedWildcard path | column path | value v | unary op operand | subquery q
  | inSubquery operand negated q | «exists» negated q | call head parameters args operands
  | phrase layout operands =>
    simp [toCondition, Condition.textWithoutClause?, IsComparison, Compares, refusal]

/-! ## Calls of a select list -/

/-- The expression without the parentheses around it. -/
def unparenthesized : Expr → Expr
  | .nested inner => inner.unparenthesized
  | e => e

/-- **The call that is kept** of an expression: parentheses aside it is a call that has no
window and is not made on a query. -/
def keptCall? (e : Expr) : Option FunctionCall :=
  match e.unparenthesized with
  | .call head _ args _ => head.toFunctionCall? args
  | _ => none

/-- A call is kept of an expression, and it has a property. -/
def KeepsCall (P : FunctionCall → Prop) (e : Expr) : Prop := ∃ call ∈ e.keptCall?, P call

instance (P : FunctionCall → Prop) [DecidablePred P] : DecidablePred (KeepsCall P) := fun e =>
  inferInstanceAs (Decidable (∃ call ∈ e.keptCall?, P call))

/-- The error of an expression whose call has a property. -/
def callFault? (P : FunctionCall → Prop) [DecidablePred P] (e : Expr) : Option CompileError :=
  if e.KeepsCall P then some (.function e.render) else none

theorem callFault?_eq_some_iff (P : FunctionCall → Prop) [DecidablePred P] (e : Expr)
    (error : CompileError) :
    e.callFault? P = some error ↔ e.KeepsCall P ∧ .function e.render = error := by
  rw [callFault?, Option.ite_none_right_eq_some, Option.some_inj]

theorem keptCall?_of_call {e : Expr} {head : CallHead} {parameters args operands : List Expr}
    (isCall : e.unparenthesized = .call head parameters args operands) :
    e.keptCall? = head.toFunctionCall? args := by
  rw [keptCall?, isCall]

/-- What is left of an expression of the select list is a call exactly if one is kept. -/
theorem call?_toSelectExpr (e : Expr) (as? : Option String) (text : String) :
    (⟨e.toSelectExpr, as?, text⟩ : SqlSearch.SelectItem).call? = e.keptCall? := by
  rw [keptCall?, SelectItem.call?]
  fun_induction unparenthesized e with
  | case1 inner ih => exact ih
  | case2 e noNested =>
    cases e with
    | nested inner => exact absurd rfl (noNested inner)
    | call head parameters args operands =>
      rw [toSelectExpr]
      cases kept : head.toFunctionCall? args <;> simp only [kept]
    | wildcard | qualifiedWildcard path | column path | value v | unary op operand
    | binary left op right | subquery q | inSubquery operand negated q | «exists» negated q
    | phrase layout operands => rfl

/-- Parentheses do not hide a nested query. -/
theorem isSubquery_unparenthesized (e : Expr) :
    e.unparenthesized.isSubquery = e.isSubquery := by
  fun_induction unparenthesized e with
  | case1 inner ih => exact ih
  | case2 e noNested => rfl

/-- Parentheses do not count for the path of a field. -/
theorem fieldPath_unparenthesized (e : Expr) : e.unparenthesized.fieldPath = e.fieldPath := by
  fun_induction unparenthesized e with
  | case1 inner ih => exact ih
  | case2 e noNested => rfl

end Expr

/-- The name of the call that is kept. -/
theorem CallHead.name_of_toFunctionCall? {head : CallHead} {args : List Expr}
    {call : FunctionCall} (kept : head.toFunctionCall? args = some call) :
    call.name = head.name.name.value := by
  rw [toFunctionCall?] at kept
  split at kept
  · cases kept
  · split at kept <;> cases kept <;> rfl

/-- A call is kept if it has no window and is not made on a query. -/
theorem CallHead.exists_toFunctionCall?_iff (head : CallHead) (args : List Expr) :
    (∃ call, head.toFunctionCall? args = some call) ↔
      head.window = none ∧ head.form.isQuery = false := by
  rw [toFunctionCall?]
  cases head.window <;> cases head.form <;> simp [CallForm.isQuery]

/-- The expression of an item of the select list; a wildcard has none. -/
def SelectItem.expr? : SelectItem → Option Expr
  | .expr e _ => some e
  | .wildcard _ _ _ => none

/-! ## The clauses of a query -/

namespace Query

/-- The condition of `WHERE`. -/
def condition? (q : Query) : Option Expr :=
  match q.body with
  | .select s => s.condition
  | .compound _ => none

/-- The expressions of the select list, in order. -/
def selectExprs (q : Query) : List Expr :=
  match q.body with
  | .select s => s.items.filterMap SelectItem.expr?
  | .compound _ => []

/-- No nested query stands in the clauses that are searched. -/
def SubqueryFree (q : Query) : Prop :=
  ∀ place e, exprAt? q.clauseExprs place = some e → ¬ e.StandsForQuery

/-- Where no nested query stands in the clauses, none stands in an expression of theirs. -/
theorem SubqueryFree.expr {q : Query} (free : q.SubqueryFree) {e : Expr}
    (clause : e ∈ q.clauseExprs) :
    e.SubqueryFree := by
  intro inner inside
  have visited : inner ∈ q.clauseExprs.flatMap Expr.subexprs :=
    List.mem_flatMap.mpr ⟨e, clause, inside⟩
  obtain ⟨place, stands⟩ := (mem_flatMap_subexprs_iff q.clauseExprs inner).mp visited
  rw [← Bool.not_eq_true, inner.isSubquery_iff]
  exact free place inner stands

theorem mem_clauseExprs_of_condition {q : Query} {e : Expr} (present : q.condition? = some e) :
    e ∈ q.clauseExprs := by
  rw [condition?] at present
  rw [clauseExprs]
  cases body : q.body with
  | compound text => simp [body] at present
  | select s =>
    have same : s.condition = some e := by simpa [body] using present
    simp [same]

theorem mem_clauseExprs_of_select {q : Query} {e : Expr} (member : e ∈ q.selectExprs) :
    e ∈ q.clauseExprs := by
  rw [selectExprs] at member
  rw [clauseExprs]
  cases body : q.body with
  | compound text => simp [body] at member
  | select s =>
    simp only [body, List.mem_filterMap] at member
    obtain ⟨item, listed, same⟩ := member
    have inItem : e ∈ item.exprs := by
      cases item with
      | expr e' as? =>
        cases same
        exact List.mem_singleton.mpr rfl
      | wildcard qualifier options operands => cases same
    simp only [List.mem_append, List.mem_flatMap]
    exact Or.inl (Or.inl (Or.inl (Or.inl ⟨item, listed, inItem⟩)))

section Reduced

variable {q : Query} {select : SqlSearch.Select}
  (reduced : q.toStatement = .ok (.select select))
include reduced

/-- A `SELECT` is free of nested queries exactly if none stands in the clauses of its query. -/
theorem subqueryFree_iff : select.SubqueryFree ↔ q.SubqueryFree := by
  have first := exists_firstAt_iff Expr.isSubquery q.clauseExprs
  rw [Expr.isSubquery_eq_standsForQuery] at first
  have recorded : select.subquery = none ↔ q.SubqueryFree := by
    rw [Option.eq_none_iff_forall_ne_some]
    constructor
    · intro none place e stands isQuery
      obtain ⟨place', e', isFirst⟩ :=
        first.mpr ⟨place, e, stands, e.isSubquery_iff.mpr isQuery⟩
      exact none e'.render
        ((subquery_eq_some_iff reduced e'.render).mpr ⟨place', e', isFirst, rfl⟩)
    · intro free text onRecord
      obtain ⟨place, e, isFirst, -⟩ := (subquery_eq_some_iff reduced text).mp onRecord
      exact free place e isFirst.1 isFirst.2.1
  rw [← recorded]
  constructor
  · exact fun free => free.1
  · intro unrecorded
    -- The second search goes through the condition, and finds nothing either.
    have searches : select.subquery? = none := by
      rw [Select.subquery?, unrecorded,
        findSubquery?_eq_none_of_subquery_eq_none reduced unrecorded]
      rfl
    rw [select.subquery?_eq, List.head?_eq_none_iff] at searches
    exact select.subqueries_eq_nil_iff.mp searches

/-- The leaves without a clause, from left to right, are leaves of the condition of the
query. -/
theorem untranslated_eq :
    select.untranslated =
      (q.condition?.toList.flatMap Expr.leaves).filterMap fun leaf =>
        leaf.toCondition.textWithoutClause? := by
  obtain ⟨s, limit, offset, groupBy, -, body, -, -, -, rfl⟩ :=
    exists_select_of_toStatement reduced
  have condition : q.condition? = s.condition := by rw [condition?, body]
  rw [Select.untranslated, condition]
  cases s.condition with
  | none => rfl
  | some e =>
    simp only [Option.map_some, Option.toList_some, List.flatMap_singleton,
      Condition.leafTexts, e.leaves_toCondition, List.filterMap_map, Function.comp_def]

/-- The faults of the calls of a select list are those of the calls that are kept of its
expressions. -/
theorem functionFaults_eq (P : FunctionCall → Prop) [DecidablePred P] :
    functionFaults (fun item => ∃ call ∈ item.call?, P call) select.projection =
      q.selectExprs.filterMap (Expr.callFault? P) := by
  obtain ⟨s, limit, offset, groupBy, -, body, -, -, -, rfl⟩ :=
    exists_select_of_toStatement reduced
  have exprs : q.selectExprs = s.items.filterMap SelectItem.expr? := by rw [selectExprs, body]
  rw [exprs]
  change functionFaults _ (s.items.map SelectItem.toItem) = _
  induction s.items with
  | nil => rfl
  | cons item rest ih =>
    cases item with
    | wildcard qualifier options operands =>
      have sound : ¬ ∃ call ∈ (SelectItem.wildcard qualifier options operands).toItem.call?,
          P call := by
        cases qualifier <;> rintro ⟨call, ⟨⟩, -⟩
      rw [List.map_cons, functionFaults_cons_of_sound sound, ih]
      rfl
    | expr e as? =>
      have same : (SelectItem.expr e as?).toItem.call? = e.keptCall? :=
        e.call?_toSelectExpr _ _
      have listed : (SelectItem.expr e as?).expr? = some e := rfl
      rw [List.map_cons, List.filterMap_cons_some listed]
      by_cases faulty : e.KeepsCall P
      · rw [functionFaults_cons_of_faulty (by rw [same]; exact faulty), ih,
          List.filterMap_cons_some ((e.callFault?_eq_some_iff P _).mpr ⟨faulty, rfl⟩)]
        rfl
      · rw [functionFaults_cons_of_sound (by rw [same]; exact faulty), ih,
          List.filterMap_cons_none (by rw [Expr.callFault?, if_neg faulty])]

end Reduced

end Query

end SqlSearch.Sql
