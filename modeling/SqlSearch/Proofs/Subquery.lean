import SqlSearch.Document.OfSql
import SqlSearch.Proofs.Acceptance
import SqlSearch.Proofs.Place

/-!
# Nested queries outside `FROM`

Two searches guard against nested queries.  The first goes through the clauses of a query,
expression by expression, and puts the text of what it finds on record.  The second goes
through the condition that is left of `WHERE` after the reduction, where most expressions have
become their text.

The first search is shown to find the expression of the least place, and the second to find
nothing that the first has missed.  So a query is refused exactly if a nested query stands
somewhere in the clauses that are searched.

## Main definitions

* `Expr.StandsForQuery`: the expressions that are refused
* `Query.clauseExprs`: the expressions of the clauses that are searched, in order
* `Query.interpolated`: the expressions of `INTERPOLATE`, the end of `ORDER BY`

## Main statements

* `Query.exists_select_of_toStatement`: what a query that is reduced to a `SELECT` looks like
* `Expr.findSubquery?_toCondition_eq_none`: the second search finds nothing that the first has
  missed
* `Query.refused_iff_first_subquery`: which queries are refused, and with which text
* `Query.interpolated_subquery_accepted`: a nested query in `ORDER BY` that is not refused
-/

namespace SqlSearch

/-! ## Which `SELECT`s are refused for a nested query -/

/-- A `SELECT` of a table is refused for a nested query exactly if one of the searches finds
it, whatever else is wrong. -/
theorem Select.compile_eq_error_subquery_iff {select : Select} {table : String}
    (reads : select.source = .table table) (strictness : Strictness) (text : String) :
    (Statement.select select).compile strictness = .error (.subquery text) ↔
      select.subquery? = some text := by
  rw [Statement.compile_reports strictness (.select select), Statement.faults, commonFaults,
    reads, Source.faults, List.nil_append, select.subquery?_eq]
  cases select.subqueries with
  | cons first others => simp
  | nil =>
    -- What is left are faults of strict mode, and none of them is a nested query.
    refine iff_of_false (fun first => ?_) (by simp)
    have member := List.mem_of_head? first
    cases strictness with
    | permissive => cases member
    | strict =>
      obtain ⟨_, impossible | impossible⟩ := mem_strictFaults member <;> cases impossible

namespace Sql

/-! ## Expressions that are refused -/

namespace Expr

/-- **The expressions that stand for a nested query**: the query itself, a test against one, a
call on one, and each of them in parentheses. -/
inductive StandsForQuery : Expr → Prop
  | subquery (q : NestedQuery) : StandsForQuery (.subquery q)
  | inSubquery (operand : Expr) (negated : Bool) (q : NestedQuery) :
    StandsForQuery (.inSubquery operand negated q)
  | exists (negated : Bool) (q : NestedQuery) : StandsForQuery (.exists negated q)
  | call {head : CallHead} {q : NestedQuery} (parameters args operands : List Expr)
    (onQuery : head.form = .query q) : StandsForQuery (.call head parameters args operands)
  | nested {inner : Expr} : StandsForQuery inner → StandsForQuery (.nested inner)

theorem isSubquery_iff (e : Expr) : e.isSubquery = true ↔ e.StandsForQuery := by
  induction e using operandsInduction with
  | step e ih =>
    cases e with
    | subquery q => exact iff_of_true rfl (.subquery q)
    | inSubquery operand negated q => exact iff_of_true rfl (.inSubquery operand negated q)
    | «exists» negated q => exact iff_of_true rfl (.exists negated q)
    | call head parameters args operands =>
      constructor
      · intro onQuery
        cases form : head.form with
        | query q => exact .call parameters args operands form
        | bare | list duplicates => simp [isSubquery, form, CallForm.isQuery] at onQuery
      · rintro ⟨⟩
        simp [isSubquery, CallForm.isQuery, *]
    | nested inner =>
      have same := ih inner (List.mem_singleton.mpr rfl)
      constructor
      · intro stands
        exact .nested (same.mp stands)
      · rintro (_ | _ | _ | _ | stands)
        exact same.mpr stands
    | wildcard | qualifiedWildcard path | column path | value v | unary op operand
    | binary left op right | phrase layout operands =>
      exact iff_of_false Bool.false_ne_true nofun

theorem isSubquery_eq_standsForQuery :
    (fun e : Expr => e.isSubquery = true) = StandsForQuery :=
  funext fun e => propext e.isSubquery_iff

/-! ## The second search -/

/-- No nested query stands in an expression. -/
def SubqueryFree (e : Expr) : Prop := ∀ inner ∈ e.subexprs, inner.isSubquery = false

theorem SubqueryFree.self {e : Expr} (free : e.SubqueryFree) : e.isSubquery = false :=
  free e (by rw [subexprs_eq]; exact List.mem_cons_self)

theorem SubqueryFree.operand {e operand : Expr} (free : e.SubqueryFree)
    (member : operand ∈ e.operands) : operand.SubqueryFree := by
  intro inner inside
  refine free inner ?_
  rw [subexprs_eq]
  exact List.mem_cons_of_mem e (List.mem_flatMap.mpr ⟨operand, member, inside⟩)

/-- **The second search finds nothing that the first has missed**: where no nested query stands
in an expression, none is left in its condition. -/
theorem findSubquery?_toCondition_eq_none {e : Expr} (free : e.SubqueryFree) :
    e.toCondition.findSubquery? = none := by
  induction e using operandsInduction with
  | step e ih =>
    have below : ∀ operand ∈ e.operands, operand.toCondition.findSubquery? = none :=
      fun operand member => ih operand member (free.operand member)
    cases e with
    | binary left op right =>
      have isLeft : left ∈ (Expr.binary left op right).operands := by simp [operands]
      have isRight : right ∈ (Expr.binary left op right).operands := by simp [operands]
      cases op with
      | and | or =>
        simp [toCondition, Condition.findSubquery?, below left isLeft, below right isRight]
      | compare op | other sign =>
        simp [toCondition, Condition.findSubquery?, (free.operand isLeft).self,
          (free.operand isRight).self]
    | nested inner => exact below inner (by simp [operands])
    | subquery q | inSubquery operand negated q | «exists» negated q => cases free.self
    | wildcard | qualifiedWildcard path | column path | value v | unary op operand
    | call head parameters args operands | phrase layout operands => rfl

end Expr

/-! ## The reduction of a query -/

namespace Query

/-- What is reduced to a `SELECT` is a plain `SELECT` without `WITH`; its counts are numbers,
and it does not group by all columns. -/
theorem exists_select_of_toStatement {q : Query} {select : SqlSearch.Select}
    (reduced : q.toStatement = .ok (.select select)) :
    ∃ s limit offset groupBy, q.common = none ∧ q.body = .select s ∧
      q.limit.mapM Expr.toCount = .ok limit ∧ (q.offset.mapM fun o => o.1.toCount) =
        .ok offset ∧
      s.groupBy.toPaths = .ok groupBy ∧
      select =
        { projection := s.items.map SelectItem.toItem
          source := toSource s.tables
          condition := s.condition.map Expr.toCondition
          groupBy
          orderBy := q.orderBy.map OrderKey.toItem
          limit
          offset
          subquery := s.firstSubquery? q.orderBy } := by
  rw [toStatement] at reduced
  cases common : q.common with
  | some text => simp [common] at reduced
  | none =>
    cases body : q.body with
    | compound text => simp [common, body] at reduced
    | select s =>
      simp only [common, body] at reduced
      obtain ⟨limit, limitOk, reduced⟩ := bind_eq_ok_iff.mp reduced
      obtain ⟨offset, offsetOk, reduced⟩ := bind_eq_ok_iff.mp reduced
      obtain ⟨groupBy, groupByOk, reduced⟩ := bind_eq_ok_iff.mp reduced
      cases reduced
      exact ⟨s, limit, offset, groupBy, rfl, rfl, limitOk, offsetOk, groupByOk, rfl⟩

/-! ## Which queries are refused -/

/-- **The expressions of the clauses**: of the select list, `WHERE`, `GROUP BY`, `HAVING` and
the sort keys of `ORDER BY`, in this order. -/
def clauseExprs (q : Query) : List Expr :=
  match q.body with
  | .compound _ => []
  | .select s =>
    s.items.flatMap SelectItem.exprs ++ s.condition.toList ++ s.groupBy.keys ++
      s.having.toList ++
      q.orderBy.flatMap OrderKey.exprs

/-- The expressions of `INTERPOLATE`, which may follow the sort keys of `ORDER BY`. -/
def interpolated (q : Query) : List Expr := Piece.operands q.interpolation

/-- The nested query on record is the text of the expression of the least place. -/
theorem subquery_eq_some_iff {q : Query} {select : SqlSearch.Select}
    (reduced : q.toStatement = .ok (.select select)) (text : String) :
    select.subquery = some text ↔
      ∃ place e, FirstAt (exprAt? q.clauseExprs) Expr.StandsForQuery place e ∧
        e.render = text := by
  obtain ⟨s, limit, offset, groupBy, -, body, -, -, -, rfl⟩ :=
    exists_select_of_toStatement reduced
  have clauses : q.clauseExprs = s.searched q.orderBy := by rw [clauseExprs, body]; rfl
  have search := find?_flatMap_subexprs_eq_some_iff Expr.isSubquery q.clauseExprs
  rw [List.find?_flatMap, clauses, Expr.isSubquery_eq_standsForQuery] at search
  rw [clauses]
  change (List.findSome? Expr.firstSubquery? (s.searched q.orderBy)).map Expr.render =
    some text ↔ _
  rw [Option.map_eq_some_iff]
  constructor
  · rintro ⟨e, found, rfl⟩
    obtain ⟨place, first⟩ := (search e).mp found
    exact ⟨place, e, first, rfl⟩
  · rintro ⟨place, e, first, rfl⟩
    exact ⟨e, (search e).mpr ⟨place, first⟩, rfl⟩

/-- Where no nested query is on record, none stands in the condition. -/
theorem findSubquery?_eq_none_of_subquery_eq_none {q : Query} {select : SqlSearch.Select}
    (reduced : q.toStatement = .ok (.select select)) (unrecorded : select.subquery = none) :
    select.condition.bind Condition.findSubquery? = none := by
  obtain ⟨s, limit, offset, groupBy, -, -, -, -, -, rfl⟩ :=
    exists_select_of_toStatement reduced
  cases condition : s.condition with
  | none => rfl
  | some e =>
    refine Expr.findSubquery?_toCondition_eq_none fun inner inside => ?_
    have searched : e ∈ s.searched q.orderBy := by simp [Select.searched, condition]
    have notFound :=
      List.findSome?_eq_none_iff.mp (Option.map_eq_none_iff.mp unrecorded) e searched
    simpa using List.find?_eq_none.mp notFound inner inside

/-- **A query is refused for the first nested query in its clauses.** Of a query that is
reduced to a `SELECT` of a table, in either mode: it is refused for a nested query exactly if
one stands at some place of its clauses; the text is that of the one at the least place; and
where none is on record, the second search finds none. -/
theorem refused_iff_first_subquery (q : Query) (select : SqlSearch.Select) (table : String)
    (reduced : q.toStatement = .ok (.select select)) (reads : select.source = .table table)
    (strictness : Strictness) :
    ((∃ text, (Statement.select select).compile strictness = .error (.subquery text)) ↔
      ∃ place e, exprAt? q.clauseExprs place = some e ∧ e.StandsForQuery) ∧
    (∀ text, (Statement.select select).compile strictness = .error (.subquery text) ↔
      ∃ place e, FirstAt (exprAt? q.clauseExprs) Expr.StandsForQuery place e ∧
        e.render = text) ∧
    (select.subquery = none → select.condition.bind Condition.findSubquery? = none) := by
  have second := findSubquery?_eq_none_of_subquery_eq_none reduced
  have searches : select.subquery? = select.subquery := by
    rw [Select.subquery?]
    cases recorded : select.subquery with
    | none => exact second recorded
    | some text => rfl
  have refused : ∀ text, (Statement.select select).compile strictness =
    .error (.subquery text) ↔
      ∃ place e, FirstAt (exprAt? q.clauseExprs) Expr.StandsForQuery place e ∧
        e.render = text := by
    intro text
    rw [Select.compile_eq_error_subquery_iff reads, searches, subquery_eq_some_iff reduced]
  have some := exists_firstAt_iff Expr.isSubquery q.clauseExprs
  rw [Expr.isSubquery_eq_standsForQuery] at some
  refine ⟨?_, refused, second⟩
  constructor
  · rintro ⟨text, isRefused⟩
    obtain ⟨place, e, first, -⟩ := (refused text).mp isRefused
    exact ⟨place, e, first.1, first.2.1⟩
  · rintro ⟨place, e, stands, isQuery⟩
    obtain ⟨place', e', first⟩ := some.mpr ⟨place, e, stands, e.isSubquery_iff.mpr isQuery⟩
    exact ⟨e'.render, (refused e'.render).mpr ⟨place', e', first, rfl⟩⟩

/-- `SELECT id FROM users WHERE NOT (age + (SELECT 1) > 3) ORDER BY (SELECT 2)` -/
def hiddenSubquery : Query :=
  { body := .select
      { items := [.expr (.column { name := { value := "id" } }) none]
        tables :=
          [{ relation :=
              { kind := .table { name := { value := "users" } }, body := "users" } }]
        condition := some (.unary .not (.nested (.binary
          (.binary (.column { name := { value := "age" } }) (.other "+")
            (.subquery ⟨"SELECT 1"⟩))
          (.compare .gt) (.value (.number "3" false))))) }
    orderBy := [{ expr := .subquery ⟨"SELECT 2"⟩ }] }

/-- The nested query below a negation is found, though the condition that is left is a mere
text, and it comes before the one in `ORDER BY`. -/
theorem refused_iff_first_subquery_hidden :
    ∃ select, hiddenSubquery.toStatement = .ok (.select select) ∧
      select.source = .table "users" ∧
      select.condition = some (.other "NOT (age + (SELECT 1) > 3)") ∧
      ∃ place e, FirstAt (exprAt? hiddenSubquery.clauseExprs) Expr.StandsForQuery place e ∧
        e.render = "(SELECT 1)" :=
  ⟨_, rfl, rfl, rfl,
    ((refused_iff_first_subquery hiddenSubquery _ "users" rfl rfl .strict).2.1
      "(SELECT 1)").mp rfl⟩

/-- `SELECT a FROM t ORDER BY a INTERPOLATE (b AS (SELECT 1))` -/
def interpolatedSubquery : Query :=
  { body := .select
      { items := [.expr (.column { name := { value := "a" } }) none]
        tables :=
          [{ relation := { kind := .table { name := { value := "t" } }, body := "t" } }] }
    orderBy := [{ expr := .column { name := { value := "a" } } }]
    interpolation :=
      [.text " INTERPOLATE (", .text "b", .text " AS ", .operand (.subquery ⟨"SELECT 1"⟩),
        .text ")"] }

/-- **`INTERPOLATE` is not searched.** A nested query stands in `ORDER BY`, and the query has a
document in both modes, as a tree and as a text. -/
theorem interpolated_subquery_accepted :
    (∃ place e, exprAt? interpolatedSubquery.interpolated place = some e ∧ e.StandsForQuery) ∧
    (∃ select, interpolatedSubquery.toStatement = .ok (.select select) ∧
      select.source = .table "t" ∧
      ∀ strictness, (Statement.select select).compile strictness =
        .ok ⟨.matchAll, 0, 1, none, [⟨"a", .asc⟩]⟩) ∧
    interpolatedSubquery.render = "SELECT a FROM t ORDER BY a INTERPOLATE (b AS (SELECT 1))" ∧
    ∀ strictness, (Document.ofSql ⟨.generic, strictness⟩
      "SELECT a FROM t ORDER BY a INTERPOLATE (b AS (SELECT 1))").isOk = true := by
  refine ⟨⟨[0], _, rfl, .subquery _⟩, ⟨_, rfl, rfl, fun strictness => ?_⟩, by decide +kernel,
    fun strictness => ?_⟩
  · cases strictness <;> rfl
  · cases strictness <;> decide +kernel

end Query

end Sql

end SqlSearch
