import SqlSearch.Compile.Filter
import SqlSearch.Proofs.Outcome

/-!
# Filters of conditions

`Condition.compile` walks down a condition and stops at the first leaf without a clause that
strictness does not let pass.  This module says once what it does at each constructor, and
reads its errors off the list of leaves, so that no later proof unfolds it.

## Main definitions

* `Condition.leaves`: the leaves, from left to right
* `Condition.subqueryText?`, `Condition.textWithoutClause?`: the leaves that are nested
  queries, and those that no clause stands for, with the text that names them
* `Condition.leafTexts`: the texts of the leaves of one kind

## Main statements

* `Condition.compile_and_eq_ok_iff`, `Condition.compile_or_eq_ok_iff`: the clause of a
  combination
* `Condition.compile_reports`: the errors of `Condition.compile`
* `Condition.compile_refines`: a clause of strict mode is the clause of permissive mode
* `Condition.findSubquery?_eq`: the nested query that is found is the leftmost one
-/

namespace SqlSearch

namespace Condition

/-! ## Leaves -/

/-- The leaves of a condition, from left to right. -/
def leaves : Condition → List Condition
  | .and left right => left.leaves ++ right.leaves
  | .or left right => left.leaves ++ right.leaves
  | .group inner => inner.leaves
  | .compare op field literal => [.compare op field literal]
  | .subquery text => [.subquery text]
  | .other text => [.other text]

/-- The text of a leaf that is a nested query. -/
def subqueryText? : Condition → Option String
  | .subquery text => some text
  | _ => none

/-- The text of a leaf that no clause stands for: an inequality, a nested query, or a condition
of another kind. -/
def textWithoutClause? : Condition → Option String
  | .compare .ne field literal => some (field ++ " <> " ++ literal)
  | .subquery text => some text
  | .other text => some text
  | _ => none

/-- The texts that `text?` gives to leaves, from left to right. -/
def leafTexts (text? : Condition → Option String) (condition : Condition) : List String :=
  condition.leaves.filterMap text?

theorem leafTexts_and (text? : Condition → Option String) (left right : Condition) :
    (Condition.and left right).leafTexts text? =
      left.leafTexts text? ++ right.leafTexts text? :=
  List.filterMap_append

theorem leafTexts_or (text? : Condition → Option String) (left right : Condition) :
    (Condition.or left right).leafTexts text? =
      left.leafTexts text? ++ right.leafTexts text? :=
  List.filterMap_append

/-- The nested query that is found is the leftmost leaf of its kind. -/
theorem findSubquery?_eq (condition : Condition) :
    condition.findSubquery? = (condition.leafTexts subqueryText?).head? := by
  induction condition with
  | and left right ihLeft ihRight =>
    rw [findSubquery?, ihLeft, ihRight, leafTexts_and, List.head?_append, Option.orElse_apply,
      Option.orElse_eq_or]
  | or left right ihLeft ihRight =>
    rw [findSubquery?, ihLeft, ihRight, leafTexts_or, List.head?_append, Option.orElse_apply,
      Option.orElse_eq_or]
  | group inner ih => exact ih
  | compare op field literal => rfl
  | subquery text => rfl
  | other text => rfl

/-! ## The clause of a combination -/

variable {strictness : Strictness} {left right : Condition} {clause : Clause}

/-- A conjunction compiles exactly if both sides do, and then to the conjunction of their
clauses. -/
theorem compile_and_eq_ok_iff :
    (Condition.and left right).compile strictness = .ok clause ↔
      ∃ l r, left.compile strictness = .ok l ∧ right.compile strictness = .ok r ∧
        l.conj r = clause := by
  rw [compile, bind_eq_ok_iff]
  simp only [bind_eq_ok_iff, pure, Except.pure, Except.ok.injEq, exists_and_left]

/-- A disjunction compiles exactly if both sides do, and then to one of two. -/
theorem compile_or_eq_ok_iff :
    (Condition.or left right).compile strictness = .ok clause ↔
      ∃ l r, left.compile strictness = .ok l ∧ right.compile strictness = .ok r ∧
        Clause.anyOf [l, r] = clause := by
  rw [compile, bind_eq_ok_iff]
  simp only [bind_eq_ok_iff, pure, Except.pure, Except.ok.injEq, exists_and_left]

end Condition

/-! ## Errors -/

/-- A predicate without a clause is a fault of strict mode. -/
theorem fallback_reports (strictness : Strictness) (text : String) :
    Reports (strictness.fallback text) (strictness.enforce [.predicate text]) := by
  cases strictness with
  | permissive => exact reports_ok _
  | strict => exact reports_error _ _

/-- An inequality is a fault of strict mode; every other comparison has a clause. -/
theorem compileCompare_reports (strictness : Strictness) (op : CompareOp)
    (field literal : String) :
    Reports (compileCompare strictness op field literal)
      (strictness.enforce
        (((Condition.compare op field literal).leafTexts Condition.textWithoutClause?).map
          CompileError.predicate)) := by
  cases op with
  | ne =>
    have same : field ++ " <> " ++ literal =
        field ++ " " ++ CompareOp.ne.symbol ++ " " ++ literal := by
      simp [CompareOp.symbol, String.append_assoc]
    change Reports (strictness.fallback _)
      (strictness.enforce [.predicate (field ++ " <> " ++ literal)])
    rw [same]
    exact fallback_reports strictness _
  | eq | gt | ge | lt | le =>
    change Reports (.ok _) (strictness.enforce [])
    rw [Strictness.enforce_nil]
    exact reports_ok _

/-- **The errors of a condition.** In strict mode the leftmost leaf without a clause is
reported; in permissive mode nothing is. -/
theorem Condition.compile_reports (strictness : Strictness) (condition : Condition) :
    Reports (condition.compile strictness)
      (strictness.enforce
        ((condition.leafTexts textWithoutClause?).map CompileError.predicate)) := by
  induction condition with
  | and left right ihLeft ihRight =>
    rw [leafTexts_and, List.map_append, Strictness.enforce_append]
    exact ihLeft.bind fun l _ => ihRight.map fun r => l.conj r
  | or left right ihLeft ihRight =>
    rw [leafTexts_or, List.map_append, Strictness.enforce_append]
    exact ihLeft.bind fun l _ => ihRight.map fun r => Clause.anyOf [l, r]
  | group inner ih => exact ih
  | compare op field literal => exact compileCompare_reports strictness op field literal
  | subquery text => exact fallback_reports strictness text
  | other text => exact fallback_reports strictness text

/-- The condition of a statement reports the leaves without a clause; a missing condition has
none. -/
theorem compileFilter_reports (strictness : Strictness) (condition : Option Condition) :
    Reports (compileFilter strictness condition)
      (strictness.enforce
        ((condition.toList.flatMap (Condition.leafTexts Condition.textWithoutClause?)).map
          CompileError.predicate)) := by
  cases condition with
  | none =>
    rw [Option.toList_none, List.flatMap_nil, List.map_nil, Strictness.enforce_nil]
    exact reports_ok _
  | some condition =>
    rw [Option.toList_some, List.flatMap_singleton]
    exact condition.compile_reports strictness

/-- In permissive mode every condition has a clause. -/
theorem Condition.exists_compile_permissive (condition : Condition) :
    ∃ clause, condition.compile .permissive = .ok clause :=
  (condition.compile_reports .permissive).exists_ok_iff.mpr rfl

/-! ## Both modes give one clause -/

/-- A comparison that strict mode compiles is compiled alike in permissive mode. -/
theorem compileCompare_refines (op : CompareOp) (field literal : String) :
    Refines (compileCompare .strict op field literal)
      (compileCompare .permissive op field literal) := by
  cases op with
  | ne => exact Refines.error _ _
  | eq | gt | ge | lt | le => exact Refines.refl _

/-- A clause of strict mode is the clause of permissive mode. -/
theorem Condition.compile_refines (condition : Condition) :
    Refines (condition.compile .strict) (condition.compile .permissive) := by
  induction condition with
  | and left right ihLeft ihRight =>
    exact ihLeft.bind fun l => ihRight.bind fun r => Refines.refl (pure (l.conj r))
  | or left right ihLeft ihRight =>
    exact ihLeft.bind fun l => ihRight.bind fun r => Refines.refl (pure (Clause.anyOf [l, r]))
  | group inner ih => exact ih
  | compare op field literal => exact compileCompare_refines op field literal
  | subquery text => exact Refines.error _ _
  | other text => exact Refines.error _ _

/-- The filter of a statement in strict mode is its filter in permissive mode. -/
theorem compileFilter_refines (condition : Option Condition) :
    Refines (compileFilter .strict condition) (compileFilter .permissive condition) := by
  cases condition with
  | none => exact Refines.refl _
  | some condition => exact condition.compile_refines

end SqlSearch
