import SqlSearch.Proofs.Flattening

/-!
# Reading conditions back from clauses

A clause forgets two things about its condition: where parentheses stood, and how literals were
written.  It forgets nothing else.  What is left of a condition without parentheses and with
values in place of literals is its *normal form*, and in strict mode clauses and normal forms
determine each other.

In one direction the clause is computed from the normal form.  In the other the normal form is
read back from the clause, although a list of three parts no longer shows that it was made from
two conjunctions: a list is always made from the left, so its parts are put together again from
the left.

## Main definitions

* `Condition.withoutGroups`, `Condition.withValues`, `Condition.normal`: the normal form of a
  condition
* `Condition.valueClause`: the clause of a condition that holds values
* `Clause.condition?`: the normal form that a clause was made from

## Main statements

* `Condition.compile_withoutGroups`: parentheses make no difference
* `Condition.compile_permissive_eq`: the clause is that of the normal form
* `Clause.condition?_conj`, `Clause.condition?_anyOf`: reading back undoes the two combinations
* `Condition.condition?_of_compile`: the normal form is read back from a clause of strict mode
* `Condition.strict_clauses_eq_iff`: two clauses are equal exactly if the normal forms are
-/

namespace SqlSearch

/-! ## Normal forms -/

namespace Condition

/-- The condition without its parentheses, at any depth. -/
def withoutGroups : Condition → Condition
  | .and left right => .and left.withoutGroups right.withoutGroups
  | .or left right => .or left.withoutGroups right.withoutGroups
  | .group inner => inner.withoutGroups
  | .compare op field literal => .compare op field literal
  | .subquery text => .subquery text
  | .other text => .other text

/-- The condition with the value of each literal in place of its text. -/
def withValues : Condition → Condition
  | .and left right => .and left.withValues right.withValues
  | .or left right => .or left.withValues right.withValues
  | .group inner => .group inner.withValues
  | .compare op field literal => .compare op field (Field.literalValue literal)
  | .subquery text => .subquery text
  | .other text => .other text

/-- **The normal form** of a condition: no parentheses, and values in place of literals. -/
def normal (condition : Condition) : Condition := condition.withoutGroups.withValues

/-- Parentheses make no difference to the clause of a condition, wherever they stand, and none
to its errors. -/
theorem compile_withoutGroups (strictness : Strictness) (condition : Condition) :
    condition.withoutGroups.compile strictness = condition.compile strictness := by
  induction condition with
  | and left right ihLeft ihRight => rw [withoutGroups, compile, compile, ihLeft, ihRight]
  | or left right ihLeft ihRight => rw [withoutGroups, compile, compile, ihLeft, ihRight]
  | group inner ih => exact ih
  | compare op field literal | subquery text | other text => rfl

end Condition

/-! ## From the normal form to the clause -/

/-- The clause of a comparison with a value. -/
def CompareOp.valueClause (op : CompareOp) (field value : String) : Clause :=
  match op with
  | .eq => .term field value
  | .gt => .range field .gt value
  | .ge => .range field .gte value
  | .lt => .range field .lt value
  | .le => .range field .lte value
  | .ne => .matchAll

/-- The clause of a condition that holds values in place of literals. Every record matches a
leaf that no clause stands for. -/
def Condition.valueClause : Condition → Clause
  | .and left right => left.valueClause.conj right.valueClause
  | .or left right => .anyOf [left.valueClause, right.valueClause]
  | .group inner => inner.valueClause
  | .compare op field value => op.valueClause field value
  | .subquery _ => .matchAll
  | .other _ => .matchAll

/-- In permissive mode the clause of a condition is that of its normal form. -/
theorem Condition.compile_permissive_eq (condition : Condition) :
    condition.compile .permissive = .ok condition.normal.valueClause := by
  induction condition with
  | and left right ihLeft ihRight =>
    rw [compile, ihLeft, ihRight]
    rfl
  | or left right ihLeft ihRight =>
    rw [compile, ihLeft, ihRight]
    rfl
  | group inner ih => exact ih
  | compare op field literal => cases op <;> rfl
  | subquery text => rfl
  | other text => rfl

/-! ## From the clause to the normal form -/

namespace Condition

/-- The conjunction of a list of conditions, made from the left. -/
def conjunction? : List Condition → Option Condition
  | [] => none
  | first :: rest => some (rest.foldl .and first)

/-- The disjunction of two conditions. -/
def disjunction? : List Condition → Option Condition
  | [left, right] => some (.or left right)
  | _ => none

/-- A condition that joins a list comes last in its conjunction. -/
theorem conjunction?_concat {conditions : List Condition} {left : Condition}
    (made : conjunction? conditions = some left) (right : Condition) :
    conjunction? (conditions ++ [right]) = some (.and left right) := by
  cases conditions with
  | nil => cases made
  | cons first rest =>
    cases made
    rw [List.cons_append, conjunction?, List.foldl_append]
    rfl

end Condition

/-- The comparison that becomes a range. -/
def RangeOp.compareOp : RangeOp → CompareOp
  | .gt => .gt
  | .gte => .ge
  | .lt => .lt
  | .lte => .le

namespace Clause

mutual

/-- **The condition that a clause was made from**, in normal form. A clause that matches every
record may stand for any leaf, and a list or a choice with too few parts is never made. -/
def condition? : Clause → Option Condition
  | .matchAll => none
  | .term field value => some (.compare .eq field value)
  | .range field op value => some (.compare op.compareOp field value)
  | .must clauses => (conditions? clauses).bind Condition.conjunction?
  | .should clauses _ => (conditions? clauses).bind Condition.disjunction?

/-- The conditions that several clauses were made from. -/
def conditions? : List Clause → Option (List Condition)
  | [] => some []
  | clause :: rest => clause.condition?.bind fun first => (conditions? rest).map (first :: ·)

end

/-- A clause that joins a list adds its condition at the end. -/
theorem conditions?_concat {clauses : List Clause} {conditions : List Condition}
    {last : Clause} {condition : Condition} (each : conditions? clauses = some conditions)
    (atEnd : last.condition? = some condition) :
    conditions? (clauses ++ [last]) = some (conditions ++ [condition]) := by
  induction clauses generalizing conditions with
  | nil =>
    cases each
    rw [List.nil_append, conditions?, atEnd]
    rfl
  | cons clause rest ih =>
    -- The first clause is read before the rest, so both readings are there to be put in front
    -- again.
    rw [conditions?] at each
    obtain ⟨first, firstOk, others⟩ := Option.bind_eq_some_iff.mp each
    obtain ⟨tail, tailOk, rfl⟩ := Option.map_eq_some_iff.mp others
    rw [List.cons_append, conditions?, firstOk, ih tailOk]
    rfl

/-- Every clause is read back from the list that it stands for: a list of one is its only
part. -/
theorem condition?_eq (clause : Clause) :
    clause.condition? = (conditions? clause.conjuncts).bind Condition.conjunction? := by
  cases clause with
  | must clauses => rw [condition?, conjuncts]
  | matchAll | term field value | range field op value => rfl
  | should clauses minimum =>
    rw [conjuncts, conditions?]
    cases (should clauses minimum).condition? <;> rfl

section Combinations

variable {left right : Clause} {leftCondition rightCondition : Condition}

/-- Reading back undoes a conjunction, whether or not its right side has joined a list. -/
theorem condition?_conj (leftRead : left.condition? = some leftCondition)
    (rightRead : right.condition? = some rightCondition) :
    (left.conj right).condition? = some (.and leftCondition rightCondition) := by
  rw [condition?_eq] at leftRead
  obtain ⟨conditions, each, made⟩ := Option.bind_eq_some_iff.mp leftRead
  rw [conj_eq, condition?, conditions?_concat each rightRead, Option.bind_some]
  exact Condition.conjunction?_concat made rightCondition

/-- Reading back undoes a choice between two clauses. -/
theorem condition?_anyOf (leftRead : left.condition? = some leftCondition)
    (rightRead : right.condition? = some rightCondition) :
    (anyOf [left, right]).condition? = some (.or leftCondition rightCondition) := by
  have each : conditions? [left, right] = some [leftCondition, rightCondition] := by
    rw [conditions?, leftRead, conditions?, rightRead]
    rfl
  rw [anyOf, condition?, each]
  rfl

end Combinations

end Clause

namespace Condition

/-- **The normal form is read back** from a clause of strict mode. -/
theorem condition?_of_compile {condition : Condition} {clause : Clause}
    (compiled : condition.compile .strict = .ok clause) :
    clause.condition? = some condition.normal := by
  induction condition generalizing clause with
  | and left right ihLeft ihRight =>
    obtain ⟨l, r, leftOk, rightOk, rfl⟩ := compile_and_eq_ok_iff.mp compiled
    exact Clause.condition?_conj (ihLeft leftOk) (ihRight rightOk)
  | or left right ihLeft ihRight =>
    obtain ⟨l, r, leftOk, rightOk, rfl⟩ := compile_or_eq_ok_iff.mp compiled
    exact Clause.condition?_anyOf (ihLeft leftOk) (ihRight rightOk)
  | group inner ih => exact ih compiled
  | compare op field literal =>
    cases op with
    | ne => cases compiled
    | eq | gt | ge | lt | le =>
      cases compiled
      rfl
  | subquery text => cases compiled
  | other text => cases compiled

/-- **What a clause tells of its condition.** Two conditions that strict mode accepts have the
same clause exactly if they are equal without parentheses and with values in place of literals.
Leaving out the parentheses keeps the clause. -/
theorem strict_clauses_eq_iff (first second : Condition) (clause clause' : Clause)
    (compiled : first.compile .strict = .ok clause)
    (compiled' : second.compile .strict = .ok clause') :
    (clause = clause' ↔ first.normal = second.normal) ∧
      first.withoutGroups.compile .strict = .ok clause := by
  refine ⟨⟨?_, ?_⟩, ?_⟩
  · rintro rfl
    have read : clause.condition? = some first.normal := condition?_of_compile compiled
    have read' : clause.condition? = some second.normal := condition?_of_compile compiled'
    exact Option.some.inj (read.symm.trans read')
  · intro same
    -- Strict mode adds nothing here: its clause is that of permissive mode, where every
    -- condition has one.
    have permissive : first.compile .permissive = .ok clause :=
      first.compile_refines clause compiled
    have permissive' : second.compile .permissive = .ok clause' :=
      second.compile_refines clause' compiled'
    rw [compile_permissive_eq] at permissive permissive'
    rw [same, permissive'] at permissive
    exact (Except.ok.inj permissive).symm
  · rw [compile_withoutGroups]
    exact compiled

/-- `(a = 'x' AND (b > 2)) AND (c <= 3 AND a >= 'it''s')` -/
def groupedLeft : Condition :=
  .and (.group (.and (.compare .eq "a" "'x'") (.group (.compare .gt "b" "2"))))
    (.group (.and (.compare .le "c" "3") (.compare .ge "a" "'it''s'")))

/-- `a = x AND b > '2' AND ((c <= '3' AND a >= it's))`, where the values are written in another
way. -/
def groupedRight : Condition :=
  .and (.and (.compare .eq "a" "x") (.compare .gt "b" "'2'"))
    (.group (.group (.and (.compare .le "c" "'3'") (.compare .ge "a" "it's"))))

/-- `a = 'x' AND b > 2 AND c <= 3 AND a >= 'it''s'`, without the parentheses on the right. -/
def ungroupedChain : Condition :=
  .and (.and (.and (.compare .eq "a" "'x'") (.compare .gt "b" "2")) (.compare .le "c" "3"))
    (.compare .ge "a" "'it''s'")

/-- `(a = 'x' AND (b > 2)) AND (c <= 3 AND a >= 'its')`, which differs from the first condition
in one value only. -/
def otherValue : Condition :=
  .and (.group (.and (.compare .eq "a" "'x'") (.group (.compare .gt "b" "2"))))
    (.group (.and (.compare .le "c" "3") (.compare .ge "a" "'its'")))

/-- The first two conditions have one clause. The third one has another, as it differs from
them in its grouping, and so has the fourth one, as it differs in a value. -/
theorem strict_clauses_eq_iff_grouped :
    ∃ clause clause' clause'', groupedLeft.compile .strict = .ok clause ∧
      groupedRight.compile .strict = .ok clause ∧
      groupedLeft.normal = groupedRight.normal ∧
      ungroupedChain.compile .strict = .ok clause' ∧ clause ≠ clause' ∧
      otherValue.compile .strict = .ok clause'' ∧ clause ≠ clause'' := by
  refine ⟨_, _, _, rfl, rfl, ?_, rfl, ?_, rfl, ?_⟩
  · exact (strict_clauses_eq_iff groupedLeft groupedRight _ _ rfl rfl).1.mp rfl
  · intro same
    have sameNormal := (strict_clauses_eq_iff groupedLeft ungroupedChain _ _ rfl rfl).1.mp same
    exact absurd sameNormal (by decide)
  · intro same
    have sameNormal := (strict_clauses_eq_iff groupedLeft otherValue _ _ rfl rfl).1.mp same
    exact absurd sameNormal (by decide +kernel)

end Condition

end SqlSearch
