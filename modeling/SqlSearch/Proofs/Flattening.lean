import Mathlib.Data.List.Forall2
import SqlSearch.Proofs.Filter

/-!
# Flattening of conjunctions

A chain of `AND` becomes one list.  Whether a right operand joins a list is decided by the
*clause* to its left, not by the condition there, and parentheses, choices and leaves without a
clause all come between the two.  This module shows that the outcome can be read off the
condition alone: the parts of a list are the clauses along the *spine* of the condition, which
follows the conjunctions down the left side.

The induction rests on one equation, `Clause.conj_eq`.  It takes every clause for a list, of
one part unless it is a `must`, so that the two cases of `Clause.conj` become one.

## Main definitions

* `Clause.conjuncts`: the list that a clause stands for on the left of a conjunction
* `Condition.ungrouped`, `Condition.IsConjunction`: a condition without the parentheses around
  it
* `Condition.spine`: the operands of a chain of conjunctions
* `Condition.andDepth`, `Condition.orDepth`: how often one connective follows itself down the
  left side

## Main statements

* `Clause.conj_eq`: conjunction appends to the list of its left side
* `Condition.forall₂_spine_of_compile`: the list of a clause follows the spine
* `Condition.exists_must_iff_of_compile`: only conjunctions become lists
* `Condition.shouldDepth_of_compile`: choices nest as they do in the condition
* `Condition.permissive_follows_spine`: the flattening law
-/

namespace SqlSearch

/-! ## Clauses as lists -/

namespace Clause

/-- The clause is no combination of others. -/
def IsLeaf : Clause → Prop
  | .matchAll => True
  | .term _ _ => True
  | .range _ _ _ => True
  | .must _ => False
  | .should _ _ => False

/-- **The list that a clause stands for** on the left of a conjunction: the parts of a `must`,
and a list of one for any other clause. -/
def conjuncts : Clause → List Clause
  | .must clauses => clauses
  | .matchAll => [.matchAll]
  | .term field value => [.term field value]
  | .range field op value => [.range field op value]
  | .should clauses minimum => [.should clauses minimum]

/-- A conjunction appends its right side to the list of its left side. -/
theorem conj_eq (left right : Clause) :
    left.conj right = .must (left.conjuncts ++ [right]) := by
  cases left <;> rfl

theorem conjuncts_conj (left right : Clause) :
    (left.conj right).conjuncts = left.conjuncts ++ [right] := by
  rw [conj_eq, conjuncts]

@[simp] theorem shouldDepth_conj (left right : Clause) :
    (left.conj right).shouldDepth = 0 := by
  rw [conj_eq]
  rfl

@[simp] theorem shouldDepth_anyOf (left right : Clause) :
    (anyOf [left, right]).shouldDepth = left.shouldDepth + 1 := by
  rw [anyOf, shouldDepth, Nat.add_comm]

namespace IsLeaf

variable {clause : Clause}

theorem conjuncts_eq (leaf : clause.IsLeaf) : clause.conjuncts = [clause] := by
  cases clause with
  | matchAll | term field value | range field op value => rfl
  | must clauses | should clauses minimum => exact leaf.elim

theorem shouldDepth_eq (leaf : clause.IsLeaf) : clause.shouldDepth = 0 := by
  cases clause with
  | matchAll | term field value | range field op value => rfl
  | must clauses | should clauses minimum => exact leaf.elim

theorem ne_must (leaf : clause.IsLeaf) (clauses : List Clause) : clause ≠ .must clauses := by
  rintro rfl
  exact leaf

end IsLeaf

end Clause

/-! ## The left side of a condition -/

namespace Condition

/-- The condition is no combination of others and stands in no parentheses. -/
def IsLeaf : Condition → Prop
  | .and _ _ => False
  | .or _ _ => False
  | .group _ => False
  | .compare _ _ _ => True
  | .subquery _ => True
  | .other _ => True

/-- The condition inside all the parentheses around it. -/
def ungrouped : Condition → Condition
  | .group inner => inner.ungrouped
  | .and left right => .and left right
  | .or left right => .or left right
  | .compare op field literal => .compare op field literal
  | .subquery text => .subquery text
  | .other text => .other text

/-- The condition is a conjunction, the parentheses around it apart. -/
def IsConjunction (condition : Condition) : Prop :=
  ∃ left right, condition.ungrouped = .and left right

/-- **The spine** of a condition: the operands of the conjunctions that follow one another down
its left side, from left to right. Parentheses around a left side do not end the spine; those
around a right operand stay. -/
def spine : Condition → List Condition
  | .group inner => inner.spine
  | .and left right => left.spine ++ [right]
  | .or left right => [.or left right]
  | .compare op field literal => [.compare op field literal]
  | .subquery text => [.subquery text]
  | .other text => [.other text]

/-- The number of conjunctions that follow one another down the left side. -/
def andDepth : Condition → Nat
  | .group inner => inner.andDepth
  | .and left _ => left.andDepth + 1
  | .or _ _ => 0
  | .compare _ _ _ => 0
  | .subquery _ => 0
  | .other _ => 0

/-- The number of disjunctions that follow one another down the left side. -/
def orDepth : Condition → Nat
  | .group inner => inner.orDepth
  | .or left _ => left.orDepth + 1
  | .and _ _ => 0
  | .compare _ _ _ => 0
  | .subquery _ => 0
  | .other _ => 0

/-- A chain of conjunctions has one operand more than it has conjunctions. -/
theorem length_spine (condition : Condition) :
    condition.spine.length = condition.andDepth + 1 := by
  induction condition with
  | and left right ihLeft _ =>
    rw [spine, List.length_append, ihLeft, List.length_singleton, andDepth]
  | group inner ih => exact ih
  | or left right | compare op field literal | subquery text | other text => rfl

/-- Parentheses around a condition make no difference to its clause. -/
theorem compile_ungrouped (strictness : Strictness) (condition : Condition) :
    condition.ungrouped.compile strictness = condition.compile strictness := by
  induction condition with
  | group inner ih => exact ih
  | and left right | or left right | compare op field literal | subquery text | other text =>
    rfl

/-! ## The clause of a condition -/

variable {strictness : Strictness} {condition : Condition} {clause : Clause}

/-- A leaf is compiled to a leaf, whether or not a clause stands for it. -/
theorem isLeaf_of_compile (compiled : condition.compile strictness = .ok clause)
    (leaf : condition.IsLeaf) :
    clause.IsLeaf := by
  have fallback : ∀ {text : String}, strictness.fallback text = .ok clause →
      clause.IsLeaf := by
    intro text passed
    cases strictness with
    | permissive =>
      cases passed
      trivial
    | strict => cases passed
  cases condition with
  | and left right | or left right | group inner => exact leaf.elim
  | compare op field literal =>
    cases op with
    | ne => exact fallback compiled
    | eq | gt | ge | lt | le =>
      cases compiled
      trivial
  | subquery text => exact fallback compiled
  | other text => exact fallback compiled

/-- **The list of a clause follows the spine**, part by part. The statement holds of every
condition, so that the left side of a conjunction may be anything. -/
theorem forall₂_spine_of_compile (compiled : condition.compile strictness = .ok clause) :
    List.Forall₂ (fun operand part => operand.compile strictness = .ok part)
      condition.spine clause.conjuncts := by
  induction condition generalizing clause with
  | and left right ihLeft _ =>
    obtain ⟨l, r, leftOk, rightOk, rfl⟩ := compile_and_eq_ok_iff.mp compiled
    rw [spine, Clause.conjuncts_conj]
    have last : List.Forall₂ (fun operand part => operand.compile strictness =
        .ok part) [right] [r] :=
      .cons rightOk .nil
    exact List.rel_append (ihLeft leftOk) last
  | or left right _ _ =>
    -- A choice is a list of one, whatever its sides are compiled to.
    obtain ⟨l, r, -, -, rfl⟩ := compile_or_eq_ok_iff.mp compiled
    exact .cons compiled .nil
  | group inner ih => exact ih compiled
  | compare op field literal | subquery text | other text =>
    have leaf : clause.IsLeaf := isLeaf_of_compile compiled trivial
    rw [leaf.conjuncts_eq]
    exact .cons compiled .nil

/-- **Only conjunctions become lists.** -/
theorem exists_must_iff_of_compile (compiled : condition.compile strictness = .ok clause) :
    (∃ clauses, clause = .must clauses) ↔ condition.IsConjunction := by
  induction condition generalizing clause with
  | and left right _ _ =>
    obtain ⟨l, r, -, -, rfl⟩ := compile_and_eq_ok_iff.mp compiled
    exact iff_of_true ⟨_, l.conj_eq r⟩ ⟨left, right, rfl⟩
  | or left right _ _ =>
    obtain ⟨l, r, -, -, rfl⟩ := compile_or_eq_ok_iff.mp compiled
    refine iff_of_false ?_ ?_
    · rintro ⟨clauses, impossible⟩
      cases impossible
    · rintro ⟨_, _, impossible⟩
      cases impossible
  | group inner ih => exact ih compiled
  | compare op field literal | subquery text | other text =>
    have leaf : clause.IsLeaf := isLeaf_of_compile compiled trivial
    refine iff_of_false ?_ ?_
    · rintro ⟨clauses, same⟩
      exact leaf.ne_must clauses same
    · rintro ⟨_, _, impossible⟩
      cases impossible

/-- **Choices nest as they do in the condition.** -/
theorem shouldDepth_of_compile (compiled : condition.compile strictness = .ok clause) :
    clause.shouldDepth = condition.orDepth := by
  induction condition generalizing clause with
  | and left right _ _ =>
    obtain ⟨l, r, -, -, rfl⟩ := compile_and_eq_ok_iff.mp compiled
    rw [Clause.shouldDepth_conj, orDepth]
  | or left right ihLeft _ =>
    obtain ⟨l, r, leftOk, -, rfl⟩ := compile_or_eq_ok_iff.mp compiled
    rw [Clause.shouldDepth_anyOf, ihLeft leftOk, orDepth]
  | group inner ih => exact ih compiled
  | compare op field literal | subquery text | other text =>
    exact (isLeaf_of_compile compiled trivial).shouldDepth_eq

/-- A conjunction in parentheses is compiled to a list that ends with the clause of its right
side. -/
theorem exists_last_of_compile {left right : Condition}
    (isAnd : condition.ungrouped = .and left right)
    (compiled : condition.compile strictness = .ok clause) :
    ∃ clauses last, clause = .must clauses ∧ clauses.getLast? = some last ∧
      right.compile strictness = .ok last := by
  rw [← compile_ungrouped, isAnd] at compiled
  obtain ⟨l, r, -, rightOk, rfl⟩ := compile_and_eq_ok_iff.mp compiled
  exact ⟨l.conjuncts ++ [r], r, l.conj_eq r, List.getLast?_concat, rightOk⟩

/-- **The flattening law.** In permissive mode every condition has a clause. A conjunction is
compiled to the list of the clauses along its spine: one part more than there are conjunctions
down its left side, while a conjunction on the right stays a list of its own inside. Nothing
else is compiled to a list. Choices are as deep as disjunctions follow one another down the
left side. -/
theorem permissive_follows_spine (condition : Condition) :
    ∃ clause, condition.compile .permissive = .ok clause ∧
      (∀ left right, condition.ungrouped = .and left right →
        ∃ clauses, clause = .must clauses ∧
          List.Forall₂ (fun operand part => operand.compile .permissive = .ok part)
            condition.spine clauses ∧
          clauses.length = condition.andDepth + 1 ∧
          (right.IsConjunction → ∃ inner, clauses.getLast? = some (.must inner))) ∧
      (¬ condition.IsConjunction → ∀ clauses, clause ≠ .must clauses) ∧
      clause.shouldDepth = condition.orDepth := by
  obtain ⟨clause, compiled⟩ := condition.exists_compile_permissive
  refine ⟨clause, compiled, fun left right isAnd => ?_, fun noAnd clauses isMust => ?_,
    shouldDepth_of_compile compiled⟩
  · obtain ⟨clauses, last, rfl, atEnd, lastOk⟩ := exists_last_of_compile isAnd compiled
    have parts := forall₂_spine_of_compile compiled
    refine ⟨clauses, rfl, parts, ?_, fun rightIsAnd => ?_⟩
    · rw [← length_spine]
      exact parts.length_eq.symm
    · obtain ⟨inner, rfl⟩ := (exists_must_iff_of_compile lastOk).mpr rightIsAnd
      exact ⟨inner, atEnd⟩
  · exact noAnd ((exists_must_iff_of_compile compiled).mp ⟨clauses, isMust⟩)

/-- `(a = 1 AND b <> 2) AND (c = 3 AND d = 4)`: the left side gives up its parentheses, the
right side does not. -/
example :
    (Condition.and (.group (.and (.compare .eq "a" "1") (.compare .ne "b" "2")))
        (.group (.and (.compare .eq "c" "3") (.compare .eq "d" "4")))).compile .permissive =
      .ok (.must [.term "a" "1", .matchAll, .must [.term "c" "3", .term "d" "4"]]) := rfl

end Condition

end SqlSearch
