import SqlSearch.Proofs.Filter

/-!
# What conditions and clauses mean

A condition holds of a record, and a clause matches it, according to the truth of *atoms*: a
field, a comparison and the text of a value.  This module gives both sides a truth value over
an arbitrary choice of true atoms and compares them.

In strict mode a clause means exactly what its condition means.  In permissive mode it means
what the condition means once every leaf without a clause is taken to be true.  Conditions have
no negation, so such a clause only ever matches more.

## Main definitions

* `Atom`, `Interpretation`: which atoms, and which leaves without a clause, are true
* `Condition.holds`, `Clause.holds`: the truth of a condition and of a clause
* `Interpretation.lenient`: every leaf without a clause is true

## Main statements

* `Clause.holds_conj`, `Clause.holds_anyOf`: the two combinations of clauses
* `Condition.holds_of_compile`: the meaning of a compiled clause, in either mode
* `Condition.holds_lenient_of_holds`: what permissive mode adds is never lost again

## Design

A leaf without a clause has its truth value by *place*, so that two leaves of one text may
differ. The truth of conditions is thus free wherever the document has nothing to say.
-/

namespace SqlSearch

/-! ## Atoms and interpretations -/

/-- A comparison that a document can express. -/
inductive AtomOp where
  | eq
  | gt
  | ge
  | lt
  | le
  deriving DecidableEq, Repr

/-- **An atom**: a field compares to a value, given by its text. -/
structure Atom where
  /-- The field. -/
  field : String
  /-- The comparison. -/
  op : AtomOp
  /-- The text of the value. -/
  value : String
  deriving DecidableEq, Repr

/-- The comparison of an atom that stands for a comparison of a condition, if there is one. -/
def CompareOp.atomOp? : CompareOp → Option AtomOp
  | .eq => some .eq
  | .ne => none
  | .gt => some .gt
  | .ge => some .ge
  | .lt => some .lt
  | .le => some .le

/-- The comparison of an atom that stands for the bound of a range. -/
def RangeOp.atomOp : RangeOp → AtomOp
  | .gt => .gt
  | .gte => .ge
  | .lt => .lt
  | .lte => .le

/-- A turn on the way from a condition down to one of its leaves. Parentheses are no turn. -/
inductive Turn where
  | left
  | right
  deriving DecidableEq, Repr

/-- **An interpretation**: which atoms are true, and which of the leaves without a clause. -/
structure Interpretation where
  /-- The truth of an atom. -/
  atom : Atom → Bool
  /-- The truth of the leaf without a clause at a place. -/
  leaf : List Turn → Condition → Bool

namespace Interpretation

/-- The interpretation of an operand: places are counted from there. -/
def below (interpretation : Interpretation) (turn : Turn) : Interpretation where
  atom := interpretation.atom
  leaf place := interpretation.leaf (turn :: place)

/-- The same atoms, and every leaf without a clause is true. -/
def lenient (interpretation : Interpretation) : Interpretation where
  atom := interpretation.atom
  leaf _ _ := true

@[simp] theorem atom_below (interpretation : Interpretation) (turn : Turn) :
    (interpretation.below turn).atom = interpretation.atom := rfl

@[simp] theorem lenient_below (interpretation : Interpretation) (turn : Turn) :
    (interpretation.below turn).lenient = interpretation.lenient.below turn := rfl

end Interpretation

/-! ## Truth of conditions and clauses -/

/-- The truth of a condition. -/
def Condition.holds : Condition → Interpretation → Bool
  | .and left right, interpretation =>
    left.holds (interpretation.below .left) && right.holds (interpretation.below .right)
  | .or left right, interpretation =>
    left.holds (interpretation.below .left) || right.holds (interpretation.below .right)
  | .group inner, interpretation => inner.holds interpretation
  | .compare op field literal, interpretation =>
    match op.atomOp? with
    | some atomOp => interpretation.atom ⟨field, atomOp, Field.literalValue literal⟩
    | none => interpretation.leaf [] (.compare op field literal)
  | .subquery text, interpretation => interpretation.leaf [] (.subquery text)
  | .other text, interpretation => interpretation.leaf [] (.other text)

namespace Clause

mutual

/-- The truth of a clause. -/
def holds (atom : Atom → Bool) : Clause → Bool
  | .matchAll => true
  | .term field value => atom ⟨field, .eq, value⟩
  | .range field op value => atom ⟨field, op.atomOp, value⟩
  | .must clauses => allHold atom clauses
  | .should clauses minimum => decide (minimum ≤ countHolding atom clauses)

/-- All clauses of a list are true. -/
def allHold (atom : Atom → Bool) : List Clause → Bool
  | [] => true
  | clause :: rest => clause.holds atom && allHold atom rest

/-- The number of true clauses of a list. -/
def countHolding (atom : Atom → Bool) : List Clause → Nat
  | [] => 0
  | clause :: rest => countHolding atom rest + if clause.holds atom then 1 else 0

end

variable (atom : Atom → Bool)

theorem allHold_eq_all (clauses : List Clause) :
    allHold atom clauses = clauses.all (holds atom) := by
  induction clauses with
  | nil => rfl
  | cons clause rest ih => rw [allHold, ih, List.all_cons]

theorem countHolding_eq_countP (clauses : List Clause) :
    countHolding atom clauses = clauses.countP (holds atom) := by
  induction clauses with
  | nil => rfl
  | cons clause rest ih => rw [countHolding, ih, List.countP_cons]

/-- A `must` is true if all of its parts are. -/
@[simp] theorem holds_must (clauses : List Clause) :
    (must clauses).holds atom = clauses.all (holds atom) := by
  rw [holds, allHold_eq_all]

/-- A `should` is true if enough of its parts are. -/
@[simp] theorem holds_should (clauses : List Clause) (minimum : Nat) :
    (should clauses minimum).holds atom = decide (minimum ≤ clauses.countP (holds atom)) := by
  rw [holds, countHolding_eq_countP]

/-- Joining a list of conditions and starting one mean the same: both sides are true. -/
theorem holds_conj (left right : Clause) :
    (left.conj right).holds atom = (left.holds atom && right.holds atom) := by
  cases left with
  | must clauses =>
    -- The right side becomes the last part of a list that is already there.
    change (must (clauses ++ [right])).holds atom = _
    rw [holds_must, holds_must, List.all_append]
    simp
  | matchAll | term field value | range field op value | should clauses minimum =>
    change (must [_, right]).holds atom = _
    rw [holds_must]
    simp

/-- At least one of two parts is true exactly if one or the other is. -/
theorem holds_anyOf (left right : Clause) :
    (anyOf [left, right]).holds atom = (left.holds atom || right.holds atom) := by
  rw [anyOf, holds_should]
  cases hl : left.holds atom <;> cases hr : right.holds atom <;> simp [hl, hr]

end Clause

/-! ## The meaning of a compiled clause -/

/-- How a mode reads a condition: permissive mode takes the leaves without a clause to be
true. -/
def Strictness.reading (strictness : Strictness) (interpretation : Interpretation) :
    Interpretation :=
  match strictness with
  | .permissive => interpretation.lenient
  | .strict => interpretation

namespace Strictness

variable (strictness : Strictness) (interpretation : Interpretation)

@[simp] theorem atom_reading :
    (strictness.reading interpretation).atom = interpretation.atom := by
  cases strictness <;> rfl

theorem reading_below (turn : Turn) :
    (strictness.reading interpretation).below turn =
      strictness.reading (interpretation.below turn) := by
  cases strictness <;> rfl

/-- What a leaf without a clause is compiled to means what the mode takes the leaf to mean. -/
theorem holds_of_fallback {text : String} {clause : Clause} (place : List Turn)
    (leaf : Condition) (compiled : strictness.fallback text = .ok clause) :
    clause.holds interpretation.atom =
      (strictness.reading interpretation).leaf place leaf := by
  cases strictness with
  | permissive =>
    cases compiled
    rfl
  | strict => cases compiled

end Strictness

/-- The clause of a comparison means what the mode takes the comparison to mean. -/
theorem holds_of_compileCompare {strictness : Strictness} (interpretation : Interpretation)
    {op : CompareOp} {field literal : String} {clause : Clause}
    (compiled : compileCompare strictness op field literal = .ok clause) :
    clause.holds interpretation.atom =
      (Condition.compare op field literal).holds (strictness.reading interpretation) := by
  cases op with
  | ne => exact strictness.holds_of_fallback interpretation _ _ compiled
  | eq | gt | ge | lt | le =>
    cases compiled
    simp [Clause.holds, Condition.holds, CompareOp.atomOp?, RangeOp.atomOp]

namespace Condition

/-- **The meaning of a compiled clause**, in either mode. -/
theorem holds_of_compile {strictness : Strictness} {condition : Condition} {clause : Clause}
    (interpretation : Interpretation) (compiled : condition.compile strictness = .ok clause) :
    clause.holds interpretation.atom =
      condition.holds (strictness.reading interpretation) := by
  induction condition generalizing clause interpretation with
  | and left right ihLeft ihRight =>
    obtain ⟨l, r, leftOk, rightOk, rfl⟩ := compile_and_eq_ok_iff.mp compiled
    have meansLeft := ihLeft (interpretation.below .left) leftOk
    have meansRight := ihRight (interpretation.below .right) rightOk
    rw [Interpretation.atom_below] at meansLeft meansRight
    rw [Clause.holds_conj, holds, meansLeft, meansRight, Strictness.reading_below,
      Strictness.reading_below]
  | or left right ihLeft ihRight =>
    obtain ⟨l, r, leftOk, rightOk, rfl⟩ := compile_or_eq_ok_iff.mp compiled
    have meansLeft := ihLeft (interpretation.below .left) leftOk
    have meansRight := ihRight (interpretation.below .right) rightOk
    rw [Interpretation.atom_below] at meansLeft meansRight
    rw [Clause.holds_anyOf, holds, meansLeft, meansRight, Strictness.reading_below,
      Strictness.reading_below]
  | group inner ih => exact ih interpretation compiled
  | compare op field literal => exact holds_of_compileCompare interpretation compiled
  | subquery text => exact strictness.holds_of_fallback interpretation _ _ compiled
  | other text => exact strictness.holds_of_fallback interpretation _ _ compiled

/-- A condition that holds still holds once the leaves without a clause are taken to be true.
Nothing in a condition negates a leaf. -/
theorem holds_lenient_of_holds {condition : Condition} {interpretation : Interpretation}
    (isTrue : condition.holds interpretation = true) :
    condition.holds interpretation.lenient = true := by
  induction condition generalizing interpretation with
  | and left right ihLeft ihRight =>
    rw [holds, Bool.and_eq_true] at isTrue ⊢
    rw [← Interpretation.lenient_below, ← Interpretation.lenient_below]
    exact ⟨ihLeft isTrue.1, ihRight isTrue.2⟩
  | or left right ihLeft ihRight =>
    rw [holds, Bool.or_eq_true] at isTrue ⊢
    rw [← Interpretation.lenient_below, ← Interpretation.lenient_below]
    exact isTrue.imp ihLeft ihRight
  | group inner ih => exact ih isTrue
  | compare op field literal =>
    cases op with
    | ne => rfl
    | eq | gt | ge | lt | le => exact isTrue
  | subquery text => rfl
  | other text => rfl

/-- **Strict mode preserves meaning.** A clause matches exactly when its condition is true,
whatever the truth of the atoms. -/
theorem strict_clause_holds_iff (condition : Condition) (interpretation : Interpretation)
    (clause : Clause) (compiled : condition.compile .strict = .ok clause) :
    clause.holds interpretation.atom = true ↔ condition.holds interpretation = true := by
  rw [holds_of_compile interpretation compiled]
  rfl

/-- A conjunction whose left side is a conjunction in parentheses, with a choice on the
right. -/
def nestedSpine : Condition :=
  .and (.group (.and (.compare .eq "a" "'x'") (.compare .gt "b" "2")))
    (.or (.compare .le "c" "3") (.group (.compare .ge "a" "'it''s'")))

/-- The clause of `nestedSpine`: one list of three parts, the last of which is a choice. -/
def nestedSpineClause : Clause :=
  .must [.term "a" "x", .range "b" .gt "2",
    .anyOf [.range "c" .lte "3", .range "a" .gte "it's"]]

/-- The clause is true of a record of which every atom is true but those with `<=`. -/
theorem strict_clause_holds_iff_nestedSpine :
    nestedSpine.compile .strict = .ok nestedSpineClause ∧
      (nestedSpineClause.holds (fun atom => atom.op ≠ .le) = true ↔
        nestedSpine.holds ⟨fun atom => atom.op ≠ .le, fun _ _ => false⟩ = true) ∧
      nestedSpine.holds ⟨fun atom => atom.op ≠ .le, fun _ _ => false⟩ = true :=
  ⟨rfl, strict_clause_holds_iff nestedSpine ⟨fun atom => atom.op ≠ .le,
    fun _ _ => false⟩ _ rfl, by decide⟩

/-- **Permissive mode loses no record.** Every condition has a clause. It matches exactly when
the condition is true with the leaves without a clause taken to be true, and so whenever the
condition is true. -/
theorem permissive_clause_widens (condition : Condition) :
    ∃ clause, condition.compile .permissive = .ok clause ∧
      compileFilterPermissive (some condition) = clause ∧
      ∀ interpretation : Interpretation,
        (clause.holds interpretation.atom = true ↔
          condition.holds interpretation.lenient = true) ∧
        (condition.holds interpretation = true → clause.holds interpretation.atom = true) := by
  obtain ⟨clause, compiled⟩ := condition.exists_compile_permissive
  refine ⟨clause, compiled, ?_, fun interpretation => ?_⟩
  · rw [compileFilterPermissive, compileFilter, compiled]
  · have meaning : clause.holds interpretation.atom = condition.holds interpretation.lenient :=
      holds_of_compile interpretation compiled
    rw [meaning]
    exact ⟨Iff.rfl, holds_lenient_of_holds⟩

end Condition

end SqlSearch
