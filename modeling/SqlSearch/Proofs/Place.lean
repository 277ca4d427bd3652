import Mathlib.Data.List.Lex
import SqlSearch.Sql.Expr

/-!
# Places in expressions

`Expr.subexprs` lists an expression with everything inside it, and a search takes the first of
that list that has a property.  This module says what "first" means without the list.

An expression is known by its *place*: the position of an operand at every level, from the
outside to the inside.  Places are compared lexicographically, so that an expression comes
before its operands, and one operand, with all that is inside it, before the next.  The list is
shown to hold exactly what stands at some place, and a search to find what stands at the least
one.

## Main definitions

* `Expr.operands`, `Expr.at?`, `exprAt?`: the expression at a place
* `FirstAt`: the expression of the least place that has a property

## Main statements

* `Expr.operandsInduction`: induction on operands
* `mem_flatMap_subexprs_iff`: what is visited is what stands at some place
* `find?_flatMap_subexprs_eq_some_iff`: the search finds the expression of the least place

## Design

A clause of a query may hold several expressions, and the clauses follow one another.  So a
place starts with the position of an expression in a list, and the lists of all clauses are put
behind each other.
-/

namespace SqlSearch.Sql

/-! ## Places -/

namespace Expr

/-- The operands of an expression, in the order in which they are visited. -/
def operands : Expr → List Expr
  | .unary _ operand => [operand]
  | .binary left _ right => [left, right]
  | .nested inner => [inner]
  | .inSubquery operand _ _ => [operand]
  | .call _ parameters args operands => parameters ++ args ++ operands
  | .phrase _ operands => operands
  | _ => []

/-- The expression at a **place** inside an expression: the positions of operands, from the
outside to the inside. -/
def at? (e : Expr) : List Nat → Option Expr
  | [] => some e
  | i :: place => e.operands[i]?.bind fun operand => operand.at? place

end Expr

/-- The expression at a place of a list of expressions: which of them, then the place inside
it. -/
def exprAt? (roots : List Expr) : List Nat → Option Expr
  | [] => none
  | i :: place => roots[i]?.bind fun root => root.at? place

/-- `e` stands at `place` and has the property `p`, and nothing at a **lesser place** has
it. -/
def FirstAt (at? : List Nat → Option Expr) (p : Expr → Prop) (place : List Nat) (e : Expr) :
    Prop :=
  at? place = some e ∧ p e ∧ ∀ earlier < place, ∀ other, at? earlier = some other → ¬ p other

@[simp] theorem exprAt?_nil (place : List Nat) : exprAt? [] place = none := by
  cases place <;> rfl

/-- Something stands in a list if it stands in the first expression or in the rest. -/
theorem exists_exprAt?_cons_iff (root : Expr) (rest : List Expr) (e : Expr) :
    (∃ place, exprAt? (root :: rest) place = some e) ↔
      (∃ place, root.at? place = some e) ∨ ∃ place, exprAt? rest place = some e := by
  constructor
  · rintro ⟨_ | ⟨_ | i, place⟩, found⟩
    · cases found
    · exact Or.inl ⟨place, found⟩
    · exact Or.inr ⟨i :: place, found⟩
  · rintro (⟨place, found⟩ | ⟨_ | ⟨i, place⟩, found⟩)
    · exact ⟨0 :: place, found⟩
    · cases found
    · exact ⟨(i + 1) :: place, found⟩

/-- Something stands in an expression if it is the expression or stands in its operands. -/
theorem Expr.exists_at?_iff (root e : Expr) :
    (∃ place, root.at? place = some e) ↔
      e = root ∨ ∃ place, exprAt? root.operands place = some e := by
  constructor
  · rintro ⟨_ | ⟨i, place⟩, found⟩
    · exact Or.inl (Option.some.inj found).symm
    · exact Or.inr ⟨i :: place, found⟩
  · rintro (rfl | ⟨_ | ⟨i, place⟩, found⟩)
    · exact ⟨[], rfl⟩
    · cases found
    · exact ⟨i :: place, found⟩

/-! ## The first expression with a property -/

namespace FirstAt

variable {p : Expr → Prop} {root e : Expr} {rest : List Expr} {place : List Nat}

/-- There is at most one first expression: places are linearly ordered. -/
theorem unique {at? : List Nat → Option Expr} {place' : List Nat} {e' : Expr}
    (first : FirstAt at? p place e) (first' : FirstAt at? p place' e') : e = e' := by
  obtain ⟨found, has, least⟩ := first
  obtain ⟨found', has', least'⟩ := first'
  rcases lt_trichotomy place place' with before | same | behind
  · exact absurd has (least' place before e found)
  · subst same
    exact Option.some.inj (found.symm.trans found')
  · exact absurd has' (least place' behind e' found')

/-- An expression comes before everything inside it. -/
theorem of_root (has : p root) : FirstAt root.at? p [] root :=
  ⟨rfl, has, fun earlier lesser => absurd lesser (List.not_lt_nil earlier)⟩

/-- Below an expression without the property, the first of its operands is the first. -/
theorem of_operands (hasNot : ¬ p root) (first : FirstAt (exprAt? root.operands) p place e) :
    FirstAt root.at? p place e := by
  obtain ⟨found, has, least⟩ := first
  refine ⟨?_, has, ?_⟩
  · cases place with
    | nil => cases found
    | cons i place => exact found
  · rintro (_ | ⟨i, earlier⟩) lesser other foundOther
    · cases foundOther
      exact hasNot
    · exact least (i :: earlier) lesser other foundOther

/-- What comes first in the first expression of a list comes first in the list. -/
theorem head (first : FirstAt root.at? p place e) :
    FirstAt (exprAt? (root :: rest)) p (0 :: place) e := by
  obtain ⟨found, has, least⟩ := first
  refine ⟨found, has, ?_⟩
  rintro (_ | ⟨i, earlier⟩) lesser other foundOther
  · cases foundOther
  · rcases List.cons_lt_cons_iff.mp lesser with impossible | ⟨rfl, inside⟩
    · exact absurd impossible (Nat.not_lt_zero i)
    · exact least earlier inside other foundOther

/-- Where the first expression of a list holds nothing with the property, the rest decides. -/
theorem tail (none : ∀ place other, root.at? place = some other → ¬ p other)
    (first : FirstAt (exprAt? rest) p place e) :
    ∃ place', FirstAt (exprAt? (root :: rest)) p place' e := by
  obtain ⟨found, has, least⟩ := first
  cases place with
  | nil => cases found
  | cons i place =>
    refine ⟨(i + 1) :: place, found, has, ?_⟩
    rintro (_ | ⟨_ | j, earlier⟩) lesser other foundOther
    · cases foundOther
    · exact none earlier other foundOther
    · refine least (j :: earlier) ?_ other foundOther
      rw [List.cons_lt_cons_iff, Nat.succ_lt_succ_iff, Nat.succ_inj] at lesser
      exact List.cons_lt_cons_iff.mpr lesser

end FirstAt

/-! ## The search visits every place, in order -/

namespace Expr

theorem subexprsList_eq_flatMap (list : List Expr) :
    subexprsList list = list.flatMap subexprs := by
  induction list with
  | nil => rfl
  | cons e rest ih => rw [subexprsList, ih, List.flatMap_cons]

/-- An expression is visited, and then its operands one after the other. -/
theorem subexprs_eq (e : Expr) : e.subexprs = e :: e.operands.flatMap subexprs := by
  cases e <;> simp [subexprs, operands, subexprsList_eq_flatMap]

theorem sizeOf_lt_of_mem_operands {e operand : Expr} (member : operand ∈ e.operands) :
    sizeOf operand < sizeOf e := by
  cases e with
  | unary op inner | nested inner | inSubquery inner negated q =>
    cases List.mem_singleton.mp member
    simp only [unary.sizeOf_spec, nested.sizeOf_spec, inSubquery.sizeOf_spec]
    omega
  | binary left op right =>
    simp only [operands, List.mem_cons, List.not_mem_nil, or_false] at member
    simp only [binary.sizeOf_spec]
    rcases member with rfl | rfl <;> omega
  | call head parameters args others =>
    simp only [operands, List.mem_append] at member
    simp only [call.sizeOf_spec]
    rcases member with (member | member) | member <;>
      have smaller := List.sizeOf_lt_of_mem member <;> omega
  | phrase layout others =>
    have smaller := List.sizeOf_lt_of_mem (show operand ∈ others from member)
    simp only [phrase.sizeOf_spec]
    omega
  | wildcard | qualifiedWildcard path | column path | value v | subquery q
  | «exists» negated q =>
    cases member

/-- **Induction on operands.** What passes from the operands of an expression to the expression
holds of every expression. -/
theorem operandsInduction {motive : Expr → Prop}
    (step : ∀ e : Expr, (∀ operand ∈ e.operands, motive operand) → motive e) (e : Expr) :
    motive e :=
  step e fun operand member =>
    have := sizeOf_lt_of_mem_operands member
    operandsInduction step operand
termination_by sizeOf e

end Expr

/-- What is visited in a list of expressions is what stands in it, if that is so for each of
them. -/
theorem mem_flatMap_subexprs_of_each {roots : List Expr} (e : Expr)
    (each : ∀ root ∈ roots, (e ∈ root.subexprs ↔ ∃ place, root.at? place = some e)) :
    e ∈ roots.flatMap Expr.subexprs ↔ ∃ place, exprAt? roots place = some e := by
  induction roots with
  | nil => simp
  | cons root rest ih =>
    rw [List.flatMap_cons, List.mem_append, exists_exprAt?_cons_iff,
      each root List.mem_cons_self, ih fun other member =>
      each other (List.mem_cons_of_mem root member)]

/-- What is visited in an expression is what stands at a place inside it. -/
theorem Expr.mem_subexprs_iff (root e : Expr) :
    e ∈ root.subexprs ↔ ∃ place, root.at? place = some e := by
  induction root using Expr.operandsInduction with
  | step root ih =>
    rw [subexprs_eq, List.mem_cons, exists_at?_iff, mem_flatMap_subexprs_of_each e ih]

theorem mem_flatMap_subexprs_iff (roots : List Expr) (e : Expr) :
    e ∈ roots.flatMap Expr.subexprs ↔ ∃ place, exprAt? roots place = some e :=
  mem_flatMap_subexprs_of_each e fun root _ => root.mem_subexprs_iff e

section Search

variable (p : Expr → Bool)

/-- The search of a list finds what comes first, if the search of each expression does. -/
theorem exists_firstAt_of_each {roots : List Expr} {e : Expr}
    (each : ∀ root ∈ roots, ∀ e, root.subexprs.find? p = some e →
      ∃ place, FirstAt root.at? (p ·) place e)
    (found : (roots.flatMap Expr.subexprs).find? p = some e) :
    ∃ place, FirstAt (exprAt? roots) (p ·) place e := by
  induction roots with
  | nil => cases found
  | cons root rest ih =>
    rw [List.flatMap_cons, List.find?_append] at found
    cases inside : root.subexprs.find? p with
    | some other =>
      rw [inside] at found
      cases found
      obtain ⟨place, first⟩ := each root List.mem_cons_self e inside
      exact ⟨0 :: place, first.head⟩
    | none =>
      rw [inside, Option.none_or] at found
      obtain ⟨place, first⟩ :=
        ih (fun other member => each other (List.mem_cons_of_mem root member)) found
      refine first.tail fun place' other foundOther => ?_
      exact List.find?_eq_none.mp inside other
        ((root.mem_subexprs_iff other).mpr ⟨place', foundOther⟩)

/-- The search of an expression finds what comes first in it. -/
theorem Expr.exists_firstAt_of_find? {root e : Expr} (found : root.subexprs.find? p = some e) :
    ∃ place, FirstAt root.at? (p ·) place e := by
  induction root using Expr.operandsInduction generalizing e with
  | step root ih =>
    rw [subexprs_eq] at found
    by_cases has : p root = true
    · rw [List.find?_cons_of_pos has] at found
      cases found
      exact ⟨[], FirstAt.of_root has⟩
    · rw [List.find?_cons_of_neg has] at found
      obtain ⟨place, first⟩ :=
        exists_firstAt_of_each p (fun operand member e => ih operand member) found
      exact ⟨place, first.of_operands has⟩

/-- The search of a list finds what comes first in it. -/
theorem exists_firstAt_of_find? {roots : List Expr} {e : Expr}
    (found : (roots.flatMap Expr.subexprs).find? p = some e) :
    ∃ place, FirstAt (exprAt? roots) (p ·) place e :=
  exists_firstAt_of_each p (fun root _ _ => root.exists_firstAt_of_find? p) found

/-- The search finds something if there is something to be found. -/
theorem exists_find?_of_exprAt? {roots : List Expr} {place : List Nat} {e : Expr}
    (stands : exprAt? roots place = some e) (has : p e = true) :
    ∃ found, (roots.flatMap Expr.subexprs).find? p = some found := by
  have visited : e ∈ roots.flatMap Expr.subexprs :=
    (mem_flatMap_subexprs_iff roots e).mpr ⟨place, stands⟩
  exact Option.isSome_iff_exists.mp (List.find?_isSome.mpr ⟨e, visited, has⟩)

/-- **The search finds the expression of the least place.** -/
theorem find?_flatMap_subexprs_eq_some_iff (roots : List Expr) (e : Expr) :
    (roots.flatMap Expr.subexprs).find? p = some e ↔
      ∃ place, FirstAt (exprAt? roots) (p ·) place e := by
  refine ⟨exists_firstAt_of_find? p, ?_⟩
  rintro ⟨place, first⟩
  -- Something is found, since `e` itself is visited; and what is found comes first, as `e`
  -- does.
  obtain ⟨other, found⟩ := exists_find?_of_exprAt? p first.1 first.2.1
  obtain ⟨place', first'⟩ := exists_firstAt_of_find? p found
  rw [found, first'.unique first]

/-- Where something has a property, something has it first. -/
theorem exists_firstAt_iff (roots : List Expr) :
    (∃ place e, FirstAt (exprAt? roots) (p ·) place e) ↔
      ∃ place e, exprAt? roots place = some e ∧ p e = true := by
  constructor
  · rintro ⟨place, e, first⟩
    exact ⟨place, e, first.1, first.2.1⟩
  · rintro ⟨place, e, stands, has⟩
    obtain ⟨found, search⟩ := exists_find?_of_exprAt? p stands has
    obtain ⟨place', first⟩ := exists_firstAt_of_find? p search
    exact ⟨place', found, first⟩

end Search

end SqlSearch.Sql
