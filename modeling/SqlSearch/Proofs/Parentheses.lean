import Mathlib.Logic.Relation
import SqlSearch.Proofs.ReadBack
import SqlSearch.Proofs.Reduction

/-!
# Parentheses in a condition

Parentheses that are added to a condition are met in three ways.  Around a condition they are
kept and passed through, around a field they are dropped, and around a value, like anything
inside an operand, they are a part of the text. This module says which of them the filter
shows.

One pair is added at a time.  A pair is *idle* if it stands around a condition, around the
field of a comparison, or anywhere in a leaf that no clause stands for.  An idle pair leaves
the filter as it is.  Any other pair adds an opening parenthesis to a text of the filter, and
nothing that is added later takes it away, so that the number of them tells whether all pairs
were idle.

## Main definitions

* `openings`, `Clause.openings`: the opening parentheses of a text and of a clause
* `Gains`: a text is kept, or it has more opening parentheses
* `Expr.AddsPair`: an expression with one more pair of parentheses
* `Expr.filter`: the filter of a condition in permissive mode
* `Expr.HasClause`, `Expr.PassedOver`: the leaves that a clause stands for, and those that none
  stands for
* `Expr.AddsIdlePair`: an expression with one more pair of parentheses that is idle

## Main statements

* `Expr.AddsPair.openings_render_lt`: a pair shows in the text
* `Expr.AddsIdlePair.filter_eq`, `Expr.AddsPair.idle_or_openings_lt`: what one pair does to the
  filter
* `Expr.parentheses_keep_filter_iff`: the filter is kept exactly if all pairs are idle
* `Expr.value_pair_kept`: a pair that is not idle
-/

namespace SqlSearch

open Relation (ReflTransGen)

/-! ## Texts -/

/-- The number of opening parentheses in a text. -/
def openings (text : String) : Nat := text.toList.count '('

@[simp] theorem openings_append (text text' : String) :
    openings (text ++ text') = openings text + openings text' := by
  rw [openings, String.toList_append, List.count_append]
  rfl

/-- A text is kept, or it has **more opening parentheses** than before. -/
def Gains (text text' : String) : Prop := text' = text ∨ openings text < openings text'

namespace Gains

theorem refl (text : String) : Gains text text := Or.inl rfl

theorem openings_le {text text' : String} (gains : Gains text text') :
    openings text ≤ openings text' := by
  rcases gains with rfl | more
  · exact Nat.le_refl _
  · exact Nat.le_of_lt more

theorem append {first first' second second' : String} (gains : Gains first first')
    (gains' : Gains second second') :
    Gains (first ++ second) (first' ++ second') := by
  have atLeast := gains.openings_le
  have atLeast' := gains'.openings_le
  rcases gains with rfl | more
  · rcases gains' with rfl | more'
    · exact refl _
    · right
      simp only [openings_append]
      omega
  · right
    simp only [openings_append]
    omega

theorem getD {texts texts' : List String} (gains : List.Forall₂ Gains texts texts') (i : Nat) :
    Gains (texts.getD i "") (texts'.getD i "") := by
  induction gains generalizing i with
  | nil => exact refl _
  | cons first rest ih =>
    cases i with
    | zero => exact first
    | succ i => exact ih i

theorem intercalate (separator : String) {texts texts' : List String}
    (gains : List.Forall₂ Gains texts texts') :
    Gains (String.intercalate separator texts) (String.intercalate separator texts') := by
  induction gains with
  | nil => exact refl _
  | cons first rest ih =>
    cases rest with
    | nil => simpa using first
    | cons second rest =>
      rw [String.intercalate_cons_cons, String.intercalate_cons_cons]
      exact (first.append (refl separator)).append ih

end Gains

/-- The value of a literal has as many opening parentheses as its text: only quotes go. -/
theorem openings_literalValue (text : String) :
    openings (Field.literalValue text) = openings text := by
  have collapsed (cs : List Char) : (Field.collapseQuotes cs).count '(' = cs.count '(' := by
    fun_induction Field.collapseQuotes cs with
    | case1 => rfl
    | case2 c => rfl
    | case3 c d cs quotes ih => simp [quotes, ih]
    | case4 c d cs noPair ih => rw [List.count_cons, ih, ← List.count_cons]
  rw [Field.literalValue]
  split
  case h_1 cs isQuoted =>
    split
    case isTrue closed =>
      obtain ⟨inner, rfl⟩ := List.getLast?_eq_some_iff.mp (beq_iff_eq.mp closed)
      simp [openings, isQuoted, collapsed]
    case isFalse => rfl
  case h_2 => rfl

namespace Sql

theorem Layout.fill_gains (layout : Layout) {texts texts' : List String}
    (gains : List.Forall₂ Gains texts texts') :
    Gains (layout.fill texts) (layout.fill texts') := by
  unfold fill
  induction layout with
  | nil => exact .refl _
  | cons slot rest ih =>
    rw [List.map_cons, List.map_cons, String.join_cons, String.join_cons]
    cases slot with
    | text s => exact (Gains.refl s).append ih
    | operand i => exact (Gains.getD gains i).append ih

theorem CallForm.render_gains (form : CallForm) {args args' : List String}
    {clauses clauses' : String} (gainsArgs : List.Forall₂ Gains args args')
    (gainsClauses : Gains clauses clauses') :
    Gains (form.render args clauses) (form.render args' clauses') := by
  cases form with
  | bare | query q => exact .refl _
  | list duplicates =>
    exact (((Gains.refl _).append (.intercalate ", " gainsArgs)).append gainsClauses).append
      (.refl _)

theorem CallHead.render_gains (head : CallHead)
    {parameters parameters' args args' operands operands' : List String}
    (gainsParameters : List.Forall₂ Gains parameters parameters')
    (gainsArgs : List.Forall₂ Gains args args')
    (gainsOperands : List.Forall₂ Gains operands operands') :
    Gains (head.render parameters args operands)
      (head.render parameters' args' operands') := by
  have optional (layout? : Option Layout) :
      Gains (layout?.elim "" (·.fill operands)) (layout?.elim "" (·.fill operands')) := by
    cases layout? with
    | none => exact .refl _
    | some layout => exact layout.fill_gains gainsOperands
  have plain :=
    (((((Gains.refl head.name.render).append
      (head.parameters.fill_gains gainsParameters)).append
    (head.form.render_gains gainsArgs (head.clauses.fill_gains gainsOperands))).append
    (head.within.fill_gains gainsOperands)).append (optional head.filter)).append
      (.refl head.nulls)
  have whole := plain.append (optional head.window)
  unfold render
  split
  · exact ((Gains.refl _).append whole).append (.refl _)
  · exact whole

namespace Expr

/-! ## One more pair of parentheses -/

/-- **One more pair of parentheses** stands around an expression or around something inside it.
The layout of a call or a phrase need not show an operand; a pair inside one counts if it shows
in the text. -/
inductive AddsPair : Expr → Expr → Prop
  | around (e : Expr) : AddsPair e (.nested e)
  | nested {inner inner' : Expr} : AddsPair inner inner' →
    AddsPair (.nested inner) (.nested inner')
  | unary {operand operand' : Expr} (op : UnaryOp) : AddsPair operand operand' →
    AddsPair (.unary op operand) (.unary op operand')
  | left {left left' : Expr} (op : BinaryOp) (right : Expr) : AddsPair left left' →
    AddsPair (.binary left op right) (.binary left' op right)
  | right {right right' : Expr} (left : Expr) (op : BinaryOp) : AddsPair right right' →
    AddsPair (.binary left op right) (.binary left op right')
  | inSubquery {operand operand' : Expr} (negated : Bool) (q : NestedQuery) :
    AddsPair operand operand' →
    AddsPair (.inSubquery operand negated q) (.inSubquery operand' negated q)
  | parameter {e e' : Expr} {head : CallHead} {before after args operands : List Expr} :
    AddsPair e e' →
    (call head (before ++ e' :: after) args operands).render ≠
      (call head (before ++ e :: after) args operands).render →
    AddsPair (.call head (before ++ e :: after) args operands)
      (.call head (before ++ e' :: after) args operands)
  | argument {e e' : Expr} {head : CallHead} {parameters before after operands : List Expr} :
    AddsPair e e' →
    (call head parameters (before ++ e' :: after) operands).render ≠
      (call head parameters (before ++ e :: after) operands).render →
    AddsPair (.call head parameters (before ++ e :: after) operands)
      (.call head parameters (before ++ e' :: after) operands)
  | operand {e e' : Expr} {head : CallHead} {parameters args before after : List Expr} :
    AddsPair e e' →
    (call head parameters args (before ++ e' :: after)).render ≠
      (call head parameters args (before ++ e :: after)).render →
    AddsPair (.call head parameters args (before ++ e :: after))
      (.call head parameters args (before ++ e' :: after))
  | phrase {e e' : Expr} {layout : Layout} {before after : List Expr} : AddsPair e e' →
    (phrase layout (before ++ e' :: after)).render ≠
      (phrase layout (before ++ e :: after)).render →
    AddsPair (.phrase layout (before ++ e :: after)) (.phrase layout (before ++ e' :: after))

theorem forall₂_gains_renderList (list : List Expr) :
    List.Forall₂ Gains (renderList list) (renderList list) := by
  induction list with
  | nil => exact .nil
  | cons e rest ih => exact .cons (.refl _) ih

theorem forall₂_gains_renderList_append {e e' : Expr}
    (more : openings e.render < openings e'.render) (before after : List Expr) :
    List.Forall₂ Gains (renderList (before ++ e :: after))
      (renderList (before ++ e' :: after)) := by
  induction before with
  | nil => exact .cons (Or.inr more) (forall₂_gains_renderList after)
  | cons first rest ih => exact .cons (.refl _) ih

namespace AddsPair

variable {e e' : Expr}

/-- A pair of parentheses shows in the text. -/
theorem openings_render_lt (added : e.AddsPair e') :
    openings e.render < openings e'.render := by
  induction added with
  | around e =>
    have opened : openings "(" = 1 := by decide
    simp only [render, openings_append, opened]
    omega
  | nested inside ih | unary op inside ih | left op right inside ih | right left op inside ih
  | inSubquery negated q inside ih =>
    simp only [render, openings_append]
    omega
  | parameter inside shown ih =>
    simp only [render] at shown ⊢
    exact (CallHead.render_gains _ (forall₂_gains_renderList_append ih _ _)
      (forall₂_gains_renderList _)
      (forall₂_gains_renderList _)).resolve_left shown
  | argument inside shown ih =>
    simp only [render] at shown ⊢
    exact (CallHead.render_gains _ (forall₂_gains_renderList _)
      (forall₂_gains_renderList_append ih _ _)
      (forall₂_gains_renderList _)).resolve_left shown
  | operand inside shown ih =>
    simp only [render] at shown ⊢
    exact (CallHead.render_gains _ (forall₂_gains_renderList _) (forall₂_gains_renderList _)
      (forall₂_gains_renderList_append ih _ _)).resolve_left shown
  | phrase inside shown ih =>
    simp only [render] at shown ⊢
    exact (Layout.fill_gains _ (forall₂_gains_renderList_append ih _ _)).resolve_left shown

/-- A pair of parentheses makes no nested query and hides none. -/
theorem isSubquery_eq (added : e.AddsPair e') : e'.isSubquery = e.isSubquery := by
  induction added with
  | nested inside ih => exact ih
  | around e | unary op inside | left op right inside | right left op inside
  | inSubquery negated q inside | parameter inside shown | argument inside shown
  | operand inside shown | phrase inside shown => rfl

/-- A pair of parentheses stands around a field or shows in its path. -/
theorem openings_fieldPath_lt (added : e.AddsPair e')
    (inside : e'.unparenthesized ≠ e.unparenthesized) :
    openings e.fieldPath < openings e'.fieldPath := by
  induction added with
  | around e => exact absurd rfl inside
  | nested below ih => exact ih inside
  | unary op below => exact (AddsPair.unary op below).openings_render_lt
  | left op right below => exact (AddsPair.left op right below).openings_render_lt
  | right left op below => exact (AddsPair.right left op below).openings_render_lt
  | inSubquery negated q below =>
    exact (AddsPair.inSubquery negated q below).openings_render_lt
  | parameter below shown => exact (AddsPair.parameter below shown).openings_render_lt
  | argument below shown => exact (AddsPair.argument below shown).openings_render_lt
  | operand below shown => exact (AddsPair.operand below shown).openings_render_lt
  | phrase below shown => exact (AddsPair.phrase below shown).openings_render_lt

end AddsPair

end Expr

end Sql

/-! ## Clauses -/

namespace Clause

mutual

/-- The number of opening parentheses in the fields and values of a clause. -/
def openings : Clause → Nat
  | .matchAll => 0
  | .term field value => SqlSearch.openings field + SqlSearch.openings value
  | .range field _ value => SqlSearch.openings field + SqlSearch.openings value
  | .must clauses => listOpenings clauses
  | .should clauses _ => listOpenings clauses

/-- The number of opening parentheses in several clauses. -/
def listOpenings : List Clause → Nat
  | [] => 0
  | clause :: rest => clause.openings + listOpenings rest

end

theorem listOpenings_append (clauses clauses' : List Clause) :
    listOpenings (clauses ++ clauses') = listOpenings clauses + listOpenings clauses' := by
  induction clauses with
  | nil => simp [listOpenings]
  | cons clause rest ih =>
    simp only [List.cons_append, listOpenings, ih]
    omega

theorem listOpenings_conjuncts (clause : Clause) :
    listOpenings clause.conjuncts = clause.openings := by
  cases clause <;> simp [conjuncts, openings, listOpenings]

@[simp] theorem openings_conj (left right : Clause) :
    (left.conj right).openings = left.openings + right.openings := by
  rw [conj_eq, openings, listOpenings_append, listOpenings_conjuncts, listOpenings,
    listOpenings, Nat.add_zero]

@[simp] theorem openings_anyOf (left right : Clause) :
    (anyOf [left, right]).openings = left.openings + right.openings := by
  rw [anyOf, openings, listOpenings, listOpenings, listOpenings, Nat.add_zero]

end Clause

theorem CompareOp.openings_valueClause {op : CompareOp} (compares : op ≠ .ne)
    (field value : String) :
    (op.valueClause field value).openings = openings field + openings value := by
  cases op with
  | ne => exact absurd rfl compares
  | eq | gt | ge | lt | le => rw [valueClause, Clause.openings]

namespace Sql.Expr

/-! ## The filter of a condition -/

/-- **The filter** of a condition in permissive mode. -/
def filter (e : Expr) : Clause := compileFilterPermissive (some e.toCondition)

theorem filter_eq (e : Expr) : e.filter = e.toCondition.normal.valueClause := by
  rw [filter, compileFilterPermissive, compileFilter, Condition.compile_permissive_eq]

theorem filter_nested (inner : Expr) : (nested inner).filter = inner.filter := by
  rw [filter_eq, filter_eq]
  rfl

theorem filter_and (left right : Expr) :
    (binary left .and right).filter = left.filter.conj right.filter := by
  simp only [filter_eq]
  rfl

theorem filter_or (left right : Expr) :
    (binary left .or right).filter = .anyOf [left.filter, right.filter] := by
  simp only [filter_eq]
  rfl

theorem openings_filter_connective {op : BinaryOp} (connective : op = .and ∨ op = .or)
    (left right : Expr) :
    (binary left op right).filter.openings = left.filter.openings + right.filter.openings := by
  rcases connective with rfl | rfl
  · rw [filter_and, Clause.openings_conj]
  · rw [filter_or, Clause.openings_anyOf]

/-- **The leaf has a clause**: it is a comparison, but no inequality, and its operands are no
nested queries. -/
def HasClause (e : Expr) : Prop := e.Compares (¬ ·.StandsForQuery) (¬ ·.StandsForQuery)

section Comparison

variable {left right : Expr} {op : CompareOp}

theorem filter_compare (noQuery : left.isSubquery = false)
    (noQuery' : right.isSubquery = false) :
    (binary left (.compare op) right).filter =
      op.valueClause left.fieldPath (Field.literalValue right.render) := by
  rw [filter_eq, toCondition, noQuery, noQuery']
  rfl

theorem openings_filter_compare (hasClause : (binary left (.compare op) right).HasClause) :
    (binary left (.compare op) right).filter.openings =
      openings left.fieldPath + openings right.render := by
  obtain ⟨noInequality, noQuery, noQuery'⟩ := hasClause
  rw [← isSubquery_iff, Bool.not_eq_true] at noQuery noQuery'
  rw [filter_compare noQuery noQuery', CompareOp.openings_valueClause noInequality,
    openings_literalValue]

end Comparison

/-- **The leaf is passed over**: no clause stands for it. -/
structure PassedOver (e : Expr) : Prop extends IsLeaf e where
  /-- It has no clause. -/
  noClause : ¬ e.HasClause

theorem PassedOver.filter_eq {e : Expr} (passed : e.PassedOver) : e.filter = .matchAll := by
  rw [Expr.filter_eq]
  cases e with
  | binary left op right =>
    cases op with
    | and => exact absurd rfl (passed.ne_and left right)
    | or => exact absurd rfl (passed.ne_or left right)
    | other sign =>
      rw [toCondition]
      split <;> rfl
    | compare op =>
      rw [toCondition]
      split
      · rfl
      · rename_i noQuery
        rw [Bool.or_eq_true, not_or, isSubquery_iff, isSubquery_iff] at noQuery
        have inequality : op = .ne := by
          by_contra compares
          exact passed.noClause ⟨compares, noQuery⟩
        rw [inequality]
        rfl
  | nested inner => exact absurd rfl (passed.ne_nested inner)
  | wildcard | qualifiedWildcard path | column path | value v | unary op operand | subquery q
  | inSubquery operand negated q | «exists» negated q | call head parameters args operands
  | phrase layout operands => rfl

/-! ## Idle parentheses -/

/-- **One more pair of parentheses that is idle**: it stands around a condition, around the
field of a comparison, or anywhere in a leaf that is passed over. -/
inductive AddsIdlePair : Expr → Expr → Prop
  | around (e : Expr) : AddsIdlePair e (.nested e)
  | nested {inner inner' : Expr} : AddsIdlePair inner inner' →
    AddsIdlePair (.nested inner) (.nested inner')
  | left {left left' : Expr} {op : BinaryOp} (right : Expr) : op = .and ∨ op = .or →
    AddsIdlePair left left' →
    AddsIdlePair (.binary left op right) (.binary left' op right)
  | right {right right' : Expr} {op : BinaryOp} (left : Expr) : op = .and ∨ op = .or →
    AddsIdlePair right right' →
    AddsIdlePair (.binary left op right) (.binary left op right')
  | field {left left' : Expr} (op : CompareOp) (right : Expr) : AddsPair left left' →
    left'.unparenthesized = left.unparenthesized →
    AddsIdlePair (.binary left (.compare op) right) (.binary left' (.compare op) right)
  | passedOver {e e' : Expr} : e.PassedOver → AddsPair e e' → AddsIdlePair e e'

section Operand

variable {left left' right right' : Expr} {op : CompareOp}

/-- A pair in the field of a comparison does not make or take away its clause. -/
theorem AddsPair.hasClause_left_iff (added : left.AddsPair left') :
    (binary left' (.compare op) right).HasClause ↔
      (binary left (.compare op) right).HasClause := by
  simp only [HasClause, Compares, ← isSubquery_iff, added.isSubquery_eq]

/-- A pair in the value of a comparison does not make or take away its clause. -/
theorem AddsPair.hasClause_right_iff (added : right.AddsPair right') :
    (binary left (.compare op) right').HasClause ↔
      (binary left (.compare op) right).HasClause := by
  simp only [HasClause, Compares, ← isSubquery_iff, added.isSubquery_eq]

end Operand

/-- A leaf that is passed over stays one, unless the pair stands around it. -/
theorem PassedOver.eq_nested_or {e e' : Expr} (passed : e.PassedOver) (added : e.AddsPair e') :
    e' = .nested e ∨ e'.PassedOver := by
  cases added with
  | around e => exact Or.inl rfl
  | nested inside => exact absurd rfl (passed.ne_nested _)
  | left op right inside =>
    cases op with
    | and => exact absurd rfl (passed.ne_and _ _)
    | or => exact absurd rfl (passed.ne_or _ _)
    | compare op =>
      exact Or.inr ⟨⟨nofun, nofun, nofun⟩, inside.hasClause_left_iff.not.mpr passed.noClause⟩
    | other sign => exact Or.inr ⟨⟨nofun, nofun, nofun⟩, id⟩
  | right left op inside =>
    cases op with
    | and => exact absurd rfl (passed.ne_and _ _)
    | or => exact absurd rfl (passed.ne_or _ _)
    | compare op =>
      exact Or.inr ⟨⟨nofun, nofun, nofun⟩, inside.hasClause_right_iff.not.mpr passed.noClause⟩
    | other sign => exact Or.inr ⟨⟨nofun, nofun, nofun⟩, id⟩
  | unary op inside | inSubquery negated q inside | parameter inside shown
  | argument inside shown | operand inside shown | phrase inside shown =>
    exact Or.inr ⟨⟨nofun, nofun, nofun⟩, id⟩

/-- **An idle pair leaves the filter as it is.** -/
theorem AddsIdlePair.filter_eq {e e' : Expr} (added : e.AddsIdlePair e') :
    e'.filter = e.filter := by
  induction added with
  | around e => exact filter_nested e
  | nested inside ih => rw [filter_nested, filter_nested, ih]
  | left right connective inside ih =>
    rcases connective with rfl | rfl
    · rw [filter_and, filter_and, ih]
    · rw [filter_or, filter_or, ih]
  | right left connective inside ih =>
    rcases connective with rfl | rfl
    · rw [filter_and, filter_and, ih]
    · rw [filter_or, filter_or, ih]
  | field op right inside same =>
    have samePath := congrArg fieldPath same
    rw [fieldPath_unparenthesized, fieldPath_unparenthesized] at samePath
    simp only [Expr.filter_eq, toCondition, inside.isSubquery_eq, samePath]
    split <;> rfl
  | passedOver passed inside =>
    rcases passed.eq_nested_or inside with rfl | passed'
    · exact filter_nested _
    · rw [passed.filter_eq, passed'.filter_eq]

/-- **A pair that is not idle shows in the filter.** -/
theorem AddsPair.idle_or_openings_lt {e e' : Expr} (added : e.AddsPair e') :
    e.AddsIdlePair e' ∨ e.filter.openings < e'.filter.openings := by
  -- The induction goes down the conditions; it ends at the leaves, which show a pair in their
  -- texts or not at all.
  induction added with
  | around e => exact Or.inl (.around e)
  | nested inside ih =>
    rw [filter_nested, filter_nested]
    exact ih.imp_left .nested
  | @left left left' op right inside ih =>
    cases op with
    | and | or =>
      refine ih.imp (.left right (by simp)) fun more => ?_
      rw [openings_filter_connective (by simp), openings_filter_connective (by simp)]
      omega
    | compare op =>
      by_cases hasClause : (binary left (.compare op) right).HasClause
      · by_cases same : left'.unparenthesized = left.unparenthesized
        · exact Or.inl (.field op right inside same)
        · right
          have more := inside.openings_fieldPath_lt same
          rw [openings_filter_compare hasClause,
            openings_filter_compare (inside.hasClause_left_iff.mpr hasClause)]
          omega
      · exact Or.inl (.passedOver ⟨⟨nofun, nofun, nofun⟩, hasClause⟩ (.left _ right inside))
    | other sign =>
      exact Or.inl (.passedOver ⟨⟨nofun, nofun, nofun⟩, id⟩ (.left _ right inside))
  | @right right right' left op inside ih =>
    cases op with
    | and | or =>
      refine ih.imp (.right left (by simp)) fun more => ?_
      rw [openings_filter_connective (by simp), openings_filter_connective (by simp)]
      omega
    | compare op =>
      by_cases hasClause : (binary left (.compare op) right).HasClause
      · right
        have more := inside.openings_render_lt
        rw [openings_filter_compare hasClause,
          openings_filter_compare (inside.hasClause_right_iff.mpr hasClause)]
        omega
      · exact Or.inl (.passedOver ⟨⟨nofun, nofun, nofun⟩, hasClause⟩ (.right left _ inside))
    | other sign =>
      exact Or.inl (.passedOver ⟨⟨nofun, nofun, nofun⟩, id⟩ (.right left _ inside))
  | unary op inside =>
    exact Or.inl (.passedOver ⟨⟨nofun, nofun, nofun⟩, id⟩ (.unary op inside))
  | inSubquery negated q inside =>
    exact Or.inl (.passedOver ⟨⟨nofun, nofun, nofun⟩, id⟩ (.inSubquery negated q inside))
  | parameter inside shown =>
    exact Or.inl (.passedOver ⟨⟨nofun, nofun, nofun⟩, id⟩ (.parameter inside shown))
  | argument inside shown =>
    exact Or.inl (.passedOver ⟨⟨nofun, nofun, nofun⟩, id⟩ (.argument inside shown))
  | operand inside shown =>
    exact Or.inl (.passedOver ⟨⟨nofun, nofun, nofun⟩, id⟩ (.operand inside shown))
  | phrase inside shown =>
    exact Or.inl (.passedOver ⟨⟨nofun, nofun, nofun⟩, id⟩ (.phrase inside shown))

/-! ## Any number of pairs -/

theorem openings_filter_le {e e' : Expr} (added : ReflTransGen AddsPair e e') :
    e.filter.openings ≤ e'.filter.openings := by
  induction added with
  | refl => exact Nat.le_refl _
  | tail _ last ih =>
    rcases last.idle_or_openings_lt with idle | more
    · rw [idle.filter_eq]
      exact ih
    · exact Nat.le_trans ih (Nat.le_of_lt more)

theorem filter_eq_of_idle {e e' : Expr} (added : ReflTransGen AddsIdlePair e e') :
    e'.filter = e.filter := by
  induction added with
  | refl => rfl
  | tail _ last ih => rw [last.filter_eq, ih]

/-- Where the filter has no more opening parentheses than before, **all pairs that were added
are idle**. -/
theorem idle_of_openings_filter_le {e e' : Expr} (added : ReflTransGen AddsPair e e')
    (le : e'.filter.openings ≤ e.filter.openings) : ReflTransGen AddsIdlePair e e' := by
  induction added with
  | refl => exact .refl
  | tail earlier last ih =>
    -- No pair takes an opening parenthesis away, so the last one could not make up for an
    -- earlier one.
    have atLeast := openings_filter_le earlier
    rcases last.idle_or_openings_lt with idle | more
    · refine .tail (ih ?_) idle
      rw [← idle.filter_eq]
      exact le
    · omega

/-- **Which parentheses the filter shows.** Parentheses that are added to a condition, however
many and wherever, leave its filter in permissive mode as it is exactly if all of them are
idle: they stand around conditions, around the fields of comparisons or in leaves that are
passed over. A pair around the value of a comparison becomes a part of the value. -/
theorem parentheses_keep_filter_iff {e e' : Expr} (added : ReflTransGen AddsPair e e') :
    (e'.filter = e.filter ↔ ReflTransGen AddsIdlePair e e') ∧
      ∀ (left right : Expr) (op : CompareOp), ¬ left.StandsForQuery → ¬ right.StandsForQuery →
        (binary left (.compare op) (.nested right)).filter =
          op.valueClause left.fieldPath ("(" ++ right.render ++ ")") := by
  refine ⟨⟨fun same => ?_, filter_eq_of_idle⟩, fun left right op noQuery noQuery' => ?_⟩
  · exact idle_of_openings_filter_le added (Nat.le_of_eq (congrArg Clause.openings same))
  · rw [← isSubquery_iff, Bool.not_eq_true] at noQuery noQuery'
    have noQuote : Field.literalValue ("(" ++ right.render ++ ")") =
        "(" ++ right.render ++ ")" := by
      simp [Field.literalValue]
    rw [filter_compare noQuery (show (nested right).isSubquery = false from noQuery'), render,
      noQuote]

/-- `a >= 1 AND NOT b < 2` -/
def plainBounds : Expr :=
  .binary (.binary (.column { name := { value := "a" } }) (.compare .ge)
    (.value (.number "1" false))) .and
    (.unary .not (.binary (.column { name := { value := "b" } }) (.compare .lt)
      (.value (.number "2" false))))

/-- `((a) >= 1) AND NOT b < (2)` -/
def parenthesizedBounds : Expr :=
  .binary
    (.nested (.binary (.nested (.column { name := { value := "a" } })) (.compare .ge)
      (.value (.number "1" false))))
    .and
    (.unary .not
      (.binary (.column { name := { value := "b" } }) (.compare .lt)
        (.nested (.value (.number "2" false)))))

/-- A pair around a field, one around a comparison and one around a value below `NOT`, which
has no clause, are idle. Without the `NOT` the last one would show. -/
theorem parentheses_keep_filter_iff_bounds :
    plainBounds.render = "a >= 1 AND NOT b < 2" ∧
      parenthesizedBounds.render = "((a) >= 1) AND NOT b < (2)" ∧
      ReflTransGen AddsPair plainBounds parenthesizedBounds ∧
      parenthesizedBounds.filter = plainBounds.filter ∧
      plainBounds.filter = .must [.range "a" .gte "1", .matchAll] ∧
      (binary (.column { name := { value := "b" } }) (.compare .lt)
        (.nested (.value (.number "2" false)))).filter =
        .range "b" .lt "(2)" := by
  have field := AddsPair.around (.column { name := { value := "a" } })
  have value := AddsPair.around (.value (.number "2" false))
  have passed : (unary .not (.binary (.column { name := { value := "b" } }) (.compare .lt)
      (.value (.number "2" false)))).PassedOver := ⟨⟨nofun, nofun, nofun⟩, id⟩
  have pairs : ReflTransGen AddsPair plainBounds parenthesizedBounds :=
    ((ReflTransGen.single (.left _ _ (.left _ _ field))).tail (.left _ _ (.around _))).tail
      (.right _ _ (.unary _ (.right _ _ value)))
  have idlePairs : ReflTransGen AddsIdlePair plainBounds parenthesizedBounds :=
    ((ReflTransGen.single (.left _ (Or.inl rfl) (.field _ _ field rfl))).tail
      (.left _ (Or.inl rfl) (.around _))).tail
      (.right _ (Or.inl rfl) (.passedOver passed (.unary _ (.right _ _ value))))
  obtain ⟨keeps, shows⟩ := parentheses_keep_filter_iff pairs
  refine ⟨by decide +kernel, by decide +kernel, pairs, keeps.mpr idlePairs, rfl, ?_⟩
  exact shows (.column { name := { value := "b" } }) (.value (.number "2" false)) .lt
    nofun nofun

/-- **A pair that is not idle.** In `a = (1)` the parentheses around the value become a part of
it, and a text in parentheses keeps its quotes as well, where parentheses around the field and
around the comparison do not count. -/
theorem value_pair_kept :
    (∃ left right, (binary left (.compare .eq) right).SubqueryFree ∧
      AddsPair (binary left (.compare .eq) right)
        (binary left (.compare .eq) (.nested right)) ∧
      (binary left (.compare .eq) right).filter = .term "a" "1" ∧
      (binary left (.compare .eq) (.nested right)).filter = .term "a" "(1)") ∧
    ∀ written ∈
        [("(((a) = 1))", "\x7b\"term\":\x7b\"a\":\"1\"\x7d\x7d"),
          ("a = (1)", "\x7b\"term\":\x7b\"a\":\"(1)\"\x7d\x7d"),
          ("a = ('x')", "\x7b\"term\":\x7b\"a\":\"('x')\"\x7d\x7d")],
      (Document.ofSql ⟨.generic, .permissive⟩ ("SELECT id FROM t WHERE " ++ written.1)).map
        (·.query.toJson.compact) =
        .ok written.2 := by
  refine ⟨⟨.column { name := { value := "a" } }, .value (.number "1" false), ?_,
    .right _ _ (.around _), rfl, rfl⟩, by decide +kernel⟩
  intro inner inside
  simp only [subexprs, List.mem_cons, List.mem_append, List.not_mem_nil, or_false] at inside
  rcases inside with rfl | rfl | rfl <;> rfl

end Sql.Expr

end SqlSearch
