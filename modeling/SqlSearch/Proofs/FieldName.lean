import Mathlib.Data.List.DropRight
import SqlSearch.Field

/-!
# Names of fields in aggregations

The name of a field in an aggregation is cut out of the text of a path in four steps: white
space at the ends, quotes around the whole, the qualifier, and quotes around what is left.  A
step only ever removes characters, so a name comes through unchanged exactly if every step
finds nothing of it to remove.

## Main definitions

* `Field.IsQuoted`: the characters stand between two quotes of one kind
* `Field.bareChars`: the four steps, on characters

## Main statements

* `Field.period_notMem_bare`: no period is left in a name
* `Field.unquoted_eq_self_iff`, `Field.trimChars_eq_self_iff`: when a step has nothing to
  remove
* `Field.bareChars_eq_self_iff`, `Field.bareChars_qualified_eq_iff`: which names come through,
  alone and behind a qualifier
-/

namespace SqlSearch.Field

open Text (isBlank trimChars)

/-- The characters stand **between quotes** of one kind. -/
def IsQuoted (cs : List Char) : Prop :=
  ∃ quote inner, isQuote quote = true ∧ cs = quote :: inner ++ [quote]

/-- The four steps, on characters. -/
def bareChars (cs : List Char) : List Char :=
  unquoted (afterLastPeriod (unquoted (trimChars cs)))

theorem toList_bare (path : String) : (bare path).toList = bareChars path.toList := by
  simp only [bare, stripQuotes, stripQualifier, Text.trim, bareChars, String.toList_ofList]

/-! ## Quotes -/

theorem unquoted_of_isQuote {quote : Char} (isQuote : isQuote quote = true)
    (inner : List Char) :
    unquoted (quote :: inner ++ [quote]) = inner := by
  simp [unquoted, isQuote]

theorem unquoted_of_not_isQuoted {cs : List Char} (plain : ¬ IsQuoted cs) :
    unquoted cs = cs := by
  cases cs with
  | nil => rfl
  | cons first rest =>
    rw [unquoted, if_neg]
    intro quoted
    rw [Bool.and_eq_true, beq_iff_eq, List.getLast?_eq_some_iff] at quoted
    obtain ⟨isQuote, inner, rfl⟩ := quoted
    exact plain ⟨first, inner, isQuote, rfl⟩

theorem unquoted_sublist (cs : List Char) : (unquoted cs).Sublist cs := by
  by_cases quoted : IsQuoted cs
  · obtain ⟨quote, inner, isQuote, rfl⟩ := quoted
    rw [unquoted_of_isQuote isQuote]
    exact (List.sublist_append_left inner [quote]).cons quote
  · rw [unquoted_of_not_isQuoted quoted]

/-- Quotes are removed from what stands between quotes, and from nothing else. -/
theorem unquoted_eq_self_iff (cs : List Char) : unquoted cs = cs ↔ ¬ IsQuoted cs := by
  refine ⟨?_, unquoted_of_not_isQuoted⟩
  rintro same ⟨quote, inner, isQuote, rfl⟩
  rw [unquoted_of_isQuote isQuote] at same
  have shorter : inner.length = (quote :: inner ++ [quote]).length := congrArg List.length same
  simp only [List.length_append, List.length_cons, List.length_nil] at shorter
  omega

instance : DecidablePred IsQuoted := fun cs =>
  decidable_of_iff (unquoted cs ≠ cs) (by rw [ne_eq, unquoted_eq_self_iff, not_not])

/-! ## Periods -/

theorem afterLastPeriod_sublist (cs : List Char) : (afterLastPeriod cs).Sublist cs :=
  (List.rtakeWhile_suffix (· != '.') cs).sublist

theorem period_notMem_afterLastPeriod (cs : List Char) : '.' ∉ afterLastPeriod cs := by
  intro member
  rw [afterLastPeriod, List.mem_reverse] at member
  have kept := List.mem_takeWhile_imp member
  exact absurd kept (by decide)

theorem afterLastPeriod_eq_self_iff (cs : List Char) : afterLastPeriod cs = cs ↔ '.' ∉ cs := by
  constructor
  · intro same
    rw [← same]
    exact period_notMem_afterLastPeriod cs
  · intro noPeriod
    refine List.rtakeWhile_eq_self_iff.mpr fun c member => ?_
    rw [bne_iff_ne]
    rintro rfl
    exact noPeriod member

/-- What stands in front of a period does not count. -/
theorem afterLastPeriod_append (qualifier name : List Char) :
    afterLastPeriod (qualifier ++ '.' :: name) = afterLastPeriod name := by
  have reversed : (qualifier ++ '.' :: name).reverse =
      name.reverse ++ '.' :: qualifier.reverse := by simp
  rw [afterLastPeriod, afterLastPeriod, reversed, List.takeWhile_append]
  split
  · next whole =>
    -- The search has gone through the whole name, and ends at the period in front of it.
    have all : name.reverse.takeWhile (· != '.') = name.reverse :=
      (List.takeWhile_sublist _).eq_of_length whole
    rw [all, List.takeWhile_cons_of_neg (by simp), List.append_nil]
  · rfl

/-- **No period is left in a name**, whatever it is cut out of. -/
theorem period_notMem_bare (path : String) : '.' ∉ (bare path).toList := by
  rw [toList_bare]
  intro member
  exact period_notMem_afterLastPeriod _ ((unquoted_sublist _).subset member)

/-! ## White space -/

theorem trimChars_eq (cs : List Char) :
    trimChars cs = (cs.dropWhile isBlank).rdropWhile isBlank := rfl

theorem trimChars_sublist (cs : List Char) : (trimChars cs).Sublist cs :=
  (List.rdropWhile_prefix isBlank _).sublist.trans (List.dropWhile_sublist isBlank)

theorem dropWhile_isBlank_eq_self_iff (cs : List Char) :
    cs.dropWhile isBlank = cs ↔ ∀ c ∈ cs.head?, isBlank c = false := by
  cases cs with
  | nil => simp
  | cons first rest => simp [List.dropWhile_eq_self_iff]

theorem rdropWhile_isBlank_eq_self_iff (cs : List Char) :
    cs.rdropWhile isBlank = cs ↔ ∀ c ∈ cs.getLast?, isBlank c = false := by
  rw [List.rdropWhile, ← List.head?_reverse, ← dropWhile_isBlank_eq_self_iff]
  exact ⟨fun same => List.reverse_eq_iff.mp same, fun same => List.reverse_eq_iff.mpr same⟩

/-- Nothing is trimmed exactly if there is no white space at either end. -/
theorem trimChars_eq_self_iff (cs : List Char) :
    trimChars cs = cs ↔ (∀ c ∈ cs.head?, isBlank c = false) ∧
      ∀ c ∈ cs.getLast?, isBlank c = false := by
  rw [← dropWhile_isBlank_eq_self_iff, ← rdropWhile_isBlank_eq_self_iff, trimChars_eq]
  constructor
  · intro same
    have front : cs.dropWhile isBlank = cs := by
      refine (List.dropWhile_sublist isBlank).antisymm ?_
      nth_rewrite 1 [← same]
      exact (List.rdropWhile_prefix isBlank _).sublist
    rw [front] at same
    exact ⟨front, same⟩
  · rintro ⟨front, back⟩
    rw [front, back]

/-- Around a character that is no white space the two ends are trimmed each for itself. -/
theorem trimChars_append_cons {c : Char} (solid : isBlank c = false)
    (before after : List Char) :
    trimChars (before ++ c :: after) =
      before.dropWhile isBlank ++ c :: after.rdropWhile isBlank := by
  have front : (before ++ c :: after).dropWhile isBlank =
      before.dropWhile isBlank ++ c :: after := by
    rw [List.dropWhile_append]
    split
    · next empty =>
      rw [List.isEmpty_iff.mp empty, List.dropWhile_cons_of_neg (by simp [solid]),
        List.nil_append]
    · rfl
  have back (cs : List Char) : (cs ++ c :: after).rdropWhile isBlank =
      cs ++ c :: after.rdropWhile isBlank := by
    have reversed : (cs ++ c :: after).reverse = after.reverse ++ c :: cs.reverse := by simp
    rw [List.rdropWhile, List.rdropWhile, reversed, List.dropWhile_append]
    split
    · next empty =>
      rw [List.isEmpty_iff.mp empty, List.dropWhile_cons_of_neg (by simp [solid])]
      simp
    · simp
  rw [trimChars_eq, front, back]

/-! ## Names that come through -/

/-- The last two steps leave the whole of a name exactly if they start from it and have nothing
to remove. -/
theorem unquoted_afterLastPeriod_eq_iff {cs name : List Char} (part : cs.Sublist name) :
    unquoted (afterLastPeriod cs) = name ↔ cs = name ∧ '.' ∉ name ∧ ¬ IsQuoted name := by
  rw [← unquoted_eq_self_iff, ← afterLastPeriod_eq_self_iff]
  constructor
  · intro same
    have last := unquoted_sublist (afterLastPeriod cs)
    have first := afterLastPeriod_sublist cs
    rw [same] at last
    -- The result is the name again, so every step in between is caught between two equal
    -- lists.
    have start : cs = name := part.antisymm (last.trans first)
    rw [start] at last first same
    have noPeriod : afterLastPeriod name = name := first.antisymm last
    rw [noPeriod] at same
    exact ⟨start, noPeriod, same⟩
  · rintro ⟨rfl, noPeriod, plain⟩
    rw [noPeriod, plain]

/-- A name without a qualifier comes through exactly if it has no white space at its ends, no
period, and no quotes around it. -/
theorem bareChars_eq_self_iff (name : List Char) :
    bareChars name = name ↔ trimChars name = name ∧ '.' ∉ name ∧ ¬ IsQuoted name := by
  have trimmed := trimChars_sublist name
  have unquotes := unquoted_sublist (trimChars name)
  rw [bareChars, unquoted_afterLastPeriod_eq_iff (unquotes.trans trimmed)]
  constructor
  · rintro ⟨start, comes⟩
    rw [start] at unquotes
    exact ⟨trimmed.antisymm unquotes, comes⟩
  · rintro ⟨solid, noPeriod, plain⟩
    exact ⟨by rw [solid, unquoted_of_not_isQuoted plain], noPeriod, plain⟩

/-- Where the ends of a path are quotes, one of them is in front of a period and the other
behind it. -/
theorem exists_split_of_enclosed {quote : Char} {inner before after : List Char}
    (noPeriod : quote ≠ '.') (whole : before ++ '.' :: after = quote :: inner ++ [quote]) :
    ∃ front back, inner = front ++ '.' :: back ∧ after = back ++ [quote] := by
  cases before with
  | nil => exact absurd (List.cons.inj whole).1.symm noPeriod
  | cons first front =>
    have rest : front ++ '.' :: after = inner ++ [quote] := (List.cons.inj whole).2
    rcases List.eq_nil_or_concat' after with rfl | ⟨back, last, rfl⟩
    · have ends : ['.'] = [quote] := (List.append_inj' rest rfl).2
      exact absurd (List.cons.inj ends).1.symm noPeriod
    · rw [← List.cons_append, ← List.append_assoc] at rest
      obtain ⟨same, ends⟩ := List.append_inj' rest rfl
      exact ⟨front, back, same.symm, by rw [ends]⟩

/-- A name behind a qualifier loses its last character if there are quotes around the whole
path. -/
theorem bareChars_ne_of_isQuoted {qualifier name : List Char}
    (quoted : IsQuoted (trimChars (qualifier ++ '.' :: name))) :
    bareChars (qualifier ++ '.' :: name) ≠ name := by
  obtain ⟨quote, inner, isQuote, path⟩ := quoted
  have noPeriod : quote ≠ '.' := by
    rintro rfl
    exact absurd isQuote (by decide)
  have whole := (trimChars_append_cons (c := '.') rfl qualifier name).symm.trans path
  obtain ⟨front, back, rfl, ends⟩ := exists_split_of_enclosed noPeriod whole
  have result : bareChars (qualifier ++ '.' :: name) = unquoted (afterLastPeriod back) := by
    rw [bareChars, path, unquoted_of_isQuote isQuote, afterLastPeriod_append]
  intro same
  have shorter : name.length ≤ back.length := by
    rw [← same, result]
    exact ((unquoted_sublist _).trans (afterLastPeriod_sublist back)).length_le
  have longer : (back ++ [quote]).length ≤ name.length := by
    rw [← ends]
    exact (List.rdropWhile_prefix isBlank name).length_le
  rw [List.length_append, List.length_singleton] at longer
  omega

/-- A name behind a qualifier comes through exactly if it does not end in white space, has no
period and no quotes around it, and does not end in a quote that the path starts with. -/
theorem bareChars_qualified_eq_iff (qualifier name : List Char) :
    bareChars (qualifier ++ '.' :: name) = name ↔
      (∀ c ∈ name.getLast?, isBlank c = false) ∧ '.' ∉ name ∧ ¬ IsQuoted name ∧
        ¬ IsQuoted (trimChars (qualifier ++ '.' :: name)) := by
  by_cases quoted : IsQuoted (trimChars (qualifier ++ '.' :: name))
  · exact iff_of_false (bareChars_ne_of_isQuoted quoted) fun comes => comes.2.2.2 quoted
  · have part := (List.rdropWhile_prefix isBlank name).sublist
    rw [bareChars, unquoted_of_not_isQuoted quoted, trimChars_append_cons rfl,
      afterLastPeriod_append, unquoted_afterLastPeriod_eq_iff part,
      rdropWhile_isBlank_eq_self_iff, ← trimChars_append_cons rfl, and_iff_left quoted]

end SqlSearch.Field
