import Mathlib.Data.List.SplitBy
import Mathlib.Data.List.TakeWhile
import Mathlib.Data.Nat.Init
import SqlSearch.Proofs.ReadBack
import SqlSearch.Request.OfSql

/-!
# String literals

A string literal reaches a clause in two steps.  It is written between quotes, with the quotes
inside it doubled, and then the quotes around it are cut off and doubled quotes collapse.  The
two steps do not undo each other: two quotes next to each other in the value are taken for one
that is doubled already, and are written as they stand.

What happens depends on the *runs* of quotes in the value and on nothing else.  A run of `k`
quotes comes out with half of them, rounded up, wherever it stands, and whether or not a
backslash stands in front of it.  The induction goes from run to run, since single quotes are
treated differently at odd and at even places of a run.

## Main definitions

* `quoteRuns`, `halvedQuotes`: the runs of a text, and the text with every run of quotes halved
* `pairQuotes`: the plain rule for quotes inside a literal

## Main statements

* `quoteRuns_induction`: induction from run to run
* `collapseQuotes_escapeQuoted`, `collapseQuotes_pairQuotes`: writing and collapsing halves the
  runs
* `escapeQuoted_eq_pairQuotes`: literals are written by the plain rule unless a quote follows a
  backslash
* `halvedQuotes_eq_self_iff`: which texts are left alone
* `Sql.string_literals_halve_quotes`: the value of a string literal in a clause
-/

namespace SqlSearch

open Sql (QuoteState escapeQuoted)
open SqlSearch.Field (collapseQuotes)

/-! ## Runs of quotes -/

/-- Both characters are single quotes, or neither is. -/
def sameQuoting (c d : Char) : Bool := (c == '\'') == (d == '\'')

/-- **The runs of a text**: its longest pieces that are made of single quotes, or of other
characters. -/
def quoteRuns (cs : List Char) : List (List Char) := cs.splitBy sameQuoting

/-- A run with half of its quotes, rounded up; a run of other characters stays. -/
def halvedRun (run : List Char) : List Char :=
  if run.head? = some '\'' then List.replicate ((run.length + 1) / 2) '\'' else run

/-- **The text with every run of quotes halved**, rounded up. -/
def halvedQuotes (cs : List Char) : List Char := (quoteRuns cs).flatMap halvedRun

/-- The first run of a text is halved for itself. -/
theorem halvedQuotes_append {run rest : List Char} (nonEmpty : run ≠ [])
    (isRun : run.IsChain fun c d => sameQuoting c d = true)
    (stops : ∀ c ∈ run.getLast?, ∀ d ∈ rest.head?, sameQuoting c d = false) :
    halvedQuotes (run ++ rest) = halvedRun run ++ halvedQuotes rest := by
  unfold halvedQuotes quoteRuns
  rw [List.splitBy_append stops, List.splitBy_of_isChain nonEmpty isRun, List.flatMap_append,
    List.flatMap_singleton]

theorem halvedQuotes_quotes (k : Nat) {rest : List Char} (stops : rest.head? ≠ some '\'') :
    halvedQuotes (List.replicate k '\'' ++ rest) =
      List.replicate ((k + 1) / 2) '\'' ++ halvedQuotes rest := by
  cases k with
  | zero => rfl
  | succ k =>
    have isRun : (List.replicate (k + 1) '\'').IsChain fun c d => sameQuoting c d = true :=
      List.isChain_replicate_of_rel _ rfl
    have run : halvedRun (List.replicate (k + 1) '\'') =
        List.replicate ((k + 1 + 1) / 2) '\'' := by
      simp [halvedRun, List.replicate_succ]
    rw [halvedQuotes_append (by simp) isRun, run]
    intro c last d next
    have isQuote : c = '\'' := List.eq_of_mem_replicate (List.mem_of_mem_getLast? last)
    have noQuote : d ≠ '\'' := by
      rintro rfl
      exact stops next
    simp [sameQuoting, isQuote, noQuote]

theorem halvedQuotes_others {run rest : List Char} (plain : ∀ c ∈ run, c ≠ '\'')
    (stops : ∀ d ∈ rest.head?, d = '\'') :
    halvedQuotes (run ++ rest) = run ++ halvedQuotes rest := by
  cases run with
  | nil => rfl
  | cons first others =>
    have isRun : (first :: others).IsChain fun c d => sameQuoting c d = true := by
      refine List.Pairwise.isChain (List.pairwise_of_forall_mem_list ?_)
      intro c inRun d inRun'
      simp [sameQuoting, plain c inRun, plain d inRun']
    have run : halvedRun (first :: others) = first :: others := by
      rw [halvedRun, if_neg (by simpa using plain first List.mem_cons_self)]
    rw [halvedQuotes_append (List.cons_ne_nil _ _) isRun, run]
    intro c last d next
    have noQuote : c ≠ '\'' := plain c (List.mem_of_mem_getLast? last)
    simp [sameQuoting, noQuote, stops d next]

/-- A character that is no quote is kept, whatever follows it. -/
theorem halvedQuotes_cons {c : Char} (noQuote : c ≠ '\'') (rest : List Char) :
    halvedQuotes (c :: rest) = c :: halvedQuotes rest := by
  -- The character joins the run that follows it, or is a run of its own.
  have cut : rest.takeWhile (· != '\'') ++ rest.dropWhile (· != '\'') = rest :=
    List.takeWhile_append_dropWhile
  have plain : ∀ d ∈ rest.takeWhile (· != '\''), d ≠ '\'' := by
    intro d member
    simpa using List.mem_takeWhile_imp member
  have stops : ∀ d ∈ (rest.dropWhile (· != '\'')).head?, d = '\'' := by
    intro d next
    have first := List.head?_dropWhile_not (· != '\'') rest
    rw [next] at first
    simpa using first
  have whole := halvedQuotes_others plain stops
  rw [cut] at whole
  rw [whole, ← List.cons_append,
    ← halvedQuotes_others (List.forall_mem_cons.mpr ⟨noQuote, plain⟩) stops, List.cons_append,
    cut]

/-- **Induction from run to run**: over the characters that are no quotes one by one, and over
the quotes run by run. -/
theorem quoteRuns_induction {motive : List Char → Prop} (nil : motive [])
    (other : ∀ (c : Char) (rest : List Char), c ≠ '\'' → motive rest → motive (c :: rest))
    (quotes : ∀ (k : Nat) (rest : List Char), rest.head? ≠ some '\'' → motive rest →
      motive (List.replicate (k + 1) '\'' ++ rest))
    (cs : List Char) : motive cs := by
  induction size : cs.length using Nat.strong_induction_on generalizing cs with
  | _ n ih =>
    cases cs with
    | nil => exact nil
    | cons first rest =>
      subst size
      by_cases isQuote : first = '\''
      · subst isQuote
        have cut : rest.takeWhile (· == '\'') ++ rest.dropWhile (· == '\'') = rest :=
          List.takeWhile_append_dropWhile
        have run : rest.takeWhile (· == '\'') =
            List.replicate (rest.takeWhile (· == '\'')).length '\'' := by
          refine List.eq_replicate_iff.mpr ⟨rfl, fun c member => ?_⟩
          simpa using List.mem_takeWhile_imp member
        have stops : (rest.dropWhile (· == '\'')).head? ≠ some '\'' := by
          intro next
          have first := List.head?_dropWhile_not (· == '\'') rest
          rw [next] at first
          exact absurd first (by decide)
        have shorter : (rest.dropWhile (· == '\'')).length < ('\'' :: rest).length :=
          Nat.lt_succ_of_le (List.dropWhile_sublist _).length_le
        have below := quotes (rest.takeWhile (· == '\'')).length _ stops (ih _ shorter _ rfl)
        rw [List.replicate_succ, ← run, List.cons_append, cut] at below
        exact below
      · exact other first rest isQuote (ih rest.length (Nat.lt_succ_self _) rest rfl)

/-! ## Texts that are left alone -/

theorem length_halvedQuotes_le (cs : List Char) : (halvedQuotes cs).length ≤ cs.length := by
  induction cs using quoteRuns_induction with
  | nil => exact Nat.le_refl 0
  | other c rest noQuote ih =>
    rw [halvedQuotes_cons noQuote, List.length_cons, List.length_cons]
    omega
  | quotes k rest stops ih =>
    rw [halvedQuotes_quotes _ stops, List.length_append, List.length_append,
      List.length_replicate, List.length_replicate]
    omega

/-- **A text is left alone** exactly if no two quotes stand next to each other in it. -/
theorem halvedQuotes_eq_self_iff (cs : List Char) :
    halvedQuotes cs = cs ↔ ¬ ['\'', '\''] <:+: cs := by
  induction cs using quoteRuns_induction with
  | nil => simp [halvedQuotes, quoteRuns]
  | other c rest noQuote ih =>
    have noPair : ¬ ['\'', '\''] <+: c :: rest := by
      rw [List.cons_prefix_cons]
      exact fun pair => noQuote pair.1.symm
    rw [halvedQuotes_cons noQuote, List.infix_cons_iff, or_iff_right noPair,
      List.cons_inj_right, ih]
  | quotes k rest stops ih =>
    rw [halvedQuotes_quotes _ stops]
    cases k with
    | zero =>
      have noPair : ¬ ['\'', '\''] <+: '\'' :: rest := by
        rw [List.cons_prefix_cons]
        rintro ⟨-, tail, rfl⟩
        exact stops rfl
      change '\'' :: halvedQuotes rest = '\'' :: rest ↔ ¬ ['\'', '\''] <:+: '\'' :: rest
      rw [List.infix_cons_iff, or_iff_right noPair, List.cons_inj_right, ih]
    | succ k =>
      refine iff_of_false ?_ (not_not_intro ⟨[], List.replicate k '\'' ++ rest, rfl⟩)
      intro same
      have lengths := congrArg List.length same
      have shorter := length_halvedQuotes_le rest
      simp only [List.length_append, List.length_replicate] at lengths
      omega

/-! ## Collapsing -/

theorem collapseQuotes_cons {c : Char} (noQuote : c ≠ '\'') (rest : List Char) :
    collapseQuotes (c :: rest) = c :: collapseQuotes rest := by
  cases rest with
  | nil => rfl
  | cons next rest => rw [collapseQuotes, if_neg fun pair => noQuote pair.1]

/-- A run of quotes collapses to half of it, rounded up. -/
theorem collapseQuotes_quotes (n : Nat) {rest : List Char} (stops : rest.head? ≠ some '\'') :
    collapseQuotes (List.replicate n '\'' ++ rest) =
      List.replicate ((n + 1) / 2) '\'' ++ collapseQuotes rest := by
  induction n using Nat.twoStepInduction with
  | zero => rfl
  | one =>
    cases rest with
    | nil => rfl
    | cons next rest =>
      have noQuote : next ≠ '\'' := fun isQuote => stops (by rw [isQuote]; rfl)
      change collapseQuotes ('\'' :: next :: rest) = '\'' :: collapseQuotes (next :: rest)
      rw [collapseQuotes, if_neg fun pair => noQuote pair.2]
  | more n ih _ =>
    have half : (n + 2 + 1) / 2 = (n + 1) / 2 + 1 := by omega
    change collapseQuotes ('\'' :: '\'' :: (List.replicate n '\'' ++ rest)) = _
    rw [collapseQuotes, if_pos ⟨rfl, rfl⟩, ih, half]
    rfl

/-! ## Writing -/

section Writing

variable {quote : Char} {rest : List Char}

theorem escapeQuoted_nil (quote : Char) (state : QuoteState) :
    escapeQuoted quote state [] = [] := by
  cases state <;> rfl

theorem escapeQuoted_cons {c : Char} (noQuote : c ≠ quote) (state : QuoteState)
    (rest : List Char) :
    escapeQuoted quote state (c :: rest) = c :: escapeQuoted quote (.behind c) rest := by
  cases state <;> rw [escapeQuoted, if_neg noQuote]

/-- In front of anything but a quote the state does not count. -/
theorem escapeQuoted_eq_plain (stops : rest.head? ≠ some quote) (state : QuoteState) :
    escapeQuoted quote state rest = escapeQuoted quote .plain rest := by
  cases rest with
  | nil => rw [escapeQuoted_nil, escapeQuoted_nil]
  | cons c rest =>
    have noQuote : c ≠ quote := fun isQuote => stops (by rw [isQuote]; rfl)
    rw [escapeQuoted_cons noQuote, escapeQuoted_cons noQuote]

theorem head?_escapeQuoted_ne (stops : rest.head? ≠ some quote) (state : QuoteState) :
    (escapeQuoted quote state rest).head? ≠ some quote := by
  cases rest with
  | nil =>
    rw [escapeQuoted_nil]
    exact stops
  | cons c rest =>
    have noQuote : c ≠ quote := fun isQuote => stops (by rw [isQuote]; rfl)
    rw [escapeQuoted_cons noQuote]
    exact stops

/-- A run of quotes is written with an even number of them: two for each pair, and two for a
last one alone. -/
theorem escapeQuoted_plain_quotes (k : Nat) (stops : rest.head? ≠ some quote) :
    escapeQuoted quote .plain (List.replicate k quote ++ rest) =
      List.replicate (2 * ((k + 1) / 2)) quote ++ escapeQuoted quote .plain rest := by
  induction k using Nat.twoStepInduction with
  | zero => rfl
  | one =>
    change escapeQuoted quote .plain (quote :: rest) =
      quote :: quote :: escapeQuoted quote .plain rest
    rw [escapeQuoted, if_pos rfl, escapeQuoted_eq_plain stops]
  | more k ih _ =>
    have more : 2 * ((k + 2 + 1) / 2) = 2 * ((k + 1) / 2) + 2 := by omega
    change escapeQuoted quote .plain (quote :: quote :: (List.replicate k quote ++ rest)) = _
    rw [escapeQuoted, if_pos rfl, escapeQuoted, if_pos rfl, ih, more]
    rfl

/-- Behind a backslash a run of quotes is written as it stands. -/
theorem escapeQuoted_escaped_quotes (k : Nat) (stops : rest.head? ≠ some quote) :
    escapeQuoted quote .escaped (List.replicate k quote ++ rest) =
      List.replicate k quote ++ escapeQuoted quote .plain rest := by
  induction k with
  | zero => exact escapeQuoted_eq_plain stops .escaped
  | succ k ih =>
    rw [List.replicate_succ, List.cons_append, escapeQuoted, if_pos rfl, ih]
    rfl

end Writing

theorem behind_ne_paired (c : Char) : QuoteState.behind c ≠ .paired := by
  unfold QuoteState.behind
  split <;> decide

/-- **Writing and collapsing halves the runs of quotes.** Whether a run is written with an even
number of quotes or, behind a backslash, as it stands, it collapses to the same number. -/
theorem collapseQuotes_escapeQuoted (cs : List Char) {state : QuoteState}
    (start : state ≠ .paired) :
    collapseQuotes (escapeQuoted '\'' state cs) = halvedQuotes cs := by
  induction cs using quoteRuns_induction generalizing state with
  | nil =>
    rw [escapeQuoted_nil]
    rfl
  | other c rest noQuote ih =>
    rw [escapeQuoted_cons noQuote, collapseQuotes_cons noQuote, halvedQuotes_cons noQuote,
      ih (behind_ne_paired c)]
  | quotes k rest stops ih =>
    have stops' := head?_escapeQuoted_ne stops .plain
    rw [halvedQuotes_quotes _ stops, ← @ih .plain (by decide)]
    cases state with
    | plain =>
      have half : (2 * ((k + 1 + 1) / 2) + 1) / 2 = (k + 1 + 1) / 2 := by omega
      rw [escapeQuoted_plain_quotes _ stops, collapseQuotes_quotes _ stops', half]
    | escaped => rw [escapeQuoted_escaped_quotes _ stops, collapseQuotes_quotes _ stops']
    | paired => exact absurd rfl start

/-! ## The plain rule -/

/-- **The plain rule** for the quotes inside a literal: from left to right, two quotes in a row
count as one that is doubled already and are written as two, and a quote without such a partner
is doubled. -/
def pairQuotes : List Char → List Char
  | '\'' :: '\'' :: rest => '\'' :: '\'' :: pairQuotes rest
  | '\'' :: rest => '\'' :: '\'' :: pairQuotes rest
  | c :: rest => c :: pairQuotes rest
  | [] => []

theorem pairQuotes_cons {c : Char} (noQuote : c ≠ '\'') (rest : List Char) :
    pairQuotes (c :: rest) = c :: pairQuotes rest := by
  rw [pairQuotes] <;> simp [noQuote]

theorem head?_pairQuotes_ne {rest : List Char} (stops : rest.head? ≠ some '\'') :
    (pairQuotes rest).head? ≠ some '\'' := by
  cases rest with
  | nil => exact stops
  | cons c rest =>
    have noQuote : c ≠ '\'' := fun isQuote => stops (by rw [isQuote]; rfl)
    rw [pairQuotes_cons noQuote]
    exact stops

theorem pairQuotes_quotes (k : Nat) {rest : List Char} (stops : rest.head? ≠ some '\'') :
    pairQuotes (List.replicate k '\'' ++ rest) =
      List.replicate (2 * ((k + 1) / 2)) '\'' ++ pairQuotes rest := by
  induction k using Nat.twoStepInduction with
  | zero => rfl
  | one =>
    change pairQuotes ('\'' :: rest) = '\'' :: '\'' :: pairQuotes rest
    rw [pairQuotes]
    rintro rest' rfl
    exact stops rfl
  | more k ih _ =>
    have more : 2 * ((k + 2 + 1) / 2) = 2 * ((k + 1) / 2) + 2 := by omega
    change '\'' :: '\'' :: pairQuotes (List.replicate k '\'' ++ rest) = _
    rw [ih, more]
    rfl

/-- The plain rule halves the runs of quotes as well. -/
theorem collapseQuotes_pairQuotes (cs : List Char) :
    collapseQuotes (pairQuotes cs) = halvedQuotes cs := by
  induction cs using quoteRuns_induction with
  | nil => rfl
  | other c rest noQuote ih =>
    rw [pairQuotes_cons noQuote, collapseQuotes_cons noQuote, halvedQuotes_cons noQuote, ih]
  | quotes k rest stops ih =>
    have half : (2 * ((k + 1 + 1) / 2) + 1) / 2 = (k + 1 + 1) / 2 := by omega
    rw [pairQuotes_quotes _ stops, collapseQuotes_quotes _ (head?_pairQuotes_ne stops),
      halvedQuotes_quotes _ stops, half, ih]

/-- **Literals are written by the plain rule** unless a quote follows a backslash. -/
theorem escapeQuoted_eq_pairQuotes (cs : List Char) {state : QuoteState}
    (noEscape : ¬ ['\\', '\''] <:+: cs) (start : state = .plain ∨ cs.head? ≠ some '\'') :
    escapeQuoted '\'' state cs = pairQuotes cs := by
  induction cs using quoteRuns_induction generalizing state with
  | nil =>
    rw [escapeQuoted_nil]
    rfl
  | other c rest noQuote ih =>
    rw [List.infix_cons_iff, not_or] at noEscape
    have next : QuoteState.behind c = .plain ∨ rest.head? ≠ some '\'' := by
      by_cases isBackslash : c = '\\'
      · refine Or.inr fun isQuote => noEscape.1 ?_
        obtain ⟨rest', rfl⟩ := List.head?_eq_some_iff.mp isQuote
        exact ⟨rest', by rw [isBackslash]; rfl⟩
      · exact Or.inl (if_neg isBackslash)
    rw [escapeQuoted_cons noQuote, pairQuotes_cons noQuote, ih noEscape.2 next]
  | quotes k rest stops ih =>
    have plain : state = .plain := start.resolve_right fun noQuote => noQuote rfl
    have below : ¬ ['\\', '\''] <:+: rest := fun pair =>
      noEscape (pair.trans (List.suffix_append _ rest).isInfix)
    rw [plain, escapeQuoted_plain_quotes _ stops, pairQuotes_quotes _ stops,
      ih below (Or.inl rfl)]

/-! ## The value of a literal -/

/-- The value of a text between quotes is what stands between them, collapsed. -/
theorem Field.literalValue_quoted (inner : List Char) :
    literalValue (String.ofList ('\'' :: (inner ++ ['\'']))) =
      String.ofList (collapseQuotes inner) := by
  simp [literalValue]

/-- A comparison other than an inequality has the clause of its value, in both modes. -/
theorem compileCompare_eq_ok {op : CompareOp} (compares : op ≠ .ne) (strictness : Strictness)
    (field literal : String) :
    compileCompare strictness op field literal =
      .ok (op.valueClause field (Field.literalValue literal)) := by
  cases op with
  | ne => exact absurd rfl compares
  | eq | gt | ge | lt | le => rfl

namespace Sql

/-- **The value of a string literal.** A literal that is written out and read as a value comes
out with half the quotes of every run, rounded up, and everything else as it was. This holds of
literals as they are written, and of the plain rule, which is how they are written unless a
quote follows a backslash. So a value comes through unchanged exactly if no two quotes stand
next to each other in it. The clause of a comparison of a field with the literal, other than an
inequality, has the same value. -/
theorem string_literals_halve_quotes (value : String) :
    Field.literalValue (Value.text value).render = String.ofList (halvedQuotes value.toList) ∧
    Field.literalValue (String.ofList ('\'' :: (pairQuotes value.toList ++ ['\'']))) =
      String.ofList (halvedQuotes value.toList) ∧
    (¬ ['\\', '\''] <:+: value.toList →
      (Value.text value).render =
        String.ofList ('\'' :: (pairQuotes value.toList ++ ['\'']))) ∧
    (Field.literalValue (Value.text value).render = value ↔ ¬ ['\'', '\''] <:+: value.toList) ∧
    ∀ (left : Expr) (op : CompareOp)
    (strictness : Strictness), left.isSubquery = false → op ≠ .ne →
      (Expr.binary left (.compare op) (.value (.text value))).toCondition.compile strictness =
        .ok (op.valueClause left.fieldPath (String.ofList (halvedQuotes value.toList))) := by
  have written : Field.literalValue (Value.text value).render =
      String.ofList (halvedQuotes value.toList) := by
    rw [Value.render, quoteWith, Field.literalValue_quoted,
      collapseQuotes_escapeQuoted _ (by decide)]
  refine ⟨written, ?_, fun noEscape => ?_, ?_, fun left op strictness noQuery compares => ?_⟩
  · rw [Field.literalValue_quoted, collapseQuotes_pairQuotes]
  · rw [Value.render, quoteWith, escapeQuoted_eq_pairQuotes _ noEscape (Or.inl rfl)]
  · rw [written, ← halvedQuotes_eq_self_iff, ← String.toList_inj, String.toList_ofList]
  · have plain : ¬ (left.isSubquery || (Expr.value (.text value)).isSubquery) = true := by
      rw [noQuery]
      exact Bool.false_ne_true
    rw [Expr.toCondition, if_neg plain, Condition.compile, compileCompare_eq_ok compares,
      Expr.render, written]

/-- Runs of two, of one and of three quotes come out with one, with one and with two. -/
theorem string_literals_halve_quotes_runs :
    (Value.text "''it's '''").render = "'''it''s '''''" ∧
      ¬ ['\\', '\''] <:+: "''it's '''".toList ∧
      Field.literalValue "'''it''s '''''" = "'it's ''" ∧
      (Expr.binary (.column { name := { value := "a" } }) (.compare .le)
          (.value (.text "''it's '''"))).toCondition.compile .strict =
        .ok (.range "a" .lte "'it's ''") := by
  obtain ⟨read, -, rule, -, clause⟩ := string_literals_halve_quotes "''it's '''"
  have halved : String.ofList (halvedQuotes "''it's '''".toList) = "'it's ''" := by
    decide +kernel
  have noEscape : ¬ ['\\', '\''] <:+: "''it's '''".toList := by decide +kernel
  have written : (Value.text "''it's '''").render = "'''it''s '''''" := by
    rw [rule noEscape]
    decide +kernel
  rw [halved, written] at read
  have compiled := clause (.column { name := { value := "a" } }) .le .strict rfl (by decide)
  rw [halved] at compiled
  exact ⟨written, noEscape, read, compiled⟩

end Sql

end SqlSearch
