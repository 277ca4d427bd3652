import Mathlib.Data.Nat.Digits.Defs
import SqlSearch.Proofs.ColumnReference
import SqlSearch.Proofs.Json.Reader
import SqlSearch.Proofs.NumberToken

/-!
# Counts of rows

`LIMIT` and `OFFSET` say how many rows to return and to pass over.  A count has to be a literal
of digits only, and its value has to fit into 64 bits; then it reaches the document unchanged,
and the text of the document shows the digits that were written, without zeros in front.  Any
other count makes the query fail, whether or not the document would have a page.

## Main definitions

* `decimalValue`: the value of digits
* `withoutLeadingZeros`: the digits that are printed
* `Expr.CountsAs`: the expression is a count, and of how many rows
* `Expr.countText`: the text that a count is reported by
* `Query.counts`: the counts of a query, in the order in which they are read

## Main statements

* `toDigits_decimalValue`: digits are printed without zeros in front
* `Expr.toCount_eq_ok_iff`, `Expr.toCount_eq_error_iff`: which expressions are counts
* `Query.invalidCount_iff`: which queries are refused for a count
* `Query.row_counts_are_exact`: counts from the tokens of a text to the text of a document
-/

namespace SqlSearch

namespace Sql

/-! ## Digits and their value -/

/-- **The value of digits**, by place: the last digit counts once, and each digit ten times as
much as the next. -/
def decimalValue (digits : List Char) : Nat :=
  Nat.ofDigits 10 (digits.reverse.map fun c => c.toNat - '0'.toNat)

/-- **The digits without zeros in front**; of nothing but zeros one is left. -/
def withoutLeadingZeros (digits : List Char) : List Char :=
  if digits.dropWhile (· == '0') = [] then ['0'] else digits.dropWhile (· == '0')

theorem decimalValue_concat (front : List Char) (c : Char) :
    decimalValue (front ++ [c]) = 10 * decimalValue front + (c.toNat - '0'.toNat) := by
  rw [decimalValue, List.reverse_concat, List.map_cons, Nat.ofDigits_cons, Nat.add_comm]
  rfl

/-- The value can be computed from the front. -/
theorem foldl_eq_decimalValue (digits : List Char) :
    digits.foldl (fun n c => 10 * n + (c.toNat - 48)) 0 = decimalValue digits := by
  induction digits using List.reverseRecOn with
  | nil => rfl
  | append_singleton front c ih =>
    rw [List.foldl_concat, ih, decimalValue_concat]
    rfl

theorem decimalValue_dropWhile_zero (digits : List Char) :
    decimalValue (digits.dropWhile (· == '0')) = decimalValue digits := by
  induction digits with
  | nil => rfl
  | cons c rest ih =>
    by_cases zero : c = '0'
    · rw [List.dropWhile_cons_of_pos (by simpa using zero), ih, zero, ← foldl_eq_decimalValue,
        ← foldl_eq_decimalValue]
      rfl
    · rw [List.dropWhile_cons_of_neg (by simpa using zero)]

section Digit

variable {c : Char} (digit : c.isDigit = true)
include digit

theorem digit_bounds : '0'.toNat ≤ c.toNat ∧ c.toNat < '0'.toNat + 10 := by
  have bounds : 48 ≤ c.toNat ∧ c.toNat ≤ 57 := by
    simpa [Char.isDigit, UInt32.le_iff_toNat_le] using digit
  exact ⟨bounds.1, Nat.lt_succ_of_le bounds.2⟩

theorem digit_lt_ten : c.toNat - '0'.toNat < 10 := by
  have bounds := digit_bounds digit
  omega

theorem toDigits_digit : Nat.toDigits 10 (c.toNat - '0'.toNat) = [c] := by
  have same : Nat.digitChar (c.toNat - '0'.toNat) = c := by
    rw [← Char.toNat_inj, Nat.toNat_digitChar_of_lt_ten (digit_lt_ten digit)]
    exact Nat.add_sub_of_le (digit_bounds digit).1
  rw [Nat.toDigits_of_lt_base (digit_lt_ten digit), same]

end Digit

/-- Digits that do not start with a zero are printed as they are. -/
theorem toDigits_of_head?_ne_zero {digits : List Char}
    (decimal : ∀ c ∈ digits, c.isDigit = true) (nonEmpty : digits ≠ [])
    (noZero : digits.head? ≠ some '0') : Nat.toDigits 10 (decimalValue digits) = digits := by
  induction digits using List.reverseRecOn with
  | nil => exact absurd rfl nonEmpty
  | append_singleton front c ih =>
    have isDigit : c.isDigit = true := decimal c (by simp)
    have last := toDigits_digit isDigit
    rw [decimalValue_concat]
    by_cases alone : front = []
    · subst alone
      rw [show decimalValue [] = 0 from rfl, Nat.mul_zero, Nat.zero_add]
      exact last
    · have printed : Nat.toDigits 10 (decimalValue front) = front := by
        refine ih (fun d member => decimal d (by simp [member])) alone ?_
        rwa [List.head?_append_of_ne_nil _ alone] at noZero
      have positive : 0 < decimalValue front := by
        rw [Nat.pos_iff_ne_zero]
        intro zero
        rw [zero, Nat.toDigits_zero] at printed
        rw [← printed] at noZero
        exact noZero rfl
      rw [← Nat.toDigits_append_toDigits (by decide) positive (digit_lt_ten isDigit), printed,
        last]

/-- **Digits are printed without zeros in front.** -/
theorem toDigits_decimalValue {digits : List Char} (decimal : ∀ c ∈ digits, c.isDigit = true) :
    Nat.toDigits 10 (decimalValue digits) = withoutLeadingZeros digits := by
  rw [withoutLeadingZeros, ← decimalValue_dropWhile_zero]
  split
  · next zeros =>
    rw [zeros]
    exact Nat.toDigits_zero 10
  · next others =>
    refine toDigits_of_head?_ne_zero (fun c member =>
      decimal c ((List.dropWhile_sublist _).subset member)) others ?_
    intro zero
    have kept := List.head?_dropWhile_not (· == '0') digits
    rw [zero] at kept
    cases kept

/-! ## Which expressions are counts -/

theorem Parser.count?_eq_some_iff (digits : String) (n : Nat) :
    Parser.count? digits = some n ↔
      digits ≠ "" ∧ (∀ c ∈ digits.toList, c.isDigit = true) ∧
        decimalValue digits.toList < 2 ^ 64 ∧
        decimalValue digits.toList = n := by
  have bound : Parser.countBound = 2 ^ 64 := rfl
  rw [Parser.count?, foldl_eq_decimalValue, bound]
  simp only [Bool.and_eq_true, List.all_eq_true, Bool.not_eq_true',
    String.isEmpty_eq_false_iff, Option.ite_none_right_eq_some, Option.some.injEq]
  constructor
  · rintro ⟨⟨decimal, nonEmpty⟩, small, value⟩
    exact ⟨nonEmpty, decimal, small, value⟩
  · rintro ⟨nonEmpty, decimal, small, value⟩
    exact ⟨⟨decimal, nonEmpty⟩, small, value⟩

namespace Expr

/-- **The expression is a count** of so many rows: a literal of digits only, the value of which
fits into 64 bits. -/
inductive CountsAs : Expr → Nat → Prop
  | digits {digits : String} (long : Bool) :
    digits ≠ "" → (∀ c ∈ digits.toList, c.isDigit = true) →
    decimalValue digits.toList < 2 ^ 64 →
      CountsAs (.value (.number digits long)) (decimalValue digits.toList)

/-- **The text that a count is reported by**: of a number its digits, and otherwise the written
form. -/
def countText : Expr → String
  | .value (.number digits _) => digits
  | e => e.render

theorem countsAs_number_iff (digits : String) (long : Bool) (n : Nat) :
    (Expr.value (.number digits long)).CountsAs n ↔
      digits ≠ "" ∧ (∀ c ∈ digits.toList, c.isDigit = true) ∧
        decimalValue digits.toList < 2 ^ 64 ∧
        decimalValue digits.toList = n := by
  constructor
  · rintro ⟨_, nonEmpty, decimal, small⟩
    exact ⟨nonEmpty, decimal, small, rfl⟩
  · rintro ⟨nonEmpty, decimal, small, rfl⟩
    exact .digits long nonEmpty decimal small

theorem toCount_eq_ok_iff (e : Expr) (n : Nat) : e.toCount = .ok n ↔ e.CountsAs n := by
  constructor
  · intro counted
    revert counted
    fun_cases toCount e with
    | case1 digits long value read =>
      rintro ⟨⟩
      exact (countsAs_number_iff digits long n).mpr
        ((Parser.count?_eq_some_iff digits n).mp read)
    | case2 | case3 => nofun
  · rintro ⟨long, nonEmpty, decimal, small⟩
    rw [toCount, (Parser.count?_eq_some_iff _ _).mpr ⟨nonEmpty, decimal, small, rfl⟩]

theorem eq_invalidCount_of_toCount {e : Expr} {error : ReadError}
    (refused : e.toCount = .error error) :
    error = .invalidCount e.countText := by
  revert refused
  fun_cases toCount e with
  | case1 => nofun
  | case2 digits long unread =>
    rintro ⟨⟩
    rfl
  | case3 e noNumber =>
    rintro ⟨⟩
    rw [countText]
    exact noNumber

/-- What is no count is refused, and reported by its text. -/
theorem toCount_eq_error_iff (e : Expr) (error : ReadError) :
    e.toCount = .error error ↔ (¬ ∃ n, e.CountsAs n) ∧ error = .invalidCount e.countText := by
  simp only [← toCount_eq_ok_iff]
  cases outcome : e.toCount with
  | ok n => simp
  | error other =>
    rw [eq_invalidCount_of_toCount outcome]
    simp [eq_comm]

/-- The error of an expression that is no count. -/
def countFault? (e : Expr) : Option ReadError :=
  match e.toCount with
  | .ok _ => none
  | .error error => some error

theorem countFault?_eq_some_iff (e : Expr) (error : ReadError) :
    e.countFault? = some error ↔ (¬ ∃ n, e.CountsAs n) ∧
      .invalidCount e.countText = error := by
  have refused := e.toCount_eq_error_iff error
  rw [eq_comm (b := ReadError.invalidCount _)] at refused
  rw [← refused, countFault?]
  cases e.toCount <;> simp

theorem toCount_reports (e : Expr) : Reports e.toCount e.countFault?.toList := by
  intro error
  rw [countFault?]
  cases e.toCount <;> simp

theorem mapM_toCount_reports (count : Option Expr) :
    Reports (count.mapM toCount) (count.toList.filterMap countFault?) := by
  cases count with
  | none => exact reports_ok none
  | some e =>
    rw [Option.mapM_some, map_eq_pure_bind, List.filterMap_eq_flatMap_toList,
      Option.toList_some, List.flatMap_singleton]
    exact e.toCount_reports.map some

/-- A clause that is there and is accepted is a count. -/
theorem countsAs_of_mapM {e : Expr} {count : Option Nat}
    (counted : (some e).mapM toCount = .ok count) :
    ∃ n, count = some n ∧ e.CountsAs n := by
  rw [Option.mapM_some, map_eq_pure_bind] at counted
  obtain ⟨n, value, same⟩ := bind_eq_ok_iff.mp counted
  cases same
  exact ⟨n, rfl, (e.toCount_eq_ok_iff n).mp value⟩

/-- A count is printed as it was written, without zeros in front. -/
theorem CountsAs.numChars_eq {e : Expr} {n : Nat} (counts : e.CountsAs n) :
    Json.numChars n = withoutLeadingZeros e.countText.toList := by
  obtain ⟨long, nonEmpty, decimal, small⟩ := counts
  exact toDigits_decimalValue decimal

end Expr

/-! ## Counts of a query -/

/-- **Where the page stands** in the text of a document. -/
theorem toList_render_compact (document : Document) :
    ∃ rest, Json.Ends rest ∧
      (document.render .compact).toList =
        "\x7b\"query\":".toList ++ document.query.toJson.compactChars ++ ",\"from\":".toList ++
          Json.numChars document.start ++ ",\"size\":".toList ++ Json.numChars document.size ++
            rest := by
  refine ⟨Json.compactFields (Document.aggregationField document.aggregations ++
    Document.sortField document.sort), ?_, ?_⟩
  · cases Document.aggregationField document.aggregations ++
      Document.sortField document.sort with
    | nil => exact Json.ends_cons _ (by decide)
    | cons field others => exact Json.ends_cons _ (by decide)
  · rw [Document.render, Json.compact, String.toList_ofList, Document.toJson]
    simp [Json.compactChars, Json.compactFields, Json.quoteChars, Json.escapeChar]

namespace Query

/-- **The counts of a query**, in the order in which they are read: that of `LIMIT` and that of
`OFFSET`. -/
def counts (q : Query) : List Expr := q.limit.toList ++ (q.offset.map Prod.fst).toList

section Plain

variable {q : Query} {s : Select} (common : q.common = none) (body : q.body = .select s)
include common body

/-- Of a `SELECT`, first the counts are checked and then the grouping, and nothing else. -/
theorem toStatement_reports :
    ∃ others, (∀ error ∈ others, error = .groupByAll) ∧
      Reports q.toStatement (q.counts.filterMap Expr.countFault? ++ others) := by
  have offset : (q.offset.mapM fun o => o.1.toCount) =
      (q.offset.map Prod.fst).mapM Expr.toCount := by
    cases q.offset <;> rfl
  have grouping : ∃ others, (∀ error ∈ others, error = .groupByAll) ∧
      Reports s.groupBy.toPaths others := by
    cases s.groupBy with
    | all modifiers => exact ⟨[.groupByAll], by simp, reports_error _ []⟩
    | exprs list modifiers => exact ⟨[], by simp, reports_ok _⟩
  obtain ⟨others, only, grouping⟩ := grouping
  refine ⟨others, only, ?_⟩
  rw [toStatement, common, body, counts, List.filterMap_append, List.append_assoc]
  dsimp only
  rw [offset]
  exact (Expr.mapM_toCount_reports q.limit).bind fun limit _ =>
    (Expr.mapM_toCount_reports (q.offset.map Prod.fst)).bind fun offset _ => grouping.map _

/-- **Which queries are refused for a count**: those with a count that is none, whatever they
select. The first one is reported. -/
theorem invalidCount_iff (text : String) :
    q.toStatement = .error (.invalidCount text) ↔
      ∃ e, FirstOf (fun e => ¬ ∃ n, e.CountsAs n) q.counts e ∧ e.countText = text := by
  obtain ⟨others, only, reports⟩ := toStatement_reports common body
  have first : (q.counts.filterMap Expr.countFault?).head? = some (.invalidCount text) ↔ _ :=
    head?_filterMap_eq_some_iff (fun e _ => e.countFault?_eq_some_iff) _
  simp only [ReadError.invalidCount.injEq] at first
  rw [reports, ← first]
  cases q.counts.filterMap Expr.countFault? with
  | cons fault faults => rfl
  | nil =>
    -- What is left is the error about the grouping.
    refine iff_of_false (fun grouping => ?_) (by simp)
    cases only _ (List.mem_of_mem_head? grouping)

end Plain

/-- The text of the count of `OFFSET`, empty where there is none. -/
def offsetText (q : Query) : String := q.offset.elim "" fun o => o.1.countText

/-- The number of rows to pass over is printed as it was written, and as a zero where none
was. -/
theorem numChars_offset {q : Query} {offset : Option Nat}
    (counted : (q.offset.mapM fun o => o.1.toCount) = .ok offset) :
    Json.numChars (offset.getD 0) = withoutLeadingZeros q.offsetText.toList := by
  rw [offsetText]
  cases given : q.offset with
  | none =>
    rw [given] at counted
    cases counted
    rfl
  | some o =>
    rw [given] at counted
    obtain ⟨n, rfl, counts⟩ := Expr.countsAs_of_mapM (e := o.1) counted
    exact counts.numChars_eq

/-- **The page of a query** in its document, where nothing is aggregated. -/
theorem numChars_page {q : Query} {select : SqlSearch.Select} {strictness : Strictness}
    {document : Document} {limit : Expr} (reduced : q.toStatement = .ok (.select select))
    (compiled : select.compile strictness = .ok document)
    (plain : document.isAggregation = false) (given : q.limit = some limit) :
    Json.numChars document.start = withoutLeadingZeros q.offsetText.toList ∧
      Json.numChars document.size = withoutLeadingZeros limit.countText.toList := by
  obtain ⟨query, -, ⟨-, tree, -, rfl⟩ | ⟨-, rfl⟩⟩ := Select.compile_eq_ok_iff.mp compiled
  · cases plain
  obtain ⟨s, count, offset, groupBy, -, -, limited, passed, -, rfl⟩ :=
    exists_select_of_toStatement reduced
  rw [given] at limited
  obtain ⟨n, rfl, counts⟩ := Expr.countsAs_of_mapM limited
  rw [Select.page_of_limit rfl]
  exact ⟨numChars_offset passed, counts.numChars_eq⟩

/-- **Counts are exact up to 64 bits.**

* A number among the tokens of a text has no sign. It is a count exactly if it has digits only
  and its value fits into 64 bits, and then it counts as that value.
* An expression that is no such number is no count, and it is reported by its text.
* A plain `SELECT` is refused for the first count of it that is none, even if it asks for
  aggregations.
* Every document without aggregations, in either mode, shows the digits of `LIMIT` and `OFFSET`
  as they were written, without zeros in front. -/
theorem row_counts_are_exact (q : Query) :
    (∀ d text tokens digits long, tokenize d text = some tokens →
      .literal (.number digits long) ∈ tokens →
      NumberText digits.toList ∧
        ∀ n, (Expr.value (.number digits long)).toCount = .ok n ↔
          (∀ c ∈ digits.toList, c.isDigit = true) ∧ decimalValue digits.toList < 2 ^ 64 ∧
            decimalValue digits.toList = n) ∧
    (∀ (e : Expr) n, e.toCount = .ok n ↔ e.CountsAs n) ∧
    (∀ (e : Expr) error, e.toCount = .error error ↔
      (¬ ∃ n, e.CountsAs n) ∧ error = .invalidCount e.countText) ∧
    (∀ s, q.common = none → q.body = .select s → ∀ text,
      q.toStatement = .error (.invalidCount text) ↔
        ∃ e, FirstOf (fun e => ¬ ∃ n, e.CountsAs n) q.counts e ∧ e.countText = text) ∧
    (∀ statement strictness document limit, q.toStatement = .ok statement →
      statement.compile strictness = .ok document → document.isAggregation = false →
        q.limit = some limit →
        ∃ rest, Json.Ends rest ∧
          (document.render .compact).toList =
            "\x7b\"query\":".toList ++ document.query.toJson.compactChars ++
              ",\"from\":".toList ++
              withoutLeadingZeros q.offsetText.toList ++ ",\"size\":".toList ++
                withoutLeadingZeros limit.countText.toList ++ rest) := by
  refine ⟨fun d text tokens digits long read member => ?_, Expr.toCount_eq_ok_iff,
    Expr.toCount_eq_error_iff, fun s common body => invalidCount_iff common body,
    fun statement strictness document limit reduced compiled plain given => ?_⟩
  · have number := numberText_of_mem_tokenize read member
    refine ⟨number, fun n => ?_⟩
    rw [Expr.toCount_eq_ok_iff, Expr.countsAs_number_iff]
    exact and_iff_right number.ne_empty
  · obtain ⟨select, rfl, built⟩ := Statement.exists_select_of_compile compiled
    obtain ⟨start, size⟩ := numChars_page reduced built plain given
    rw [← start, ← size]
    exact toList_render_compact document

/-- `SELECT a FROM t LIMIT 0018446744073709551615 OFFSET 00` -/
def paddedCounts : Query :=
  { body := .select
      { items := [.expr (.column { name := { value := "a" } }) none]
        tables :=
          [{ relation := { kind := .table { name := { value := "t" } }, body := "t" } }] }
    limit := some (.value (.number "0018446744073709551615" false))
    offset := some (.value (.number "00" false), "") }

/-- `SELECT a FROM t GROUP BY a LIMIT 18446744073709551616 OFFSET -1` -/
def largeCount : Query :=
  { body := .select
      { items := [.expr (.column { name := { value := "a" } }) none]
        tables :=
          [{ relation := { kind := .table { name := { value := "t" } }, body := "t" } }]
        groupBy := .exprs [.column { name := { value := "a" } }] "" }
    limit := some (.value (.number "18446744073709551616" false))
    offset := some (.unary .minus (.value (.number "1" false)), "") }

/-- The largest count is printed without the zeros in front of it. One more is refused, though
the query groups its rows, and so is a number with a fraction. -/
theorem row_counts_are_exact_padded :
    paddedCounts.render = "SELECT a FROM t LIMIT 0018446744073709551615 OFFSET 00" ∧
      largeCount.render = "SELECT a FROM t GROUP BY a LIMIT 18446744073709551616 OFFSET -1" ∧
      (∃ statement document rest, paddedCounts.toStatement = .ok statement ∧
        statement.compile .strict = .ok document ∧ Json.Ends rest ∧
        (document.render .compact).toList =
          ("\x7b\"query\":\x7b\"match_all\":\x7b\x7d\x7d," ++
            "\"from\":0,\"size\":18446744073709551615").toList ++ rest) ∧
      largeCount.toStatement = .error (.invalidCount "18446744073709551616") ∧
      tokenize .generic "1.5E+3".toList = some [.literal (.number "1.5E+3" false)] ∧
        NumberText "1.5E+3".toList ∧
      (Expr.value (.number "1.5E+3" false)).toCount = .error (.invalidCount "1.5E+3") := by
  have read : tokenize .generic "1.5E+3".toList =
      some [.literal (.number "1.5E+3" false)] := by decide +kernel
  refine ⟨by decide +kernel, by decide +kernel, ?_, ?_, read, ?_, ?_⟩
  · obtain ⟨rest, ends, text⟩ :=
      (row_counts_are_exact paddedCounts).2.2.2.2 _ .strict _ _ rfl rfl rfl rfl
    exact ⟨_, _, rest, rfl, rfl, ends, text.trans (congrArg (· ++ rest) (by decide +kernel))⟩
  · rw [(row_counts_are_exact largeCount).2.2.2.1 _ rfl rfl]
    refine ⟨_, ⟨[], _, rfl, ?_, nofun⟩, rfl⟩
    rintro ⟨n, large⟩
    cases large with
    | digits _ _ _ small => exact absurd small (by decide +kernel)
  · exact ((row_counts_are_exact largeCount).1 _ _ _ _ _ read List.mem_cons_self).1
  · refine ((row_counts_are_exact largeCount).2.2.1 _ _).mpr ⟨?_, rfl⟩
    rintro ⟨n, fraction⟩
    cases fraction with
    | digits _ _ decimal _ => exact absurd (decimal '.' (by decide +kernel)) (by decide)

end Query

end Sql

end SqlSearch
