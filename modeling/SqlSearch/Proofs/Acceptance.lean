import SqlSearch.Compile.Statement
import SqlSearch.Proofs.Filter
import SqlSearch.Proofs.Metrics

/-!
# Which statements have a document

A statement is checked in several places: its kind and its source first, then nested queries,
in strict mode also the functions of its select list, the leaves of its condition and, where a
tree of aggregations is built, the operands of its calls.  Several checks may fail at once.
`Statement.faults` lists all that is wrong with a statement, whatever the code would stop at,
in the order of the checks, and the code is shown to report the head of that list.

## Main definitions

* `Statement.faults`: all that is wrong with a statement, in order
* `Select.ReadsTable`, `Select.SubqueryFree`, `Select.CallsAggregates`, `Select.Translatable`,
  `Select.CallsUsable`: what a `SELECT` has to satisfy

## Main statements

* `Statement.compile_reports`: the error of a statement is the first of its faults
* `Statement.compile_refines`: a document of strict mode is the document of permissive mode
* `Statement.faults_permissive_eq_nil_iff`, `Statement.faults_strict_eq_nil_iff`: what it takes
  to be without faults

## Design

The last check runs only if a tree of aggregations is built.  No case distinction is needed for
that in `Statement.faults`: without a tree there is no call that could be unusable
(`unusable_eq_nil_of_plain`).
-/

namespace SqlSearch

/-! ## Faults -/

/-- What is wrong with a source. -/
def Source.faults : Source → List CompileError
  | .table _ => []
  | .joined text => [.joins text]
  | .derived text => [.derivedSource text]
  | .missing => [.missingSource]

namespace Select

/-- The texts of the nested queries: the one on record, then those of the condition from left
to right. -/
def subqueries (select : Select) : List String :=
  select.subquery.toList ++
    select.condition.toList.flatMap (Condition.leafTexts Condition.subqueryText?)

/-- The texts of the leaves of the condition that no clause stands for, from left to right. -/
def untranslated (select : Select) : List String :=
  select.condition.toList.flatMap (Condition.leafTexts Condition.textWithoutClause?)

/-- What is wrong with a `SELECT` in both modes. -/
def commonFaults (select : Select) : List CompileError :=
  select.source.faults ++ select.subqueries.map .subquery

/-- What is wrong with a `SELECT` in strict mode only: names of functions, predicates,
operands. -/
def strictFaults (select : Select) : List CompileError :=
  functionFaults SelectItem.CallsUnknown select.projection ++
    (select.untranslated.map .predicate ++
      functionFaults SelectItem.CallsUnusable select.projection)

end Select

/-- **All that is wrong with a statement**, in the order statement kind, source, nested
queries, names of functions, predicates, operands. -/
def Statement.faults (strictness : Strictness) : Statement → List CompileError
  | .select query => query.commonFaults ++ strictness.enforce query.strictFaults
  | .change kind _ => [.change kind]
  | .compound text => [.compound text]
  | .other text => [.otherStatement text]

/-! ## The code reports the first fault -/

theorem Source.tableName_reports (source : Source) :
    Reports source.tableName source.faults := by
  cases source with
  | table name => exact reports_ok name
  | joined text | derived text => exact reports_error _ _
  | missing => exact reports_error _ _

namespace Select

/-- The nested query that a `SELECT` is refused for is the first there is. -/
theorem subquery?_eq (select : Select) : select.subquery? = select.subqueries.head? := by
  rw [subquery?, subqueries, List.head?_append, Option.orElse_apply, Option.orElse_eq_or]
  cases select.subquery with
  | some text => rfl
  | none =>
    cases select.condition with
    | none => rfl
    | some condition => simp [condition.findSubquery?_eq]

end Select

/-- The function that a select list is refused for is the first that is no aggregate. -/
theorem firstUnknownFunction?_eq (items : List SelectItem) :
    (firstUnknownFunction? items).map CompileError.function =
      (functionFaults SelectItem.CallsUnknown items).head? := by
  induction items with
  | nil => rfl
  | cons item rest ih =>
    rw [firstUnknownFunction?]
    cases asks : item.expr with
    | wildcard | column path | other text =>
      have passed : ¬ item.CallsUnknown := by
        simp [SelectItem.CallsUnknown, SelectItem.call?, asks]
      rw [functionFaults_cons_of_sound passed]
      exact ih
    | call call =>
      by_cases aggregate : IsAggregateName call.name
      · have known : (MetricKind.ofFunction? call.name call.distinct).isNone = false := by
          rw [← Bool.not_eq_true, Option.isNone_iff_eq_none,
            MetricKind.ofFunction?_eq_none_iff]
          exact not_not_intro aggregate
        have passed : ¬ item.CallsUnknown := by
          simp [SelectItem.CallsUnknown, SelectItem.call?, asks, aggregate]
        rw [functionFaults_cons_of_sound passed]
        simpa [known] using ih
      · have unknown : (MetricKind.ofFunction? call.name call.distinct).isNone = true := by
          rw [Option.isNone_iff_eq_none, MetricKind.ofFunction?_eq_none_iff]
          exact aggregate
        have refused : item.CallsUnknown := by
          simp [SelectItem.CallsUnknown, SelectItem.call?, asks, aggregate]
        rw [functionFaults_cons_of_faulty refused]
        simp [unknown]

namespace Select

/-- The checks report what is wrong in both modes and, in strict mode, the functions that are
no aggregates. -/
theorem check_reports (strictness : Strictness) (select : Select) :
    Reports (select.check strictness)
      (select.commonFaults ++
        strictness.enforce (functionFaults SelectItem.CallsUnknown select.projection)) := by
  rw [check, commonFaults, List.append_assoc]
  -- The table name itself is not used further on; only that there is one.
  refine select.source.tableName_reports.bind fun name _ => ?_
  rw [select.subquery?_eq]
  cases select.subqueries with
  | cons text others => exact reports_error _ _
  | nil =>
    cases strictness with
    | permissive => exact reports_ok _
    | strict =>
      have first := firstUnknownFunction?_eq select.projection
      cases found : firstUnknownFunction? select.projection with
      | none =>
        rw [found, Option.map_none, eq_comm, List.head?_eq_none_iff] at first
        rw [first]
        exact reports_ok _
      | some text =>
        rw [found, Option.map_some, eq_comm, List.head?_eq_some_iff] at first
        obtain ⟨others, first⟩ := first
        rw [first]
        exact reports_error _ _

/-- Past the checks, strict mode reports leaves of the condition and then operands. -/
theorem compile_reports (strictness : Strictness) (select : Select) :
    Reports (select.compile strictness)
      (strictness.enforce (select.untranslated.map .predicate) ++
        strictness.enforce (functionFaults SelectItem.CallsUnusable select.projection)) := by
  rw [compile]
  refine (compileFilter_reports strictness select.condition).bind fun query _ => ?_
  cases aggregated : needsAggregation select with
  | true =>
    have tree := buildAggregations_reports strictness select.projection select.groupBy
    exact tree.map fun aggregations => (⟨query, 0, 0, some aggregations, []⟩ : Document)
  | false =>
    rw [unusable_eq_nil_of_plain aggregated, Strictness.enforce_nil]
    exact reports_ok _

end Select

/-- **The error of a statement is the first of its faults.** -/
theorem Statement.compile_reports (strictness : Strictness) (statement : Statement) :
    Reports (statement.compile strictness) (statement.faults strictness) := by
  cases statement with
  | select query =>
    -- The faults of the checks and of what follows are two lists; strict mode has a part in
    -- each.
    have checks := query.check_reports strictness
    have passed := query.compile_reports strictness
    have sequence := (checks.map fun _ => query).bind fun select returned => by
      obtain ⟨-, -, same⟩ := bind_eq_ok_iff.mp returned
      cases same
      exact passed
    rwa [List.append_assoc, ← Strictness.enforce_append,
      ← Strictness.enforce_append] at sequence
  | change kind table => exact reports_error _ _
  | compound text | other text => exact reports_error _ _

/-! ## Both modes give one document -/

theorem Select.check_refines (select : Select) :
    Refines (select.check .strict) (select.check .permissive) := by
  intro _ returned
  -- The outcome carries no data, so it is enough that permissive mode has nothing to report.
  have strictFaultless := (select.check_reports .strict).exists_ok_iff.mp ⟨_, returned⟩
  have faultless : select.commonFaults = [] := (List.append_eq_nil_iff.mp strictFaultless).1
  obtain ⟨_, passed⟩ :=
    (select.check_reports .permissive).exists_ok_iff.mpr (by simp [faultless])
  exact passed

theorem Select.compile_refines (select : Select) :
    Refines (select.compile .strict) (select.compile .permissive) := by
  rw [compile, compile]
  refine (compileFilter_refines select.condition).bind fun query => ?_
  split
  · exact (buildAggregations_refines select.projection select.groupBy).bind fun aggregations =>
      Refines.refl _
  · exact Refines.refl _

/-- A document of strict mode is the document of permissive mode. -/
theorem Statement.compile_refines (statement : Statement) :
    Refines (statement.compile .strict) (statement.compile .permissive) := by
  rw [compile, compile]
  refine Refines.bind ?_ Select.compile_refines
  cases statement with
  | select query => exact query.check_refines.bind fun _ => Refines.refl _
  | change kind table => exact Refines.refl _
  | compound text | other text => exact Refines.refl _

/-! ## What it takes to be without faults -/

namespace Select

/-- A single table is read. -/
def ReadsTable (select : Select) : Prop := ∃ name, select.source = .table name

/-- No nested query is on record and none is a leaf of the condition. -/
def SubqueryFree (select : Select) : Prop :=
  select.subquery = none ∧
    ∀ condition ∈ select.condition, ∀ text, Condition.subquery text ∉ condition.leaves

/-- Every function of the select list is an aggregate. -/
def CallsAggregates (select : Select) : Prop :=
  ∀ item ∈ select.projection, ∀ call, item.expr = .call call → IsAggregateName call.name

/-- No leaf of the condition is an inequality or a condition of another kind. -/
def Translatable (select : Select) : Prop :=
  ∀ condition ∈ select.condition, ∀ leaf ∈ condition.leaves,
    (∀ field literal, leaf ≠ .compare .ne field literal) ∧ ∀ text, leaf ≠ .other text

/-- Every call of the select list has something to work on. -/
def CallsUsable (select : Select) : Prop :=
  ∀ item ∈ select.projection, ∀ call, item.expr = .call call → call.Usable

end Select

theorem SelectItem.call?_eq_some_iff {item : SelectItem} {call : FunctionCall} :
    item.call? = some call ↔ item.expr = .call call := by
  rw [call?]
  cases item.expr <;> simp

theorem Source.faults_eq_nil_iff (source : Source) :
    source.faults = [] ↔ ∃ name, source = .table name := by
  cases source <;> simp [faults]

theorem unknown_eq_nil_iff (select : Select) :
    functionFaults SelectItem.CallsUnknown select.projection = [] ↔
      select.CallsAggregates := by
  simp only [functionFaults_eq_nil_iff, SelectItem.CallsUnknown, Option.mem_def,
    SelectItem.call?_eq_some_iff, not_exists, not_and, Decidable.not_not,
    Select.CallsAggregates]

/-- Where every function is an aggregate, no item is unusable if every call has something to
work on. -/
theorem unusable_eq_nil_iff {select : Select} (aggregates : select.CallsAggregates) :
    functionFaults SelectItem.CallsUnusable select.projection = [] ↔ select.CallsUsable := by
  simp only [functionFaults_eq_nil_iff, SelectItem.CallsUnusable, Option.mem_def,
    SelectItem.call?_eq_some_iff, not_exists, not_and, Decidable.not_not, Select.CallsUsable]
  constructor
  · intro usable item member call asks
    exact usable item member call asks (aggregates item member call asks)
  · intro usable item member call asks _
    exact usable item member call asks

namespace Condition

theorem leafTexts_subqueryText?_eq_nil_iff (condition : Condition) :
    condition.leafTexts subqueryText? = [] ↔
      ∀ text, Condition.subquery text ∉ condition.leaves := by
  rw [leafTexts, List.filterMap_eq_nil_iff]
  constructor
  · intro none text member
    exact absurd (none _ member) (by simp [subqueryText?])
  · intro none leaf member
    cases leaf with
    | subquery text => exact absurd member (none text)
    | and left right | or left right => rfl
    | group inner => rfl
    | compare op field literal => rfl
    | other text => rfl

/-- A leaf has a clause unless it is a nested query, an inequality or a condition of another
kind. -/
theorem textWithoutClause?_eq_none_iff (leaf : Condition) :
    leaf.textWithoutClause? = none ↔
      (∀ text, leaf ≠ .subquery text) ∧
        (∀ field literal, leaf ≠ .compare .ne field literal) ∧ ∀ text, leaf ≠ .other text := by
  cases leaf with
  | compare op field literal => cases op <;> simp [textWithoutClause?]
  | and left right | or left right => simp [textWithoutClause?]
  | group inner => simp [textWithoutClause?]
  | subquery text | other text => simp [textWithoutClause?]

end Condition

namespace Select

theorem subqueries_eq_nil_iff (select : Select) :
    select.subqueries = [] ↔ select.SubqueryFree := by
  rw [subqueries, SubqueryFree, List.append_eq_nil_iff, Option.toList_eq_nil_iff,
    List.flatMap_eq_nil_iff]
  simp only [Option.mem_toList, Option.mem_def, Condition.leafTexts_subqueryText?_eq_nil_iff]

/-- Where there is no nested query, every leaf has a clause if none is an inequality or a
condition of another kind. -/
theorem untranslated_eq_nil_iff {select : Select} (free : select.SubqueryFree) :
    select.untranslated = [] ↔ select.Translatable := by
  rw [untranslated, Translatable, List.flatMap_eq_nil_iff]
  simp only [Option.mem_toList, Condition.leafTexts, List.filterMap_eq_nil_iff,
    Condition.textWithoutClause?_eq_none_iff]
  constructor
  · intro translated condition present leaf member
    exact (translated condition present leaf member).2
  · intro translated condition present leaf member
    refine ⟨?_, translated condition present leaf member⟩
    rintro text rfl
    exact free.2 condition present text member

theorem commonFaults_eq_nil_iff (select : Select) :
    select.commonFaults = [] ↔ select.ReadsTable ∧ select.SubqueryFree := by
  rw [commonFaults, List.append_eq_nil_iff, List.map_eq_nil_iff, Source.faults_eq_nil_iff,
    subqueries_eq_nil_iff, ReadsTable]

theorem strictFaults_eq_nil_iff {select : Select} (free : select.SubqueryFree) :
    select.strictFaults = [] ↔
      select.CallsAggregates ∧ select.Translatable ∧ select.CallsUsable := by
  rw [strictFaults, List.append_eq_nil_iff, List.append_eq_nil_iff, List.map_eq_nil_iff,
    unknown_eq_nil_iff, untranslated_eq_nil_iff free]
  constructor
  · rintro ⟨aggregates, translatable, usable⟩
    exact ⟨aggregates, translatable, (unusable_eq_nil_iff aggregates).mp usable⟩
  · rintro ⟨aggregates, translatable, usable⟩
    exact ⟨aggregates, translatable, (unusable_eq_nil_iff aggregates).mpr usable⟩

/-- The faults of strict mode are predicates and functions. -/
theorem mem_strictFaults {select : Select} {error : CompileError}
    (member : error ∈ select.strictFaults) :
    ∃ text, error = .predicate text ∨ error = .function text := by
  rw [strictFaults, List.mem_append, List.mem_append, functionFaults, functionFaults,
    List.mem_map, List.mem_map, List.mem_map] at member
  rcases member with ⟨item, -, rfl⟩ | ⟨text, -, rfl⟩ | ⟨item, -, rfl⟩
  · exact ⟨item.text, Or.inr rfl⟩
  · exact ⟨text, Or.inl rfl⟩
  · exact ⟨item.text, Or.inr rfl⟩

end Select

namespace Statement

theorem faults_permissive_eq_nil_iff (statement : Statement) :
    statement.faults .permissive = [] ↔
      ∃ query, statement = .select query ∧ query.ReadsTable ∧ query.SubqueryFree := by
  cases statement with
  | select query => simp [faults, query.commonFaults_eq_nil_iff]
  | change kind table => simp [faults]
  | compound text | other text => simp [faults]

theorem faults_strict_eq_nil_iff (statement : Statement) :
    statement.faults .strict = [] ↔
      ∃ query, statement = .select query ∧ query.ReadsTable ∧ query.SubqueryFree ∧
        query.CallsAggregates ∧ query.Translatable ∧ query.CallsUsable := by
  cases statement with
  | select query =>
    rw [faults, List.append_eq_nil_iff, query.commonFaults_eq_nil_iff,
      Strictness.enforce_strict]
    constructor
    · rintro ⟨⟨table, free⟩, rest⟩
      exact ⟨query, rfl, table, free, (Select.strictFaults_eq_nil_iff free).mp rest⟩
    · rintro ⟨_, same, table, free, rest⟩
      cases same
      exact ⟨⟨table, free⟩, (Select.strictFaults_eq_nil_iff free).mpr rest⟩
  | change kind table => simp [faults]
  | compound text | other text => simp [faults]

/-- Strict mode looks for more faults, and only after those that both modes look for. -/
theorem faults_strict_eq (statement : Statement) :
    ∃ others, statement.faults .strict = statement.faults .permissive ++ others ∧
      ∀ error ∈ others, ∃ text, error = .predicate text ∨ error = .function text := by
  cases statement with
  | select query =>
    refine ⟨query.strictFaults, ?_, fun error member => Select.mem_strictFaults member⟩
    rw [faults, faults, Strictness.enforce_permissive, List.append_nil,
      Strictness.enforce_strict]
  | change kind table => exact ⟨[], rfl, by simp⟩
  | compound text | other text => exact ⟨[], rfl, by simp⟩

/-! ## The two modes compared, and what each accepts -/

/-- **Strict mode refines permissive mode.** A document of strict mode is the document of
permissive mode, an error of permissive mode is the error of strict mode, and where only strict
mode refuses a statement it is for a predicate or a function. -/
theorem strict_refines_permissive (statement : Statement) :
    (∀ document, statement.compile .strict = .ok document →
      statement.compile .permissive = .ok document) ∧
    (∀ error, statement.compile .permissive = .error error →
      statement.compile .strict = .error error) ∧
    (∀ error document, statement.compile .strict = .error error →
      statement.compile .permissive = .ok document →
      ∃ text, error = .predicate text ∨ error = .function text) := by
  obtain ⟨others, more, strictOnly⟩ := statement.faults_strict_eq
  have strict := statement.compile_reports .strict
  have permissive := statement.compile_reports .permissive
  refine ⟨statement.compile_refines, ?_, ?_⟩
  · intro error refused
    have first := (permissive error).mp refused
    rw [strict error, more, List.head?_append, first]
    rfl
  · intro error document refused accepted
    have faultless := permissive.exists_ok_iff.mp ⟨document, accepted⟩
    have first := (strict error).mp refused
    rw [more, faultless, List.nil_append] at first
    exact strictOnly error (List.mem_of_head? first)

/-- A statement with an unknown function and an inequality: permissive mode passes over
both. -/
def unknownFunctionAndInequality : Statement :=
  .select
    { projection := [{ expr := .call { name := "UPPER", args := [.column "name"] } }]
      source := .table "staff"
      condition := some (.or (.compare .ne "city" "'Rome'") (.compare .ge "age" "18")) }

/-- Of the function and the inequality, strict mode reports the function. -/
theorem strict_refines_permissive_unknown :
    unknownFunctionAndInequality.compile .strict = .error (.function "UPPER(name)") ∧
      unknownFunctionAndInequality.compile .permissive =
        .ok ⟨.anyOf [.matchAll, .range "age" .gte "18"], 0, 1, none, []⟩ ∧
      ∃ text, CompileError.function "UPPER(name)" = .predicate text ∨
        CompileError.function "UPPER(name)" = .function text :=
  ⟨rfl, rfl, (strict_refines_permissive unknownFunctionAndInequality).2.2 _ _ rfl rfl⟩

/-- **What is accepted, and what is reported.** Permissive mode accepts exactly the `SELECT`s
of one table without nested queries; strict mode asks in addition that all functions are
aggregates, that all leaves of the condition have clauses, and that all calls have something to
work on. A statement that is not accepted is refused for the first of its faults. -/
theorem compile_accepts_or_reports (statement : Statement) :
    ((∃ document, statement.compile .permissive = .ok document) ↔
      ∃ query, statement = .select query ∧ query.ReadsTable ∧ query.SubqueryFree) ∧
    ((∃ document, statement.compile .strict = .ok document) ↔
      ∃ query, statement = .select query ∧ query.ReadsTable ∧ query.SubqueryFree ∧
        query.CallsAggregates ∧ query.Translatable ∧ query.CallsUsable) ∧
    ∀ strictness error, statement.compile strictness = .error error ↔
      (statement.faults strictness).head? = some error := by
  refine ⟨?_, ?_, fun strictness => statement.compile_reports strictness⟩
  · rw [(statement.compile_reports .permissive).exists_ok_iff, faults_permissive_eq_nil_iff]
  · rw [(statement.compile_reports .strict).exists_ok_iff, faults_strict_eq_nil_iff]

end Statement

end SqlSearch
