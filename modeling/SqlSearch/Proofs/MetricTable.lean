import Mathlib.Data.List.Basic
import Mathlib.Data.List.Induction
import SqlSearch.Proofs.Metrics

/-!
# The table of metrics

Two items of a select list may give their metrics one name.  The later metric then takes the
place of the earlier one, so a table has the *positions* of first occurrences and the *values*
of last ones, and the items that add nothing may stand anywhere between.

Every statement about a table relates it to the part of the select list that has been read so
far.  It is checked for a single step of the loop, the next item of the list, and
`foldl_addMetric_induction` carries it to the whole list.

## Main definitions

* `SelectItem.CallsUsable`: the item calls an aggregate that has something to work on
* `usableItems`: the items of a select list that add a metric, in order

## Main statements

* `SelectItem.isSome_metric?_iff`: the items that add a metric are the usable ones
* `foldl_addMetric_induction`: what every step keeps holds of the table of a select list
* `names_foldl_addMetric`: the names of a table are in the order of their first occurrences
* `get?_foldl_addMetric`: the value of a name is its last one
* `exists_item_of_mem_foldl_addMetric`: every entry of a table comes from an item
* `extractMetrics_first_place_last_value`: the table of a select list, in both modes
-/

namespace SqlSearch

/-! ## Usable items -/

namespace SelectItem

/-- The item calls an aggregate that has something to work on. -/
def CallsUsable (item : SelectItem) : Prop :=
  ∃ call ∈ item.call?, IsAggregateName call.name ∧ call.Usable

instance : DecidablePred CallsUsable := fun item =>
  inferInstanceAs (Decidable (∃ call ∈ item.call?, IsAggregateName call.name ∧ call.Usable))

/-- The items that have a metric are the usable ones. -/
theorem isSome_metric?_iff (item : SelectItem) :
    item.metric?.isSome = true ↔ item.CallsUsable := by
  rw [metric?, CallsUsable]
  cases item.call? with
  | none => simp
  | some call =>
    cases known : MetricKind.ofFunction? call.name call.distinct with
    | none =>
      have unknown : ¬ IsAggregateName call.name :=
        (MetricKind.ofFunction?_eq_none_iff _ _).mp known
      simp [known, unknown]
    | some kind =>
      have aggregate : IsAggregateName call.name := by
        by_contra unknown
        rw [(MetricKind.ofFunction?_eq_none_iff _ call.distinct).mpr unknown] at known
        cases known
      have usable : (call.metric? kind).isSome = true ↔ call.Usable := by
        rw [← Option.ne_none_iff_isSome, ne_eq, FunctionCall.metric?_eq_none_iff known,
          Decidable.not_not]
      simp [known, aggregate, usable]

end SelectItem

/-- The items of a select list that add a metric, in order. -/
def usableItems (items : List SelectItem) : List SelectItem :=
  items.filter fun item => item.CallsUsable

theorem usableItems_concat_of_some {items : List SelectItem} {item : SelectItem}
    {metric : Aggregation} (found : item.metric? = some metric) :
    usableItems (items ++ [item]) = usableItems items ++ [item] := by
  have usable : item.CallsUsable := by
    rw [← SelectItem.isSome_metric?_iff, found]
    rfl
  rw [usableItems, List.filter_append]
  simp [usableItems, usable]

theorem usableItems_concat_of_none {items : List SelectItem} {item : SelectItem}
    (absent : item.metric? = none) : usableItems (items ++ [item]) = usableItems items := by
  have unusable : ¬ item.CallsUsable := by
    rw [← SelectItem.isSome_metric?_iff, absent]
    exact Bool.false_ne_true
  rw [usableItems, List.filter_append]
  simp [usableItems, unusable]

/-! ## The table after a prefix of the select list -/

/-- **The rule of the loop.** What holds of the empty table, and is kept both by an item
without a metric and by an item that gives its name its metric, holds of the table of every
select list. -/
theorem foldl_addMetric_induction {motive : List SelectItem → Aggregations → Prop}
    (start : motive [] [])
    (skip : ∀ (items : List SelectItem) (table : Aggregations) (item : SelectItem),
      item.metric? = none → motive items table → motive (items ++ [item]) table)
    (add : ∀ (items : List SelectItem) (table : Aggregations) (item : SelectItem)
    (metric : Aggregation),
      item.metric? = some metric → motive items table →
      motive (items ++ [item]) (table.insert item.metricName metric))
    (items : List SelectItem) : motive items (items.foldl SelectItem.addMetric []) := by
  induction items using List.reverseRecOn with
  | nil => exact start
  | append_singleton items item ih =>
    rw [List.foldl_concat, SelectItem.addMetric]
    cases found : item.metric? with
    | none => exact skip items _ item found ih
    | some metric => exact add items _ item metric found ih

/-- A name that comes last is new, or it has its place already. -/
theorem eraseDups_concat (names : List String) (name : String) :
    (names ++ [name]).eraseDups =
      if name ∈ names then names.eraseDups else names.eraseDups ++ [name] := by
  rw [List.eraseDups_append]
  by_cases given : name ∈ names <;> simp [List.removeAll, given, List.eraseDups_cons]

/-- **The names of a table** are those of the usable items, in the order of their first
occurrences. -/
theorem names_foldl_addMetric (items : List SelectItem) :
    Entries.names (items.foldl SelectItem.addMetric []) =
      ((usableItems items).map SelectItem.metricName).eraseDups := by
  refine foldl_addMetric_induction (motive := fun items table =>
    Entries.names table =
      ((usableItems items).map SelectItem.metricName).eraseDups) rfl ?_ ?_ items
  · intro items table item absent sameNames
    rw [usableItems_concat_of_none absent, sameNames]
  · intro items table item metric found sameNames
    -- Both sides ask whether the name was given before: the table its names, the list its
    -- items.
    rw [usableItems_concat_of_some found, Entries.names_insert, sameNames, List.map_append,
      List.map_singleton, eraseDups_concat]
    simp only [List.mem_eraseDups]

/-- **The value of a name** is the metric of the last usable item of that name. -/
theorem get?_foldl_addMetric (items : List SelectItem) (name : String) :
    Entries.get? name (items.foldl SelectItem.addMetric []) =
      ((usableItems items).filter fun item => item.metricName = name).getLast?.bind
        SelectItem.metric? := by
  refine foldl_addMetric_induction (motive := fun items table =>
    Entries.get? name table =
      ((usableItems items).filter fun item => item.metricName = name).getLast?.bind
        SelectItem.metric?)
    rfl ?_ ?_ items
  · intro items table item absent sameValue
    rw [usableItems_concat_of_none absent, sameValue]
  · intro items table item metric found sameValue
    rw [usableItems_concat_of_some found, Entries.get?_insert, List.filter_append]
    by_cases named : item.metricName = name
    · -- The new item is the last one of its name.
      simp [named, found]
    · have other : ¬ name = item.metricName := fun same => named same.symm
      simp [named, other, sameValue]

/-- What an insertion leaves in a table is the new entry or was there before. -/
theorem Entries.eq_or_mem_of_mem_insert {α : Type} {name : String} {value : α}
    {entries : Entries α} {entry : String × α} (member : entry ∈ entries.insert name value) :
    entry = (name, value) ∨ entry ∈ entries := by
  induction entries with
  | nil => exact Or.inl (List.mem_singleton.mp member)
  | cons first rest ih =>
    rw [insert] at member
    split at member
    · rcases List.mem_cons.mp member with new | old
      · exact Or.inl new
      · exact Or.inr (List.mem_cons_of_mem _ old)
    · rcases List.mem_cons.mp member with same | later
      · exact Or.inr (List.mem_cons.mpr (Or.inl same))
      · exact (ih later).imp_right (List.mem_cons_of_mem _)

/-- Every entry of a table holds the metric of an item. -/
theorem exists_item_of_mem_foldl_addMetric {items : List SelectItem}
    {entry : String × Aggregation} (member : entry ∈ items.foldl SelectItem.addMetric []) :
    ∃ item ∈ items, item.metric? = some entry.2 := by
  revert member
  refine foldl_addMetric_induction (motive := fun items table =>
    entry ∈ table → ∃ item ∈ items, item.metric? = some entry.2) nofun ?_ ?_ items
  · intro items table item _ fromItem member
    obtain ⟨earlier, among, holds⟩ := fromItem member
    exact ⟨earlier, List.mem_append_left _ among, holds⟩
  · intro items table item metric found fromItem member
    rcases Entries.eq_or_mem_of_mem_insert member with rfl | old
    · exact ⟨item, List.mem_append_right _ (List.mem_singleton_self item), found⟩
    · obtain ⟨earlier, among, holds⟩ := fromItem old
      exact ⟨earlier, List.mem_append_left _ among, holds⟩

/-! ## The table of a select list -/

/-- Whatever the mode, a table holds what the items of the list have added one after the
other. -/
theorem eq_foldl_of_extractMetrics {strictness : Strictness} {items : List SelectItem}
    {table : Aggregations} (returned : extractMetrics strictness items = .ok table) :
    table = items.foldl SelectItem.addMetric [] :=
  eq_foldl_of_collectMetrics returned

/-- Strict mode returns the table if every call of an aggregate is usable. -/
theorem extractMetrics_strict_of_usable {items : List SelectItem}
    (usable : ∀ item ∈ items, ¬ item.CallsUnusable) :
    extractMetrics .strict items = .ok (items.foldl SelectItem.addMetric []) := by
  have noFault : functionFaults SelectItem.CallsUnusable items = [] :=
    functionFaults_eq_nil_iff.mpr usable
  obtain ⟨table, returned⟩ :=
    (collectMetrics_reports .strict [] items).exists_ok_iff.mpr noFault
  rw [extractMetrics, returned, eq_foldl_of_collectMetrics returned]

/-- Strict mode refuses the first call of an aggregate that is not usable. -/
theorem extractMetrics_strict_of_find? {items : List SelectItem} {item : SelectItem}
    (first : items.find? (fun candidate => candidate.CallsUnusable) = some item) :
    extractMetrics .strict items = .error (.function item.text) := by
  refine (collectMetrics_reports .strict [] items (.function item.text)).mpr ?_
  rw [Strictness.enforce_strict, functionFaults, List.head?_map, List.head?_filter, first]
  rfl

/-- **The table of a select list.** In permissive mode there always is one. Its names are those
of the usable items, each at the place of its first occurrence and with the metric of the last
item of that name. Strict mode returns the same table if every call of an aggregate is usable,
and refuses the first one that is not. -/
theorem extractMetrics_first_place_last_value (projection : List SelectItem) :
    ∃ table, extractMetrics .permissive projection = .ok table ∧
      Entries.names table = ((usableItems projection).map SelectItem.metricName).eraseDups ∧
      (∀ name, Entries.get? name table =
        ((usableItems projection).filter fun item => item.metricName = name).getLast?.bind
          SelectItem.metric?) ∧
      ((∀ item ∈ projection, ¬ item.CallsUnusable) →
        extractMetrics .strict projection = .ok table) ∧
      (∀ item, projection.find? (fun candidate => candidate.CallsUnusable) = some item →
        extractMetrics .strict projection = .error (.function item.text)) := by
  refine ⟨projection.foldl SelectItem.addMetric [], collectMetrics_permissive [] projection,
    ?_, ?_, ?_, ?_⟩
  · exact names_foldl_addMetric projection
  · exact get?_foldl_addMetric projection
  · exact extractMetrics_strict_of_usable
  · intro item first
    exact extractMetrics_strict_of_find? first

/-- `COUNT(*) AS n, city, SUM(pay) AS total, SUM(*), MAX(age) AS n`: the last metric stands at
the first place. -/
example :
    extractMetrics .permissive
        [{ expr := .call { name := "COUNT", args := [.wildcard] }, as? := some "n" },
          { expr := .column "city" },
          { expr := .call { name := "SUM", args := [.column "pay"] }, as? := some "total" },
          { expr := .call { name := "SUM", args := [.wildcard] } },
          { expr := .call { name := "MAX", args := [.column "age"] }, as? := some "n" }] =
      .ok [("n", .metric .max "age"), ("total", .metric .sum "pay")] := rfl

end SqlSearch
