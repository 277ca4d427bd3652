import SqlSearch.Document.Basic
import SqlSearch.Proofs.Json.Grammar
import SqlSearch.Proofs.Json.KeyOrder
import SqlSearch.Proofs.Json.Reader

/-!
# Documents and their texts

The text of a document determines the document.  A decoder goes the way back, from the text to
the JSON value it stands for and from there to clauses, aggregations and sort keys.  What the
text leaves out, the decoder fills in: aggregations that are absent, an empty sort list and the
aggregations of a bucket that has none.

Objects repeat no key as long as no table of aggregations repeats a name.  All other keys are
fixed, or stand alone.

## Main definitions

* `Clause.ofJson?`, `Aggregation.ofJson?`, `Document.ofJson?`, `Document.ofText?`: the decoders
* `Document.tables`, `Document.DistinctNames`: the tables of aggregations of a document, and
  that none of them repeats a name

## Main statements

* `Document.ofJson?_toJson`: the decoder returns the document
* `Document.distinctKeys_toJson`: the written form repeats no key
* `Document.compact_decodes`: the compact text is JSON, repeats no key and determines the
  document
* `Document.sorted_agrees`: the document with sorted keys holds what the compact text holds
-/

namespace SqlSearch

/-! ## Clauses -/

/-- The bound with a key. -/
def RangeOp.ofKey? : String → Option RangeOp
  | "gt" => some .gt
  | "gte" => some .gte
  | "lt" => some .lt
  | "lte" => some .lte
  | _ => none

@[simp] theorem RangeOp.ofKey?_key (op : RangeOp) : ofKey? op.key = some op := by
  cases op <;> rfl

namespace Clause

/-- **Induction on parts.** -/
@[induction_eliminator]
theorem induction {motive : Clause → Prop} (matchAll : motive .matchAll)
    (term : ∀ field value, motive (.term field value))
    (range : ∀ field op value, motive (.range field op value))
    (must : ∀ clauses, (∀ clause ∈ clauses, motive clause) → motive (.must clauses))
    (should : ∀ clauses minimum, (∀ clause ∈ clauses, motive clause) →
      motive (.should clauses minimum))
    (clause : Clause) : motive clause := by
  refine @Clause.rec motive (fun clauses => ∀ clause ∈ clauses, motive clause) matchAll term
    range must should ?_ ?_ clause
  · exact List.forall_mem_nil _
  · exact fun clause clauses first others => List.forall_mem_cons.mpr ⟨first, others⟩

theorem listToJson_eq_map (clauses : List Clause) :
    listToJson clauses = clauses.map toJson := by
  induction clauses with
  | nil => rfl
  | cons clause rest ih => rw [listToJson, ih, List.map_cons]

mutual

/-- **The clause with a written form.** -/
def ofJson? : Json → Option Clause
  | .obj [("match_all", .obj [])] => some .matchAll
  | .obj [("term", .obj [(field, .str value)])] => some (.term field value)
  | .obj [("range", .obj [(field, .obj [(key, .str value)])])] =>
    (RangeOp.ofKey? key).map (.range field · value)
  | .obj [("bool", .obj [("must", .arr items)])] => (listOfJson? items).map .must
  | .obj [("bool", .obj [("should", .arr items), ("minimum_should_match", .num minimum)])] =>
    (listOfJson? items).map (.should · minimum)
  | _ => none

/-- The clauses with given written forms. -/
def listOfJson? : List Json → Option (List Clause)
  | [] => some []
  | item :: rest => (ofJson? item).bind fun clause => (listOfJson? rest).map (clause :: ·)

end

theorem listOfJson?_map {clauses : List Clause}
    (each : ∀ clause ∈ clauses, ofJson? clause.toJson = some clause) :
    listOfJson? (clauses.map toJson) = some clauses := by
  induction clauses with
  | nil => rw [List.map_nil, listOfJson?]
  | cons clause rest ih =>
    rw [List.forall_mem_cons] at each
    rw [List.map_cons, listOfJson?, each.1, ih each.2]
    rfl

/-- The decoder returns the clause. -/
theorem ofJson?_toJson (clause : Clause) : ofJson? clause.toJson = some clause := by
  induction clause with
  | matchAll => rfl
  | term field value => rfl
  | range field op value =>
    rw [toJson, Json.single, Json.single, Json.single, ofJson?, RangeOp.ofKey?_key]
    rfl
  | must clauses ih =>
    rw [toJson, listToJson_eq_map, Json.single, Json.single, ofJson?, listOfJson?_map ih]
    rfl
  | should clauses minimum ih =>
    rw [toJson, listToJson_eq_map, Json.single, ofJson?, listOfJson?_map ih]
    rfl

/-- The written form of a clause repeats no key. -/
theorem distinctKeys_toJson (clause : Clause) : clause.toJson.DistinctKeys := by
  induction clause with
  | matchAll => simp [toJson]
  | term field value => simp [toJson]
  | range field op value => simp [toJson]
  | must clauses ih => simpa [toJson, listToJson_eq_map] using ih
  | should clauses minimum ih => simpa [toJson, listToJson_eq_map] using ih

end Clause

/-! ## Aggregations -/

/-- The metric with a key. -/
def MetricKind.ofKey? : String → Option MetricKind
  | "value_count" => some .count
  | "cardinality" => some .distinctCount
  | "sum" => some .sum
  | "avg" => some .avg
  | "min" => some .min
  | "max" => some .max
  | _ => none

namespace Aggregation

/-- **Induction on the aggregations inside.** -/
@[induction_eliminator]
theorem induction {motive : Aggregation → Prop}
    (metric : ∀ kind field, motive (.metric kind field))
    (terms : ∀ field inner, (∀ entry ∈ inner, motive entry.2) → motive (.terms field inner))
    (aggregation : Aggregation) : motive aggregation := by
  refine @Aggregation.rec motive (fun entries => ∀ entry ∈ entries, motive entry.2)
    (fun entry => motive entry.2) metric terms ?_ ?_ ?_ aggregation
  · exact List.forall_mem_nil _
  · exact fun entry entries first others => List.forall_mem_cons.mpr ⟨first, others⟩
  · exact fun name aggregation holds => holds

/-- A named aggregation, written. -/
def entryToJson (entry : String × Aggregation) : String × Json := (entry.1, entry.2.toJson)

theorem entriesToJson_eq_map (entries : List (String × Aggregation)) :
    entriesToJson entries = entries.map entryToJson := by
  induction entries with
  | nil => rfl
  | cons entry rest ih => rw [entriesToJson, ih, List.map_cons, entryToJson]

mutual

/-- **The aggregation with a written form.** -/
def ofJson? : Json → Option Aggregation
  | .obj [("terms", .obj [("field", .str field)])] => some (.terms field [])
  | .obj [("terms", .obj [("field", .str field)]), ("aggregations", .obj entries)] =>
    (entriesOfJson? entries).map (.terms field)
  | .obj [(key, .obj [("field", .str field)])] => (MetricKind.ofKey? key).map (.metric · field)
  | _ => none

/-- The named aggregations with given written forms. -/
def entriesOfJson? : List (String × Json) → Option (List (String × Aggregation))
  | [] => some []
  | (name, value) :: rest =>
    (ofJson? value).bind fun aggregation =>
      (entriesOfJson? rest).map ((name, aggregation) :: ·)

end

theorem entriesOfJson?_map {entries : List (String × Aggregation)}
    (each : ∀ entry ∈ entries, ofJson? entry.2.toJson = some entry.2) :
    entriesOfJson? (entries.map entryToJson) = some entries := by
  induction entries with
  | nil => rw [List.map_nil, entriesOfJson?]
  | cons entry rest ih =>
    rw [List.forall_mem_cons] at each
    rw [List.map_cons, entryToJson, entriesOfJson?, each.1, ih each.2]
    rfl

/-- The decoder returns the aggregation. -/
theorem ofJson?_toJson (aggregation : Aggregation) :
    ofJson? aggregation.toJson = some aggregation := by
  induction aggregation with
  | metric kind field =>
    -- No metric has the key of a bucket.
    cases kind <;> rfl
  | terms field inner ih =>
    cases inner with
    | nil => rfl
    | cons entry rest =>
      rw [toJson, entriesToJson_eq_map, Json.single, ofJson?, entriesOfJson?_map ih]
      rfl

mutual

/-- The tables of aggregations inside an aggregation, at every level. -/
def tables : Aggregation → List Aggregations
  | .metric _ _ => []
  | .terms _ inner => inner :: entryTables inner

/-- The tables inside the aggregations of a table. -/
def entryTables : List (String × Aggregation) → List Aggregations
  | [] => []
  | (_, aggregation) :: rest => aggregation.tables ++ entryTables rest

end

theorem forall_mem_entryTables_iff {p : Aggregations → Prop}
    {entries : List (String × Aggregation)} :
    (∀ table ∈ entryTables entries, p table) ↔
      ∀ entry ∈ entries, ∀ table ∈ entry.2.tables, p table := by
  induction entries with
  | nil => simp [entryTables]
  | cons entry rest ih => rw [entryTables, List.forall_mem_append, ih, List.forall_mem_cons]

end Aggregation

/-- The written form of a table repeats no key if neither its names nor the keys of its
aggregations do. -/
theorem Aggregations.distinctKeys_toJson {table : Aggregations}
    (names : (Entries.names table).Nodup)
    (each : ∀ entry ∈ table, entry.2.toJson.DistinctKeys) : table.toJson.DistinctKeys := by
  have keys : (table.map Aggregation.entryToJson).map Prod.fst = Entries.names table :=
    List.map_map
  rw [Aggregations.toJson, Aggregation.entriesToJson_eq_map, Json.distinctKeys_obj, keys]
  exact ⟨names, List.forall_mem_map.mpr each⟩

/-- The written form of an aggregation repeats no key if no table inside repeats a name. -/
theorem Aggregation.distinctKeys_toJson {aggregation : Aggregation}
    (distinct : ∀ table ∈ aggregation.tables, (Entries.names table).Nodup) :
    aggregation.toJson.DistinctKeys := by
  induction aggregation with
  | metric kind field => simp [toJson]
  | terms field inner ih =>
    rw [tables, List.forall_mem_cons, forall_mem_entryTables_iff] at distinct
    have table : (Aggregations.toJson inner).DistinctKeys :=
      Aggregations.distinctKeys_toJson distinct.1 fun entry member =>
        ih entry member (distinct.2 entry member)
    cases inner with
    | nil => simp [toJson]
    | cons entry rest =>
      rw [Aggregations.toJson] at table
      rw [toJson, Json.distinctKeys_obj]
      simpa using table

/-! ## Documents -/

/-- The direction with a word. -/
def SortOrder.ofKey? : String → Option SortOrder
  | "asc" => some .asc
  | "desc" => some .desc
  | _ => none

namespace Document

/-- The sort key with a written form. -/
def directiveOfJson? : Json → Option SortDirective
  | .obj [(field, .str word)] => (SortOrder.ofKey? word).map (SortDirective.mk field)
  | _ => none

/-- The aggregations in front of other fields, with these fields. -/
def takeAggregations? :
    List (String × Json) → Option (Option Aggregations × List (String × Json))
  | ("aggregations", .obj entries) :: rest =>
    (Aggregation.entriesOfJson? entries).map fun table => (some table, rest)
  | rest => some (none, rest)

/-- The sort keys of the last fields. -/
def sortOfFields? : List (String × Json) → Option (List SortDirective)
  | [] => some []
  | [("sort", .arr items)] => items.mapM directiveOfJson?
  | _ => none

/-- **The document with a written form.** -/
def ofJson? : Json → Option Document
  | .obj (("query", query) :: ("from", .num start) :: ("size", .num size) :: rest) =>
    (Clause.ofJson? query).bind fun clause =>
      (takeAggregations? rest).bind fun front =>
        (sortOfFields? front.2).map (Document.mk clause start size front.1)
  | _ => none

/-- **The document with a text.** -/
def ofText? (text : String) : Option Document := (Json.ofText? text).bind ofJson?

theorem directiveOfJson?_sortToJson (directive : SortDirective) :
    directiveOfJson? (sortToJson directive) = some directive := by
  obtain ⟨field, order⟩ := directive
  cases order <;> rfl

theorem takeAggregations?_aggregationField (aggregations : Option Aggregations)
    (sort : List SortDirective) :
    takeAggregations? (aggregationField aggregations ++ sortField sort) =
      some (aggregations, sortField sort) := by
  cases aggregations with
  | none =>
    -- What comes first then is the field of the sort keys, which has another key, or nothing.
    cases sort with
    | nil => rfl
    | cons directive rest => rfl
  | some table =>
    have read :=
      Aggregation.entriesOfJson?_map fun entry (_ : entry ∈ table) => entry.2.ofJson?_toJson
    rw [aggregationField, Aggregations.toJson, Aggregation.entriesToJson_eq_map,
      List.cons_append, List.nil_append, takeAggregations?, read]
    rfl

theorem mapM_directiveOfJson? (sort : List SortDirective) :
    (sort.map sortToJson).mapM directiveOfJson? = some sort := by
  induction sort with
  | nil => rfl
  | cons directive rest ih => simp [directiveOfJson?_sortToJson, ih]

theorem sortOfFields?_sortField (sort : List SortDirective) :
    sortOfFields? (sortField sort) = some sort := by
  cases sort with
  | nil => rfl
  | cons directive rest => exact mapM_directiveOfJson? (directive :: rest)

/-- **The decoder returns the document.** -/
theorem ofJson?_toJson (doc : Document) : ofJson? doc.toJson = some doc := by
  rw [toJson, List.append_assoc, List.cons_append, List.cons_append, List.cons_append,
    List.nil_append, ofJson?, Clause.ofJson?_toJson, takeAggregations?_aggregationField,
    Option.bind_some, Option.bind_some, sortOfFields?_sortField, Option.map_some]

/-- So does the decoder of texts. -/
theorem ofText?_compact (doc : Document) : ofText? (doc.render .compact) = some doc := by
  rw [ofText?, render, Json.ofText?_compact, Option.bind_some, ofJson?_toJson]

/-! ### Names -/

/-- The tables of aggregations of a document, at every level. -/
def tables (doc : Document) : List Aggregations :=
  doc.aggregations.elim [] fun table => table :: Aggregation.entryTables table

/-- **No table of aggregations repeats a name.** -/
def DistinctNames (doc : Document) : Prop := ∀ table ∈ doc.tables, (Entries.names table).Nodup

instance : DecidablePred DistinctNames := fun doc =>
  inferInstanceAs (Decidable (∀ table ∈ doc.tables, (Entries.names table).Nodup))

theorem nodup_keys_toJson (aggregations : Option Aggregations) (sort : List SortDirective) :
    (["query", "from", "size"] ++ (aggregationField aggregations).map Prod.fst ++
      (sortField sort).map Prod.fst).Nodup := by
  cases aggregations <;> cases sort <;> simp [aggregationField, sortField]

theorem distinctKeys_of_mem_aggregationField {doc : Document} (distinct : doc.DistinctNames) :
    ∀ field ∈ aggregationField doc.aggregations, field.2.DistinctKeys := by
  rw [DistinctNames, tables] at distinct
  cases aggregations : doc.aggregations with
  | none => exact List.forall_mem_nil _
  | some table =>
    rw [aggregations, Option.elim_some, List.forall_mem_cons,
      Aggregation.forall_mem_entryTables_iff] at distinct
    rw [aggregationField, List.forall_mem_singleton]
    exact Aggregations.distinctKeys_toJson distinct.1 fun entry member =>
      Aggregation.distinctKeys_toJson (distinct.2 entry member)

theorem distinctKeys_of_mem_sortField (sort : List SortDirective) :
    ∀ field ∈ sortField sort, field.2.DistinctKeys := by
  cases sort with
  | nil => exact List.forall_mem_nil _
  | cons directive rest => simp [sortField, sortToJson]

/-- **The written form repeats no key** if no table repeats a name. -/
theorem distinctKeys_toJson {doc : Document} (distinct : doc.DistinctNames) :
    doc.toJson.DistinctKeys := by
  rw [toJson, Json.distinctKeys_obj]
  refine ⟨?_, ?_⟩
  · rw [List.map_append, List.map_append]
    exact nodup_keys_toJson doc.aggregations doc.sort
  · rw [List.forall_mem_append, List.forall_mem_append]
    refine ⟨⟨?_, distinctKeys_of_mem_aggregationField distinct⟩,
      distinctKeys_of_mem_sortField doc.sort⟩
    simp [Clause.distinctKeys_toJson]

/-! ### Texts -/

/-- **The compact text loses nothing.** It is JSON, and none of its objects repeats a key if no
table of aggregations repeats a name.  The decoder returns exactly the document, the order of
aggregations included; so no other document has the same text. -/
theorem compact_decodes (doc : Document) :
    Json.IsText (doc.render .compact).toList ∧
    (doc.DistinctNames → ∃ json, Json.ofText? (doc.render .compact) = some json ∧
      json.DistinctKeys) ∧
    ofText? (doc.render .compact) = some doc ∧
    ∀ other : Document, other.render .compact = doc.render .compact → other = doc := by
  refine ⟨?_, fun distinct => ?_, doc.ofText?_compact, fun other same => ?_⟩
  · rw [render, Json.compact, String.toList_ofList]
    exact doc.toJson.isText_compactChars
  · exact ⟨doc.toJson, doc.toJson.ofText?_compact, distinctKeys_toJson distinct⟩
  · have decoded := other.ofText?_compact
    rw [same, doc.ofText?_compact] at decoded
    exact (Option.some.inj decoded).symm

/-- Empty combinations, keys and values with quotes, backslashes and control characters, a
bucket without aggregations, and names out of order. -/
def awkward : Document where
  query := .must
    [.should [] 0, .must [], .term "a\"\\" "\x00\n\x7f", .range "" .lte "é",
      .should [.matchAll] 4294967295]
  start := 18446744073709551615
  size := 0
  aggregations := some
    [("terms", .terms "field" [("", .metric .avg "x"), ("\\\"", .terms "" []),
      ("B", .metric .count "_index")]), ("", .metric .distinctCount "\t")]
  sort := [⟨"b", .desc⟩, ⟨"b", .asc⟩]

theorem compact_decodes_awkward :
    awkward.DistinctNames ∧ Json.IsText (awkward.render .compact).toList ∧
      (∃ json, Json.ofText? (awkward.render .compact) = some json ∧ json.DistinctKeys) ∧
      ofText? (awkward.render .compact) = some awkward := by
  have distinct : awkward.DistinctNames := by decide
  obtain ⟨valid, keys, decoded, -⟩ := compact_decodes awkward
  exact ⟨distinct, valid, keys distinct, decoded⟩

/-- **The document with sorted keys is the document of the compact text.** If no table of
aggregations repeats a name, the two hold the same fields in all objects at every depth, the
same items in the same order and the same strings and numbers; and with sorted keys the fields
of every object are in the byte order of their keys. -/
theorem sorted_agrees {doc : Document} (distinct : doc.DistinctNames) :
    Json.ofText? (doc.render .compact) = some doc.toJson ∧
    Json.ofText? (doc.render .sorted) = some doc.toJson.sortKeys ∧
    Json.Agrees doc.toJson doc.toJson.sortKeys ∧
    doc.toJson.sortKeys.EveryObject Json.IncreasingKeys :=
  ⟨doc.toJson.ofText?_compact, doc.toJson.sortKeys.ofText?_compact,
    Json.agrees_sortKeys (distinctKeys_toJson distinct), doc.toJson.increasingKeys_sortKeys⟩

theorem sorted_agrees_awkward :
    awkward.DistinctNames ∧ Json.Agrees awkward.toJson awkward.toJson.sortKeys ∧
      awkward.toJson.sortKeys.EveryObject Json.IncreasingKeys := by
  have distinct : awkward.DistinctNames := by decide
  obtain ⟨-, -, agrees, increasing⟩ := sorted_agrees distinct
  exact ⟨distinct, agrees, increasing⟩

end Document

end SqlSearch
