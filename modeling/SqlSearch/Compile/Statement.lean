import SqlSearch.Compile.Filter
import SqlSearch.Compile.Metrics
import SqlSearch.Document.Basic

/-!
# From statements to documents

A statement is checked before anything is built, in the order statement kind, `FROM`, nested
queries and, in strict mode, the functions of the select list.

The page of a document follows three rules. A statement with aggregations returns no records,
whatever its `LIMIT`, `OFFSET` and `ORDER BY`. Without a `LIMIT` a single record is returned.
`OFFSET` counts only next to a `LIMIT`.

## Main definitions

* `Statement.plainSelect`: the `SELECT` of a statement that passes the checks
* `Statement.compile`: the document of a statement
* `Statement.targetTable`: the table that a statement reads or writes
-/

namespace SqlSearch

/-- The table that is read. -/
def Source.tableName : Source → Except CompileError String
  | .table name => .ok name
  | .joined text => .error (.joins text)
  | .derived text => .error (.derivedSource text)
  | .missing => .error .missingSource

/-- The text of the nested query that a `SELECT` is refused for. -/
def Select.subquery? (select : Select) : Option String :=
  select.subquery <|> select.condition.bind Condition.findSubquery?

/-- The first function of the select list that computes no metric, by the text of its item. -/
def firstUnknownFunction? : List SelectItem → Option String
  | [] => none
  | item :: rest =>
    match item.expr with
    | .call call =>
      if (MetricKind.ofFunction? call.name call.distinct).isNone then some item.text
      else firstUnknownFunction? rest
    | _ => firstUnknownFunction? rest

/-- The checks on a `SELECT`. -/
def Select.check (strictness : Strictness) (select : Select) : Except CompileError Unit := do
  let _ ← select.source.tableName
  if let some text := select.subquery? then
    throw (.subquery text)
  if strictness.isStrict then
    if let some text := firstUnknownFunction? select.projection then
      throw (.function text)

/-- The `SELECT` of a statement that passes the checks. -/
def Statement.plainSelect (strictness : Strictness) : Statement → Except CompileError Select
  | .select query => do
    query.check strictness
    return query
  | .change kind _ => .error (.change kind)
  | .compound text => .error (.compound text)
  | .other text => .error (.otherStatement text)

/-- How many records are returned when the statement does not say. -/
def defaultSize : Nat := 1

/-- The page of a statement without aggregations: how many records to pass over and to
return. -/
def Select.page (select : Select) : Nat × Nat :=
  match select.limit with
  | some limit => (select.offset.getD 0, limit)
  | none => (0, defaultSize)

/-- The sort key of a document. -/
def OrderItem.directive (item : OrderItem) : SortDirective :=
  ⟨item.field, if item.ascending then .asc else .desc⟩

/-- The document of a `SELECT` that has passed the checks. -/
def Select.compile (strictness : Strictness) (select : Select) :
    Except CompileError Document := do
  let query ← compileFilter strictness select.condition
  if needsAggregation select then
    let aggregations ← buildAggregations strictness select.projection select.groupBy
    return ⟨query, 0, 0, some aggregations, []⟩
  else
    return ⟨query, select.page.1, select.page.2, none, select.orderBy.map OrderItem.directive⟩

/-- The document of a statement. -/
def Statement.compile (strictness : Strictness) (statement : Statement) :
    Except CompileError Document := do
  let select ← statement.plainSelect strictness
  select.compile strictness

/-- The table that a statement reads or writes. -/
def Statement.targetTable : Statement → Except CompileError String
  | .select query => query.source.tableName
  | .change _ table => .ok table
  | .compound text => .error (.noTable text)
  | .other text => .error (.noTable text)

end SqlSearch
