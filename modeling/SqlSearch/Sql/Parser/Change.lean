import SqlSearch.Sql.Parser.Query

/-!
# Changes of data

Parsers for the statements that change data: `UPDATE`, `INSERT`, `DELETE` and `MERGE`.

## Main definitions

* `Grammar.update`, `Grammar.insert`, `Grammar.delete`, `Grammar.merge`: what follows the first
  word
-/

namespace SqlSearch.Sql

open SqlSearch.Sql.Parser

namespace Grammar

variable (g : Grammar)

/-- What to do about a conflict, with a blank behind, or nothing. The word `REPLACE` alone
means the same as with `OR` in front. -/
def conflictChoice : Parser String := do
  let choices := ["REPLACE", "ROLLBACK", "ABORT", "FAIL", "IGNORE"]
  match ← choice? (choices.map fun c => ["OR", c]) with
  | some ks => return String.intercalate " " ks ++ " "
  | none => return if ← keyword? "REPLACE" then "OR REPLACE " else ""

/-- A column, or several, with the value assigned. -/
def assignment : Parser String := do
  let target ← if ← atSymbol "(" then do
      let targets ← parens (commaList path)
      pure s!"({commas (targets.map Path.render)})"
    else do pure (← path).render
  symbol "="
  let value ← g.expr
  return s!"{target} = {value.render}"

/-- Assignments with commas between them. -/
def assignments : Parser String := do return commas (← commaList g.assignment)

/-- The clause `WHERE`, with a blank in front, or nothing. -/
def whereClause : Parser String := do
  return optionalClause " WHERE " (← whenever (← keyword? "WHERE") g.expr)

/-- The clause `RETURNING`, with a blank in front, or nothing. -/
def returningClause : Parser String := do
  if ← keyword? "RETURNING" then
    let items ← commaList g.selectItem
    return s!" RETURNING {commas (items.map SelectItem.render)}"
  else return ""

/-- What follows `UPDATE`. -/
def update : Parser Statement := do
  let choice ← conflictChoice
  let table ← g.tableRef
  keyword "SET"
  let assigned ← g.assignments
  let source ← if ← keyword? "FROM" then
      if g.dialect = .mysql then pure "" else do pure (" FROM " ++ (← g.tableRef).render)
    else pure ""
  let condition ← g.whereClause
  let returning ← g.returningClause
  return .update table.relation
    s!"UPDATE {choice}{table.render} SET {assigned}{source}{condition}{returning}"

/-- A list of columns in parentheses with a blank behind, or nothing. -/
def insertColumns : Parser String := do
  match ← remaining with
  | .symbol "(" :: .name _ "SELECT" :: _ => return ""
  | .symbol "(" :: _ =>
    let columns ← parens
      (if g.dialect = .mysql then commaListUntil ")" ident else commaList ident)
    return if columns.isEmpty then "" else s!"({joinIdents columns}) "
  | _ => return ""

/-- The partition that an insertion goes to, with a blank behind, or nothing. -/
def insertPartition : Parser String := do
  if ← keyword? "PARTITION" then
    let es ← parens (commaList g.expr)
    return s!"PARTITION ({commas (Expr.renderList es)}) "
  else return ""

/-- What an insertion does with rows that are there already, or nothing. -/
def onInsert : Parser String := do
  if !(← keyword? "ON") then return ""
  if ← keyword? "CONFLICT" then
    let target ← if ← keywords? ["ON", "CONSTRAINT"] then do
        pure (" ON CONSTRAINT " ++ (← path).render)
      else if ← atSymbol "(" then do
        pure ("(" ++ joinIdents (← columnNames) ++ ")")
      else pure ""
    keyword "DO"
    if ← keyword? "NOTHING" then return s!" ON CONFLICT{target} DO NOTHING"
    keywords ["UPDATE", "SET"]
    let assigned ← g.assignments
    let condition ← g.whereClause
    return s!" ON CONFLICT{target} DO UPDATE SET {assigned}{condition}"
  else
    keywords ["DUPLICATE", "KEY", "UPDATE"]
    return " ON DUPLICATE KEY UPDATE " ++ (← g.assignments)

/-- The name given to the inserted row, with a blank in front, or nothing. -/
def rowAlias : Parser String := do
  if ← allow (g.dialect != .postgres) (keyword? "AS") then
    let name ← path
    let columns ← if ← atSymbol "(" then columnNames else pure []
    return " AS " ++ name.render ++ if columns.isEmpty then "" else s!" ({joinIdents columns})"
  else return ""

/-- What follows `DIRECTORY` in an insertion into files; `lead` is what stands in front. -/
def insertDirectory (lead : String) : Parser Statement := do
  let place ← text g.dialect
  let format ← if ← keywords? ["STORED", "AS"] then do
      let format ← oneOf ["TEXTFILE", "SEQUENCEFILE", "ORC", "PARQUET", "AVRO", "RCFILE",
        "JSONFILE"]
      pure s!" STORED AS {format}"
    else pure ""
  let source ← g.query
  return .other s!"{lead} DIRECTORY '{place}'{format} {source.render}"

/-- What follows `INSERT` or `REPLACE`, which is the given word. -/
def insert (word : String) : Parser Statement := do
  let choice ← conflictChoice
  let priority ← if g.dialect = .postgres then pure none
    else oneOf? ["LOW_PRIORITY", "DELAYED", "HIGH_PRIORITY"]
  let ignore := if ← allow (g.dialect != .postgres) (keyword? "IGNORE") then " IGNORE" else ""
  let overwrite ← wordAfter ["OVERWRITE"]
  let into ← wordAfter ["INTO"]
  let here ← wordAfter ["LOCAL"]
  if ← keyword? "DIRECTORY" then g.insertDirectory s!"INSERT{overwrite}{here}"
  else
    let table ← wordAfter ["TABLE"]
    let target ← path
    let name ← whenever (← allow (g.dialect == .postgres) (keyword? "AS")) ident
    let rows ← if ← keywords? ["DEFAULT", "VALUES"] then pure "DEFAULT VALUES" else do
      let columns ← g.insertColumns
      let partition ← g.insertPartition
      pure (columns ++ partition ++ (← g.query).render)
    let row ← g.rowAlias
    let conflict ← g.onInsert
    let returning ← g.returningClause
    let lead := if choice.isEmpty then
        word ++ priority.elim "" (" " ++ ·) ++ ignore ++ overwrite ++ into ++ table ++ " "
      else s!"INSERT {choice}INTO "
    let shown := target.render ++ name.elim "" (" AS " ++ ·.render)
    return .insert target s!"{lead}{shown} {rows}{row}{conflict}{returning}"

/-- What follows `DELETE`. -/
def delete : Parser Statement := do
  let marked ← keyword? "FROM"
  let named ← if marked || g.dialect = .generic then pure [] else do
    let named ← commaList path
    keyword "FROM"
    pure named
  let tables ← commaList g.tableRef
  let others ← if ← keyword? "USING" then commaList g.tableRef else pure []
  let condition ← g.whereClause
  let returning ← g.returningClause
  let order ← if ← keywords? ["ORDER", "BY"] then commaList g.orderKey else pure []
  let limit ← if ← keyword? "LIMIT" then
      if ← keyword? "ALL" then pure none else some <$> g.expr
    else pure none
  let lead := if named.isEmpty then "" else commas (named.map Path.render) ++ " "
  let source := if marked || !named.isEmpty then "FROM " else ""
  let beside := if others.isEmpty then "" else " USING " ++ commas (others.map TableRef.render)
  let sorted :=
    if order.isEmpty then "" else " ORDER BY " ++ commas (order.map OrderKey.render)
  return .delete named tables
    (s!"DELETE {lead}{source}{commas (tables.map TableRef.render)}" ++ beside ++ condition ++
      returning ++ sorted ++ optionalClause " LIMIT " limit)

/-- The rows that an insertion of a merge makes. -/
def mergeInsert : Parser String := do
  let columns ← if ← atSymbol "(" then
      parens (if g.dialect = .mysql then commaListUntil ")" ident else commaList ident)
    else pure []
  let lead := if columns.isEmpty then "INSERT " else s!"INSERT ({joinIdents columns}) "
  if ← allow (g.dialect == .generic) (keyword? "ROW") then return lead ++ "ROW"
  keyword "VALUES"
  return lead ++ (← g.values (g.dialect == .mysql))

/-- One case of a merge, or nothing. -/
def mergeCase? : Parser (Option String) := do
  if !(← keyword? "WHEN") then return none
  let negated ← keyword? "NOT"
  keyword "MATCHED"
  let side ← if ← allow negated (keywords? ["BY", "SOURCE"]) then pure " BY SOURCE"
    else if ← allow negated (keywords? ["BY", "TARGET"]) then pure " BY TARGET"
    else pure ""
  let condition ← whenever (← keyword? "AND") g.expr
  keyword "THEN"
  let insertion := negated && side != " BY SOURCE"
  let action ← if insertion then do
      keyword "INSERT"
      g.mergeInsert
    else if ← keyword? "UPDATE" then do
      keyword "SET"
      pure ("UPDATE SET " ++ (← g.assignments))
    else do
      keyword "DELETE"
      pure "DELETE"
  return some ("WHEN " ++ Expr.negation negated ++ "MATCHED" ++ side ++
    optionalClause " AND " condition ++ " THEN " ++ action)

/-- What follows `MERGE`. -/
def merge : Parser Statement := do
  let into := if ← keyword? "INTO" then " INTO" else ""
  let table ← g.parseRelation
  keyword "USING"
  let source ← g.parseRelation
  keyword "ON"
  let condition ← g.expr
  let cases ← many g.mergeCase?
  return .other (s!"MERGE{into} {table.render} USING {source.render} ON {condition.render} " ++
    String.intercalate " " cases)

end Grammar

end SqlSearch.Sql
