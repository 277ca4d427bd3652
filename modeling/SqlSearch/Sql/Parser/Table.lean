import SqlSearch.Sql.Parser.RowPattern

/-!
# Tables

Parsers for what can stand in `FROM`: tables, nested queries, functions that return tables, and
joins.

## Main definitions

* `Grammar.parseRelation`: a single source of rows
* `Grammar.tableRef`: a source of rows with the sources joined to it
-/

namespace SqlSearch.Sql

open SqlSearch.Sql.Parser

namespace Grammar

variable (g : Grammar)

/-- The rows of a list of values, behind `VALUES`. -/
def values (allowEmpty : Bool) : Parser String := do
  let rows ← commaList do
    let marked ← keyword? "ROW"
    symbol "("
    let row ← if allowEmpty then commaListUntil ")" g.expr else commaList g.expr
    symbol ")"
    return (marked, s!"({commas (Expr.renderList row)})")
  let lead := if rows.any (·.1) then "ROW" else ""
  return "VALUES " ++ commas (rows.map fun r => lead ++ r.2)

/-- A query with the closing parenthesis, as a source of rows. -/
def derived (lead : String) : Parser Relation := do
  let q ← g.query
  symbol ")"
  return { kind := .other, body := s!"{lead}({q.render})", as? := ← g.tableAlias? }

/-- A table or a function that returns one. -/
def namedTable : Parser Relation := do
  let name ← path
  let partitions ← if ← allow (g.dialect != .postgres) (keyword? "PARTITION") then do
      pure ("PARTITION (" ++ joinIdents (← columnNames) ++ ")")
    else pure ""
  let args ← whenever (← symbol? "(") g.tableArguments
  let ordinality := if ← keywords? ["WITH", "ORDINALITY"] then " WITH ORDINALITY" else ""
  let as? ← g.tableAlias?
  let hints ← match ← remaining with
    | .name _ "WITH" :: .symbol "(" :: _ => do
      keyword "WITH"
      let hints ← parens (commaList g.expr)
      pure s!" WITH ({commas (Expr.renderList hints)})"
    | _ => pure ""
  let kind := if args.isSome then .tableCall name else .table name
  let table ← g.pivots ⟨kind, name.render ++ partitions ++ args.getD "" ++ ordinality, as?,
    hints⟩
  if ← allow (g.dialect == .generic) (keyword? "MATCH_RECOGNIZE") then g.matchRecognize table
  else return table

/-- The elements of arrays as rows, behind `UNNEST`. A word `WITH` behind the name is read even
if `OFFSET` does not follow. -/
def unnest : Parser Relation := do
  let arrays ← parens (commaList g.expr)
  let ordinality := if ← keywords? ["WITH", "ORDINALITY"] then " WITH ORDINALITY" else ""
  let as? ← g.tableAlias?
  let tail ← if ← keyword? "WITH" then
      if ← keyword? "OFFSET" then do
        let name ← alias? Keyword.endsColumn
        pure (" WITH OFFSET" ++ name.elim "" (" AS " ++ ·.render))
      else pure ""
    else pure ""
  return ⟨.other, s!"UNNEST({commas (Expr.renderList arrays)}){ordinality}", as?, tail⟩

/-- The condition of a join, with a blank in front, or nothing. -/
def joinConstraint : Parser String := do
  if ← keyword? "ON" then return " ON " ++ (← g.expr).render
  else if ← keyword? "USING" then return " USING(" ++ joinIdents (← columnNames) ++ ")"
  else return ""

/-- The words of a join without its condition, or nothing if no join follows. -/
def joinWords? : Parser (Option String) := do
  if ← atKeyword ["INNER", "JOIN"] then
    let _ ← keyword? "INNER"
    keyword "JOIN"
    return some "JOIN"
  match ← oneOf? ["LEFT", "RIGHT", "FULL", "SEMI", "ANTI"] with
  | some "FULL" =>
    let _ ← keyword? "OUTER"
    keyword "JOIN"
    return some "FULL JOIN"
  | some side =>
    if side = "LEFT" ∨ side = "RIGHT" then
      match ← oneOf? ["OUTER", "SEMI", "ANTI"] with
      | some "OUTER" | none =>
        keyword "JOIN"
        return some s!"{side} JOIN"
      | some kind =>
        keyword "JOIN"
        return some s!"{side} {kind} JOIN"
    else
      keyword "JOIN"
      return some s!"{side} JOIN"
  | none =>
    if ← atKeyword ["OUTER"] then fail
    return none

/-- A join in its written form with a blank in front, or nothing. -/
def join? (relation : Parser Relation) : Parser (Option String) := do
  let lead := if ← keyword? "GLOBAL" then " GLOBAL" else ""
  if ← keyword? "CROSS" then
    let word ← oneOf ["JOIN", "APPLY"]
    return some (lead ++ " CROSS " ++ word ++ " " ++ (← relation).render)
  if ← keywords? ["OUTER", "APPLY"] then
    return some (lead ++ " OUTER APPLY " ++ (← relation).render)
  if ← keyword? "ASOF" then
    keyword "JOIN"
    let right ← relation
    keyword "MATCH_CONDITION"
    let condition ← parens g.expr
    let constraint ← g.joinConstraint
    return some
      (lead ++ " ASOF JOIN " ++ right.render ++ " MATCH_CONDITION (" ++
        condition.render ++ ")" ++
        constraint)
  let natural ← keyword? "NATURAL"
  match ← joinWords? with
  | none => if natural then fail else return none
  | some words =>
    let right ← relation
    let constraint ← if natural then pure "" else g.joinConstraint
    let mark := if natural then "NATURAL " else ""
    return some (lead ++ " " ++ mark ++ words ++ " " ++ right.render ++ constraint)

/-- A source of rows with the sources joined to it, each of which `relation` reads. -/
def tableRefOf (relation : Parser Relation) : Parser TableRef := do
  return ⟨← relation, ← many (g.join? relation)⟩

/-- A source of rows, or several joined ones, in parentheses. The opening one has been read. -/
def joined : Parser Relation := do
  let inner ← g.tableRefOf g.relation
  if inner.joins ≠ [] ∨ inner.relation.kind = .join then
    symbol ")"
    return { kind := .join, body := s!"({inner.render})", as? := ← g.tableAlias? }
  if g.dialect ≠ .generic then fail
  symbol ")"
  match ← g.tableAlias?, inner.relation.as? with
  | none, _ => return inner.relation
  | some name, none => return { inner.relation with as? := some name }
  | some _, some _ => fail

/-- A single source of rows. -/
def parseRelation : Parser Relation := do
  if ← keyword? "LATERAL" then
    if ← symbol? "(" then g.derived "LATERAL "
    else
      let name ← path
      let args ← parens (commaListUntil ")" g.argument)
      return { kind := .other
               body := s!"LATERAL {name.render}({commas (Expr.renderList args)})"
               as? := ← g.tableAlias? }
  else if ← keyword? "TABLE" then
    let e ← parens g.expr
    return { kind := .other, body := s!"TABLE({e.render})", as? := ← g.tableAlias? }
  else if ← symbol? "(" then
    match ← optional? (g.derived "") with
    | some table => g.pivots table
    | none => g.joined
  else if ← allow (g.dialect == .generic) (calls "VALUES") then
    keyword "VALUES"
    let rows ← g.values false
    return { kind := .other, body := s!"({rows})", as? := ← g.tableAlias? }
  else if ← allow (g.dialect != .mysql) (keyword? "UNNEST") then g.unnest
  else if ← calls "JSON_TABLE" then
    keyword "JSON_TABLE"
    symbol "("
    g.jsonTable
  else if ← calls "OPENJSON" then
    keyword "OPENJSON"
    g.openJson
  else g.namedTable
where
  /-- Whether a keyword and an opening parenthesis come next. Nothing is read. -/
  calls (k : String) : Parser Bool := fun ts =>
    .ok (ts.head?.any (Token.keyword · == k) && (ts.drop 1).head?.any (Token.isSymbol "("), ts)

/-- A source of rows with the sources joined to it. -/
def tableRef : Parser TableRef := g.tableRefOf g.parseRelation

end Grammar

end SqlSearch.Sql
