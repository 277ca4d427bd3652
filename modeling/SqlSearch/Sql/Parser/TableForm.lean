import SqlSearch.Sql.Parser.Operator

/-!
# Forms of tables

Parsers for the names given to tables, and for the forms that make a table out of something
else: a document, or another table whose rows and columns are exchanged.

## Main definitions

* `Grammar.tableAlias?`: the name given to a table
* `Grammar.tableArguments`: the arguments of a function that returns a table
* `Grammar.jsonTable`, `Grammar.openJson`: tables made of documents
* `Grammar.pivots`: a table with its columns made of values, or its values of columns
-/

namespace SqlSearch.Sql

open SqlSearch.Sql.Parser

namespace Grammar

variable (g : Grammar)

/-- The names and types of columns in parentheses, with a blank in front, or nothing. -/
def columnDefs : Parser String := do
  if !(← atSymbol "(") then return ""
  let columns ← parens (commaList do
    let name ← ident
    let t ← optional? g.typeName
    return name.render ++ t.elim "" (" " ++ ·.text))
  return s!" ({commas columns})"

/-- The name given to a table, in its written form. -/
def tableAlias? : Parser (Option String) := do
  match ← alias? Keyword.endsTable with
  | some name => return some (name.render ++ (← g.columnDefs))
  | none => return none

/-- Settings of one dialect, or nothing. -/
def settings? : Parser (Option String) := do
  whenever (← allow (g.dialect == .generic) (keyword? "SETTINGS")) do
    let pairs ← commaList do
      let name ← ident
      symbol "="
      return name.render ++ " = " ++ (← literal).render
    return s!"SETTINGS {commas pairs}"

/-- What has been read of the arguments of a function that returns a table. -/
structure TableArguments where
  /-- The arguments, the last one first. -/
  args : List String := []
  /-- Nothing follows. -/
  complete : Bool := false
  deriving DecidableEq, Repr

/-- The arguments of a function that returns a table, with the closing parenthesis. Settings
can stand at their end. -/
def tableArguments : Parser String := do
  if ← symbol? ")" then return "()"
  let found ← (iterate fun (list : TableArguments) => do
    if list.complete then return none
    match ← g.settings? with
    | some settings => return some ⟨settings :: list.args, true⟩
    | none =>
      let e ← g.argument
      return some ⟨e.render :: list.args, !(← symbol? ",")⟩) {}
  symbol ")"
  return s!"({commas found.args.reverse})"

/-- What happens if a value in a document is missing or wrong. -/
def onMissing? : Parser (Option String) := do
  let action ← if ← keyword? "NULL" then pure (some "NULL")
    else if ← keyword? "ERROR" then pure (some "ERROR")
    else whenever (← keyword? "DEFAULT") do return "DEFAULT " ++ (← literal).render
  if action.isSome then keyword "ON"
  return action

/-- A column of a table made of a document; `inner` reads the columns of a nested one. -/
def jsonColumn (inner : Parser (List String)) : Parser String := do
  if ← keyword? "NESTED" then
    let _ ← keyword? "PATH"
    let place ← literal
    keyword "COLUMNS"
    let columns ← parens inner
    return s!"NESTED PATH {place.render} COLUMNS ({commas columns})"
  let name ← ident
  if ← keyword? "FOR" then
    keyword "ORDINALITY"
    return s!"{name.render} FOR ORDINALITY"
  let t ← g.typeName
  let presence ← wordAfter ["EXISTS"]
  keyword "PATH"
  let place ← literal
  let (empty, error) ← (iterate fun (handling : String × String) => do
    match ← onMissing? with
    | some action =>
      if ← keyword? "EMPTY" then return some (s!" {action} ON EMPTY", handling.2)
      else
        keyword "ERROR"
        return some (handling.1, s!" {action} ON ERROR")
    | none => return none) ("", "")
  return s!"{name.render} {t.text}{presence} PATH {place.render}{empty}{error}"

/-- The columns of a table made of a document, nested at most as deeply as the given depth. -/
def jsonColumns : Nat → Parser (List String)
  | 0 => tooDeep
  | depth + 1 => commaList (g.jsonColumn (jsonColumns depth))

/-- A table made of a document, behind `JSON_TABLE` and the opening parenthesis. -/
def jsonTable : Parser Relation := do
  let document ← g.expr
  symbol ","
  let place ← literal
  keyword "COLUMNS"
  let columns ← parens (g.jsonColumns (← remaining).length)
  symbol ")"
  return { kind := .other
           body := s!"JSON_TABLE({document.render}, {place.render} COLUMNS({commas columns}))"
           as? := ← g.tableAlias? }

/-- A table made of a document, behind `OPENJSON`. -/
def openJson : Parser Relation := do
  symbol "("
  let document ← g.expr
  let place ← whenever (← symbol? ",") literal
  symbol ")"
  let columns ← if ← keyword? "WITH" then parens (commaList do
      let name ← ident
      let t ← g.typeName
      let place ← match (← remaining).head? with
        | some (.literal (.text s)) => do
          let _ ← next
          pure (" " ++ (Value.text s).render)
        | _ => pure ""
      if ← keyword? "AS" then
        keyword "JSON"
        return s!"{name.render} {t.text}{place} AS JSON"
      else return s!"{name.render} {t.text}{place}")
    else pure []
  let lead := s!"OPENJSON({document.render}" ++ place.elim "" (", " ++ ·.render) ++ ")"
  let tail := if columns.isEmpty then "" else s!" WITH ({commas columns})"
  return { kind := .other, body := lead ++ tail, as? := ← g.tableAlias? }

/-- An expression with the name given to it after `AS`. -/
def namedExpr (e : Expr) : Parser String := do
  if ← keyword? "AS" then return s!"{e.render} AS " ++ (← ident).render else return e.render

/-- What follows `PIVOT` behind a table. -/
def pivot (table : Relation) : Parser Relation := do
  symbol "("
  let aggregates ← commaList do
    match ← next with
    | .name name _ => namedExpr (← g.call (Path.ofIdents ⟨name.value, none⟩ []))
    | _ => fail
  keyword "FOR"
  let column ← path
  keyword "IN"
  let values ← parens do
    if ← keyword? "ANY" then
      if ← keywords? ["ORDER", "BY"] then
        return "ANY ORDER BY " ++ commas ((← commaList g.orderKey).map OrderKey.render)
      else return "ANY"
    else if ← atQuery then return (← g.query).render
    else return commas (← commaList do namedExpr (← g.expr))
  let default ← if ← keywords? ["DEFAULT", "ON", "NULL"] then do
      pure (" DEFAULT ON NULL (" ++ (← parens g.expr).render ++ ")")
    else pure ""
  symbol ")"
  return { kind := .other
           body :=
             s!"{table.render} PIVOT({commas aggregates} FOR {column.render} IN ({values})" ++
             default ++ ")"
           as? := ← g.tableAlias? }

/-- What follows `UNPIVOT` behind a table. -/
def unpivot (table : Relation) : Parser Relation := do
  symbol "("
  let value ← ident
  keyword "FOR"
  let name ← ident
  keyword "IN"
  let columns ← columnNames
  symbol ")"
  return { kind := .other
           body := s!"{table.render} UNPIVOT({value.render} FOR {name.render} IN " ++
             s!"({joinIdents columns}))"
           as? := ← g.tableAlias? }

/-- A table with as many exchanges of values and columns as follow. -/
def pivots (table : Relation) : Parser Relation :=
  (iterate fun (table : Relation) => do
    if ← keyword? "PIVOT" then some <$> g.pivot table
    else whenever (← keyword? "UNPIVOT") (g.unpivot table)) table

end Grammar

end SqlSearch.Sql
