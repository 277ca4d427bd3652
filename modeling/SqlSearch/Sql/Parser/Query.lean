import SqlSearch.Sql.Parser.Table
import SqlSearch.Text.Lowercase

/-!
# Queries

Parser for queries: the select list, the clauses of a `SELECT`, set operations, and the clauses
that follow any query.

## Main definitions

* `Grammar.selectItem`: an item of the select list
* `Grammar.select`: a plain `SELECT`
* `Grammar.queryBody`: the part of a query that says which rows there are
* `Grammar.parseQuery`: a query

## Design

`UNION` and `EXCEPT` bind equally and less tightly than `INTERSECT`, and all of them group to
the left. So a body is a chain of chains, and no recursion is needed for it.
-/

namespace SqlSearch.Sql

open SqlSearch.Sql.Parser

namespace Grammar

variable (g : Grammar)

/-- The columns that follow `EXCLUDE` or `EXCEPT`, in their written form. -/
def excluded (lone : Ident → String) : Parser String := do
  if ← atSymbol "(" then return " (" ++ joinIdents (← columnNames) ++ ")"
  else return lone (← ident)

/-- A column with the name that it gets. -/
def renamed : Parser String := do
  let old ← ident
  keyword "AS"
  let new ← ident
  return s!"{old.render} AS {new.render}"

/-- The options behind a wildcard. -/
def wildcardOptions : Parser (List Piece) := do
  if g.dialect ≠ .generic then return []
  let like ← if ← keyword? "ILIKE" then
      match ← next with
      | .literal (.text s) => pure [.text (" ILIKE " ++ (Value.text s).render)]
      | _ => fail
    else pure []
  let exclude ← if ← allow like.isEmpty (keyword? "EXCLUDE") then do
      pure [.text (" EXCLUDE" ++ (← excluded (" " ++ ·.render)))]
    else pure []
  let except ← if ← keyword? "EXCEPT" then do
      pure [.text (" EXCEPT" ++ (← excluded fun name => s!" ({name.render})"))]
    else pure []
  let replace ← if ← keyword? "REPLACE" then do
      let items ← parens (commaList do
        let e ← g.expr
        let marked ← keyword? "AS"
        let name ← ident
        return [.operand e, .text ((if marked then " AS " else " ") ++ name.render)])
      pure (.text " REPLACE (" :: Piece.separated ", " items ++ [.text ")"])
    else pure []
  let rename ← if ← keyword? "RENAME" then
      if ← atSymbol "(" then do
        pure [.text (" RENAME (" ++ commas (← parens (commaList renamed)) ++ ")")]
      else do
        pure [.text (" RENAME " ++ (← renamed))]
    else pure []
  return like ++ exclude ++ except ++ replace ++ rename

/-- An item of the select list. -/
def selectItem : Parser SelectItem := do
  let wild (qualifier : Option Path) : Parser SelectItem := do
    let options ← g.wildcardOptions
    return .wildcard qualifier (Piece.layoutFrom 0 options) (Piece.operands options)
  match ← g.wildcardExpr with
  | .wildcard => wild none
  | .qualifiedWildcard name => wild (some name)
  | e =>
    match e with
    | .column ⟨[], ⟨word, none⟩⟩ => if Text.asciiLower word = "from" then fail
    | _ => pure ()
    return .expr e (← alias? Keyword.endsColumn)

/-- What stands between `SELECT` and the select list, with a blank in front. -/
def quantifier : Parser String := do
  let all ← keyword? "ALL"
  let distinct ← keyword? "DISTINCT"
  if all && distinct then fail
  let lead ← if distinct then
      if ← keyword? "ON" then do
        let keys ← parens (commaListUntil ")" g.expr)
        pure s!" DISTINCT ON ({commas (Expr.renderList keys)})"
      else pure " DISTINCT"
    else pure ""
  if ← keyword? "TOP" then
    let quantity ← if ← atSymbol "(" then do
        let e ← parens g.expr
        pure s!"({e.render})"
      else do pure (toString (← count))
    let percent := if ← keyword? "PERCENT" then " PERCENT" else ""
    let ties := if ← keywords? ["WITH", "TIES"] then " WITH TIES" else ""
    return lead ++ " TOP " ++ quantity ++ percent ++ ties
  else return lead

/-- The clause `INTO`, with a blank in front, or nothing. -/
def into : Parser String := do
  if !(← keyword? "INTO") then return ""
  let temporary := if (← oneOf? ["TEMP", "TEMPORARY"]).isSome then " TEMPORARY" else ""
  let unlogged := if ← keyword? "UNLOGGED" then " UNLOGGED" else ""
  let table := if ← keyword? "TABLE" then " TABLE" else ""
  let name ← path
  return s!" INTO{temporary}{unlogged}{table} {name.render}"

/-- A view made by a function, with a blank in front, or nothing. -/
def lateralView? : Parser (Option String) := do
  if !(← keywords? ["LATERAL", "VIEW"]) then return none
  let outer := if ← keyword? "OUTER" then " OUTER" else ""
  let e ← g.expr
  let name ← path
  let ends := fun k => ["WHERE", "GROUP", "CLUSTER", "HAVING", "LATERAL"].contains k
  let columns ← commaList (alias? ends)
  let names := columns.filterMap id
  return some (s!" LATERAL VIEW{outer} {e.render} {name.render}" ++
    if names.isEmpty then "" else " AS " ++ joinIdents names)

/-- Expressions in parentheses, of which there may be none. -/
def tuple : Parser (List Expr) := parens (commaListUntil ")" g.expr)

/-- A set of grouping expressions: several in parentheses, or a single one. -/
def groupingSet : Parser (List Piece) := do
  let set ← if ← atSymbol "(" then g.tuple else do pure [← g.expr]
  match set with
  | [e] => return [.operand e]
  | es => return .text "(" :: Piece.list es ++ [.text ")"]

/-- An expression to group by. -/
def groupKey : Parser Expr := do
  if g.dialect = .mysql then g.expr
  else if ← keywords? ["GROUPING", "SETS"] then
    let sets ← parens (commaList g.tuple)
    let written := sets.map fun set => .text "(" :: Piece.list set ++ [.text ")"]
    return .ofPieces (.text "GROUPING SETS (" :: Piece.separated ", " written ++ [.text ")"])
  else
    match ← oneOf? ["CUBE", "ROLLUP"] with
    | some word =>
      let sets ← parens (commaList g.groupingSet)
      return .ofPieces (.text (word ++ " (") :: Piece.separated ", " sets ++ [.text ")"])
    | none =>
      match ← remaining with
      | .symbol "(" :: .symbol ")" :: _ =>
        symbol "("
        symbol ")"
        return .ofPieces [.text "()"]
      | _ => g.expr

/-- The clause `GROUP BY`. -/
def groupBy : Parser GroupBy := do
  if !(← keywords? ["GROUP", "BY"]) then return .exprs [] ""
  let keys ← if ← keyword? "ALL" then pure none else some <$> commaList g.groupKey
  let modifiers ← if g.dialect ≠ .generic then pure [] else many do
    if ← keyword? "WITH" then
      let word ← oneOf ["ROLLUP", "CUBE", "TOTALS"]
      return some s!" WITH {word}"
    else return none
  let written := String.join modifiers
  match keys with
  | none => return .all written
  | some list => return .exprs list written

/-- A clause of expressions, with a blank in front, or nothing. -/
def listClause (first : String) : Parser String := do
  if ← keywords? [first, "BY"] then
    let es ← commaList g.expr
    return s!" {first} BY {commas (Expr.renderList es)}"
  else return ""

/-- The clause `WINDOW`, with a blank in front, or nothing. -/
def windowClause : Parser String := do
  if !(← keyword? "WINDOW") then return ""
  let windows ← commaList do
    let name ← ident
    keyword "AS"
    let spec ← if ← symbol? "(" then do
        pure ("(" ++ Piece.render (← g.windowSpec) ++ ")")
      else if g.dialect = .generic then do
        pure (← ident).render
      else fail
    return name.render ++ " AS " ++ spec
  return s!" WINDOW {commas windows}"

/-- The clause `QUALIFY`, with a blank in front, or nothing. -/
def qualifyClause : Parser String := do
  return optionalClause " QUALIFY " (← whenever (← keyword? "QUALIFY") g.expr)

/-- The clauses on a hierarchy of rows, with a blank in front, or nothing. The start is written
first. -/
def hierarchy : Parser String := do
  if g.dialect ≠ .generic then return ""
  let start : Parser String := do
    keywords ["START", "WITH"]
    return " START WITH " ++ (← g.expr).render
  let steps : Parser String := do
    keywords ["CONNECT", "BY"]
    return " CONNECT BY " ++ commas (Expr.renderList (← commaList g.relationship))
  if ← atKeyword ["START"] then
    let first ← start
    return first ++ (← steps)
  else if ← atKeyword ["CONNECT"] then
    let second ← steps
    return (← start) ++ second
  else return ""

/-- A plain `SELECT`. -/
def select : Parser Select := do
  keyword "SELECT"
  let quantifier ← g.quantifier
  let items ← commaList g.selectItem
  let into ← into
  let tables ← if ← keyword? "FROM" then commaList g.tableRef else pure []
  let laterals ← many g.lateralView?
  let early ← whenever (← allow (g.dialect == .generic) (keyword? "PREWHERE")) g.expr
  let condition ← whenever (← keyword? "WHERE") g.expr
  let groupBy ← g.groupBy
  let cluster ← g.listClause "CLUSTER"
  let distribute ← g.listClause "DISTRIBUTE"
  let sort ← g.listClause "SORT"
  let having ← whenever (← keyword? "HAVING") g.expr
  let first ← g.qualifyClause
  let second ← g.windowClause
  let third ← if first.isEmpty && !second.isEmpty then g.qualifyClause else pure ""
  let hierarchy ← g.hierarchy
  let views := String.join laterals ++ optionalClause " PREWHERE " early
  return { quantifier, items, into, tables, views, condition, groupBy,
           placement := cluster ++ distribute ++ sort, having,
           windows := first ++ second ++ third ++ hierarchy }

/-- A table as a query, behind `TABLE`. Unless the name has a qualifier, the two tokens behind
it are passed over. -/
def wholeTable : Parser String := do
  match ← next with
  | .name first _ =>
    if ← symbol? "." then
      match ← next with
      | .name second _ => return s!"TABLE {first.value}.{second.value}"
      | _ => fail
    else
      skip 2
      return s!"TABLE {first.value}"
  | _ => fail

/-- The body of a query without set operations. -/
def queryPrimary : Parser QueryBody := do
  if ← atKeyword ["SELECT"] then return .select (← g.select)
  else if ← symbol? "(" then
    let q ← g.query
    symbol ")"
    return .compound s!"({q.render})"
  else if ← keyword? "VALUES" then
    return .compound (← g.values (g.dialect == .mysql))
  else if ← keyword? "TABLE" then return .compound (← wholeTable)
  else fail

/-- The word behind a set operator, with a blank in front. -/
def setQuantifier : Parser String := do
  if ← keywords? ["DISTINCT", "BY", "NAME"] then return " DISTINCT BY NAME"
  else if ← keywords? ["BY", "NAME"] then return " BY NAME"
  else if ← keyword? "ALL" then
    return if ← keywords? ["BY", "NAME"] then " ALL BY NAME" else " ALL"
  else if ← keyword? "DISTINCT" then return " DISTINCT"
  else return ""

/-- Operands joined by some of the set operators. -/
def setChain (operators : List String) (operand : Parser QueryBody) : Parser QueryBody := do
  let first ← operand
  (iterate fun (left : QueryBody) => do
    match ← oneOf? operators with
    | some word =>
      let quantifier ← setQuantifier
      let right ← operand
      return some (.compound s!"{left.render} {word}{quantifier} {right.render}")
    | none => return none) first

/-- The part of a query that says which rows there are. -/
def queryBody : Parser QueryBody :=
  setChain ["UNION", "EXCEPT"] (setChain ["INTERSECT"] g.queryPrimary)

/-- A query with a name of its own. -/
def commonTable : Parser String := do
  let name ← ident
  let columns ← if ← atKeyword ["AS"] then pure "" else g.columnDefs
  keyword "AS"
  let hint ← if g.dialect = .postgres then
      if ← keyword? "MATERIALIZED" then pure "MATERIALIZED "
      else if ← keywords? ["NOT", "MATERIALIZED"] then pure "NOT MATERIALIZED "
      else pure ""
    else pure ""
  let q ← parens g.query
  let source ← whenever (← keyword? "FROM") ident
  return s!"{name.render}{columns} AS {hint}({q.render})" ++
    source.elim "" (" FROM " ++ ·.render)

/-- The clause `WITH`. -/
def withClause? : Parser (Option String) := do
  if !(← keyword? "WITH") then return none
  let recursive := if ← keyword? "RECURSIVE" then "RECURSIVE " else ""
  let tables ← commaList g.commonTable
  return some s!"WITH {recursive}{commas tables}"

/-- The clauses `LIMIT` and `OFFSET`, in either order. Where the dialect allows it, a comma in
`LIMIT` puts the offset in front of the count. -/
def counts (limit : Option Expr) (offset : Option (Expr × String)) :
    Parser (Option Expr × Option (Expr × String)) := do
  let limit ← if ← allow limit.isNone (keyword? "LIMIT") then
      if ← keyword? "ALL" then pure none else some <$> g.expr
    else pure limit
  let offset ← if ← allow offset.isNone (keyword? "OFFSET") then do
      let e ← g.expr
      let rows ← oneOf? ["ROW", "ROWS"]
      pure (some (e, rows.elim "" (" " ++ ·)))
    else pure offset
  match limit, offset with
  | some first, none =>
    if ← allow (g.dialect != .postgres) (symbol? ",") then
      return (some (← g.expr), some (first, ""))
    else return (limit, offset)
  | _, _ => return (limit, offset)

/-- The clause `FETCH`, with a blank in front, or nothing. -/
def fetchClause : Parser String := do
  if !(← keyword? "FETCH") then return ""
  let _ ← oneOf ["FIRST", "NEXT"]
  let quantity ← if (← oneOf? ["ROW", "ROWS"]).isSome then pure "" else do
    let n ← literal
    let percent := if ← keyword? "PERCENT" then " PERCENT" else ""
    let _ ← oneOf ["ROW", "ROWS"]
    pure (n.render ++ percent ++ " ")
  let extent ← if ← keyword? "ONLY" then pure "ONLY" else do
    keywords ["WITH", "TIES"]
    pure "WITH TIES"
  return s!" FETCH FIRST {quantity}ROWS {extent}"

/-- A string in parentheses, with them and with quotes, or nothing. -/
def elementName : Parser String := do
  if ← atSymbol "(" then return "('" ++ (← parens (text g.dialect)) ++ "')" else return ""

/-- The options of the form of a result, which stand behind commas. Each is written once, in
the order of the list. A comma in front of something else is passed over. -/
def formOptions (options : List (List String)) : Parser String := do
  let found ← many do
    if !(← symbol? ",") then return none
    match ← choice? options with
    | some ["ROOT"] =>
      return some (["ROOT"], ", ROOT('" ++ (← parens (text g.dialect)) ++ "')")
    | some ks => return some (ks, ", " ++ String.intercalate " " ks)
    | none => return some ([], "")
  return String.join (options.map fun ks => ((found.reverse.lookup ks).getD ""))

/-- The form of a result as a document, behind `FOR` and with a blank in front, or nothing. -/
def documentForm? : Parser (Option String) := do
  if ← keyword? "XML" then
    let form ← if ← keyword? "RAW" then do pure ("RAW" ++ (← g.elementName))
      else if ← keyword? "AUTO" then pure "AUTO"
      else if ← keyword? "EXPLICIT" then pure "EXPLICIT"
      else do
        keyword "PATH"
        pure ("PATH" ++ (← g.elementName))
    let options ← g.formOptions [["BINARY", "BASE64"], ["TYPE"], ["ROOT"], ["ELEMENTS"]]
    return some s!" FOR XML {form}{options}"
  else if ← keyword? "JSON" then
    let form ← oneOf ["AUTO", "PATH"]
    let options ← g.formOptions [["ROOT"], ["INCLUDE_NULL_VALUES"], ["WITHOUT_ARRAY_WRAPPER"]]
    return some s!" FOR JSON {form}{options}"
  else if ← keyword? "BROWSE" then return some " FOR BROWSE"
  else return none

/-- A lock, behind `FOR` and with a blank in front. -/
def lock : Parser String := do
  let kind ← oneOf ["UPDATE", "SHARE"]
  let table ← whenever (← keyword? "OF") path
  let wait ← if ← keyword? "NOWAIT" then pure " NOWAIT"
    else if ← keywords? ["SKIP", "LOCKED"] then pure " SKIP LOCKED"
    else pure ""
  return s!" FOR {kind}" ++ table.elim "" (" OF " ++ ·.render) ++ wait

/-- What has been read of the clauses that start with `FOR`. -/
structure ForClauses where
  /-- The clauses, the last one first. -/
  found : List String := []
  /-- The form of the result has been given, and nothing follows it. -/
  complete : Bool := false
  deriving DecidableEq, Repr

/-- The clauses that start with `FOR`: locks, and at the end the form of the result. -/
def forClauses : Parser String := do
  let clauses ← (iterate fun (clauses : ForClauses) => do
    whenever (← allow (!clauses.complete) (keyword? "FOR")) do
      match ← g.documentForm? with
      | some form => return ⟨form :: clauses.found, true⟩
      | none => return ⟨(← lock) :: clauses.found, false⟩) {}
  return String.join clauses.found.reverse

/-- How missing values are made up behind sort keys that fill gaps, with a blank in front, or
nothing. -/
def interpolation : Parser (List Piece) := do
  if !(← allow (g.dialect == .generic) (keyword? "INTERPOLATE")) then return []
  if ← atSymbol "(" then
    let columns ← parens (commaListUntil ")" do
      let name ← ident
      let value ← whenever (← keyword? "AS") g.expr
      return .text name.render :: value.elim [] fun e => [.text " AS ", .operand e])
    return .text " INTERPOLATE (" :: Piece.separated ", " columns ++ [.text ")"]
  else return [.text " INTERPOLATE"]

/-- The clause on the format of the result, with a blank in front, or nothing. -/
def formatClause : Parser String := do
  if ← allow (g.dialect == .generic) (keyword? "FORMAT") then
    if ← keyword? "NULL" then return " FORMAT NULL"
    else return " FORMAT " ++ (← ident).render
  else return ""

/-- A query. -/
def parseQuery : Parser Query := do
  let common ← g.withClause?
  if ← atKeyword ["INSERT", "UPDATE"] then
    let change ← g.statement
    return { common, body := .compound change.render }
  let body ← g.queryBody
  let sorted ← keywords? ["ORDER", "BY"]
  let orderBy ← if sorted then commaList g.orderKey else pure []
  let interpolation ← if sorted then g.interpolation else pure []
  let (limit, offset) ← g.counts none none
  let (limit, offset) ← g.counts limit offset
  let limitBy ← if ← allow (g.dialect == .generic) (keyword? "BY") then do
      let es ← commaList g.expr
      pure s!" BY {commas (Expr.renderList es)}"
    else pure ""
  let settings ← g.settings?
  let fetch ← fetchClause
  let clauses ← g.forClauses
  let format ← g.formatClause
  let tail := limitBy ++ settings.elim "" (" " ++ ·) ++ fetch ++ clauses ++ format
  return { common, body, orderBy, interpolation, limit, offset, tail }

end Grammar

end SqlSearch.Sql
