import SqlSearch.Sql.Parser.Schema

/-!
# Sessions

Parsers for the statements that steer a session: transactions, settings, and questions about
the schema and about other statements.

## Main definitions

* `Grammar.begin`, `Grammar.startTransaction`, `Grammar.commit`, `Grammar.rollback`:
  transactions
* `Grammar.showStatement`, `Grammar.explain`: questions
* `Grammar.set`: settings
* `Grammar.prepare`, `Grammar.execute`: statements kept for later
-/

namespace SqlSearch.Sql

open SqlSearch.Sql.Parser

namespace Grammar

variable (g : Grammar)

/-- A mode of a transaction, or nothing. -/
def transactionMode? : Parser (Option String) := do
  if ← keywords? ["ISOLATION", "LEVEL"] then
    if ← keywords? ["READ", "UNCOMMITTED"] then return some "ISOLATION LEVEL READ UNCOMMITTED"
    else if ← keywords? ["READ", "COMMITTED"] then return some "ISOLATION LEVEL READ COMMITTED"
    else if ← keywords? ["REPEATABLE", "READ"] then
      return some "ISOLATION LEVEL REPEATABLE READ"
    else
      keyword "SERIALIZABLE"
      return some "ISOLATION LEVEL SERIALIZABLE"
  else if ← keywords? ["READ", "ONLY"] then return some "READ ONLY"
  else if ← keywords? ["READ", "WRITE"] then return some "READ WRITE"
  else return none

/-- The modes of a transaction, with a blank in front, or nothing. The commas between them may
be missing. -/
def transactionModes : Parser String := do
  let modes ← many do
    match ← transactionMode? with
    | some mode =>
      if ← symbol? "," then
        let ahead ← keywordAt 0
        require (ahead = "ISOLATION" || ahead = "READ")
      return some mode
    | none => return none
  return if modes.isEmpty then "" else " " ++ commas modes

/-- What follows `BEGIN`. -/
def begin : Parser Statement := do
  let modifier ← if g.dialect = .generic then wordAfter ["DEFERRED", "IMMEDIATE", "EXCLUSIVE"]
    else pure ""
  let kind ← wordAfter ["TRANSACTION", "WORK"]
  return .other ("BEGIN" ++ modifier ++ kind ++ (← transactionModes))

/-- What follows `START`. -/
def startTransaction : Parser Statement := do
  keyword "TRANSACTION"
  return .other ("START TRANSACTION" ++ (← transactionModes))

/-- Whether a new transaction follows at once. -/
def chain : Parser String := do
  let _ ← oneOf? ["TRANSACTION", "WORK"]
  if ← keyword? "AND" then
    let without ← keyword? "NO"
    keyword "CHAIN"
    return if without then "" else " AND CHAIN"
  else return ""

/-- What follows `COMMIT` or `END`. -/
def commit : Parser Statement := do return .other ("COMMIT" ++ (← chain))

/-- What follows `ROLLBACK`. -/
def rollback : Parser Statement := do
  let chained ← chain
  let savepoint ← if ← keyword? "TO" then do
      let _ ← keyword? "SAVEPOINT"
      pure (" TO SAVEPOINT " ++ (← ident).render)
    else pure ""
  return .other ("ROLLBACK" ++ chained ++ savepoint)

/-- The place that a question is about, with a blank in front, or nothing. A database or a
schema can be left without a name. -/
def showPlace : Parser String := do
  match ← oneOf? ["FROM", "IN"] with
  | none => return ""
  | some word =>
    match ← oneOf? ["ACCOUNT", "DATABASE", "SCHEMA", "TABLE", "VIEW"] with
    | some kind =>
      let ahead ← keywordAt 0
      let nameless := (kind == "DATABASE" || kind == "SCHEMA") &&
        (ahead == "LIMIT" || (ahead == "STARTS" && (← keywordAt 1) == "WITH"))
      let name ← if nameless then pure none else optional? path
      return s!" {word} {kind}" ++ name.elim "" (" " ++ ·.render)
    | none =>
      let name ← path
      if (← oneOf? ["FROM", "IN"]).isSome then
        let schema ← ident
        return s!" {word} {schema.render}.{name.render}"
      else return s!" {word} {name.render}"

/-- The condition on the answers to a question, with a blank in front, or nothing. -/
def showFilter : Parser String := do
  if ← keyword? "LIKE" then return " LIKE " ++ (Value.text (← text g.dialect)).render
  else if ← keyword? "ILIKE" then return " ILIKE " ++ doubleQuotes (← text g.dialect)
  else if ← keyword? "WHERE" then return " WHERE " ++ (← g.expr).render
  else return (← optional? (text g.dialect)).elim "" fun s => " " ++ (Value.text s).render
where
  /-- A text without the quotes around it, but with the ones inside doubled. -/
  doubleQuotes (s : String) : String :=
    String.ofList (((Value.text s).render.toList.drop 1).dropLast)

/-- The options of a question. The condition is written last. -/
def showOptions : Parser String := do
  let place ← showPlace
  let filter ← g.showFilter
  let start ← if ← keywords? ["STARTS", "WITH"] then do
      pure (" STARTS WITH " ++ (← literal).render)
    else pure ""
  let limit ← if ← keyword? "LIMIT" then
      if ← keyword? "ALL" then pure "" else do pure (" LIMIT " ++ (← g.expr).render)
    else pure ""
  let source ← if ← keyword? "FROM" then do pure (" FROM " ++ (← literal).render) else pure ""
  return place ++ start ++ limit ++ source ++ filter

/-- All words up to the end or to an equality sign; other tokens are skipped. -/
def looseWords : Parser (List Ident) := do
  let found ← many do
    match ← remaining with
    | [] => return none
    | .symbol "=" :: _ => return none
    | .name ident _ :: _ =>
      let _ ← next
      return some [ident]
    | _ =>
      let _ ← next
      return some []
  return found.flatten

/-- What follows `SHOW`. -/
def showStatement : Parser Statement := do
  let terse ← words ["TERSE"]
  let extended ← words ["EXTENDED"]
  let full ← words ["FULL"]
  let session ← words ["SESSION"]
  let global ← words ["GLOBAL"]
  let external ← words ["EXTERNAL"]
  if (← oneOf? ["COLUMNS", "FIELDS"]).isSome then
    return .other (s!"SHOW {extended}{full}COLUMNS" ++ (← g.showOptions))
  else if ← keyword? "TABLES" then
    let history ← wordAfter ["HISTORY"]
    return .other (s!"SHOW {terse}{extended}{full}{external}TABLES{history}" ++
      (← g.showOptions))
  else if ← keywords? ["MATERIALIZED", "VIEWS"] then
    return .other (s!"SHOW {terse}MATERIALIZED VIEWS" ++ (← g.showOptions))
  else if ← keyword? "VIEWS" then
    return .other (s!"SHOW {terse}VIEWS" ++ (← g.showOptions))
  else if ← keyword? "FUNCTIONS" then
    return .other ("SHOW FUNCTIONS" ++ (← g.showFilter))
  else if !extended.isEmpty || !full.isEmpty then fail
  else if ← keyword? "CREATE" then
    let kind ← oneOf ["TABLE", "TRIGGER", "FUNCTION", "PROCEDURE", "EVENT", "VIEW"]
    return .other (s!"SHOW CREATE {kind} " ++ (← path).render)
  else if ← keyword? "COLLATION" then
    return .other ("SHOW COLLATION" ++ (← g.showFilter))
  else
    if (← keyword? "VARIABLES") && g.dialect != .postgres then
      return .other (s!"SHOW {global}{session}VARIABLES" ++ (← g.showFilter))
    if (← keyword? "STATUS") && g.dialect != .postgres then
      return .other (s!"SHOW {global}{session}STATUS" ++ (← g.showFilter))
    match ← oneOf? ["DATABASES", "SCHEMAS"] with
    | some kind =>
      let history ← wordAfter ["HISTORY"]
      return .other (s!"SHOW {terse}{kind}{history}" ++ (← g.showOptions))
    | none =>
      let names ← looseWords
      return .other (String.intercalate " " ("SHOW" :: names.map Ident.render))

/-- What follows `EXPLAIN` and its other names, of which `word` is one. -/
def explain (word : String) : Parser Statement := do
  let options ← if ← allow (word == "EXPLAIN" && g.dialect != .mysql) (atSymbol "(") then do
      let options ← parens (commaList do
        let name ← ident
        if ← atSymbol "," then return name.render
        else if ← atSymbol ")" then return name.render
        else return name.render ++ " " ++ (← g.expr).render)
      pure s!"({commas options}) "
    else if ← keywords? ["QUERY", "PLAN"] then pure "QUERY PLAN "
    else if ← keyword? "ESTIMATE" then pure "ESTIMATE "
    else do
      let analyze ← words ["ANALYZE"]
      let verbose ← words ["VERBOSE"]
      let format ← if ← keyword? "FORMAT" then do
          let kind ← oneOf ["TEXT", "GRAPHVIZ", "JSON"]
          pure s!"FORMAT {kind} "
        else pure ""
      pure (analyze ++ verbose ++ format)
  match ← optional? g.statement with
  | some (.explain _) => fail
  | some statement => return .explain s!"{word} {options}{statement.render}"
  | none =>
    let form ← if ← keyword? "EXTENDED" then pure "EXTENDED "
      else if ← keyword? "FORMATTED" then pure "FORMATTED "
      else pure ""
    return .explain (s!"{word} {form}" ++ (← path).render)

/-- The value of a setting. -/
def settingValue : Parser Expr := do
  if ← atQuery then return .subquery (← g.query).nested else g.expr

/-- What follows `SET` for a role; `scope` stands between the two. -/
def setRole (scope : String) : Parser Statement := do
  keyword "ROLE"
  let role ← if ← keyword? "NONE" then pure "NONE" else do pure (← ident).render
  return .other s!"SET{scope} ROLE {role}"

/-- What follows the name of a single setting. -/
def setOne (modifier : Option String) (lead name : String) : Parser Statement := do
  let folded := Text.asciiLower name
  if folded = "names" ∧ g.dialect ≠ .postgres then
    if ← keyword? "DEFAULT" then return .other "SET NAMES DEFAULT"
    let charset ← text g.dialect
    let collation ← whenever (← keyword? "COLLATE") (text g.dialect)
    return .other (s!"SET NAMES {charset}" ++ collation.elim "" (" COLLATE " ++ ·))
  let assigned ← if ← symbol? "=" then pure true else keyword? "TO"
  if assigned then
    let values ← commaList g.settingValue
    return .other s!"SET {lead}{name} = {commas (Expr.renderList values)}"
  else if folded = "timezone" then
    let value ← g.expr
    return .other s!"SET {lead}TIME ZONE {value.render}"
  else if name = "CHARACTERISTICS" then
    keywords ["AS", "TRANSACTION"]
    return .other ("SET SESSION CHARACTERISTICS AS TRANSACTION" ++ (← transactionModes))
  else if name = "TRANSACTION" ∧ modifier.isNone then
    if ← keyword? "SNAPSHOT" then
      return .other ("SET TRANSACTION SNAPSHOT " ++ (← literal).render)
    else return .other ("SET TRANSACTION" ++ (← transactionModes))
  else fail

/-- What follows `SET`. -/
def set : Parser Statement := do
  let modifier ← oneOf? ["SESSION", "LOCAL", "HIVEVAR"]
  let scope := if modifier = some "HIVEVAR" then "" else modifier.elim "" (" " ++ ·)
  let lead := if modifier = some "LOCAL" then "LOCAL "
    else if modifier = some "HIVEVAR" then "HIVEVAR:"
    else ""
  let role ← if modifier = some "HIVEVAR" then do
      symbol ":"
      pure none
    else optional? (setRole scope)
  if let some statement := role then return statement
  else if ← keywords? ["TIME", "ZONE"] then g.setOne modifier lead "TIMEZONE"
  else if ← allow (g.dialect == .generic) (symbol? "(") then
    let names ← commaList ident
    symbol ")"
    let assigned ← if ← symbol? "=" then pure true else keyword? "TO"
    require assigned
    let values ← parens (commaList g.settingValue)
    return .other s!"SET {lead}({joinIdents names}) = ({commas (Expr.renderList values)})"
  else
    let name ← path
    g.setOne modifier lead name.render

/-- What follows `CALL`. -/
def callStatement : Parser Statement := do
  let name ← path
  if ← atSymbol "(" then return .other ("CALL " ++ (← g.call name).render)
  else return .other ("CALL " ++ name.render)

/-- What follows `PREPARE`. -/
def prepare : Parser Statement := do
  let name ← ident
  let types ← if ← atSymbol "(" then parens (commaList g.typeName) else pure []
  keyword "AS"
  let statement ← g.statement
  let listed := if types.isEmpty then "" else s!"({commas (types.map TypeName.text)}) "
  return .other s!"PREPARE {name.render} {listed}AS {statement.render}"

/-- What follows `EXECUTE`. The values can stand without parentheses. -/
def execute : Parser Statement := do
  let name ← path
  let bare ← atKeyword ["USING"]
  let args ← if ← atSymbol "(" then do
      let args ← parens (commaListUntil ")" g.expr)
      pure s!"({commas (Expr.renderList args)})"
    else if bare || (← atSymbol ";") || (← remaining).isEmpty then pure ""
    else do pure (" " ++ commas (Expr.renderList (← commaList g.expr)))
  let given ← if ← keyword? "USING" then do
      pure (" USING " ++ commas (Expr.renderList (← commaList g.expr)))
    else pure ""
  return .other s!"EXECUTE {name.render}{args}{given}"

/-- What follows `KILL`. -/
def kill : Parser Statement := do
  let kind ← wordAfter
    (if g.dialect = .generic then ["CONNECTION", "QUERY", "MUTATION"]
     else ["CONNECTION", "QUERY"])
  let id ← count
  return .other s!"KILL{kind} {id}"

/-- What follows `COMMENT`. -/
def comment : Parser Statement := do
  let present ← words ["IF", "EXISTS"]
  keyword "ON"
  let kind ← oneOf ["COLUMN", "TABLE", "EXTENSION", "SCHEMA", "DATABASE", "USER", "ROLE"]
  let name ← path
  keyword "IS"
  let written ← if ← keyword? "NULL" then pure "NULL"
    else do pure ("'" ++ (← text g.dialect) ++ "'")
  return .other s!"COMMENT {present}ON {kind} {name.render} IS {written}"

end Grammar

end SqlSearch.Sql
