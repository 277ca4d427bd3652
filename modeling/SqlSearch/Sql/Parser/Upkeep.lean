import SqlSearch.Sql.Parser.Schema

/-!
# Upkeep

Parsers for the statements that look after a database: statistics, caches, cursors, locks,
messages between sessions, and copies to and from files. All that is kept of them is their
written form.

## Main definitions

* `Grammar.analyze`, `Grammar.optimize`, `Grammar.repair`: tables
* `Grammar.cache`, `Grammar.uncache`, `Grammar.flush`: caches
* `Grammar.declare`, `Grammar.fetch`: cursors
* `Grammar.copy`, `Grammar.unload`: copies
* `Grammar.upkeep?`: the statement of a first word
-/

namespace SqlSearch.Sql

open SqlSearch.Sql.Parser

namespace Grammar

variable (g : Grammar)

/-- What `ANALYZE` says about a table, each part with a blank in front. -/
structure Analysis where
  /-- The partitions it is about. -/
  partitions : String := ""
  /-- Statistics are computed. -/
  computed : String := ""
  /-- The rows are not read. -/
  unscanned : String := ""
  /-- The properties of files are cached. -/
  cached : String := ""
  /-- The columns it is about. -/
  columns : String := ""

/-- What follows `ANALYZE`. A part that is given twice counts once. -/
def analyze : Parser String := do
  keyword "TABLE"
  let table ← path
  let a ← (iterate fun (a : Analysis) => do
    if ← keyword? "PARTITION" then
      let es ← parens (commaList g.expr)
      return some { a with partitions := s!" PARTITION ({commas (Expr.renderList es)})" }
    else if ← keyword? "NOSCAN" then return some { a with unscanned := " NOSCAN" }
    else if ← keyword? "FOR" then
      keyword "COLUMNS"
      let names := (← optional? (commaList ident)).getD []
      let listed := if names.isEmpty then "" else " " ++ joinIdents names
      return some { a with columns := s!" FOR COLUMNS{listed}" }
    else if ← keyword? "CACHE" then
      keyword "METADATA"
      return some { a with cached := " CACHE METADATA" }
    else if ← keyword? "COMPUTE" then
      keyword "STATISTICS"
      return some { a with computed := " COMPUTE STATISTICS" }
    else return none) {}
  return s!"ANALYZE TABLE {table.render}" ++ a.partitions ++ a.computed ++ a.unscanned ++
    a.cached ++
    a.columns

/-- What follows `OPTIMIZE`. -/
def optimize : Parser String := do
  keyword "TABLE"
  let table ← path
  let cluster ← onCluster
  let partition ← if ← keyword? "PARTITION" then
      if ← keyword? "ID" then do pure (" PARTITION ID " ++ (← ident).render)
      else do pure (" PARTITION " ++ (← g.expr).render)
    else pure ""
  let final ← wordAfter ["FINAL"]
  let unique ← if ← keyword? "DEDUPLICATE" then do
      pure (" DEDUPLICATE" ++ (← clauseAfter "BY" (Expr.render <$> g.expr)))
    else pure ""
  return s!"OPTIMIZE TABLE {table.render}{cluster}{partition}{final}{unique}"

/-- What follows `MSCK`. -/
def repair : Parser String := do
  let lead ← words ["REPAIR"]
  keyword "TABLE"
  let table ← path
  let action ← choice? [["ADD", "PARTITIONS"], ["DROP", "PARTITIONS"], ["SYNC", "PARTITIONS"],
    ["PARTITIONS"]]
  let shown := match action with
    | some [word, rest] => s!" {word} {rest}"
    | _ => ""
  return s!"MSCK {lead}TABLE {table.render}{shown}"

/-- What follows `CACHE`. Whatever stands behind the options is a query. -/
def cache : Parser String := do
  let kind ← if ← atKeyword ["TABLE"] then pure "" else do pure ((← path).render ++ " ")
  keyword "TABLE"
  let table ← path
  let options ← g.optionsAfter "OPTIONS" "("
  let source ← if (← remaining).isEmpty then pure "" else
    match (← remaining).head? with
    | some (.name _ _) => do
      let word ← wordAfter ["AS"]
      pure (word ++ " " ++ (← g.query).render)
    | _ => fail
  return s!"CACHE {kind}TABLE {table.render}{options}{source}"

/-- What follows `UNCACHE`. -/
def uncache : Parser String := do
  keyword "TABLE"
  let present ← words ["IF", "EXISTS"]
  return s!"UNCACHE TABLE {present}" ++ (← path).render

/-- What the list of tables in `FLUSH` has said so far. -/
structure FlushedTables where
  /-- The tables. -/
  names : List Path := []
  /-- They are locked for reading. -/
  locked : Bool := false
  /-- They are flushed for an export. -/
  exported : Bool := false

/-- The tables of `FLUSH`. The token behind them is read as well. -/
def flushedTables : Parser String := do
  let t ← (iterate fun (t : FlushedTables) => do
    match ← remaining with
    | .name _ k :: _ =>
      if Keyword.isKnown k then
        let _ ← next
        if k = "WITH" then return some { t with locked := ← keywords? ["READ", "LOCK"] }
        else if k = "FOR" then return some { t with exported := ← keyword? "EXPORT" }
        else return some t
      else return some { t with names := ← commaList path }
    | _ => return none) {}
  skip 1
  return (if t.names.isEmpty then "" else " " ++ commas (t.names.map Path.render)) ++
    (if t.locked then " WITH READ LOCK" else "") ++ (if t.exported then " FOR EXPORT" else "")

/-- What follows `FLUSH`. -/
def flush : Parser String := do
  require (g.dialect != .postgres)
  let place ← wordAfter ["NO_WRITE_TO_BINLOG", "LOCAL"]
  match ← choice? [["BINARY", "LOGS"], ["ENGINE", "LOGS"], ["ERROR", "LOGS"],
      ["GENERAL", "LOGS"], ["HOSTS"], ["PRIVILEGES"], ["OPTIMIZER_COSTS"], ["RELAY", "LOGS"],
      ["SLOW", "LOGS"], ["STATUS"], ["USER_RESOURCES"], ["LOGS"], ["TABLES"]] with
  | none => fail
  | some ks =>
    let channel ← if ← allow (ks == ["RELAY", "LOGS"]) (keywords? ["FOR", "CHANNEL"]) then do
        pure (" FOR CHANNEL " ++ (← path).render)
      else pure ""
    let tables ← if ks == ["TABLES"] then flushedTables else pure ""
    return s!"FLUSH{place} " ++ String.intercalate " " ks ++ channel ++ tables

/-- What follows `DECLARE`. -/
def declare : Parser String := do
  let name ← ident
  let binary ← wordAfter ["BINARY"]
  let sensitive ← wordAfter ["INSENSITIVE", "ASENSITIVE"]
  let scroll ← if ← keyword? "SCROLL" then pure " SCROLL" else wordsAfter ["NO", "SCROLL"]
  keyword "CURSOR"
  let hold ← match ← oneOf? ["WITH", "WITHOUT"] with
    | some word => do
      keyword "HOLD"
      pure s!" {word} HOLD"
    | none => pure ""
  keyword "FOR"
  let q ← g.query
  return s!"DECLARE {name.render}{binary}{sensitive}{scroll} CURSOR{hold} FOR {q.render}"

/-- What follows `FETCH`. -/
def fetch : Parser String := do
  let direction ← match ← oneOf? ["NEXT", "PRIOR", "FIRST", "LAST", "ALL"] with
    | some word => pure word
    | none => match ← oneOf? ["ABSOLUTE", "RELATIVE", "FORWARD", "BACKWARD"] with
      | some word =>
        if ← allow (word == "FORWARD" || word == "BACKWARD") (keyword? "ALL") then
          pure s!"{word} ALL"
        else do pure (word ++ " " ++ (← unsignedNumber))
      | none => unsignedNumber
  let _ ← oneOf ["FROM", "IN"]
  let name ← ident
  return s!"FETCH {direction} IN {name.render}" ++
    (← clauseAfter "INTO" (Path.render <$> path))

/-- A string of one character, between quotes. -/
def quotedChar : Parser String := do
  let s ← text g.dialect
  require (s.utf8ByteSize == 1)
  return s!"'{s}'"

/-- A switch that is on unless it is said to be off. -/
def switchedOn (word : String) : Parser String := do
  match ← oneOf? ["TRUE", "FALSE"] with
  | some "FALSE" => return word ++ " FALSE"
  | _ => return word

/-- An option of a copy in parentheses. -/
def copyOption : Parser String := do
  let word ← oneOf ["FORMAT", "FREEZE", "DELIMITER", "NULL", "HEADER", "QUOTE", "ESCAPE",
    "FORCE_QUOTE", "FORCE_NOT_NULL", "FORCE_NULL", "ENCODING"]
  match word with
  | "FORMAT" => return "FORMAT " ++ (← ident).render
  | "FREEZE" | "HEADER" => switchedOn word
  | "DELIMITER" | "QUOTE" | "ESCAPE" => return word ++ " " ++ (← g.quotedChar)
  | "NULL" | "ENCODING" => return word ++ " " ++ (Value.text (← text g.dialect)).render
  | _ => return word ++ " (" ++ joinIdents (← columnNames) ++ ")"

/-- An option of a table of texts, with a blank in front. -/
def csvOption : Parser String := do
  match ← oneOf ["HEADER", "QUOTE", "ESCAPE", "FORCE"] with
  | "HEADER" => return " HEADER"
  | "FORCE" =>
    match ← choice? [["NOT", "NULL"], ["QUOTE"]] with
    | some ks =>
      return " FORCE " ++ String.intercalate " " ks ++ " " ++ joinIdents (← commaList ident)
    | none => fail
  | word =>
    let _ ← keyword? "AS"
    return s!" {word} " ++ (← g.quotedChar)

/-- An option of a copy without parentheses, with a blank in front. -/
def looseCopyOption : Parser String := do
  match ← oneOf ["BINARY", "DELIMITER", "NULL", "CSV"] with
  | "BINARY" => return " BINARY"
  | "CSV" => return " CSV" ++ String.join (← many (optional? g.csvOption))
  | "DELIMITER" =>
    let _ ← keyword? "AS"
    return " DELIMITER " ++ (← g.quotedChar)
  | word =>
    let _ ← keyword? "AS"
    return s!" {word} " ++ (Value.text (← text g.dialect)).render

/-- What follows `COPY`. A copy from the text itself is not read. -/
def copy : Parser String := do
  let nested ← atSymbol "("
  let source ← if nested then do pure ("(" ++ (← parens g.query).render ++ ")") else do
    let table ← path
    pure (table.render ++ (← columnsAfter))
  let direction ← oneOf ["FROM", "TO"]
  require (direction == "TO" || !nested)
  let target ← if ← keyword? "STDOUT" then pure "STDOUT"
    else if ← atKeyword ["STDIN"] then fail
    else do
      let program ← words ["PROGRAM"]
      pure (program ++ (Value.text (← text g.dialect)).render)
  let _ ← keyword? "WITH"
  let options ← if ← atSymbol "(" then parens (commaList g.copyOption) else pure []
  let loose ← many (optional? g.looseCopyOption)
  let listed := if options.isEmpty then "" else s!" ({commas options})"
  return s!"COPY {source} {direction} {target}{listed}" ++ String.join loose

/-- What follows `UNLOAD`. -/
def unload : Parser String := do
  let q ← parens g.query
  keyword "TO"
  let target ← ident
  return s!"UNLOAD({q.render}) TO {target.render}" ++ (← g.optionsAfter "WITH" " (")

/-- A table to lock, with the name it is given and the kind of lock. -/
def lockedTable : Parser String := do
  let table ← ident
  let name ← alias? fun k => ["READ", "WRITE", "LOW_PRIORITY"].contains k
  match ← choice? [["READ", "LOCAL"], ["READ"], ["WRITE"], ["LOW_PRIORITY", "WRITE"]] with
  | some ks =>
    return table.render ++ name.elim "" (" AS " ++ ·.render) ++ " " ++
      String.intercalate " " ks
  | none => fail

/-- What follows `PRAGMA`. -/
def pragma : Parser String := do
  let name ← path
  if ← atSymbol "(" then return s!"PRAGMA {name.render}(" ++ (← parens value) ++ ")"
  else if ← symbol? "=" then return s!"PRAGMA {name.render} = " ++ (← value)
  else return s!"PRAGMA {name.render}"
where
  /-- A number, a string or a parameter. -/
  value : Parser String := do
    match ← literal with
    | .number digits long => return (Value.number digits long).render
    | .text s => return (Value.text s).render
    | .doubleQuoted s => return (Value.doubleQuoted s).render
    | .placeholder name => return name
    | _ => fail

/-- The rest of the statement that starts with the keyword `k`, or nothing if it is no
upkeep. -/
def upkeep? (k : String) : Option (Parser String) :=
  let generic := g.dialect = .generic
  let mysql := g.dialect = .mysql
  let postgres := g.dialect = .postgres
  match k with
  | "ANALYZE" => some g.analyze
  | "OPTIMIZE" => if generic then some g.optimize else none
  | "MSCK" => some repair
  | "CACHE" => some g.cache
  | "UNCACHE" => some uncache
  | "FLUSH" => some g.flush
  | "DECLARE" => some g.declare
  | "FETCH" => some fetch
  | "CLOSE" => some do
    if ← keyword? "ALL" then return "CLOSE ALL" else return "CLOSE " ++ (← ident).render
  | "COPY" => some g.copy
  | "UNLOAD" => some g.unload
  | "ASSERT" => some do
    let condition ← g.expr
    return s!"ASSERT {condition.render}" ++ (← clauseAfter "AS" (Expr.render <$> g.expr))
  | "PRAGMA" => some pragma
  | "ATTACH" => some do
    let database ← words ["DATABASE"]
    let file ← g.expr
    keyword "AS"
    return s!"ATTACH {database}{file.render} AS " ++ (← ident).render
  | "DETACH" => if generic then some do
      let database ← wordAfter ["DATABASE"]
      let present ← wordsAfter ["IF", "EXISTS"]
      return s!"DETACH{database}{present} " ++ (← ident).render
    else none
  | "INSTALL" => if generic then some do return "INSTALL " ++ (← ident).render else none
  | "LOAD" => if generic then some do return "LOAD " ++ (← ident).render else none
  | "LISTEN" => if postgres then some do return "LISTEN " ++ (← ident).render else none
  | "UNLISTEN" => if postgres then some do
      if ← symbol? "*" then return "UNLISTEN *" else return "UNLISTEN " ++ (← ident).render
    else none
  | "NOTIFY" => if postgres then some do
      let channel ← ident
      if ← symbol? "," then return s!"NOTIFY {channel.render}, '" ++ (← text g.dialect) ++ "'"
      else return s!"NOTIFY {channel.render}"
    else none
  | "LOCK" => if mysql then some do
      keyword "TABLES"
      return "LOCK TABLES " ++ commas (← commaList lockedTable)
    else none
  | "UNLOCK" => if mysql then some do
      keyword "TABLES"
      return "UNLOCK TABLES"
    else none
  | _ => none

end Grammar

end SqlSearch.Sql
