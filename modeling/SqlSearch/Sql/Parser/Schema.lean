import SqlSearch.Sql.Parser.Query

/-!
# Tables and their relatives

Parsers for the statements that make and remove tables, views, indexes, sequences and types.
All that is kept of them is their written form.

## Main definitions

* `Grammar.tableConstraint?`: a constraint of a table
* `Grammar.createTable`, `Grammar.createView`, `Grammar.createIndex`, `Grammar.createObject?`:
  what follows `CREATE` and the words for the kind of object
* `Grammar.dropObjects`: what follows `DROP` and the word for the kind of object
* `Grammar.truncate`: what follows `TRUNCATE`
-/

namespace SqlSearch.Sql

open SqlSearch.Sql.Parser

namespace Parser

/-- A word, a blank and the written form of what follows the word, with a blank in front, or
nothing. -/
def clauseAfter (word : String) (p : Parser String) : Parser String := do
  if ← keyword? word then return s!" {word} " ++ (← p) else return ""

/-- The group of machines that a statement is for, with a blank in front, or nothing. -/
def onCluster : Parser String := do
  if ← keywords? ["ON", "CLUSTER"] then return " ON CLUSTER " ++ (← ident).render
  else return ""

/-- Whether what depends on an object goes with it, with a blank in front, or nothing. -/
def dropBehavior : Parser String := wordAfter ["CASCADE", "RESTRICT"]

/-- A list of columns in parentheses, with a blank in front, or nothing. -/
def columnsAfter : Parser String := do
  if ← atSymbol "(" then return " (" ++ joinIdents (← columnNames) ++ ")" else return ""

/-- The word that comes next, as it is spelled. -/
def plainWord : Parser String := do
  match ← next with
  | .name ident _ => return ident.value
  | _ => fail

/-- The kind of an index, with a blank in front, or nothing. -/
def indexKind : Parser String := do
  if ← keyword? "USING" then return " USING " ++ (← oneOf ["BTREE", "HASH"]) else return ""

/-- The name of an index, with a blank in front, or nothing. -/
def indexName : Parser String := do return (← optional? ident).elim "" (" " ++ ·.render)

end Parser

namespace Grammar

variable (g : Grammar)

/-- Named options in parentheses behind a word, with a blank in front, or nothing. -/
def optionsAfter (word opening : String) : Parser String := do
  if ← keyword? word then
    let options := Piece.render (← g.sqlOptions)
    return if options.isEmpty then "" else s!" {word}{opening}{options})"
  else return ""

/-- Options of an index behind its columns, each with a blank in front. -/
def indexOptions : Parser String := do
  let options ← many do
    let kind ← indexKind
    if !kind.isEmpty then return some kind
    else if ← keyword? "COMMENT" then return some (" COMMENT '" ++ (← text g.dialect) ++ "'")
    else return none
  return String.join options

/-- The columns of a key, with what follows them. -/
def keyColumns : Parser String := do
  let columns ← columnNames
  let options ← g.indexOptions
  return s!" ({joinIdents columns}){options}" ++ (← characteristics)

/-- Whether missing values differ from each other, with a blank in front, or nothing. -/
def nullsDistinct : Parser String := do
  if ← keyword? "NULLS" then
    let negated ← wordAfter ["NOT"]
    keyword "DISTINCT"
    return s!" NULLS{negated} DISTINCT"
  else return ""

/-- A constraint of a table, or nothing. -/
def tableConstraint? : Parser (Option String) := do
  let name ← whenever (← keyword? "CONSTRAINT") ident
  let lead := name.elim "" fun name => s!"CONSTRAINT {name.render} "
  let indexed := g.dialect != .postgres
  if ← keyword? "UNIQUE" then
    let kind ← wordAfter ["KEY", "INDEX"]
    require (indexed || kind.isEmpty)
    let nulls ← nullsDistinct
    let index ← indexName
    let method ← indexKind
    return some (s!"{lead}UNIQUE{nulls}{kind}{index}{method}" ++ (← g.keyColumns))
  else if ← keyword? "PRIMARY" then
    keyword "KEY"
    let index ← indexName
    let method ← indexKind
    return some (s!"{lead}PRIMARY KEY{index}{method}" ++ (← g.keyColumns))
  else if ← keyword? "FOREIGN" then
    keyword "KEY"
    let columns ← columnNames
    keyword "REFERENCES"
    let table ← path
    let referred ← columnNames
    let actions ← referenceActions
    return some (s!"{lead}FOREIGN KEY ({joinIdents columns}) REFERENCES {table.render}" ++
      s!"({joinIdents referred}){actions}" ++ (← characteristics))
  else if ← keyword? "CHECK" then
    let e ← parens g.expr
    return some s!"{lead}CHECK ({e.render})"
  else if name.isSome then fail
  else
    let k ← keywordAt 0
    if indexed && (k == "INDEX" || k == "KEY") then
      keyword k
      let index ← if ← atKeyword ["USING"] then pure "" else indexName
      let method ← indexKind
      let columns ← columnNames
      return some s!"{k}{index}{method} ({joinIdents columns})"
    else if indexed && (k == "FULLTEXT" || k == "SPATIAL") then
      keyword k
      let kind ← wordAfter ["KEY", "INDEX"]
      let index ← indexName
      let columns ← columnNames
      return some s!"{k}{kind}{index} ({joinIdents columns})"
    else return none

/-- A column or a constraint of a table, and whether it is a constraint. -/
def tableElement : Parser (Bool × String) := do
  match ← g.tableConstraint? with
  | some constraint => return (true, constraint)
  | none =>
    match (← remaining).head? with
    | some (.name _ _) => return (false, Piece.render (← g.columnDef))
    | _ => fail

/-- The columns and constraints of a table in parentheses. The constraints are written last. -/
def tableElements : Parser String := do
  let elements ← parens (commaListUntil ")" g.tableElement)
  let written := fun constraint => elements.filterMap fun e =>
    if e.1 = constraint then some e.2 else none
  return commas (written false ++ written true)

/-- The comment on a table, with a blank in front, or nothing. -/
def tableComment : Parser String := do
  if ← keyword? "COMMENT" then
    let sign := if ← symbol? "=" then " =" else ""
    return s!" COMMENT{sign} '" ++ (← quotedText) ++ "'"
  else return ""

/-- How the rows of a table are kept: everything between the options of the table and its
character set, each part with a blank in front. -/
def tableLayout : Parser String := do
  let generic := g.dialect == .generic
  let key ← if ← allow generic (keywords? ["PRIMARY", "KEY"]) then do
      pure (" PRIMARY KEY " ++ (← g.expr).render)
    else pure ""
  let order ← if ← keywords? ["ORDER", "BY"] then
      if ← atSymbol "(" then do
        let keys ← parens (commaListUntil ")" g.expr)
        pure s!" ORDER BY ({commas (Expr.renderList keys)})"
      else do pure (" ORDER BY " ++ (← g.expr).render)
    else pure ""
  let partition ← if ← allow (g.dialect != .mysql) (keywords? ["PARTITION", "BY"]) then do
      pure (" PARTITION BY " ++ (← g.expr).render)
    else pure ""
  let cluster ← if ← allow generic (keywords? ["CLUSTER", "BY"]) then do
      pure (" CLUSTER BY " ++ joinIdents (← commaList ident))
    else pure ""
  let options ← if ← allow generic (keyword? "OPTIONS") then do
      pure (" OPTIONS(" ++ Piece.render (← g.sqlOptions) ++ ")")
    else pure ""
  return key ++ order ++ partition ++ cluster ++ options

/-- What happens to the rows of a table at the end of a transaction, with a blank in front, or
nothing. -/
def onCommit : Parser String := do
  if ← keywords? ["ON", "COMMIT"] then
    match ← choice? [["DELETE", "ROWS"], ["PRESERVE", "ROWS"], ["DROP"]] with
    | some ks => return " ON COMMIT " ++ String.intercalate " " ks
    | none => fail
  else return ""

/-- What follows `CREATE TABLE`; `lead` holds the words in front of `TABLE`. -/
def createTable (lead : String) : Parser String := do
  let missing ← words ["IF", "NOT", "EXISTS"]
  let name ← path
  let cluster ← onCluster
  let like ← if (← oneOf? ["LIKE", "ILIKE"]).isSome then optional? path else pure none
  let copied ← if ← keyword? "CLONE" then optional? path else pure none
  let elements ← if ← atSymbol "(" then g.tableElements else pure ""
  let rowid ← wordsAfter ["WITHOUT", "ROWID"]
  let partitioned ← if ← keywords? ["PARTITIONED", "BY"] then do
      let columns ← parens (commaList g.columnDef)
      pure s!" PARTITIONED BY ({commas (columns.map Piece.render)})"
    else pure ""
  let settings ← g.optionsAfter "WITH" " ("
  let properties ← g.optionsAfter "TBLPROPERTIES" " ("
  let engine ← if ← keyword? "ENGINE" then do
      symbol "="
      let name ← plainWord
      let parameters ← if ← atSymbol "(" then do
          pure ("(" ++ joinIdents (← parens (commaListUntil ")" ident)) ++ ")")
        else pure ""
      pure s!" ENGINE={name}{parameters}"
    else pure ""
  let increment ← if ← keyword? "AUTO_INCREMENT" then do
      let _ ← symbol? "="
      let n ← count
      pure s!" AUTO_INCREMENT {n}"
    else pure ""
  let layout ← g.tableLayout
  let charset ← if ← keywords? ["DEFAULT", "CHARSET"] then do
      symbol "="
      pure (" DEFAULT CHARSET=" ++ (← plainWord))
    else pure ""
  let collation ← if ← keyword? "COLLATE" then do
      symbol "="
      pure (" COLLATE=" ++ (← plainWord))
    else pure ""
  let ending ← onCommit
  let strict ← wordAfter ["STRICT"]
  let comment ← tableComment
  let source ← if ← keyword? "AS" then some <$> g.query
    else if ← allow (g.dialect == .mysql) (atKeyword ["SELECT"]) then some <$> g.query
    else pure none
  let body := if !elements.isEmpty then s!" ({elements})"
    else if source.isNone && like.isNone && copied.isNone then " ()"
    else ""
  return s!"CREATE {lead}TABLE {missing}{name.render}{cluster}{body}{rowid}" ++
    like.elim "" (" LIKE " ++ ·.render) ++ copied.elim "" (" CLONE " ++ ·.render) ++
      partitioned ++
    properties ++ settings ++ engine ++ comment ++ increment ++ layout ++ charset ++
      collation ++
    ending ++ strict ++ source.elim "" (" AS " ++ ·.render)

/-- A column of a view. -/
def viewColumn : Parser String := do
  let name ← ident
  if ← allow (g.dialect == .generic) (atKeyword ["OPTIONS", "COMMENT"]) then
    match ← g.columnOption? with
    | some option => return name.render ++ " " ++ Piece.render option
    | none => return name.render
  else return name.render

/-- What follows `CREATE VIEW`; `lead` holds the words in front of `VIEW`. -/
def createView (lead : String) : Parser String := do
  let generic := g.dialect == .generic
  let missing ← if generic then words ["IF", "NOT", "EXISTS"] else pure ""
  let name ← path
  let columns ← if ← atSymbol "(" then parens (commaListUntil ")" g.viewColumn) else pure []
  let settings ← g.optionsAfter "WITH" " ("
  let cluster ← if ← keyword? "CLUSTER" then do
      keyword "BY"
      let columns ← columnsAfter
      pure (if columns.isEmpty then "" else " CLUSTER BY" ++ columns)
    else pure ""
  let options ← if generic then g.optionsAfter "OPTIONS" "(" else pure ""
  let target ← if generic then clauseAfter "TO" (Path.render <$> path) else pure ""
  let comment ← if ← allow generic (keyword? "COMMENT") then do
      symbol "="
      pure (" COMMENT = " ++ (Value.text (← quotedText)).render)
    else pure ""
  keyword "AS"
  let q ← g.query
  let unbound ← if generic then wordsAfter ["WITH", "NO", "SCHEMA", "BINDING"] else pure ""
  let listed := if columns.isEmpty then "" else s!" ({commas columns})"
  let settings := if options.isEmpty then settings else ""
  return s!"CREATE {lead}VIEW {missing}{name.render}{target}{comment}{settings}{listed}" ++
    s!"{cluster}{options} AS {q.render}{unbound}"

/-- What follows `CREATE INDEX`; `lead` holds the words in front of `INDEX`. -/
def createIndex (lead : String) : Parser String := do
  let concurrently ← words ["CONCURRENTLY"]
  let missing ← words ["IF", "NOT", "EXISTS"]
  let name ← if ← allow missing.isEmpty (keyword? "ON") then pure "" else do
    let name ← path
    keyword "ON"
    pure (name.render ++ " ")
  let table ← path
  let method ← whenever (← keyword? "USING") ident
  let columns ← parens (commaList g.orderKey)
  let included ← if ← keyword? "INCLUDE" then columnNames else pure []
  let nulls ← nullsDistinct
  let settings ← if ← allow (g.dialect != .mysql) (keyword? "WITH") then
      parens (commaList g.expr)
    else pure []
  let condition ← whenever (← keyword? "WHERE") g.expr
  let access := method.elim "" fun m => s!" USING {m.render} "
  let keys := String.intercalate "," (columns.map OrderKey.render)
  let further := if included.isEmpty then "" else
    " INCLUDE (" ++ String.intercalate "," (included.map Ident.render) ++ ")"
  let parameters :=
    if settings.isEmpty then "" else s!" WITH ({commas (Expr.renderList settings)})"
  return s!"CREATE {lead}INDEX {concurrently}{missing}{name}ON {table.render}{access}" ++
    s!"({keys}){further}" ++ nulls ++ parameters ++ optionalClause " WHERE " condition

/-- What follows `CREATE SCHEMA`. -/
def createSchema : Parser String := do
  let missing ← words ["IF", "NOT", "EXISTS"]
  if ← keyword? "AUTHORIZATION" then
    return s!"CREATE SCHEMA {missing}AUTHORIZATION " ++ (← ident).render
  else
    let name ← path
    return s!"CREATE SCHEMA {missing}{name.render}" ++
      (← clauseAfter "AUTHORIZATION" (Ident.render <$> ident))

/-- What follows `CREATE DATABASE`. Of two places of one kind the later counts. -/
def createDatabase : Parser String := do
  let missing ← words ["IF", "NOT", "EXISTS"]
  let name ← path
  let places ← many do
    match ← oneOf? ["LOCATION", "MANAGEDLOCATION"] with
    | some word => return some (word, s!" {word} '" ++ (← text g.dialect) ++ "'")
    | none => return none
  let last := fun word => (places.reverse.lookup word).getD ""
  return s!"CREATE DATABASE {missing}{name.render}" ++ last "LOCATION" ++
    last "MANAGEDLOCATION"

/-- What follows `CREATE SEQUENCE`; `lead` holds the words in front of `SEQUENCE`. -/
def createSequence (lead : String) : Parser String := do
  let missing ← words ["IF", "NOT", "EXISTS"]
  let name ← path
  let type ← clauseAfter "AS" (TypeName.text <$> g.typeName)
  let options ← sequenceOptions
  let owner ← if ← keywords? ["OWNED", "BY"] then
      if ← keyword? "NONE" then pure " OWNED BY NONE" else do
        pure (" OWNED BY " ++ (← path).render)
    else pure ""
  return s!"CREATE {lead}SEQUENCE {missing}{name.render}{type}{options}{owner}"

/-- A field of a type. -/
def typeField : Parser String := do
  let name ← ident
  let type ← g.typeName
  return s!"{name.render} {type.text}" ++ (← clauseAfter "COLLATE" (Path.render <$> path))

/-- What follows `CREATE TYPE`. A comma may stand behind the last of its fields. -/
def createType : Parser String := do
  let name ← path
  keyword "AS"
  if ← allow (g.dialect == .postgres) (keyword? "ENUM") then
    let labels ← parens (commaListUntil ")" ident)
    return s!"CREATE TYPE {name.render} AS ENUM ({joinIdents labels})"
  let fields ← if ← symbol? "(" then do
      let fields ← if ← atSymbol ")" then pure [] else do
        let first ← g.typeField
        let rest ← many do
          if ← symbol? "," then
            if ← atSymbol ")" then return none else return some (← g.typeField)
          else return none
        pure (first :: rest)
      symbol ")"
      pure fields
    else pure []
  return s!"CREATE TYPE {name.render} AS ({commas fields})"

/-- What follows `CREATE EXTENSION`. -/
def createExtension : Parser String := do
  let missing ← words ["IF", "NOT", "EXISTS"]
  let name ← ident
  let settings ← if ← keyword? "WITH" then do
      let schema ← clauseAfter "SCHEMA" (Ident.render <$> ident)
      let version ← clauseAfter "VERSION" (Ident.render <$> ident)
      pure (schema ++ version ++ (← wordAfter ["CASCADE"]))
    else pure ""
  let lead := if settings.isEmpty then "" else " WITH"
  return s!"CREATE EXTENSION {missing}{name.render}{lead}{settings}"

/-- What follows `CREATE VIRTUAL`. -/
def createVirtualTable : Parser String := do
  keyword "TABLE"
  let missing ← words ["IF", "NOT", "EXISTS"]
  let name ← path
  keyword "USING"
  let method ← ident
  return s!"CREATE VIRTUAL TABLE {missing}{name.render} USING {method.render}" ++
    (← columnsAfter)

/-- What follows `CREATE` for objects that cannot be replaced, or nothing if it is none of
them. -/
def createObject? (temporary : String) : Parser (Option String) := do
  if ← keyword? "EXTENSION" then return some (← createExtension)
  else if ← keyword? "INDEX" then return some (← g.createIndex "")
  else if ← keywords? ["UNIQUE", "INDEX"] then return some (← g.createIndex "UNIQUE ")
  else if ← keyword? "VIRTUAL" then return some (← createVirtualTable)
  else if ← keyword? "SCHEMA" then return some (← createSchema)
  else if ← keyword? "DATABASE" then return some (← g.createDatabase)
  else if ← keyword? "SEQUENCE" then return some (← g.createSequence temporary)
  else if ← keyword? "TYPE" then return some (← g.createType)
  else return none

/-- What follows `DROP` and the word for the kind of object; `temporary` stands between the
two. -/
def dropObjects (temporary kind : String) : Parser String := do
  let present ← wordsAfter ["IF", "EXISTS"]
  let names ← commaList path
  let cascade ← wordAfter ["CASCADE"]
  let restrict ← wordAfter ["RESTRICT"]
  let purge ← wordAfter ["PURGE"]
  require (cascade.isEmpty || restrict.isEmpty)
  require (kind != "ROLE" || (cascade ++ restrict ++ purge).isEmpty)
  return s!"DROP {temporary}{kind}{present} {commas (names.map Path.render)}" ++ cascade ++
    restrict ++ purge

/-- What follows `TRUNCATE`. -/
def truncate : Parser Statement := do
  let table ← words ["TABLE"]
  let only ← words ["ONLY"]
  let names ← commaList path
  let partition ← if ← keyword? "PARTITION" then do
      let es ← parens (commaList g.expr)
      pure s!" PARTITION ({commas (Expr.renderList es)})"
    else pure ""
  let options ← if g.dialect = .mysql then pure "" else do
    let identity ← choice? [["RESTART", "IDENTITY"], ["CONTINUE", "IDENTITY"]]
    pure (identity.elim "" (" " ++ String.intercalate " " ·) ++ (← dropBehavior))
  let cluster ← onCluster
  return .other
    s!"TRUNCATE {table}{only}{commas (names.map Path.render)}{options}{partition}{cluster}"

end Grammar

end SqlSearch.Sql
