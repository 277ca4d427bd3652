import SqlSearch.Sql.Parser.Grammar

/-!
# Columns

Parser for the definitions of columns: a name, a type, and properties such as defaults and
constraints. They make up tables, and in one dialect also a kind of type.

## Main definitions

* `Parser.characteristics`, `Parser.referenceActions`: what constraints have in common
* `Grammar.sqlOption`: a named option
* `Grammar.columnDef`: the definition of a column

## Design

The expressions inside a definition are kept, because a type may hold definitions and an
expression may hold a type.
-/

namespace SqlSearch.Sql

open SqlSearch.Sql.Parser

namespace Parser

/-- What happens to rows that refer to a changed row. -/
def referenceAction : Parser String := do
  if ← keyword? "RESTRICT" then return "RESTRICT"
  else if ← keyword? "CASCADE" then return "CASCADE"
  else if ← keywords? ["SET", "NULL"] then return "SET NULL"
  else if ← keywords? ["NO", "ACTION"] then return "NO ACTION"
  else
    keywords ["SET", "DEFAULT"]
    return "SET DEFAULT"

/-- The actions of a reference, each with a blank in front. The one on removal is written
first. -/
def referenceActions : Parser String := do
  let action (event : String) : Parser (Option String) := do
    if ← keywords? ["ON", event] then
      return some (s!" ON {event} " ++ (← referenceAction))
    else return none
  let first ← action "DELETE"
  let second ← action "UPDATE"
  let third ← if first.isNone then action "DELETE" else pure none
  return (first.orElse fun _ => third).getD "" ++ second.getD ""

/-- When a constraint is checked. -/
structure Characteristics where
  /-- Whether it can be checked later, with a blank in front. -/
  deferrable : String := ""
  /-- When it is checked first, with a blank in front. -/
  initially : String := ""
  /-- Whether it is checked at all, with a blank in front. -/
  enforced : String := ""
  deriving DecidableEq, Repr

/-- When a constraint is checked, with a blank in front, or nothing. Each of the three
properties can be given once, in any order. -/
def characteristics : Parser String := do
  let c ← (iterate fun (c : Characteristics) => do
    if ← allow c.deferrable.isEmpty (keywords? ["NOT", "DEFERRABLE"]) then
      return some { c with deferrable := " NOT DEFERRABLE" }
    else if ← allow c.deferrable.isEmpty (keyword? "DEFERRABLE") then
      return some { c with deferrable := " DEFERRABLE" }
    else if ← allow c.initially.isEmpty (keyword? "INITIALLY") then
      let time ← oneOf ["DEFERRED", "IMMEDIATE"]
      return some { c with initially := " INITIALLY " ++ time }
    else if ← allow c.enforced.isEmpty (keyword? "ENFORCED") then
      return some { c with enforced := " ENFORCED" }
    else if ← allow c.enforced.isEmpty (keywords? ["NOT", "ENFORCED"]) then
      return some { c with enforced := " NOT ENFORCED" }
    else return none) {}
  return c.deferrable ++ c.initially ++ c.enforced

/-- The options of a sequence of numbers, each with a blank in front. -/
def sequenceOptions : Parser String := do
  let increment ← if ← keyword? "INCREMENT" then do
      let word ← wordAfter ["BY"]
      pure (" INCREMENT" ++ word ++ " " ++ (← number))
    else pure ""
  let low ← bound "MINVALUE"
  let high ← bound "MAXVALUE"
  let start ← if ← keyword? "START" then do
      let word ← wordAfter ["WITH"]
      pure (" START" ++ word ++ " " ++ (← number))
    else pure ""
  let cache ← if ← keyword? "CACHE" then do pure (" CACHE " ++ (← number)) else pure ""
  let cycle ← if ← keywords? ["NO", "CYCLE"] then pure " NO CYCLE" else wordAfter ["CYCLE"]
  return increment ++ low ++ high ++ start ++ cache ++ cycle
where
  /-- A bound, or the statement that there is none. -/
  bound (word : String) : Parser String := do
    if ← keyword? word then return s!" {word} " ++ (← number)
    else wordsAfter ["NO", word]

end Parser

namespace Grammar

variable (g : Grammar)

/-- A named option. One dialect also knows options that are no more than a word, a partition or
an order. -/
def sqlOption : Parser (List Piece) := do
  let k ← keywordAt 0
  if g.dialect = .generic ∧ k = "HEAP" then return [.text (← ident).render]
  else if g.dialect = .generic ∧ k = "PARTITION" then
    keyword k
    symbol "("
    let column ← ident
    keyword "RANGE"
    let side ← wordAfter ["LEFT", "RIGHT"]
    keywords ["FOR", "VALUES"]
    let values ← parens (commaList g.expr)
    symbol ")"
    return .text s!"PARTITION ({column.render} RANGE{side} FOR VALUES (" ::
      Piece.separated ", " (values.map fun e => [.operand e]) ++ [.text "))"]
  else if g.dialect = .generic ∧ k = "CLUSTERED" then return [.text (← clustered)]
  else
    let name ← ident
    symbol "="
    return [.text (name.render ++ " = "), .operand (← g.expr)]
where
  /-- How rows are kept in order. -/
  clustered : Parser String := do
    if ← keywords? ["CLUSTERED", "COLUMNSTORE", "INDEX", "ORDER"] then
      return "CLUSTERED COLUMNSTORE INDEX ORDER (" ++ joinIdents (← columnNames) ++ ")"
    else if ← keywords? ["CLUSTERED", "COLUMNSTORE", "INDEX"] then
      return "CLUSTERED COLUMNSTORE INDEX"
    else
      keywords ["CLUSTERED", "INDEX"]
      let columns ← parens (commaList do
        let name ← ident
        return name.render ++ (← wordAfter ["ASC", "DESC"]))
      return s!"CLUSTERED INDEX ({commas columns})"

/-- Named options in parentheses, of which there may be none. -/
def sqlOptions : Parser (List Piece) := do
  let options ← parens (commaListUntil ")" g.sqlOption)
  return Piece.separated ", " options

/-- What follows `GENERATED`, or nothing if it is no property that is known. -/
def generated? : Parser (Option (List Piece)) := do
  match ← choice? [["ALWAYS", "AS", "IDENTITY"], ["BY", "DEFAULT", "AS", "IDENTITY"]] with
  | some ks =>
    let options ← if ← symbol? "(" then do
        let options ← sequenceOptions
        symbol ")"
        pure (if options.isEmpty then "" else s!" ({options} )")
      else pure ""
    return some [.text ("GENERATED " ++ String.intercalate " " ks ++ options)]
  | none =>
    if ← keywords? ["ALWAYS", "AS"] then
      if ← symbol? "(" then
        let e ← g.expr
        symbol ")"
        let kept ← if ← keyword? "STORED" then pure " STORED"
          else if g.dialect = .postgres then fail
          else wordAfter ["VIRTUAL"]
        return some [.text "GENERATED ALWAYS AS (", .operand e, .text (")" ++ kept)]
      else return none
    else return none

/-- A property of a column, or nothing. A word that names a property in another dialect is
passed over. -/
def columnOption? : Parser (Option (List Piece)) := do
  let generic := g.dialect == .generic
  if ← keywords? ["CHARACTER", "SET"] then
    return some [.text ("CHARACTER SET " ++ (← path).render)]
  else if ← keywords? ["NOT", "NULL"] then return some [.text "NOT NULL"]
  else if ← keyword? "COMMENT" then
    return some [.text ("COMMENT " ++ (Value.text (← quotedText)).render)]
  else if ← keyword? "NULL" then return some [.text "NULL"]
  else if ← keyword? "DEFAULT" then return some [.text "DEFAULT ", .operand (← g.expr)]
  else if ← allow generic (keyword? "MATERIALIZED") then
    return some [.text "MATERIALIZED ", .operand (← g.expr)]
  else if ← allow generic (keyword? "ALIAS") then
    return some [.text "ALIAS ", .operand (← g.expr)]
  else if ← allow generic (keyword? "EPHEMERAL") then
    match (← remaining).head? with
    | some (.symbol s) =>
      if s = "," ∨ s = ")" then return some [.text "EPHEMERAL"]
      else return some [.text "EPHEMERAL ", .operand (← g.expr)]
    | _ => return some [.text "EPHEMERAL ", .operand (← g.expr)]
  else if ← keywords? ["PRIMARY", "KEY"] then
    return some [.text ("PRIMARY KEY" ++ (← characteristics))]
  else if ← keyword? "UNIQUE" then return some [.text ("UNIQUE" ++ (← characteristics))]
  else if ← keyword? "REFERENCES" then
    let table ← path
    let columns ← if ← atSymbol "(" then columnNames else pure []
    let actions ← referenceActions
    let listed := if columns.isEmpty then "" else s!" ({joinIdents columns})"
    return some [.text (s!"REFERENCES {table.render}{listed}{actions}" ++ (← characteristics))]
  else if ← keyword? "CHECK" then
    let e ← parens g.expr
    return some [.text "CHECK (", .operand e, .text ")"]
  else further
where
  /-- The properties of some dialects only. -/
  further : Parser (Option (List Piece)) := do
    let generic := g.dialect == .generic
    if (← keyword? "AUTO_INCREMENT") && g.dialect != .postgres then
      return some [.text "AUTO_INCREMENT"]
    if (← keyword? "AUTOINCREMENT") && generic then return some [.text "AUTOINCREMENT"]
    if (← keyword? "ASC") && generic then return some [.text "ASC"]
    if (← keyword? "DESC") && generic then return some [.text "DESC"]
    if (← keywords? ["ON", "UPDATE"]) && g.dialect != .postgres then
      return some [.text "ON UPDATE ", .operand (← g.expr)]
    if ← keyword? "GENERATED" then g.generated?
    else if ← allow generic (keyword? "OPTIONS") then
      return some (.text "OPTIONS(" :: (← g.sqlOptions) ++ [.text ")"])
    else
      if (← keyword? "AS") && g.dialect != .postgres then
        let e ← parens g.expr
        let kept ← wordAfter ["STORED", "VIRTUAL"]
        return some [.text "AS (", .operand e, .text (")" ++ kept)]
      if (← keyword? "IDENTITY") && generic then
        if ← symbol? "(" then
          let seed ← number
          symbol ","
          let increment ← number
          symbol ")"
          return some [.text s!"IDENTITY({seed}, {increment})"]
        else return some [.text "IDENTITY"]
      if ← allow generic (keywords? ["ON", "CONFLICT"]) then
        let choice ← oneOf ["ROLLBACK", "ABORT", "FAIL", "IGNORE", "REPLACE"]
        return some [.text ("ON CONFLICT " ++ choice)]
      else return none

/-- What has been read of a column behind its type. -/
structure ColumnTail where
  /-- The collation, with a blank in front. -/
  collation : String := ""
  /-- The properties, each with a blank in front, the last one first. -/
  options : List (List Piece) := []

/-- The definition of a column. A later collation takes the place of an earlier one. -/
def columnDef : Parser (List Piece) := do
  let name ← ident
  let t ← g.typeName
  let collation ← if ← keyword? "COLLATE" then do pure (" COLLATE " ++ (← path).render)
    else pure ""
  let tail ← (iterate fun (tail : ColumnTail) => do
    if ← keyword? "CONSTRAINT" then
      let name ← ident
      match ← g.columnOption? with
      | some option =>
        let named := .text s!" CONSTRAINT {name.render} " :: option
        return some { tail with options := named :: tail.options }
      | none => fail
    else match ← g.columnOption? with
      | some option =>
        return some { tail with options := (.text " " :: option) :: tail.options }
      | none =>
        if ← allow (g.dialect != .postgres) (keyword? "COLLATE") then
          return some { tail with collation := " COLLATE " ++ (← path).render }
        else return none) ({ collation } : ColumnTail)
  return .text (name.render ++ " ") :: t.pieces ++ .text tail.collation ::
    tail.options.reverse.flatten

end Grammar

end SqlSearch.Sql
