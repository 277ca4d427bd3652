import SqlSearch.Sql.Parser.Schema

/-!
# Changes of tables

Parsers for the statements that change a table, a view or an index that is there already. All
that is kept of them is their written form.

## Main definitions

* `Grammar.tableChange`: one change of a table
* `Grammar.alterTable`, `Grammar.alterView`, `Grammar.alterIndex`: what follows `ALTER` and the
  word for the kind of object
-/

namespace SqlSearch.Sql

open SqlSearch.Sql.Parser

namespace Parser

/-- The owner of an object. -/
def owner : Parser String := do
  match ← oneOf? ["CURRENT_USER", "CURRENT_ROLE", "SESSION_USER"] with
  | some word => return word
  | none => return (← ident).render

end Parser

namespace Grammar

variable (g : Grammar)

/-- The place of a column among the others, with a blank in front, or nothing. -/
def columnPosition : Parser String := do
  if g.dialect = .postgres then return ""
  else if ← keyword? "FIRST" then return " FIRST"
  else clauseAfter "AFTER" (Ident.render <$> ident)

/-- The type and the properties of a column, and its place among the others. -/
def columnForm : Parser String := do
  let type ← g.typeName
  let options ← many do
    return (← g.columnOption?).map fun option => " " ++ Piece.render option
  return type.text ++ String.join options ++ (← g.columnPosition)

/-- Expressions in parentheses. -/
def exprsInParens : Parser String := do
  return "(" ++ commas (Expr.renderList (← parens (commaList g.expr))) ++ ")"

/-- A change of one column. -/
def alterColumn : Parser String := do
  let name ← ident
  let postgres := g.dialect == .postgres
  let change ← if ← keywords? ["SET", "NOT", "NULL"] then pure "SET NOT NULL"
    else if ← keywords? ["DROP", "NOT", "NULL"] then pure "DROP NOT NULL"
    else if ← keywords? ["SET", "DEFAULT"] then do pure ("SET DEFAULT " ++ (← g.expr).render)
    else if ← keywords? ["DROP", "DEFAULT"] then pure "DROP DEFAULT"
    else if ← keywords? ["SET", "DATA", "TYPE"] then setType postgres
    else if ← allow postgres (keyword? "TYPE") then setType postgres
    else do
      keywords ["ADD", "GENERATED"]
      let time ← choice? [["ALWAYS"], ["BY", "DEFAULT"]]
      keywords ["AS", "IDENTITY"]
      let options ← if ← symbol? "(" then do
          let options ← sequenceOptions
          symbol ")"
          pure s!" ({options} )"
        else pure ""
      let when := time.elim "" (" " ++ String.intercalate " " ·)
      pure s!"ADD GENERATED{when} AS IDENTITY{options}"
  return s!"ALTER COLUMN {name.render} {change}"
where
  /-- A new type for a column, possibly with the values it is made from. -/
  setType (computed : Bool) : Parser String := do
    let type ← g.typeName
    let values ← if computed then clauseAfter "USING" (Expr.render <$> g.expr) else pure ""
    return s!"SET DATA TYPE {type.text}{values}"

/-- What follows `ADD` in a change of a table. -/
def addition : Parser String := do
  match ← g.tableConstraint? with
  | some constraint => return "ADD " ++ constraint
  | none =>
    let missing ← wordsAfter ["IF", "NOT", "EXISTS"]
    let partitions ← many do
      if ← keyword? "PARTITION" then return some (" PARTITION " ++ (← g.exprsInParens))
      else return none
    if !partitions.isEmpty then return s!"ADD{missing}" ++ String.join partitions
    else
      let column ← wordAfter ["COLUMN"]
      let missing ← if g.dialect = .mysql then pure "" else do
        let later ← wordsAfter ["IF", "NOT", "EXISTS"]
        pure (if later.isEmpty then missing else later)
      let definition ← g.columnDef
      return s!"ADD{column}{missing} " ++ Piece.render definition ++ (← g.columnPosition)

/-- What follows `RENAME` in a change of a table. -/
def nameChange : Parser String := do
  if ← allow (g.dialect == .postgres) (keyword? "CONSTRAINT") then
    let old ← ident
    keyword "TO"
    return s!"RENAME CONSTRAINT {old.render} TO " ++ (← ident).render
  else if ← keyword? "TO" then return "RENAME TO " ++ (← path).render
  else
    let _ ← keyword? "COLUMN"
    let old ← ident
    keyword "TO"
    return s!"RENAME COLUMN {old.render} TO " ++ (← ident).render

/-- What follows `DROP` in a change of a table. -/
def removal : Parser String := do
  if ← keywords? ["IF", "EXISTS", "PARTITION"] then
    return "DROP IF EXISTS PARTITION " ++ (← g.exprsInParens)
  else if ← keyword? "PARTITION" then return "DROP PARTITION " ++ (← g.exprsInParens)
  else if ← keyword? "CONSTRAINT" then
    let present ← words ["IF", "EXISTS"]
    let name ← ident
    return s!"DROP CONSTRAINT {present}{name.render}" ++ (← dropBehavior)
  else
    if (← keywords? ["PRIMARY", "KEY"]) && g.dialect != .postgres then
      return "DROP PRIMARY KEY"
    if (← keyword? "PROJECTION") && g.dialect == .generic then
      let present ← wordsAfter ["IF", "EXISTS"]
      return s!"DROP PROJECTION{present} " ++ (← ident).render
    if ← keywords? ["CLUSTERING", "KEY"] then return "DROP CLUSTERING KEY"
    else
      let _ ← keyword? "COLUMN"
      let present ← words ["IF", "EXISTS"]
      let name ← ident
      return s!"DROP COLUMN {present}{name.render}" ++ (← dropBehavior)

/-- The rules and triggers of a table that are turned on and off, or nothing. -/
def switch? : Parser (Option String) := do
  let turn (word : String) (forms : List (List String)) : Parser (Option String) := do
    if ← keywords? ["ROW", "LEVEL", "SECURITY"] then return some s!"{word} ROW LEVEL SECURITY"
    else match ← choice? forms with
      | some ks => return some (String.intercalate " " (word :: ks) ++ " " ++ (← ident).render)
      | none => fail
  if ← keyword? "DISABLE" then turn "DISABLE" [["RULE"], ["TRIGGER"]]
  else if ← keyword? "ENABLE" then
    turn "ENABLE" [["ALWAYS", "RULE"], ["ALWAYS", "TRIGGER"], ["REPLICA", "RULE"],
      ["REPLICA", "TRIGGER"], ["RULE"], ["TRIGGER"]]
  else return none

/-- A part of a table. -/
def partOrPartition : Parser String := do
  let kind ← oneOf ["PART", "PARTITION"]
  return kind ++ " " ++ (← g.expr).render

/-- A change of a table. -/
def tableChange : Parser String := do
  let generic := g.dialect == .generic
  if ← keyword? "ADD" then g.addition
  else if ← keyword? "RENAME" then g.nameChange
  else if let some change ← switch? then return change
  else if ← keyword? "DROP" then g.removal
  else if ← keyword? "PARTITION" then
    let old ← g.exprsInParens
    keywords ["RENAME", "TO", "PARTITION"]
    return s!"PARTITION {old} RENAME TO PARTITION " ++ (← g.exprsInParens)
  else if ← keyword? "CHANGE" then
    let _ ← keyword? "COLUMN"
    let old ← ident
    let new ← ident
    return s!"CHANGE COLUMN {old.render} {new.render} " ++ (← g.columnForm)
  else if ← keyword? "MODIFY" then
    let _ ← keyword? "COLUMN"
    let name ← ident
    return s!"MODIFY COLUMN {name.render} " ++ (← g.columnForm)
  else if ← keyword? "ALTER" then
    let _ ← keyword? "COLUMN"
    g.alterColumn
  else if ← keyword? "SWAP" then
    keyword "WITH"
    return "SWAP WITH " ++ (← path).render
  else if ← allow (g.dialect != .mysql) (keywords? ["OWNER", "TO"]) then
    return "OWNER TO " ++ (← owner)
  else if ← allow generic (keyword? "FREEZE") then
    let part ← g.partOrPartition
    let name ← if ← keyword? "WITH" then do
        keyword "NAME"
        pure (" WITH NAME " ++ (← ident).render)
      else pure ""
    return s!"FREEZE {part}{name}"
  else if ← allow generic (atKeyword ["ATTACH", "DETACH", "UNFREEZE"]) then
    let word ← oneOf ["ATTACH", "DETACH", "UNFREEZE"]
    return word ++ " " ++ (← g.partOrPartition)
  else if ← keywords? ["CLUSTER", "BY"] then return "CLUSTER BY " ++ (← g.exprsInParens)
  else if ← keywords? ["SUSPEND", "RECLUSTER"] then return "SUSPEND RECLUSTER"
  else if ← keywords? ["RESUME", "RECLUSTER"] then return "RESUME RECLUSTER"
  else
    keywords ["SET", "TBLPROPERTIES"]
    let properties := Piece.render (← g.sqlOptions)
    require !properties.isEmpty
    return s!"SET TBLPROPERTIES({properties})"

/-- What follows `ALTER TABLE`. -/
def alterTable : Parser String := do
  let present ← words ["IF", "EXISTS"]
  let only ← words ["ONLY"]
  let name ← path
  let cluster ← onCluster
  let changes ← commaList g.tableChange
  let place ← match ← choice? [["LOCATION"], ["SET", "LOCATION"]] with
    | some ks => do pure (" " ++ String.intercalate " " ks ++ " " ++ (← ident).render)
    | none => pure ""
  return s!"ALTER TABLE {present}{only}{name.render}{cluster} {commas changes}{place}"

/-- What follows `ALTER VIEW`. -/
def alterView : Parser String := do
  let name ← path
  let columns ← columnsAfter
  let settings ← g.optionsAfter "WITH" " ("
  keyword "AS"
  let q ← g.query
  return s!"ALTER VIEW {name.render}{settings}{columns} AS {q.render}"

/-- What follows `ALTER INDEX`. -/
def alterIndex : Parser String := do
  let name ← path
  keywords ["RENAME", "TO"]
  return s!"ALTER INDEX {name.render} RENAME TO " ++ (← path).render

end Grammar

end SqlSearch.Sql
