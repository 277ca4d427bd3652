import SqlSearch.Sql.Parser.Schema

/-!
# Routines

Parsers for the statements that make and remove functions, procedures, macros and triggers. All
that is kept of them is their written form.

## Main definitions

* `Grammar.createFunction`, `Grammar.createTrigger`, `Grammar.createMacro`,
  `Grammar.createProcedure`: what follows `CREATE` and the word for the kind of routine
* `Grammar.dropRoutine`, `Grammar.dropFromTable`: what follows `DROP` and that word
* `Grammar.statements`: the statements of a text or of a procedure
-/

namespace SqlSearch.Sql

open SqlSearch.Sql.Parser

namespace Grammar

variable (g : Grammar)

/-- Statements with semicolons between them. Reading also stops at a word `END` behind a
statement. -/
def statements (statement : Parser Statement) : Parser (List Statement) := do
  let found ← (iterate fun (acc : List Statement) => do
    let delimiters ← many do whenever (← symbol? ";") (pure ())
    match ← remaining with
    | [] => return none
    | token :: _ =>
      if acc.isEmpty || !delimiters.isEmpty then return some ((← statement) :: acc)
      else if token.keyword = "END" then return none
      else fail) []
  return found.reverse

/-- A parameter of a function. What reads like a type of one's own is its name. -/
def parameter : Parser String := do
  let mode := (← oneOf? ["IN", "OUT", "INOUT"]).elim "" (· ++ " ")
  let front := (← remaining).head?
  let type ← g.typeName
  let typed ← match type.kind, front with
    | .custom, some (.name name _) => do pure (name.render ++ " " ++ (← g.typeName).text)
    | _, _ => pure type.text
  let given ← if ← keyword? "DEFAULT" then pure true else symbol? "="
  let value ← whenever given g.expr
  return mode ++ typed ++ optionalClause " = " value

/-- A function by its name and possibly its parameters. -/
def routineName : Parser String := do
  let name ← path
  let parameters ← if ← atSymbol "(" then parens (commaListUntil ")" g.parameter) else pure []
  return name.render ++ if parameters.isEmpty then "" else s!"({commas parameters})"

/-- The parts of a function behind its parameters, each with a blank in front. -/
structure FunctionParts where
  /-- The language it is written in. -/
  language : String := ""
  /-- What its value depends on. -/
  behavior : String := ""
  /-- What it does about missing values. -/
  onNull : String := ""
  /-- Whether it can be run in parallel. -/
  parallel : String := ""
  /-- What it does. -/
  body : String := ""

/-- The text of a function. -/
def functionText : Parser String := do
  match (← remaining).head? with
  | some (.literal (.dollar tag value)) =>
    let _ ← next
    return (Value.dollar tag value).render
  | _ => return (Value.text (← text g.dialect)).render

/-- Reads one more part of a function that has not been read before. -/
def functionPart? (f : FunctionParts) : Parser (Option FunctionParts) := do
  if ← keyword? "AS" then
    require f.body.isEmpty
    return some { f with body := " AS " ++ (← g.functionText) }
  else if ← keyword? "LANGUAGE" then
    require f.language.isEmpty
    return some { f with language := " LANGUAGE " ++ (← ident).render }
  else if let some word ← oneOf? ["IMMUTABLE", "STABLE", "VOLATILE"] then
    require f.behavior.isEmpty
    return some { f with behavior := " " ++ word }
  else if let some ks ← choice? [["CALLED", "ON", "NULL", "INPUT"],
      ["RETURNS", "NULL", "ON", "NULL", "INPUT"], ["STRICT"]] then
    require f.onNull.isEmpty
    return some { f with onNull := " " ++ String.intercalate " " ks }
  else if ← keyword? "PARALLEL" then
    require f.parallel.isEmpty
    return some { f with parallel :=
      " PARALLEL " ++ (← oneOf ["UNSAFE", "RESTRICTED", "SAFE"]) }
  else if ← keyword? "RETURN" then
    require f.body.isEmpty
    return some { f with body := " RETURN " ++ (← g.expr).render }
  else return none

/-- What follows `CREATE FUNCTION`; `lead` holds the words in front of `FUNCTION`. -/
def createFunction (lead : String) : Parser String := do
  require (g.dialect != .mysql)
  let name ← path
  let parameters ← parens (commaListUntil ")" g.parameter)
  let result ← clauseAfter "RETURNS" (TypeName.text <$> g.typeName)
  let f ← iterate g.functionPart? {}
  return s!"CREATE {lead}FUNCTION {name.render}({commas parameters}){result}" ++ f.language ++
    f.behavior ++ f.onNull ++ f.parallel ++ f.body

/-- What a trigger waits for. -/
def triggerEvent : Parser String := do
  let event ← oneOf ["INSERT", "UPDATE", "DELETE", "TRUNCATE"]
  if ← allow (event == "UPDATE") (keyword? "OF") then
    return "UPDATE OF " ++ joinIdents (← commaList ident)
  else return event

/-- A name for the rows before or after a change, or nothing. -/
def transition? : Parser (Option String) := do
  match ← choice? [["OLD", "TABLE"], ["NEW", "TABLE"]] with
  | some ks =>
    let word ← wordAfter ["AS"]
    return some (String.intercalate " " ks ++ word ++ " " ++ (← path).render)
  | none => return none

/-- What follows `CREATE TRIGGER`; `lead` holds the words in front of `TRIGGER`. -/
def createTrigger (lead : String) : Parser String := do
  require (g.dialect != .mysql)
  let name ← path
  let time ← if ← keyword? "INSTEAD" then do
      keyword "OF"
      pure "INSTEAD OF"
    else oneOf ["BEFORE", "AFTER"]
  let first ← triggerEvent
  let rest ← many do whenever (← keyword? "OR") triggerEvent
  keyword "ON"
  let table ← path
  let source ← if ← keyword? "FROM" then optional? path else pure none
  let checked ← characteristics
  let named ← if ← keyword? "REFERENCING" then many transition? else pure []
  keyword "FOR"
  let each ← words ["EACH"]
  let object ← oneOf ["ROW", "STATEMENT"]
  let condition ← whenever (← keyword? "WHEN") g.expr
  keyword "EXECUTE"
  let kind ← oneOf ["FUNCTION", "PROCEDURE"]
  let routine ← g.routineName
  let events := String.intercalate " OR " (first :: rest)
  let referring :=
    if named.isEmpty then "" else " REFERENCING " ++ String.intercalate " " named
  return s!"CREATE {lead}TRIGGER {name.render} {time} {events} ON {table.render}" ++
    source.elim "" (" FROM " ++ ·.render) ++ checked ++ referring ++ s!" FOR {each}{object}" ++
    optionalClause " WHEN " condition ++ s!" EXECUTE {kind} {routine}"

/-- What follows `CREATE MACRO`; `lead` holds the words in front of `MACRO`. -/
def createMacro (lead : String) : Parser String := do
  require (g.dialect == .generic)
  let name ← path
  let parameters ← parens (commaListUntil ")" do
    let name ← ident
    let given ← if ← symbol? ":=" then pure true else symbol? "=>"
    return name.render ++ optionalClause " := " (← whenever given g.expr))
  keyword "AS"
  let listed := if parameters.isEmpty then "" else s!"({commas parameters})"
  let meaning ← if ← keyword? "TABLE" then do pure ("TABLE " ++ (← g.query).render)
    else do pure (← g.expr).render
  return s!"CREATE {lead}MACRO {name.render}{listed} AS {meaning}"

/-- What follows `CREATE PROCEDURE`; `lead` holds the words in front of `PROCEDURE`. -/
def createProcedure (lead : String) : Parser String := do
  let name ← path
  let parameters ← if ← atSymbol "(" then parens (commaListUntil ")" do
      let name ← ident
      return name.render ++ " " ++ (← g.typeName).text)
    else pure []
  keywords ["AS", "BEGIN"]
  let body ← statements g.statement
  keyword "END"
  let listed := if parameters.isEmpty then "" else s!" ({commas parameters})"
  return s!"CREATE {lead}PROCEDURE {name.render}{listed} AS BEGIN " ++
    String.intercalate "; " (body.map Statement.render) ++ " END"

/-- What follows `DROP FUNCTION` and `DROP PROCEDURE`. -/
def dropRoutine (kind : String) : Parser String := do
  let present ← wordsAfter ["IF", "EXISTS"]
  let names ← commaList g.routineName
  return s!"DROP {kind}{present} {commas names}" ++ (← dropBehavior)

/-- What follows `DROP TRIGGER` and `DROP POLICY`. -/
def dropFromTable (kind : String) (name : Parser String) : Parser String := do
  let present ← wordsAfter ["IF", "EXISTS"]
  let name ← name
  keyword "ON"
  let table ← path
  return s!"DROP {kind}{present} {name} ON {table.render}" ++ (← dropBehavior)

end Grammar

end SqlSearch.Sql
