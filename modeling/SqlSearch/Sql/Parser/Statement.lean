import SqlSearch.Sql.Lexer
import SqlSearch.Sql.Parser.Change
import SqlSearch.Sql.Parser.Privilege
import SqlSearch.Sql.Parser.Routine
import SqlSearch.Sql.Parser.Session
import SqlSearch.Sql.Parser.Upkeep

/-!
# Statements

Parser for statements, and the parser for a whole text.

## Main definitions

* `Grammar.parseStatement`: a statement
* `Grammar.ofDepth`: the grammar that allows a given depth of nesting
* `parseStatements`: the statements of a text
-/

namespace SqlSearch.Sql

open SqlSearch.Sql.Parser

namespace Grammar

variable (g : Grammar)

/-- What follows `CREATE`. The words in front of the kind of object are read for every kind,
and written for those that they can change. -/
def create : Parser Statement := do
  let replace ← words ["OR", "REPLACE"]
  let alteration ← words ["OR", "ALTER"]
  let here ← words ["LOCAL"]
  let everywhere ← words ["GLOBAL"]
  let transient ← words ["TRANSIENT"]
  let temporary := if (← oneOf? ["TEMP", "TEMPORARY"]).isSome then "TEMPORARY " else ""
  let reach := if everywhere.isEmpty then here else everywhere
  if ← keyword? "TABLE" then
    return .other (← g.createTable (replace ++ reach ++ temporary ++ transient))
  else if ← atKeyword ["MATERIALIZED", "VIEW"] then
    let materialized ← words ["MATERIALIZED"]
    keyword "VIEW"
    return .other (← g.createView (replace ++ materialized ++ temporary))
  else if ← keyword? "POLICY" then return .other (← g.createPolicy)
  else if ← keyword? "FUNCTION" then return .other (← g.createFunction (replace ++ temporary))
  else if ← keyword? "TRIGGER" then return .other (← g.createTrigger replace)
  else if ← keywords? ["CONSTRAINT", "TRIGGER"] then
    return .other (← g.createTrigger (replace ++ "CONSTRAINT "))
  else if ← keyword? "MACRO" then return .other (← g.createMacro (replace ++ temporary))
  else if ← keyword? "SECRET" then return .other (← createSecret (replace ++ temporary))
  else if !replace.isEmpty then fail
  else if ← keyword? "ROLE" then return .other (← g.createRole)
  else if ← keyword? "PROCEDURE" then return .other (← g.createProcedure alteration)
  else match ← g.createObject? temporary with
    | some written => return .other written
    | none => fail

/-- What follows `DROP`. -/
def drop : Parser Statement := do
  let temporary ← if g.dialect = .postgres then pure "" else words ["TEMPORARY"]
  match ← oneOf ["TABLE", "VIEW", "INDEX", "ROLE", "SCHEMA", "DATABASE", "SEQUENCE", "STAGE",
    "TYPE", "FUNCTION", "POLICY", "PROCEDURE", "SECRET", "TRIGGER"] with
  | "FUNCTION" => .other <$> g.dropRoutine "FUNCTION"
  | "PROCEDURE" => .other <$> g.dropRoutine "PROCEDURE"
  | "POLICY" => .other <$> dropFromTable "POLICY" (Ident.render <$> ident)
  | "SECRET" => .other <$> dropSecret temporary
  | "TRIGGER" =>
    require (g.dialect != .mysql)
    .other <$> dropFromTable "TRIGGER" (Path.render <$> path)
  | kind => .other <$> dropObjects temporary kind

/-- What follows the keyword `k` at the start of a statement. -/
def command (k : String) : Parser Statement :=
  match k with
  | "UPDATE" => g.update
  | "INSERT" => g.insert "INSERT"
  | "REPLACE" => if g.dialect = .postgres then fail else g.insert "REPLACE"
  | "DELETE" => g.delete
  | "MERGE" => g.merge
  | "CREATE" => g.create
  | "DROP" => g.drop
  | "ALTER" => g.alter
  | "TRUNCATE" => g.truncate
  | "BEGIN" => g.begin
  | "START" => startTransaction
  | "COMMIT" => commit
  | "END" => commit
  | "ROLLBACK" => rollback
  | "SAVEPOINT" => do return .other ("SAVEPOINT " ++ (← ident).render)
  | "RELEASE" => do
    let _ ← keyword? "SAVEPOINT"
    return .other ("RELEASE SAVEPOINT " ++ (← ident).render)
  | "SHOW" => g.showStatement
  | "EXPLAIN" => g.explain "EXPLAIN"
  | "DESCRIBE" => g.explain "DESCRIBE"
  | "DESC" => g.explain "DESC"
  | "USE" => do return .other ("USE " ++ (← path).render)
  | "SET" => g.set
  | "GRANT" => grant
  | "REVOKE" => revoke
  | "CALL" => g.callStatement
  | "PREPARE" => g.prepare
  | "EXECUTE" => g.execute
  | "EXEC" => g.execute
  | "DEALLOCATE" => do
    let lead ← words ["PREPARE"]
    return .other ("DEALLOCATE " ++ lead ++ (← ident).render)
  | "KILL" => g.kill
  | "COMMENT" => if g.dialect = .mysql then fail else g.comment
  | "DISCARD" => do
    let what ← oneOf ["ALL", "PLANS", "SEQUENCES", "TEMP", "TEMPORARY"]
    return .other ("DISCARD " ++ if what = "TEMPORARY" then "TEMP" else what)
  | _ => match g.upkeep? k with
    | some rest => .other <$> rest
    | none => fail

/-- A statement. -/
def parseStatement : Parser Statement := do
  match ← remaining with
  | .symbol "(" :: _ => .query <$> g.query
  | .name _ k :: _ =>
    if ["SELECT", "WITH", "VALUES"].contains k then .query <$> g.query
    else
      let _ ← next
      g.command k
  | _ => fail

/-- The grammar that allows a given depth of nesting. -/
def ofDepth (dialect : Dialect) (hierarchical : Bool) : Nat → Grammar
  | 0 => lowest dialect hierarchical
  | depth + 1 =>
    let g := ofDepth dialect hierarchical depth
    { dialect
      hierarchical
      subexpr := g.parseSubexpr
      operand := g.parseOperand
      relationship := fun tokens => (ofDepth dialect true depth).parseSubexpr 0 tokens
      openType := g.parseType
      relation := g.parseRelation
      query := g.parseQuery
      statement := g.parseStatement }

end Grammar

/-- How deeply statements, queries and expressions can be nested. -/
def maxDepth : Nat := 50

/-- The statements of a text, or nothing if it is not SQL. -/
def parseStatements (dialect : Dialect) (sql : String) : Option (List Statement) := do
  let tokens ← tokenize dialect sql.toList
  match Grammar.statements (Grammar.ofDepth dialect false maxDepth).statement tokens with
  | .ok (found, _) => some found
  | .error _ => none

end SqlSearch.Sql
