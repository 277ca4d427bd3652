import SqlSearch.Request.Statement
import SqlSearch.Sql.Parser.Statement

/-!
# From SQL text to statements

The tree of an SQL text is reduced to what its search document depends on. The reduction keeps
the shape of conditions and select lists and replaces everything it does not know by its
written form, so that it refuses very little itself: counts that are no numbers, and grouping
by all columns.

What a parser says of a text that it cannot read is a matter of its own. An error holds the
text and the dialect, and its wording is made from them by a parameter (`SyntaxWording`).

## Main definitions

* `ReadError`, `ReadError.message`: why a text is refused, and how that is worded
* `SyntaxWording`: what is said of a text that is no SQL
* `Sql.Expr.fieldPath`, `Sql.Expr.toCondition`, `Sql.Expr.toSelectExpr`: the readings of an
  expression
* `Sql.Query.firstSubquery?`: the first nested query outside `FROM`
* `Sql.Query.toStatement`, `Sql.Statement.toStatement`: the reduction
* `Statement.ofSql`: the statement of a text
-/

namespace SqlSearch

/-- Why a text is refused. -/
inductive ReadError where
  /-- The text is not SQL of the dialect. -/
  | malformed (dialect : Dialect) (sql : String)
  /-- It has not exactly one statement. -/
  | statementCount (n : Nat)
  /-- A count is no number that fits into 64 bits; it is given by its text. -/
  | invalidCount (text : String)
  /-- Rows are grouped by all columns. -/
  | groupByAll
  deriving DecidableEq, Repr

/-- **What is said of a text** that cannot be read as SQL of a dialect. -/
abbrev SyntaxWording := Dialect → String → String

/-- The wording of an error. -/
def ReadError.message (wording : SyntaxWording) : ReadError → String
  | .malformed dialect sql => "Failed to parse SQL: " ++ wording dialect sql
  | .statementCount n => s!"expected exactly one SQL statement, got {n}"
  | .invalidCount text =>
    s!"LIMIT and OFFSET must be non-negative integer literals, got '{text}'"
  | .groupByAll => "unsupported SQL: GROUP BY ALL"

namespace Sql

namespace Expr

/-- The path of the field that an expression stands for: that of a column, and otherwise its
text. Parentheses do not count. -/
def fieldPath : Expr → String
  | .column path => path.joined
  | .nested inner => inner.fieldPath
  | e => e.render

/-- The condition that an expression states. -/
def toCondition : Expr → Condition
  | .binary left .and right => .and left.toCondition right.toCondition
  | .binary left .or right => .or left.toCondition right.toCondition
  | .binary left (.compare op) right =>
    if left.isSubquery || right.isSubquery then
      .subquery (Expr.binary left (.compare op) right).render
    else .compare op left.fieldPath right.render
  | .binary left (.other sign) right =>
    if left.isSubquery || right.isSubquery then
      .subquery (Expr.binary left (.other sign) right).render
    else .other (Expr.binary left (.other sign) right).render
  | .nested inner => .group inner.toCondition
  | .subquery q => .subquery (Expr.subquery q).render
  | .inSubquery operand negated q => .subquery (Expr.inSubquery operand negated q).render
  | .exists negated q => .subquery (Expr.exists negated q).render
  | e => .other e.render

/-- The argument that an expression makes. -/
def toArgument : Expr → Argument
  | .wildcard => .wildcard
  | .qualifiedWildcard _ => .wildcard
  | .column path => .column path.joined
  | .value v => .literal v.render
  | e => .other e.render

end Expr

/-- The function call of a select list, unless it is over a window or on a query. -/
def CallHead.toFunctionCall? (head : CallHead) (args : List Expr) : Option FunctionCall :=
  if head.window.isSome then none
  else match head.form with
    | .bare => some { name := head.name.name.value }
    | .query _ => none
    | .list duplicates =>
      some ⟨head.name.name.value, duplicates == some .distinct, args.map Expr.toArgument⟩

/-- What an expression of the select list asks for. Parentheses do not count. -/
def Expr.toSelectExpr : Expr → SelectExpr
  | .column path => .column path.joined
  | .call head parameters args operands =>
    match head.toFunctionCall? args with
    | some function => .call function
    | none => .other (Expr.call head parameters args operands).render
  | .nested inner => inner.toSelectExpr
  | e => .other e.render

/-- An item of the select list. -/
def SelectItem.toItem : SelectItem → SqlSearch.SelectItem
  | .expr e as? => ⟨e.toSelectExpr, as?.map Ident.value, e.render⟩
  | .wildcard none _ _ => { expr := .wildcard }
  | .wildcard (some qualifier) options operands =>
    ⟨.wildcard, none, (SelectItem.wildcard (some qualifier) options operands).render⟩

/-- What is read: a table if it stands alone. -/
def toSource : List TableRef → Source
  | [] => .missing
  | [⟨relation, []⟩] =>
    match relation.kind with
    | .table name => .table name.name.value
    | _ => .derived relation.render
  | tables => .joined (commas (tables.map TableRef.render))

/-- A count of rows. -/
def Expr.toCount : Expr → Except ReadError Nat
  | .value (.number digits _) =>
    match Parser.count? digits with
    | some n => .ok n
    | none => .error (.invalidCount digits)
  | e => .error (.invalidCount e.render)

/-- The paths to group by. -/
def GroupBy.toPaths : GroupBy → Except ReadError (List String)
  | .all _ => .error .groupByAll
  | .exprs list _ => .ok (list.map Expr.fieldPath)

/-- The expressions of the clause. -/
def GroupBy.keys : GroupBy → List Expr
  | .all _ => []
  | .exprs list _ => list

/-- A sort key. -/
def OrderKey.toItem (key : OrderKey) : OrderItem :=
  ⟨key.expr.fieldPath, key.ascending.getD true⟩

/-- The expressions in which nested queries are looked for, in the order of the search. -/
def Select.searched (s : Select) (orderBy : List OrderKey) : List Expr :=
  s.items.flatMap SelectItem.exprs ++ s.condition.toList ++ s.groupBy.keys ++
    s.having.toList ++
    orderBy.flatMap OrderKey.exprs

/-- The text of the first nested query in any clause but `FROM`. -/
def Select.firstSubquery? (s : Select) (orderBy : List OrderKey) : Option String :=
  ((s.searched orderBy).findSome? Expr.firstSubquery?).map Expr.render

/-- The reduction of a query. -/
def Query.toStatement (q : Query) : Except ReadError SqlSearch.Statement :=
  match q.common, q.body with
  | none, .select s => do
    let limit ← q.limit.mapM Expr.toCount
    let offset ← q.offset.mapM fun o => o.1.toCount
    let groupBy ← s.groupBy.toPaths
    return .select
      { projection := s.items.map SelectItem.toItem
        source := toSource s.tables
        condition := s.condition.map Expr.toCondition
        groupBy
        orderBy := q.orderBy.map OrderKey.toItem
        limit
        offset
        subquery := s.firstSubquery? q.orderBy }
  | _, _ => .ok (.compound q.render)

/-- The table that a removal of rows is directed at: the first one named in front of `FROM`,
and otherwise the first one behind it. -/
def deleteTarget (named : List Path) (tables : List TableRef) : String :=
  match named, tables with
  | path :: _, _ => path.name.value
  | [], table :: _ => table.relation.targetName
  | [], [] => ""

/-- The reduction of a statement. -/
def Statement.toStatement : Statement → Except ReadError SqlSearch.Statement
  | .query q => q.toStatement
  | .update target _ => .ok (.change .update target.targetName)
  | .insert target _ => .ok (.change .insert target.name.value)
  | .delete named tables _ => .ok (.change .delete (deleteTarget named tables))
  | .explain text => .ok (.other text)
  | .other text => .ok (.other text)

end Sql

/-- The statement of a text. -/
def Statement.ofSql (dialect : Dialect) (sql : String) : Except ReadError Statement :=
  match Sql.parseStatements dialect sql with
  | none => .error (.malformed dialect sql)
  | some [statement] => statement.toStatement
  | some statements => .error (.statementCount statements.length)

end SqlSearch
