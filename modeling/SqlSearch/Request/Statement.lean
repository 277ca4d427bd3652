import SqlSearch.Request.Condition

/-!
# Statements

A statement reduced to what its search document depends on. A plain `SELECT` is kept clause by
clause, of a data change only the target is left, and every other statement is its text.

## Main definitions

* `SelectItem`: an item of the select list, with the text it was written as
* `Source`: what stands in `FROM`
* `Select`, `Statement`: the statement
-/

namespace SqlSearch

/-- An argument of a function call. -/
inductive Argument where
  /-- `*`, or `*` of one table. -/
  | wildcard
  /-- A column, by its path. -/
  | column (path : String)
  /-- A literal, by its text. -/
  | literal (text : String)
  /-- Any other expression, by its text. -/
  | other (text : String)
  deriving DecidableEq, Repr

/-- The text of an argument. -/
def Argument.text : Argument → String
  | .wildcard => "*"
  | .column text | .literal text | .other text => text

/-- A function call of the select list. -/
structure FunctionCall where
  /-- The name of the function, without qualifier. -/
  name : String
  /-- Equal arguments count once. -/
  distinct : Bool := false
  /-- The arguments. -/
  args : List Argument := []
  deriving DecidableEq, Repr

/-- The text of a call. -/
def FunctionCall.text (call : FunctionCall) : String :=
  call.name ++ "(" ++ (if call.distinct then "DISTINCT " else "") ++
    String.intercalate ", " (call.args.map Argument.text) ++ ")"

/-- What an item of the select list asks for. -/
inductive SelectExpr where
  /-- All columns. -/
  | wildcard
  /-- A column, by its path. -/
  | column (path : String)
  /-- A function call. -/
  | call (function : FunctionCall)
  /-- Any other expression, by its text. -/
  | other (text : String)
  deriving DecidableEq, Repr

/-- The text of an expression that was not written anywhere. -/
def SelectExpr.text : SelectExpr → String
  | .wildcard => "*"
  | .column path => path
  | .call function => function.text
  | .other text => text

/-- An item of the select list. -/
structure SelectItem where
  /-- What is asked for. -/
  expr : SelectExpr
  /-- The name given to it. -/
  as? : Option String := none
  /-- How it was written, without the name. -/
  text : String := expr.text
  deriving DecidableEq, Repr

/-- What stands in `FROM`. -/
inductive Source where
  /-- One table, by its name without qualifier. -/
  | table (name : String)
  /-- Several tables, or a join. -/
  | joined (text : String)
  /-- A single source that is no table: a nested query, a table function. -/
  | derived (text : String)
  /-- Nothing. -/
  | missing
  deriving DecidableEq, Repr

/-- A sort key. -/
structure OrderItem where
  /-- The path of the field. -/
  field : String
  /-- Small values come first. -/
  ascending : Bool
  deriving DecidableEq, Repr

/-- A plain `SELECT`. -/
structure Select where
  /-- The select list. -/
  projection : List SelectItem
  /-- What is read. -/
  source : Source
  /-- The condition of `WHERE`. -/
  condition : Option Condition := none
  /-- The paths of `GROUP BY`. -/
  groupBy : List String := []
  /-- The keys of `ORDER BY`. -/
  orderBy : List OrderItem := []
  /-- The count of `LIMIT`. -/
  limit : Option Nat := none
  /-- The count of `OFFSET`. -/
  offset : Option Nat := none
  /-- The text of the first nested query in any clause but `FROM`. -/
  subquery : Option String := none
  deriving DecidableEq, Repr

/-- The changes of data. -/
inductive ChangeKind where
  | update
  | insert
  | delete
  deriving DecidableEq, Repr

/-- The keyword of a change. -/
def ChangeKind.keyword : ChangeKind → String
  | .update => "UPDATE"
  | .insert => "INSERT"
  | .delete => "DELETE"

/-- A statement. -/
inductive Statement where
  /-- A plain `SELECT`. -/
  | select (query : Select)
  /-- A change of the data of a table. -/
  | change (kind : ChangeKind) (table : String)
  /-- A query that is no plain `SELECT`, by its text. -/
  | compound (text : String)
  /-- Any other statement, by its text. -/
  | other (text : String)
  deriving DecidableEq, Repr

end SqlSearch
