import SqlSearch.Sql.Expr

/-!
# Queries and statements

The statements of SQL text. As with expressions, the parts that a search document depends on
are kept as trees: the select list, the tables, the conditions, the sort keys and the counts of
a query. Parts that are only ever written back are kept as their written form.

## Main definitions

* `Relation`, `TableRef`: what can stand in `FROM`
* `SelectItem`, `GroupBy`, `OrderKey`, `Select`, `Query`: a query
* `Sql.Statement`: a statement
* `render` in each namespace: the written form
-/

namespace SqlSearch.Sql

/-- The texts of a list, with commas between them. -/
def commas (texts : List String) : String := String.intercalate ", " texts

/-- What a relation is. -/
inductive RelationKind where
  /-- A table. -/
  | table (name : Path)
  /-- A function that returns a table. -/
  | tableCall (name : Path)
  /-- A join in parentheses. -/
  | join
  /-- A nested query or another source. -/
  | other
  deriving DecidableEq, Repr

/-- A single source of rows. -/
structure Relation where
  /-- What it is. -/
  kind : RelationKind
  /-- Its written form up to the name given to it. -/
  body : String
  /-- The name given to it, in its written form. -/
  as? : Option String := none
  /-- The written form of what follows. -/
  tail : String := ""
  deriving DecidableEq, Repr

namespace Relation

/-- The written form of a relation. -/
def render (r : Relation) : String := r.body ++ (r.as?.elim "" (" AS " ++ ·)) ++ r.tail

/-- The name of the table that a change of data is directed at, or the text of what stands
there. -/
def targetName (r : Relation) : String :=
  match r.kind with
  | .table name => name.name.value
  | .tableCall name => name.name.value
  | _ => r.render

end Relation

/-- A relation with the relations joined to it. -/
structure TableRef where
  /-- The first relation. -/
  relation : Relation
  /-- The joins, each in its written form with a blank in front. -/
  joins : List String := []
  deriving DecidableEq, Repr

/-- The written form of a relation with its joins. -/
def TableRef.render (t : TableRef) : String := t.relation.render ++ String.join t.joins

/-- An item of the select list. -/
inductive SelectItem where
  /-- An expression with the name given to it. -/
  | expr (e : Expr) (as? : Option Ident)
  /-- All columns, possibly of one table, with options that leave out or change some. -/
  | wildcard (qualifier : Option Path) (options : Layout) (operands : List Expr)

namespace SelectItem

/-- The written form of an item. -/
def render : SelectItem → String
  | .expr e as? => e.render ++ (as?.elim "" fun name => " AS " ++ name.render)
  | .wildcard qualifier options operands =>
    (qualifier.elim "" fun path => path.render ++ ".") ++ "*" ++
      options.fill (Expr.renderList operands)

/-- The expressions of an item. -/
def exprs : SelectItem → List Expr
  | .expr e _ => [e]
  | .wildcard _ _ operands => operands

end SelectItem

/-- The clause `GROUP BY`. -/
inductive GroupBy where
  /-- By all columns of the select list that are no aggregates. -/
  | all (modifiers : String)
  /-- By expressions; without any there is no clause. -/
  | exprs (list : List Expr) (modifiers : String)

/-- The written form of the clause, with a blank in front. -/
def GroupBy.render : GroupBy → String
  | .all modifiers => " GROUP BY ALL" ++ modifiers
  | .exprs [] _ => ""
  | .exprs list modifiers => " GROUP BY " ++ commas (Expr.renderList list) ++ modifiers

/-- A sort key. -/
structure OrderKey where
  /-- What to sort by. -/
  expr : Expr
  /-- The direction, if one is given. -/
  ascending : Option Bool := none
  /-- The options that follow. -/
  tail : List Piece := []

namespace OrderKey

/-- The text for the direction of a sort key. -/
def direction (key : OrderKey) : String :=
  match key.ascending with
  | none => ""
  | some true => " ASC"
  | some false => " DESC"

/-- The pieces of a sort key. -/
def pieces (key : OrderKey) : List Piece :=
  .operand key.expr :: .text key.direction :: key.tail

/-- The written form of a sort key. -/
def render (key : OrderKey) : String := Piece.render key.pieces

/-- The expressions of a sort key. -/
def exprs (key : OrderKey) : List Expr := key.expr :: Piece.operands key.tail

end OrderKey

/-- A plain `SELECT` without the clauses that can follow any query. -/
structure Select where
  /-- The text between `SELECT` and the select list. -/
  quantifier : String := ""
  /-- The select list. -/
  items : List SelectItem
  /-- The text of the clause `INTO`. -/
  into : String := ""
  /-- The tables. -/
  tables : List TableRef := []
  /-- The text between the tables and `WHERE`. -/
  views : String := ""
  /-- The condition of `WHERE`. -/
  condition : Option Expr := none
  /-- The clause `GROUP BY`. -/
  groupBy : GroupBy := .exprs [] ""
  /-- The text between `GROUP BY` and `HAVING`. -/
  placement : String := ""
  /-- The condition of `HAVING`. -/
  having : Option Expr := none
  /-- The text of the clauses that follow. -/
  windows : String := ""

/-- A keyword with the expression behind it, if there is one. -/
def optionalClause (keyword : String) : Option Expr → String
  | none => ""
  | some e => keyword ++ e.render

/-- The written form of a `SELECT`. -/
def Select.render (s : Select) : String :=
  "SELECT" ++ s.quantifier ++ " " ++ commas (s.items.map SelectItem.render) ++ s.into ++
    (if s.tables.isEmpty then "" else " FROM " ++ commas (s.tables.map TableRef.render)) ++
      s.views ++
    optionalClause " WHERE " s.condition ++ s.groupBy.render ++ s.placement ++
    optionalClause " HAVING " s.having ++ s.windows

/-- The part of a query that says which rows there are. -/
inductive QueryBody where
  /-- A plain `SELECT`. -/
  | select (s : Select)
  /-- A set operation, a list of values or a query in parentheses, in its written form. -/
  | compound (text : String)

/-- The written form of the body of a query. -/
def QueryBody.render : QueryBody → String
  | .select s => s.render
  | .compound text => text

/-- A query. -/
structure Query where
  /-- The clause `WITH`, in its written form. -/
  common : Option String := none
  /-- Which rows there are. -/
  body : QueryBody
  /-- The sort keys. -/
  orderBy : List OrderKey := []
  /-- How missing values are made up, behind the sort keys. -/
  interpolation : List Piece := []
  /-- The count of `LIMIT`. -/
  limit : Option Expr := none
  /-- The count of `OFFSET`, with the text behind it. -/
  offset : Option (Expr × String) := none
  /-- The text of the clauses that follow. -/
  tail : String := ""

/-- The written form of a query. -/
def Query.render (q : Query) : String :=
  (q.common.elim "" (· ++ " ")) ++ q.body.render ++
    (if q.orderBy.isEmpty then ""
     else " ORDER BY " ++ commas (q.orderBy.map OrderKey.render)) ++
    Piece.render q.interpolation ++ optionalClause " LIMIT " q.limit ++
    (q.offset.elim "" fun o => " OFFSET " ++ o.1.render ++ o.2) ++ q.tail

/-- A query as an operand of an expression. -/
def Query.nested (q : Query) : NestedQuery := ⟨q.render⟩

/-- A statement. -/
inductive Statement where
  | query (q : Query)
  /-- `UPDATE`, with the relation it changes and its written form. -/
  | update (target : Relation) (text : String)
  /-- `INSERT`, with the table it fills and its written form. -/
  | insert (target : Path) (text : String)
  /-- `DELETE`, with the tables named in front of `FROM`, the relations behind it and its
  written form. -/
  | delete (named : List Path) (tables : List TableRef) (text : String)
  /-- An explanation of another statement, in its written form. -/
  | explain (text : String)
  /-- Any other statement, in its written form. -/
  | other (text : String)

/-- The written form of a statement. -/
def Statement.render : Statement → String
  | .query q => q.render
  | .update _ text => text
  | .insert _ text => text
  | .delete _ _ text => text
  | .explain text => text
  | .other text => text

end SqlSearch.Sql
