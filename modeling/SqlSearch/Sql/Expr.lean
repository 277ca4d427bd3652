import SqlSearch.Request.Condition
import SqlSearch.Sql.Value

/-!
# Expressions

The expressions of SQL text. The kinds that a search document depends on have constructors of
their own: columns, literals, operators, parentheses, nested queries and function calls. Every
other kind is a *phrase*: its operands together with the layout in which they are written.

## Main definitions

* `Layout`: a text with holes
* `Expr`: the expressions
* `Expr.render`: the written form
* `Expr.subexprs`: an expression with everything inside it, outermost first
* `Expr.isSubquery`: the expressions that stand for a nested query

## Design

A nested query is never looked into; all that is asked of it is its text. So it is kept as its
written form, and expressions do not depend on queries.

A phrase lists its operands in the order in which they are visited. That is mostly, but not
always, the order in which they are written, and so the layout refers to its operands by
position.
-/

namespace SqlSearch.Sql

/-- A piece of a layout. -/
inductive Slot where
  /-- A fixed text. -/
  | text (s : String)
  /-- The operand at a position. -/
  | operand (i : Nat)
  deriving DecidableEq, Repr

/-- A text with holes for operands. -/
abbrev Layout := List Slot

/-- The layout with its holes filled. -/
def Layout.fill (layout : Layout) (operands : List String) : String :=
  String.join (layout.map fun
    | .text s => s
    | .operand i => operands.getD i "")

/-- An operator between two operands. -/
inductive BinaryOp where
  | and
  | or
  | compare (op : CompareOp)
  /-- Any other operator, by its sign. -/
  | other (symbol : String)
  deriving DecidableEq, Repr

/-- The sign of an operator. -/
def BinaryOp.symbol : BinaryOp → String
  | .and => "AND"
  | .or => "OR"
  | .compare op => op.symbol
  | .other symbol => symbol

/-- An operator in front of its operand. -/
inductive UnaryOp where
  | not
  | plus
  | minus
  /-- Any other operator, by its sign. -/
  | other (symbol : String)
  deriving DecidableEq, Repr

/-- The sign of an operator, with the blank behind it if it is a word. -/
def UnaryOp.lead : UnaryOp → String
  | .not => "NOT "
  | .plus => "+"
  | .minus => "-"
  | .other symbol => symbol

/-- A nested query, by its written form without parentheses. -/
structure NestedQuery where
  /-- The written form. -/
  text : String
  deriving DecidableEq, Repr

/-- How often equal arguments count. -/
inductive Duplicates where
  | all
  | distinct
  deriving DecidableEq, Repr

/-- The keyword for the treatment of equal arguments. -/
def Duplicates.keyword : Duplicates → String
  | .all => "ALL"
  | .distinct => "DISTINCT"

/-- What follows the name of a function. -/
inductive CallForm where
  /-- Nothing, as in `CURRENT_DATE`. -/
  | bare
  /-- A query. -/
  | query (q : NestedQuery)
  /-- An argument list. -/
  | list (duplicates : Option Duplicates)
  deriving DecidableEq, Repr

/-- A function call without its operands. The layout of the parameters refers to the parameters
of the call, every other one to the operands beside its arguments. -/
structure CallHead where
  /-- The call stands between braces, behind the word `fn`. -/
  braced : Bool := false
  /-- The name of the function. -/
  name : Path
  /-- What follows the name. -/
  form : CallForm
  /-- A first list of parameters, in front of the arguments. -/
  parameters : Layout := []
  /-- Clauses behind the arguments, inside the parentheses. -/
  clauses : Layout := []
  /-- The clause `WITHIN GROUP`. -/
  within : Layout := []
  /-- The clause `FILTER`. -/
  filter : Option Layout := none
  /-- The clause on null values. -/
  nulls : String := ""
  /-- The clause `OVER`. -/
  window : Option Layout := none
  deriving DecidableEq, Repr

/-- An expression. -/
inductive Expr where
  /-- `*`, as an argument or an item of the select list. -/
  | wildcard
  /-- `table.*` -/
  | qualifiedWildcard (path : Path)
  /-- A column. -/
  | column (path : Path)
  /-- A literal. -/
  | value (v : Value)
  | unary (op : UnaryOp) (operand : Expr)
  | binary (left : Expr) (op : BinaryOp) (right : Expr)
  /-- An expression in parentheses. -/
  | nested (inner : Expr)
  /-- A query in parentheses. -/
  | subquery (q : NestedQuery)
  /-- `operand [NOT] IN (query)` -/
  | inSubquery (operand : Expr) (negated : Bool) (q : NestedQuery)
  /-- `[NOT] EXISTS (query)` -/
  | exists (negated : Bool) (q : NestedQuery)
  /-- A function call with its parameters, its arguments and the operands of its clauses. -/
  | call (head : CallHead) (parameters args operands : List Expr)
  /-- An expression of any other kind. -/
  | phrase (layout : Layout) (operands : List Expr)

namespace CallForm

/-- The argument is a query. -/
def isQuery : CallForm → Bool
  | .query _ => true
  | _ => false

/-- The text behind the name, given the texts of the arguments and of the clauses behind
them. -/
def render (form : CallForm) (args : List String) (clauses : String) : String :=
  match form with
  | .bare => ""
  | .query q => "(" ++ q.text ++ ")"
  | .list duplicates =>
    "(" ++ (duplicates.elim "" fun d => d.keyword ++ " ") ++ String.intercalate ", " args ++
      clauses ++ ")"

end CallForm

/-- The text of a call, given the texts of its parameters, of its arguments and of its other
operands. -/
def CallHead.render (head : CallHead) (parameters args operands : List String) : String :=
  let plain := head.name.render ++ head.parameters.fill parameters ++
    head.form.render args (head.clauses.fill operands) ++ head.within.fill operands ++
    (head.filter.elim "" (·.fill operands)) ++ head.nulls ++
      (head.window.elim "" (·.fill operands))
  if head.braced then "\x7bfn " ++ plain ++ "\x7d" else plain

namespace Expr

/-- The word in front of a negated predicate. -/
def negation (negated : Bool) : String := if negated then "NOT " else ""

mutual

/-- The written form of an expression. -/
def render : Expr → String
  | .wildcard => "*"
  | .qualifiedWildcard path => path.render ++ ".*"
  | .column path => path.render
  | .value v => v.render
  | .unary op operand => op.lead ++ operand.render
  | .binary left op right => left.render ++ " " ++ op.symbol ++ " " ++ right.render
  | .nested inner => "(" ++ inner.render ++ ")"
  | .subquery q => "(" ++ q.text ++ ")"
  | .inSubquery operand negated q =>
    operand.render ++ " " ++ negation negated ++ "IN (" ++ q.text ++ ")"
  | .exists negated q => negation negated ++ "EXISTS (" ++ q.text ++ ")"
  | .call head parameters args operands =>
    head.render (renderList parameters) (renderList args) (renderList operands)
  | .phrase layout operands => layout.fill (renderList operands)

/-- The written forms of several expressions. -/
def renderList : List Expr → List String
  | [] => []
  | e :: rest => e.render :: renderList rest

end

mutual

/-- An expression with everything inside it: each expression stands in front of its
operands. -/
def subexprs : Expr → List Expr
  | .wildcard => [.wildcard]
  | .qualifiedWildcard path => [.qualifiedWildcard path]
  | .column path => [.column path]
  | .value v => [.value v]
  | .unary op operand => .unary op operand :: operand.subexprs
  | .binary left op right => .binary left op right :: (left.subexprs ++ right.subexprs)
  | .nested inner => .nested inner :: inner.subexprs
  | .subquery q => [.subquery q]
  | .inSubquery operand negated q => .inSubquery operand negated q :: operand.subexprs
  | .exists negated q => [.exists negated q]
  | .call head parameters args operands =>
    .call head parameters args operands ::
      (subexprsList parameters ++ subexprsList args ++ subexprsList operands)
  | .phrase layout operands => .phrase layout operands :: subexprsList operands

/-- Several expressions with everything inside them. -/
def subexprsList : List Expr → List Expr
  | [] => []
  | e :: rest => e.subexprs ++ subexprsList rest

end

/-- The expression is a nested query, a test against one, or a call on one. Parentheses around
such an expression count as part of it. -/
def isSubquery : Expr → Bool
  | .subquery _ => true
  | .inSubquery _ _ _ => true
  | .exists _ _ => true
  | .call head _ _ _ => head.form.isQuery
  | .nested inner => inner.isSubquery
  | _ => false

/-- The first nested query inside an expression. -/
def firstSubquery? (e : Expr) : Option Expr := e.subexprs.find? isSubquery

end Expr

/-- A piece of a phrase in writing order. -/
inductive Piece where
  /-- A fixed text. -/
  | text (s : String)
  /-- An operand. -/
  | operand (e : Expr)

namespace Piece

/-- The layout of pieces whose first operand has position `i`. -/
def layoutFrom (i : Nat) : List Piece → Layout
  | [] => []
  | .text s :: rest => .text s :: layoutFrom i rest
  | .operand _ :: rest => .operand i :: layoutFrom (i + 1) rest

/-- The operands of pieces. -/
def operands : List Piece → List Expr
  | [] => []
  | .text _ :: rest => operands rest
  | .operand e :: rest => e :: operands rest

/-- Several lists of pieces with a text between them. -/
def separated (separator : String) : List (List Piece) → List Piece
  | [] => []
  | [pieces] => pieces
  | pieces :: rest => pieces ++ .text separator :: separated separator rest

/-- The text of pieces. -/
def render (pieces : List Piece) : String :=
  String.join (pieces.map fun
    | .text s => s
    | .operand e => e.render)

end Piece

/-- The phrase that is visited in the order in which it is written. -/
def Expr.ofPieces (pieces : List Piece) : Expr :=
  .phrase (Piece.layoutFrom 0 pieces) (Piece.operands pieces)

end SqlSearch.Sql
