import SqlSearch.Sql.Parser.Name
import SqlSearch.Sql.Query

/-!
# Nesting

Expressions contain queries and queries contain expressions. The parsers of this folder are
written against a *grammar*, which holds the parsers for what is nested inside. A grammar that
reads one level deeper is built from the one below it, and the lowest one refuses everything.

## Main definitions

* `TypeName`: a data type
* `Grammar`: the parsers for what can be nested
* `Grammar.lowest`: the grammar that allows no nesting
-/

namespace SqlSearch.Sql

/-- What a type is, as far as this decides how a text goes on. -/
inductive TypeKind where
  /-- A type of the language. -/
  | known
  /-- The type of intervals. -/
  | interval
  /-- A type of one's own. -/
  | custom
  deriving DecidableEq, Repr

/-- A data type. -/
structure TypeName where
  /-- What it is. -/
  kind : TypeKind := .known
  /-- Its written form, with the expressions inside it. -/
  pieces : List Piece
  /-- One angle bracket more has been closed than opened. -/
  surplus : Bool := false

/-- The written form of a type. -/
def TypeName.text (t : TypeName) : String := Piece.render t.pieces

/-- The parsers for what can be nested. -/
structure Grammar where
  /-- The dialect. -/
  dialect : Dialect
  /-- The word `PRIOR` stands for the row above. -/
  hierarchical : Bool
  /-- An expression whose operators bind more tightly than the given precedence. -/
  subexpr : Nat → Parser Expr
  /-- An expression without operators behind it. -/
  operand : Parser Expr
  /-- An expression in which the word `PRIOR` stands for the row above. -/
  relationship : Parser Expr
  /-- A data type, possibly with one closing angle bracket too many. -/
  openType : Parser TypeName
  /-- A single source of rows. -/
  relation : Parser Relation
  /-- A query. -/
  query : Parser Query
  /-- A statement. -/
  statement : Parser Statement

namespace Grammar

/-- The grammar that allows no nesting. -/
def lowest (dialect : Dialect) (hierarchical : Bool) : Grammar where
  dialect := dialect
  hierarchical := hierarchical
  subexpr _ := .tooDeep
  operand := .tooDeep
  relationship := .tooDeep
  openType := .tooDeep
  relation := .tooDeep
  query := .tooDeep
  statement := .tooDeep

variable (g : Grammar)

/-- An expression. -/
def expr : Parser Expr := g.subexpr 0

/-- A data type. -/
def typeName : Parser TypeName := do
  let t ← g.openType
  Parser.require !t.surplus
  return t

/-- Whether a query comes next, behind an opening parenthesis. -/
def atQuery : Parser Bool := Parser.atKeyword ["SELECT", "WITH"]

end Grammar

end SqlSearch.Sql
