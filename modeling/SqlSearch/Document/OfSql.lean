import SqlSearch.Compile.Statement
import SqlSearch.Request.OfSql

/-!
# From SQL text to documents

## Main definitions

* `Error`: why a text has no document
* `Document.ofSql`: the search document of a text
* `tableOfSql`: the table that a text reads or writes
-/

namespace SqlSearch

/-- Why a text has no document or table. -/
inductive Error where
  /-- It cannot be read. -/
  | read (cause : ReadError)
  /-- It can be read but has no counterpart. -/
  | compile (cause : CompileError)
  deriving DecidableEq, Repr

/-- The wording of an error. -/
def Error.message (wording : SyntaxWording) : Error → String
  | .read cause => cause.message wording
  | .compile cause => cause.message

/-- The search document of a text. -/
def Document.ofSql (options : Options) (sql : String) : Except Error Document := do
  let statement ← (Statement.ofSql options.dialect sql).mapError .read
  (statement.compile options.strictness).mapError .compile

/-- The table that a text reads or writes. -/
def tableOfSql (dialect : Dialect) (sql : String) : Except Error String := do
  let statement ← (Statement.ofSql dialect sql).mapError .read
  statement.targetTable.mapError .compile

end SqlSearch
