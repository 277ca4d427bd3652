import SqlSearch.Request.Statement

/-!
# Why a statement is refused

## Main definitions

* `CompileError`: the causes
* `CompileError.message`: their wording
-/

namespace SqlSearch

/-- Why a statement has no document, or no target table. -/
inductive CompileError where
  /-- It changes data. -/
  | change (kind : ChangeKind)
  /-- It is a query, but no plain `SELECT`. -/
  | compound (text : String)
  /-- It is neither a query nor a change of data. -/
  | otherStatement (text : String)
  /-- It is a statement without a single target table. -/
  | noTable (text : String)
  /-- It reads several tables. -/
  | joins (text : String)
  /-- It reads something that is no table. -/
  | derivedSource (text : String)
  /-- It reads nothing. -/
  | missingSource
  /-- It holds a nested query. -/
  | subquery (text : String)
  /-- A predicate has no clause. Arises in strict mode only. -/
  | predicate (text : String)
  /-- A function of the select list has no metric. Arises in strict mode only. -/
  | function (text : String)
  deriving DecidableEq, Repr

/-- The wording of an error. -/
def CompileError.message : CompileError → String
  | .change kind =>
    "unsupported statement: " ++ kind.keyword ++ " statements are not supported"
  | .compound text =>
    "unsupported statement: only simple SELECT statements are supported: " ++ text
  | .otherStatement text => "unsupported statement: " ++ text
  | .noTable text => "unsupported statement: cannot determine table of: " ++ text
  | .joins text => "unsupported statement: joins are not supported: " ++ text
  | .derivedSource text =>
    "unsupported FROM clause: only simple FROM clauses are supported: " ++ text
  | .missingSource => "unsupported FROM clause: a FROM clause naming a table is required"
  | .subquery text => "unsupported statement: subqueries are not supported: " ++ text
  | .predicate text => "predicate has no filter translation: " ++ text
  | .function text => "unsupported function in select list: " ++ text

end SqlSearch
