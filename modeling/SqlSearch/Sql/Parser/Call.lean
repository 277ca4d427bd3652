import SqlSearch.Sql.Parser.TypeName
import SqlSearch.Sql.Precedence

/-!
# Function calls

Parsers for function calls with their arguments and clauses, and for what they share with
queries: sort keys and windows.

## Main definitions

* `Grammar.orderKey`: a sort key
* `Grammar.windowSpec`: what stands between the parentheses of a window
* `Grammar.wildcardExpr`: an expression or a wildcard
* `Grammar.argument`: an argument of a call, possibly named
* `Grammar.call`: what follows the name of a function
-/

namespace SqlSearch.Sql

open SqlSearch.Sql.Parser

/-- The operands of a list, with commas between them. -/
def Piece.list (es : List Expr) : List Piece := separated ", " (es.map fun e => [.operand e])

/-- The sort keys of a list, with commas between them. -/
def Piece.keys (keys : List OrderKey) : List Piece :=
  separated ", " (keys.map OrderKey.pieces)

/-- The parts of an argument list. -/
structure ArgumentList where
  /-- How often equal arguments count. -/
  duplicates : Option Duplicates := none
  /-- The arguments. -/
  args : List Expr := []
  /-- The clauses behind them. -/
  clauses : List (List Piece) := []
  /-- One of the clauses is on the null values that a window skips. -/
  nulls : Bool := false

namespace ArgumentList

/-- The pieces of the clauses, with a blank in front of each that does not come first. -/
def tail (list : ArgumentList) : List Piece :=
  (if list.args.isEmpty || list.clauses.isEmpty then [] else [.text " "]) ++
    Piece.separated " " list.clauses

/-- The pieces of an argument list with its parentheses. -/
def pieces (list : ArgumentList) : List Piece :=
  .text ("(" ++ (list.duplicates.elim "" fun d => d.keyword ++ " ")) :: Piece.list list.args ++
    list.tail ++ [.text ")"]

end ArgumentList

/-- The parts of a call, each in writing order. -/
structure CallParts where
  /-- The call stands between braces. -/
  braced : Bool := false
  /-- The name of the function. -/
  name : Path
  /-- What follows the name. -/
  form : CallForm
  /-- A first list of parameters. -/
  parameters : List Piece := []
  /-- The arguments. -/
  args : List Expr := []
  /-- Clauses behind the arguments. -/
  clauses : List Piece := []
  /-- The clause `FILTER`. -/
  filter : Option (List Piece) := none
  /-- The clause on null values. -/
  nulls : String := ""
  /-- The clause `OVER`. -/
  window : Option (List Piece) := none
  /-- The clause `WITHIN GROUP`. -/
  within : List Piece := []

/-- The call with the given parts. The operands of its clauses are visited in the order of the
fields of `CallParts`. -/
def Expr.ofCall (c : CallParts) : Expr :=
  let count := fun pieces => (Piece.operands pieces).length
  let filter := c.filter.getD []
  let window := c.window.getD []
  let atFilter := count c.clauses
  let atWindow := atFilter + count filter
  let atWithin := atWindow + count window
  .call
    { braced := c.braced
      name := c.name
      form := c.form
      parameters := Piece.layoutFrom 0 c.parameters
      clauses := Piece.layoutFrom 0 c.clauses
      filter := c.filter.map (Piece.layoutFrom atFilter)
      nulls := c.nulls
      window := c.window.map (Piece.layoutFrom atWindow)
      within := Piece.layoutFrom atWithin c.within }
    (Piece.operands c.parameters)
    c.args
    (Piece.operands (c.clauses ++ filter ++ window ++ c.within))

namespace Grammar

variable (g : Grammar)

/-- One of the units of time that can follow an interval. -/
def intervalUnits : List String :=
  ["YEAR", "MONTH", "WEEK", "DAY", "HOUR", "MINUTE", "SECOND", "CENTURY", "DECADE", "DOW",
   "DOY", "EPOCH", "ISODOW", "ISOYEAR", "JULIAN", "MICROSECOND", "MICROSECONDS", "MILLENIUM",
   "MILLENNIUM", "MILLISECOND", "MILLISECONDS", "NANOSECOND", "NANOSECONDS", "QUARTER",
   "TIMEZONE", "TIMEZONE_HOUR", "TIMEZONE_MINUTE"]

/-- The fields of a date or time. -/
def timeFields : List String :=
  intervalUnits ++ ["DAYOFWEEK", "DAYOFYEAR", "DATE", "DATETIME", "ISOWEEK", "TIME",
    "TIMEZONE_ABBR", "TIMEZONE_REGION"]

/-- A field of a date or time. -/
def timeField : Parser String := do
  match ← oneOf? timeFields with
  | some field =>
    if field = "WEEK" ∧ g.dialect = .generic then
      match ← whenever (← symbol? "(") ident with
      | some day =>
        symbol ")"
        return s!"WEEK({day.render})"
      | none => return field
    else return field
  | none =>
    if g.dialect = .mysql then fail
    match (← remaining).head? with
    | some (.literal (.doubleQuoted _)) => fail
    | _ => return (← ident).render

/-- What follows the word `INTERVAL`. -/
def interval : Parser Expr := do
  let value ← if g.dialect = .mysql then g.expr else g.operand
  let unit ← if ← atKeyword intervalUnits then some <$> g.timeField else pure none
  require (unit.isSome || g.dialect != .mysql)
  let lead := unit.elim "" (" " ++ ·)
  let spaced := fun (s : String) => if s.isEmpty then "" else " " ++ s
  let tail ← if unit = some "SECOND" then do
      pure (spaced (← precisionScale ", "))
    else do
      let first ← precision
      if ← keyword? "TO" then
        let last ← g.timeField
        let second ← if last = "SECOND" then precision else pure ""
        pure (spaced first ++ " TO " ++ last ++ spaced second)
      else pure (spaced first)
  return .ofPieces [.text "INTERVAL ", .operand value, .text (lead ++ tail)]

/-- A sort key. -/
def orderKey : Parser OrderKey := do
  let e ← g.expr
  let direction ← oneOf? ["ASC", "DESC"]
  let nulls ← if ← keywords? ["NULLS", "FIRST"] then pure " NULLS FIRST"
    else if ← keywords? ["NULLS", "LAST"] then pure " NULLS LAST"
    else pure ""
  let fill ← if ← allow (g.dialect == .generic) (keywords? ["WITH", "FILL"]) then do
      let bounds ← ["FROM", "TO", "STEP"].mapM fun k => do
        if ← keyword? k then return [.text s!" {k} ", .operand (← g.expr)] else return []
      pure (.text " WITH FILL" :: bounds.flatten)
    else pure []
  return ⟨e, direction.map (· == "ASC"), .text nulls :: fill⟩

/-- An end of the frame of a window. -/
def frameBound : Parser (List Piece) := do
  if ← keywords? ["CURRENT", "ROW"] then return [.text "CURRENT ROW"]
  let rows ← if ← keyword? "UNBOUNDED" then pure (.text "UNBOUNDED")
    else match (← remaining).head? with
      | some (.literal (.text _)) => do pure (.operand (← g.interval))
      | _ => do pure (.operand (← g.expr))
  let side ← oneOf ["PRECEDING", "FOLLOWING"]
  return [rows, .text (" " ++ side)]

/-- What stands between the parentheses of a window. The closing parenthesis is read. -/
def windowSpec : Parser (List Piece) := do
  let name ← match (← remaining).head? with
    | some (.name _ k) =>
      if Keyword.isKnown k then pure [] else do pure [[.text (← ident).render]]
    | _ => pure []
  let partition ← if ← keywords? ["PARTITION", "BY"] then do
      pure [.text "PARTITION BY " :: Piece.list (← commaList g.expr)]
    else pure []
  let order ← if ← keywords? ["ORDER", "BY"] then do
      pure [.text "ORDER BY " :: Piece.keys (← commaList g.orderKey)]
    else pure []
  let frame ← if ← symbol? ")" then pure [] else do
    let unit ← oneOf ["ROWS", "RANGE", "GROUPS"]
    let bounds ← if ← keyword? "BETWEEN" then do
        let low ← g.frameBound
        keyword "AND"
        let high ← g.frameBound
        pure (.text "BETWEEN " :: low ++ .text " AND " :: high)
      else g.frameBound
    symbol ")"
    pure [.text (unit ++ " ") :: bounds]
  return Piece.separated " " (name ++ partition ++ order ++ frame)

/-- An expression, or a wildcard as it can stand in an argument or select list. -/
def wildcardExpr : Parser Expr := do
  if ← symbol? "*" then return .wildcard
  match ← qualified? with
  | some path => return .qualifiedWildcard path
  | none => g.expr
where
  /-- The path in front of a wildcard, which is read. Without a wildcard nothing is read, but a
  period has to be followed by a name in any case. -/
  qualified? : Parser (Option Path) := fun ts =>
    match ts with
    | .name first _ :: rest => (pathOf rest).map fun found =>
      found.elim (none, ts) fun (path, rest) => (some (Path.ofIdents first path), rest)
    | .literal (.text s) :: rest => (pathOf rest).map fun found =>
      found.elim (none, ts) fun (path, rest) =>
        (some (Path.ofIdents ⟨s, some '\''⟩ path), rest)
    | _ => .ok (none, ts)
  /-- The names up to a wildcard, each behind a period, with the tokens behind the wildcard. -/
  pathOf : List Token → Except Failure (Option (List Ident × List Token))
    | .symbol "." :: .symbol "*" :: rest => .ok (some ([], rest))
    | .symbol "." :: .name part _ :: rest =>
      (pathOf rest).map fun found => found.map fun (path, rest) => (part :: path, rest)
    | .symbol "." :: .literal (.text s) :: rest =>
      (pathOf rest).map fun found => found.map fun (path, rest) =>
        (⟨s, some '\''⟩ :: path, rest)
    | .symbol "." :: _ => .error .unexpected
    | _ => .ok none

/-- Reads the sign between the name and the value of a named argument, if it comes next. -/
def namedSign? : Parser (Option String) := do
  if ← keyword? "VALUE" then return some "VALUE"
  else if ← symbol? "=>" then return some "=>"
  else if ← allow (g.dialect == .generic) (symbol? ":=") then return some ":="
  else if ← allow (g.dialect == .postgres) (symbol? ":") then return some ":"
  else return none

/-- An argument, possibly named. The name is an expression in one dialect and an identifier in
the others. -/
def argument : Parser Expr :=
  if g.dialect = .postgres then
    (do
      let start ← remaining
      let e ← g.expr
      match ← g.namedSign? with
      | some sign =>
        return .ofPieces [.operand e, .text s!" {sign} ", .operand (← g.wildcardExpr)]
      | none => match wildcardExpr.qualified? start with
        | .ok (none, _) => return e
        | _ => fail)
    <|> g.wildcardExpr
  else
    (do
      let name ← ident
      match ← g.namedSign? with
      | some sign =>
        return .ofPieces [.text s!"{name.render} {sign} ", .operand (← g.wildcardExpr)]
      | none => fail)
    <|> g.wildcardExpr

/-- How often equal arguments count. -/
def duplicates : Parser (Option Duplicates) := do
  let all ← keyword? "ALL"
  let distinct ← keyword? "DISTINCT"
  if all && distinct then fail
  return if all then some .all else if distinct then some .distinct else none

/-- The clause on the null values that a window skips, or nothing. -/
def nullTreatment? : Parser (Option String) := do
  match ← oneOf? ["IGNORE", "RESPECT"] with
  | some k =>
    keyword "NULLS"
    return some s!"{k} NULLS"
  | none => return none

/-- The clause on the null values inside a result, or nothing. -/
def nullClause? : Parser (Option (List Piece)) := do
  match ← choice? [["ABSENT", "ON", "NULL"], ["NULL", "ON", "NULL"]] with
  | some ks => return some [.text (String.intercalate " " ks)]
  | none => return none

/-- The clause on results that are too long, or nothing. What fills their place starts with a
string. -/
def overflow? : Parser (Option (List Piece)) := do
  if !(← keywords? ["ON", "OVERFLOW"]) then return none
  if ← keyword? "ERROR" then return some [.text "ON OVERFLOW ERROR"]
  keyword "TRUNCATE"
  let filler ← if ← atKeyword ["WITH", "WITHOUT"] then pure [] else do
    match (← remaining).head? with
    | some (.literal (.text _)) | some (.literal (.escaped _)) | some (.literal (.unicode _))
    | some (.literal (.national _)) | some (.literal (.hex _)) =>
      pure [.text " ", .operand (← g.expr)]
    | _ => fail
  let counted ← oneOf ["WITH", "WITHOUT"]
  keyword "COUNT"
  return some (.text "ON OVERFLOW TRUNCATE" :: filler ++ [.text s!" {counted} COUNT"])

/-- The arguments of a call with the closing parenthesis. The clause on null values can also
stand in front of the arguments. -/
def argumentList : Parser ArgumentList := do
  let early ← nullClause?
  if ← symbol? ")" then return { clauses := early.toList }
  let duplicates ← Grammar.duplicates
  let args ← commaList g.argument
  let nulls ← if g.dialect = .generic then nullTreatment? else pure none
  let order ← whenever (← keywords? ["ORDER", "BY"]) do
    return .text "ORDER BY " :: Piece.keys (← commaList g.orderKey)
  let limit ← whenever (← keyword? "LIMIT") do return [.text "LIMIT ", .operand (← g.expr)]
  let having ← whenever (← allow (g.dialect == .generic) (keyword? "HAVING")) do
    let bound ← oneOf ["MIN", "MAX"]
    return [.text s!"HAVING {bound} ", .operand (← g.expr)]
  let separator ← whenever (← allow (g.dialect != .postgres) (keyword? "SEPARATOR")) do
    return [.text ("SEPARATOR " ++ (← literal).render)]
  let overflow ← g.overflow?
  let late ← nullClause?
  symbol ")"
  let treatment := nulls.map fun s => [.text s]
  let clauses :=
    [early, treatment, order, limit, having, separator, overflow, late].filterMap id
  return ⟨duplicates, args, clauses, nulls.isSome⟩

/-- The clause `OVER`, or nothing. -/
def window : Parser (Option (List Piece)) := do
  if !(← keyword? "OVER") then return none
  if ← symbol? "(" then
    let spec ← g.windowSpec
    return some (.text " OVER (" :: spec ++ [.text ")"])
  else
    return some [.text (" OVER " ++ (← ident).render)]

/-- The clause `FILTER`, or nothing. The keyword is read even if no clause follows. -/
def filter : Parser (Option (List Piece)) := do
  if ← allow (g.dialect == .postgres) (keyword? "FILTER") then
    if ← symbol? "(" then
      if ← keyword? "WHERE" then
        let condition ← g.expr
        symbol ")"
        return some [.text " FILTER (WHERE ", .operand condition, .text ")"]
  return none

/-- What follows the name of a function, from the opening parenthesis on. -/
def callParts (name : Path) : Parser CallParts := do
  symbol "("
  let first ← g.argumentList
  let second ← if g.dialect = .generic then whenever (← symbol? "(") g.argumentList
    else pure none
  let list := second.getD first
  let parameters := if second.isSome then first.pieces else []
  let within ← if ← keywords? ["WITHIN", "GROUP"] then do
      let keys ← parens do
        keywords ["ORDER", "BY"]
        commaList g.orderKey
      pure (.text " WITHIN GROUP (ORDER BY " :: Piece.keys keys ++ [.text ")"])
    else pure []
  let filter ← g.filter
  let nulls ← if list.nulls then pure none else nullTreatment?
  let window ← g.window
  return { name, form := .list list.duplicates, parameters, args := list.args,
           clauses := list.tail, filter, nulls := nulls.elim "" (" " ++ ·), window, within }

/-- A call whose name has been read. -/
def call (name : Path) : Parser Expr := Expr.ofCall <$> g.callParts name

end Grammar

end SqlSearch.Sql
