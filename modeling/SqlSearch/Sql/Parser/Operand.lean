import SqlSearch.Sql.Parser.Call

/-!
# Operands

Parser for expressions without operators behind them: columns, literals, calls, parentheses and
the forms that start with a keyword.

## Main definitions

* `Grammar.typedLiteral`: a string behind a type
* `Grammar.specialForm?`: the forms that start with a keyword
* `Grammar.plainName`: a column or a call
* `Grammar.parseOperand`: any operand

## Design

Few keywords are reserved. A word that could start one of the special forms is read as a plain
name if what follows it does not complete the form.
-/

namespace SqlSearch.Sql

open SqlSearch.Sql.Parser

namespace Grammar

variable (g : Grammar)

/-- A string behind a type, or an interval. -/
def typedLiteral : Parser Expr := do
  let t ← g.dataType
  match t.kind with
  | .interval => g.interval
  | .custom => fail
  | .known =>
    let s ← text g.dialect
    return .ofPieces (t.pieces ++ [.text (" " ++ (Value.text s).render)])

/-- A call without an argument list. -/
def bareCall (name : Ident) : Expr := .ofCall { name := Path.ofIdents name [], form := .bare }

/-- What follows `CASE`. The conditions are visited in front of the results. -/
def caseForm : Parser Expr := do
  let subject ← if ← atKeyword ["WHEN"] then pure none else some <$> g.expr
  let branch : Parser (Expr × Expr) := do
    let condition ← g.expr
    keyword "THEN"
    return (condition, ← g.expr)
  keyword "WHEN"
  let first ← branch
  let rest ← many do whenever (← keyword? "WHEN") branch
  let otherwise ← whenever (← keyword? "ELSE") g.expr
  keyword "END"
  let branches := first :: rest
  let lead := subject.toList.length
  let n := branches.length
  let arms : Layout := (List.range n).flatMap fun i =>
    [.text " WHEN ", .operand (lead + i), .text " THEN ", .operand (lead + n + i)]
  return .phrase
    ([.text "CASE"] ++ (if subject.isSome then [.text " ", .operand 0] else []) ++ arms ++
      (if otherwise.isSome then [.text " ELSE ", .operand (lead + 2 * n)] else []) ++
        [.text " END"])
    (subject.toList ++ branches.map (·.1) ++ branches.map (·.2) ++ otherwise.toList)

/-- What follows `CAST` and its relatives. -/
def castForm (word : String) : Parser Expr := do
  symbol "("
  let e ← g.expr
  keyword "AS"
  let t ← g.dataType
  let format ← if ← keyword? "FORMAT" then do
      let form := " FORMAT " ++ (← literal).render
      if ← keywords? ["AT", "TIME", "ZONE"] then
        pure (form ++ " AT TIME ZONE " ++ (← literal).render)
      else pure form
    else pure ""
  symbol ")"
  return .ofPieces
    (.text (word ++ "(") :: .operand e :: .text " AS " :: t.pieces ++ [.text (format ++ ")")])

/-- What follows `CONVERT`. -/
def convertForm (word : String) : Parser Expr := do
  symbol "("
  let e ← g.expr
  let tail ← if ← keyword? "USING" then do
      pure [.text (" USING " ++ (← path).render)]
    else do
      symbol ","
      let t ← g.dataType
      let charset ← whenever (← keywords? ["CHARACTER", "SET"]) path
      pure (.text ", " :: t.pieces ++
        [.text (charset.elim "" (" CHARACTER SET " ++ ·.render))])
  symbol ")"
  return .ofPieces (.text (word ++ "(") :: .operand e :: tail ++ [.text ")"])

/-- What follows `EXISTS`. -/
def existsForm (negated : Bool) : Parser Expr := do
  let q ← parens g.query
  return .exists negated q.nested

/-- What follows `EXTRACT`. -/
def extractForm : Parser Expr := do
  symbol "("
  let field ← g.timeField
  let separator ← if ← keyword? "FROM" then pure " FROM "
    else if ← allow (g.dialect == .generic) (symbol? ",") then pure ", "
    else fail
  let e ← g.expr
  symbol ")"
  return .ofPieces [.text s!"EXTRACT({field}{separator}", .operand e, .text ")"]

/-- What follows `CEIL` and `FLOOR`. -/
def roundForm (word : String) : Parser Expr := do
  symbol "("
  let e ← g.expr
  let scale ← if ← keyword? "TO" then do
      pure (" TO " ++ (← g.timeField))
    else if ← symbol? "," then
      match ← literal with
      | .number n long => pure (", " ++ (Value.number n long).render)
      | _ => fail
    else pure ""
  symbol ")"
  return .ofPieces [.text (word ++ "("), .operand e, .text (scale ++ ")")]

/-- What follows `POSITION`. -/
def positionForm (name : Ident) : Parser Expr :=
  (do
    symbol "("
    let part ← g.subexpr (Binding.between.rank g.dialect)
    keyword "IN"
    let whole ← g.expr
    symbol ")"
    return .ofPieces [.text "POSITION(", .operand part, .text " IN ", .operand whole,
      .text ")"])
  <|> g.call (Path.ofIdents name [])

/-- What follows `SUBSTRING`. A comma in front of the start makes commas of both separators. -/
def substringForm : Parser Expr := do
  symbol "("
  let e ← g.expr
  let comma ← symbol? ","
  let start ← if comma then some <$> g.expr else whenever (← keyword? "FROM") g.expr
  let length ← if ← keyword? "FOR" then some <$> g.expr else whenever (← symbol? ",") g.expr
  symbol ")"
  let part (word : String) (e : Option Expr) : List Piece :=
    e.elim [] fun e => [.text (if comma then ", " else word), .operand e]
  return .ofPieces (.text "SUBSTRING(" :: .operand e :: part " FROM " start ++
    part " FOR " length ++
    [.text ")"])

/-- What follows `OVERLAY`. -/
def overlayForm : Parser Expr := do
  symbol "("
  let e ← g.expr
  keyword "PLACING"
  let what ← g.expr
  keyword "FROM"
  let start ← g.expr
  let length ← whenever (← keyword? "FOR") g.expr
  symbol ")"
  let tail : List Piece := length.elim [] fun e => [.text " FOR ", .operand e]
  return .ofPieces (.text "OVERLAY(" :: .operand e :: .text " PLACING " :: .operand what ::
    .text " FROM " :: .operand start :: tail ++ [.text ")"])

/-- What follows `TRIM`. The text to trim is visited in front of what is trimmed off. Where no
characters can follow a comma, the comma does not count. -/
def trimForm : Parser Expr := do
  symbol "("
  let side ← oneOf? ["BOTH", "LEADING", "TRAILING"]
  let lead := "TRIM(" ++ side.elim "" (· ++ " ")
  let e ← g.expr
  if ← keyword? "FROM" then
    let whole ← g.expr
    symbol ")"
    return .phrase [.text lead, .operand 1, .text " FROM ", .operand 0, .text ")"] [whole, e]
  else if (← symbol? ",") && g.dialect == .generic then
    let characters ← commaList g.expr
    symbol ")"
    return .ofPieces (.text "TRIM(" :: .operand e :: .text ", " :: Piece.list characters ++
      [.text ")"])
  else
    symbol ")"
    return .ofPieces [.text lead, .operand e, .text ")"]

/-- The elements of an array with the closing bracket. -/
def arrayForm (word : String) : Parser Expr := do
  let elements ← commaListUntil "]" g.expr
  symbol "]"
  return .ofPieces (.text (word ++ "[") :: Piece.list elements ++ [.text "]"])

/-- What follows `NOT`. -/
def notForm : Parser Expr := do
  if ← keyword? "EXISTS" then g.existsForm true
  else return .unary .not (← g.subexpr (Binding.not.rank g.dialect))

/-- What follows `MATCH`. -/
def matchForm : Parser Expr := do
  let columns ← columnNames
  keyword "AGAINST"
  symbol "("
  let value ← literal
  let mode ← if ← keywords? ["IN", "NATURAL", "LANGUAGE", "MODE"] then do
      pure (if ← keywords? ["WITH", "QUERY", "EXPANSION"] then
        " IN NATURAL LANGUAGE MODE WITH QUERY EXPANSION" else " IN NATURAL LANGUAGE MODE")
    else if ← keywords? ["IN", "BOOLEAN", "MODE"] then pure " IN BOOLEAN MODE"
    else if ← keywords? ["WITH", "QUERY", "EXPANSION"] then pure " WITH QUERY EXPANSION"
    else pure ""
  symbol ")"
  return .ofPieces
    [.text ("MATCH (" ++ joinIdents columns ++ ") AGAINST (" ++ value.render ++ mode ++ ")")]

/-- What follows `STRUCT`: the types of the fields, if they are given, and their values. A
value can be named only where no types are given. -/
def structForm : Parser Expr := do
  let (fields, surplus) ← g.structFields
  require !surplus
  let values ← parens (commaList do
    let e ← g.expr
    if ← keyword? "AS" then
      require fields.isEmpty
      return .ofPieces [.operand e, .text (" AS " ++ (← ident).render)]
    else return e)
  let types := if fields.isEmpty then [] else .text "<" :: fields ++ [.text ">"]
  return .ofPieces (.text "STRUCT" :: types ++ .text "(" :: Piece.list values ++ [.text ")"])

/-- What follows `MAP`, from the opening brace on. -/
def mapForm : Parser Expr := do
  symbol "\x7b"
  let entries ← commaListUntil "\x7d" do
    let key ← g.expr
    symbol ":"
    return [.operand key, .text ": ", .operand (← g.expr)]
  symbol "\x7d"
  return .ofPieces (.text "MAP \x7b" :: Piece.separated ", " entries ++ [.text "\x7d"])

/-- A function call between braces, behind the opening one and without the closing one. -/
def bracedCall : Parser Expr := do
  keyword "FN"
  let parts ← g.callParts (← path)
  return .ofCall { parts with braced := true }

/-- Named values between braces. The opening one has been read. -/
def dictionary : Parser Expr := do
  let entries ← commaList do
    let name ← ident
    symbol ":"
    return [.text (name.render ++ ": "), .operand (← g.expr)]
  symbol "\x7d"
  return .ofPieces (.text "\x7b" :: Piece.separated ", " entries ++ [.text "\x7d"])

/-- The forms that start with the word `name`, which stands for the keyword `k` and has been
read. -/
def specialForm? (name : Ident) (k : String) : Parser (Option Expr) := do
  if k = "TRUE" then return some (.value (.boolean true))
  else if k = "FALSE" then return some (.value (.boolean false))
  else if k = "NULL" then return some (.value .null)
  else if ["CURRENT_CATALOG", "CURRENT_USER", "SESSION_USER", "USER"].contains k then
    return if g.dialect = .mysql then none else some (bareCall name)
  else if ["CURRENT_TIMESTAMP", "CURRENT_TIME", "CURRENT_DATE", "LOCALTIME",
      "LOCALTIMESTAMP"].contains k then
    if ← symbol? "(" then
      let list ← g.argumentList
      return some (.ofCall
        { name := Path.ofIdents name [], form := .list list.duplicates, args := list.args,
          clauses := list.tail })
    else return some (bareCall name)
  else if k = "CASE" then some <$> g.caseForm
  else if k = "CONVERT" then some <$> g.convertForm k
  else if k = "TRY_CONVERT" then
    if g.dialect = .generic then some <$> g.convertForm k else return none
  else if ["CAST", "TRY_CAST", "SAFE_CAST"].contains k then some <$> g.castForm k
  else if k = "EXISTS" then some <$> g.existsForm false
  else if k = "EXTRACT" then some <$> g.extractForm
  else if k = "CEIL" ∨ k = "FLOOR" then some <$> g.roundForm k
  else if k = "POSITION" then
    if ← atSymbol "(" then some <$> g.positionForm name else return none
  else if k = "SUBSTRING" then some <$> g.substringForm
  else if k = "OVERLAY" then some <$> g.overlayForm
  else if k = "TRIM" then some <$> g.trimForm
  else if k = "INTERVAL" then some <$> g.interval
  else if k = "ARRAY" then
    if ← symbol? "[" then some <$> g.arrayForm "ARRAY"
    else if ← atSymbol "(" then
      let q ← parens g.query
      return some (.ofCall { name := Path.ofIdents name [], form := .query q.nested })
    else return none
  else if k = "NOT" then some <$> g.notForm
  else if k = "MATCH" then
    if g.dialect = .postgres then return none else some <$> matchForm
  else if k = "STRUCT" then
    if g.dialect = .generic then some <$> g.structForm else return none
  else if k = "PRIOR" ∧ g.hierarchical then
    return some (.ofPieces [.text "PRIOR ",
      .operand (← g.subexpr (Binding.sum.rank g.dialect))])
  else if k = "MAP" then
    if ← allow (g.dialect == .generic) (atSymbol "\x7b") then some <$> g.mapForm
    else return none
  else return none

/-- The words that are nothing but the start of their special form. -/
def reserved : List String := ["EXISTS", "INTERVAL", "STRUCT", "TRIM"]

/-- A column or a call whose name starts with the word `name`, which has been read. -/
def plainName (name : Ident) : Parser Expr := do
  let rest ← many do
    match ← remaining with
    | .symbol "." :: .symbol "*" :: _ => return none
    | .symbol "." :: .name part _ :: _ =>
      symbol "."
      let _ ← next
      return some part
    | .symbol "." :: .literal (.text s) :: _ =>
      symbol "."
      let _ ← next
      return some ⟨s, some '\''⟩
    | .symbol "." :: _ => fail
    | _ => return none
  let whole := Path.ofIdents name rest
  if ← symbol? "." then
    if g.dialect != .postgres then fail
    symbol "*"
    return .qualifiedWildcard whole
  else if ← atSymbol "(" then g.call whole
  else if rest.isEmpty && name.value.startsWith "_" then
    match (← remaining).head? with
    | some (.literal (.text s)) => introduced (.text s)
    | some (.literal (.doubleQuoted s)) => introduced (.doubleQuoted s)
    | some (.literal (.hex s)) => introduced (.hex s)
    | _ => return .column whole
  else return .column whole
where
  /-- A string behind the name of its character set. -/
  introduced (v : Value) : Parser Expr := do
    let _ ← next
    return .ofPieces [.text (name.value ++ " " ++ v.render)]

/-- An operand that starts with a word. The answer says whether a collation can follow: it
cannot behind a plain name whose first word could have started a special form. -/
def worded (name : Ident) (k : String) : Parser (Expr × Bool) := do
  match ← optional? (g.specialForm? name k) with
  | some (some e) => return (e, true)
  | some none => return (← g.plainName name, true)
  | none => if reserved.contains k then fail else return (← g.plainName name, false)

/-- A query, an expression or several expressions in parentheses. -/
def parenthesized : Parser Expr := do
  symbol "("
  let e ← if ← atQuery then do pure (.subquery (← g.query).nested)
    else match ← commaList g.expr with
      | [e] => pure (.nested e)
      | es => pure (.ofPieces (.text "(" :: Piece.list es ++ [.text ")"]))
  symbol ")"
  if ← symbol? "." then
    match ← next with
    | .name key _ => return .ofPieces [.operand e, .text ("." ++ key.render)]
    | _ => fail
  else return e

/-- The operators of one dialect that stand in front of their operand. -/
def leadingSigns : List String := ["!!", "|/", "||/", "@", "~"]

/-- An operand that starts with a sign. -/
def signed (s : String) : Parser Expr := do
  if s = "(" then g.parenthesized
  else if s = "[" then
    symbol s
    g.arrayForm ""
  else if s = "-" then
    symbol s
    return .unary .minus (← g.subexpr (Binding.product.rank g.dialect))
  else if s = "+" then
    symbol s
    return .unary .plus (← g.subexpr (Binding.product.rank g.dialect))
  else if g.dialect = .postgres ∧ leadingSigns.contains s then
    symbol s
    return .unary (.other s) (← g.subexpr (Binding.sum.rank g.dialect))
  else if s = ":" ∨ s = "@" then
    return .value (← literal)
  else if s = "\x7b" then
    symbol s
    match ← optional? g.bracedCall with
    | some e =>
      symbol "\x7d"
      return e
    | none => if g.dialect = .generic then g.dictionary else fail
  else fail

/-- A literal as an operand. -/
def literalOperand (v : Value) : Parser Expr := do
  match v with
  | .escaped _ => require (g.dialect != .mysql)
  | _ => pure ()
  let _ ← next
  return .value v

/-- An expression without operators behind it. -/
def parseOperand : Parser Expr :=
  g.typedLiteral <|> do
    let (e, collates) ← match (← remaining).head? with
      | some (.name name k) => do
        let _ ← next
        g.worded name k
      | some (.literal v) => do pure (← g.literalOperand v, true)
      | some (.symbol s) => do pure (← g.signed s, true)
      | _ => fail
    if ← allow collates (keyword? "COLLATE") then
      return .ofPieces [.operand e, .text (" COLLATE " ++ (← path).render)]
    else return e

end Grammar

end SqlSearch.Sql
