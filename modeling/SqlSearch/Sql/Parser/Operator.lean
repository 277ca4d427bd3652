import SqlSearch.Sql.Parser.Operand

/-!
# Operators

Parser for expressions: an operand, followed by operators with their other operands as long as
these bind tightly enough.

## Main definitions

* `Grammar.binaryOp?`: the operators between two operands
* `Grammar.parseInfix`: one operator behind an operand
* `Grammar.parseSubexpr`: an expression
-/

namespace SqlSearch.Sql

open SqlSearch.Sql.Parser

/-- The comparison that a sign stands for. -/
def CompareOp.ofSymbol? (s : String) : Option CompareOp :=
  if s = "=" ∨ s = "==" then some .eq
  else if s = "<>" then some .ne
  else if s = ">" then some .gt
  else if s = ">=" then some .ge
  else if s = "<" then some .lt
  else if s = "<=" then some .le
  else none

namespace Grammar

variable (g : Grammar)

/-- The dialect has a sign as an operator between two operands. -/
def hasOperator (s : String) : Bool :=
  if s = "//" then g.dialect = .generic
  else if s = "#" then g.dialect = .postgres
  else if ["<<", ">>", "&&", "^@"].contains s then g.dialect ≠ .mysql
  else
    ["+", "-", "*", "/", "%", "||", "|", "^", "&", "<=>", "~", "~*", "!~", "!~*", "~~", "~~*",
     "!~~", "!~~*", "->", "->>", "#>", "#>>", "@>", "<@", "#-", "@?", "@@", "?", "?&",
     "?|"].contains s

/-- Reads an operator that stands between two operands, if there is one. -/
def binaryOp? : Parser (Option BinaryOp) := do
  match (← remaining).head? with
  | some (.symbol s) =>
    match CompareOp.ofSymbol? s with
    | some op =>
      let _ ← next
      return some (.compare op)
    | none =>
      if g.hasOperator s then
        let _ ← next
        return some (.other s)
      else return none
  | some (.operator s) =>
    let _ ← next
    return some (.other s)
  | some (.name _ k) =>
    if k = "AND" then
      let _ ← next
      return some .and
    else if k = "OR" then
      let _ ← next
      return some .or
    else if k = "XOR" then
      let _ ← next
      return some (.other k)
    else if k = "OPERATOR" ∧ g.dialect ≠ .mysql then
      let _ ← next
      symbol "("
      let first ← next
      let rest ← many do whenever (← symbol? ".") next
      symbol ")"
      let parts := (first :: rest).map Token.spelling
      return some (.other ("OPERATOR(" ++ String.intercalate "." parts ++ ")"))
    else return none
  | _ => return none

/-- The right side of a binary operator. A comparison can be with any or all of several
values. -/
def rightSide (left : Expr) (op : BinaryOp) (precedence : Nat) : Parser Expr := do
  match ← oneOf? ["ANY", "ALL", "SOME"] with
  | none => return .binary left op (← g.subexpr precedence)
  | some quantifier =>
    require (match op with
      | .compare _ => true
      | _ => false)
    let right ← match ← remaining with
      | .symbol "(" :: token :: _ =>
        if ["SELECT", "WITH"].contains token.keyword then g.subexpr precedence
        else parens (g.subexpr precedence)
      | _ => fail
    let lead := " " ++ op.symbol ++ " " ++ quantifier
    match right with
    | .subquery q => return .ofPieces [.operand left, .text lead, .operand (.subquery q)]
    | e => return .ofPieces [.operand left, .text (lead ++ "("), .operand e, .text ")"]

/-- What follows `IS`. -/
def isForm (left : Expr) : Parser Expr := do
  let negation ← if ← keyword? "NOT" then pure "NOT " else pure ""
  match ← oneOf? ["NULL", "TRUE", "FALSE", "UNKNOWN"] with
  | some k => return .ofPieces [.operand left, .text s!" IS {negation}{k}"]
  | none =>
    keywords ["DISTINCT", "FROM"]
    let right ← g.expr
    return .ofPieces [.operand left, .text s!" IS {negation}DISTINCT FROM ", .operand right]

/-- What follows `IN`. -/
def inForm (left : Expr) (negated : Bool) : Parser Expr := do
  let word := " " ++ Expr.negation negated ++ "IN "
  if ← keyword? "UNNEST" then
    let array ← parens g.expr
    return .ofPieces [.operand left, .text (word ++ "UNNEST("), .operand array, .text ")"]
  symbol "("
  if ← atQuery then
    let q ← g.query
    symbol ")"
    return .inSubquery left negated q.nested
  else
    let list ← commaList g.expr
    symbol ")"
    return .ofPieces (.operand left :: .text (word ++ "(") :: Piece.list list ++ [.text ")"])

/-- What follows `BETWEEN`. -/
def betweenForm (left : Expr) (negated : Bool) : Parser Expr := do
  let rank := Binding.between.rank g.dialect
  let low ← g.subexpr rank
  keyword "AND"
  let high ← g.subexpr rank
  return .ofPieces [.operand left, .text (" " ++ Expr.negation negated ++ "BETWEEN "),
    .operand low, .text " AND ", .operand high]

/-- What follows a word that compares with a pattern. With an escape character the word is
written as `escaped`, if that is given. -/
def patternForm (left : Expr) (negated : Bool) (word : String) (escaped : Option String) :
    Parser Expr := do
  let pattern ← g.subexpr (Binding.like.rank g.dialect)
  let escape ← whenever (← allow escaped.isSome (keyword? "ESCAPE")) (text g.dialect)
  let shown := if escape.isSome then escaped.getD word else word
  return .ofPieces [.operand left, .text (" " ++ Expr.negation negated ++ shown),
    .operand pattern, .text (escape.elim "" fun s => " ESCAPE '" ++ s ++ "'")]

/-- A predicate that `NOT` can negate. Both words for regular expressions can stand together.
With an escape character nothing stands between `ILIKE ANY` and its pattern. -/
def negatable (left : Expr) : Parser Expr := do
  let negated ← keyword? "NOT"
  let regexp ← keyword? "REGEXP"
  let rlike ← keyword? "RLIKE"
  if regexp then g.patternForm left negated "REGEXP " none
  else if rlike then g.patternForm left negated "RLIKE " none
  else if ← keyword? "IN" then g.inForm left negated
  else if ← keyword? "BETWEEN" then g.betweenForm left negated
  else if ← keyword? "LIKE" then
    let word := if ← keyword? "ANY" then "LIKE ANY " else "LIKE "
    g.patternForm left negated word (some word)
  else if ← keyword? "ILIKE" then
    if ← keyword? "ANY" then g.patternForm left negated "ILIKE ANY " (some "ILIKE ANY")
    else g.patternForm left negated "ILIKE " (some "ILIKE ")
  else
    keywords ["SIMILAR", "TO"]
    g.patternForm left negated "SIMILAR TO " (some "SIMILAR TO ")

/-- An index, or a range of indices where the dialect has them, with the closing bracket. -/
def indexForm (left : Expr) : Parser Expr := do
  let close := fun (pieces : List Piece) =>
    Expr.ofPieces (.operand left :: .text "[" :: pieces ++ [.text "]"])
  if g.dialect = .mysql then
    let index ← g.expr
    symbol "]"
    return close [.operand index]
  let low ← if ← symbol? ":" then pure none else some <$> g.expr
  if ← symbol? "]" then
    return close (low.elim [.text ":"] fun e => [.operand e])
  if low.isSome then symbol ":"
  let lead := (low.elim [] fun e => [.operand e]) ++ [.text ":"]
  if ← symbol? "]" then return close lead
  let high ← g.expr
  if ← symbol? "]" then return close (lead ++ [.operand high])
  symbol ":"
  if ← symbol? "]" then return close (lead ++ [.operand high])
  let stride ← g.expr
  symbol "]"
  return close (lead ++ [.operand high, .text ":", .operand stride])

/-- One operator behind an operand, with its other operands. -/
def parseInfix (left : Expr) (precedence : Nat) : Parser Expr := do
  if ← allow (g.dialect == .mysql) (keyword? "DIV") then
    return .binary left (.other "DIV") (← g.expr)
  match ← g.binaryOp? with
  | some op => g.rightSide left op precedence
  | none =>
    if ← keyword? "IS" then g.isForm left
    else if ← keyword? "AT" then
      keywords ["TIME", "ZONE"]
      let zone ← g.subexpr precedence
      return .ofPieces [.operand left, .text " AT TIME ZONE ", .operand zone]
    else if ← symbol? "::" then
      let t ← g.dataType
      return .ofPieces (.operand left :: .text "::" :: t.pieces)
    else if ← allow (g.dialect == .postgres) (symbol? "!") then
      return .ofPieces [.operand left, .text "!"]
    else if ← symbol? "[" then g.indexForm left
    else g.negatable left

/-- An expression whose operators bind more tightly than the given precedence. -/
def parseSubexpr (precedence : Nat) : Parser Expr := do
  let first ← g.parseOperand
  (iterate fun (left : Expr) => do
    let rank := rankOfNext g.dialect (← remaining)
    whenever (precedence < rank) (g.parseInfix left rank)) first

end Grammar

end SqlSearch.Sql
