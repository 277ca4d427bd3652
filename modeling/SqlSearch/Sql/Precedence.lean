import SqlSearch.Options
import SqlSearch.Sql.Token

/-!
# Precedence

How tightly the operators of an expression bind. The order of the classes of operators depends
on the dialect, and so, for a few signs, does the class.

## Main definitions

* `Binding`: the classes of operators
* `Binding.rank`: how tightly a class binds, a greater number more tightly
* `rankOfNext`: the rank of the operator at the front of a list of tokens, 0 if there is none
-/

namespace SqlSearch.Sql

/-- A class of operators. -/
inductive Binding where
  | or
  | and
  | not
  | is
  | like
  | between
  | comparison
  | pipe
  | caret
  | ampersand
  | xor
  | sum
  | product
  | zone
  | collation
  | index
  | cast
  /-- Operators on ranges and on the starts of texts. -/
  | overlap
  /-- Every other operator. -/
  | other
  deriving DecidableEq, Repr

namespace Binding

/-- How tightly a class of operators binds. -/
def rank : Dialect → Binding → Nat
  | .postgres, .or => 10
  | .postgres, .and => 20
  | .postgres, .not => 30
  | .postgres, .is => 40
  | .postgres, .comparison => 50
  | .postgres, .like => 60
  | .postgres, .between => 60
  | .postgres, .pipe => 70
  | .postgres, .ampersand => 70
  | .postgres, .overlap => 70
  | .postgres, .other => 70
  | .postgres, .xor => 75
  | .postgres, .sum => 80
  | .postgres, .product => 90
  | .postgres, .caret => 100
  | .postgres, .zone => 110
  | .postgres, .collation => 120
  | .postgres, .index => 130
  | .postgres, .cast => 140
  | _, .or => 5
  | _, .and => 10
  | _, .not => 15
  | _, .other => 16
  | _, .is => 17
  | _, .like => 19
  | _, .comparison => 20
  | _, .between => 20
  | _, .pipe => 21
  | _, .caret => 22
  | _, .ampersand => 23
  | _, .xor => 24
  | _, .sum => 30
  | _, .product => 40
  | _, .zone => 41
  | _, .collation => 42
  | _, .index => 50
  | _, .cast => 50
  | _, .overlap => 50

/-- The class of a sign. -/
def ofSymbol? (d : Dialect) (s : String) : Option Binding :=
  if ["=", "==", "<>", "<", "<=", ">", ">=", "<=>", "~", "~*", "!~", "!~*", "~~", "~~*", "!~~",
      "!~~*"].contains s then some .comparison
  else if s = "|" then some .pipe
  else if s = "^" then some .caret
  else if s = "&" then some .ampersand
  else if s = "+" ∨ s = "-" then some .sum
  else if ["*", "/", "//", "%"].contains s then some .product
  else if s = "::" then some .cast
  else if s = "[" then some .index
  else if s = "||" then some (if d = .postgres then .other else .product)
  else if ["#", "<<", ">>"].contains s then some (if d = .postgres then .other else .caret)
  else if s = "!" then some (if d = .postgres then .other else .index)
  else if s = "&&" ∨ s = "^@" then some .overlap
  else if ["->", "->>", "#>", "#>>", "@>", "<@", "#-", "@?", "@@", "?", "?&",
      "?|"].contains s then
    some .other
  else none

/-- The class of the operator that a keyword starts. -/
def ofKeyword? (d : Dialect) (k : String) : Option Binding :=
  if k = "OR" then some .or
  else if k = "AND" then some .and
  else if k = "XOR" then some .xor
  else if k = "IS" then some .is
  else if ["IN", "BETWEEN", "OPERATOR"].contains k then some .between
  else if ["LIKE", "ILIKE", "RLIKE", "REGEXP", "SIMILAR"].contains k then some .like
  else if k = "DIV" then some .product
  else if k = "COLLATE" ∧ d = .postgres then some .collation
  else none

/-- The class of the operator at the front of a list of tokens. `NOT` counts only in front of a
predicate that it negates, and `AT` only in front of `TIME ZONE`. -/
def ofTokens? (d : Dialect) : List Token → Option Binding
  | [] => none
  | .symbol s :: _ => ofSymbol? d s
  | .operator _ :: _ => some .other
  | token :: rest =>
    let following := (rest.take 2).map Token.keyword
    if token.keyword = "NOT" then
      match following with
      | k :: _ =>
        if k = "IN" ∨ k = "BETWEEN" then some .between
        else if ["LIKE", "ILIKE", "RLIKE", "REGEXP", "SIMILAR"].contains k then some .like
        else none
      | [] => none
    else if token.keyword = "AT" then
      if following = ["TIME", "ZONE"] then some .zone else none
    else ofKeyword? d token.keyword

end Binding

/-- The rank of the operator at the front of a list of tokens, 0 if there is none. -/
def rankOfNext (d : Dialect) (tokens : List Token) : Nat :=
  ((Binding.ofTokens? d tokens).map (Binding.rank d)).getD 0

end SqlSearch.Sql
