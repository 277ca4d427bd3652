import SqlSearch.Sql.Keyword
import SqlSearch.Sql.Value

/-!
# Tokens

SQL text is read token by token. A word carries the keyword it may stand for; a quoted word
stands for none. A literal carries its value. Signs are told apart by their spelling.

## Main definitions

* `Token`: the tokens
* `Token.word`, `Token.isSymbol`, `Token.keyword`: how tokens are made and recognised
-/

namespace SqlSearch.Sql

/-- A token of SQL text. -/
inductive Token where
  /-- An identifier or keyword; `keyword` is empty if it is quoted. -/
  | name (ident : Ident) (keyword : String)
  /-- A literal. -/
  | literal (v : Value)
  /-- An operator or a punctuation mark, by its spelling. -/
  | symbol (s : String)
  /-- An operator that the dialect does not know, by its spelling. -/
  | operator (s : String)
  /-- A character that starts no token. -/
  | stray (c : Char)
  deriving DecidableEq, Repr

namespace Token

/-- The token of an unquoted word. -/
def word (s : String) : Token := .name ⟨s, none⟩ (Keyword.ofWord s)

/-- The token of a quoted identifier. -/
def quoted (quote : Char) (s : String) : Token := .name ⟨s, some quote⟩ ""

/-- The keyword that a token may stand for. -/
def keyword : Token → String
  | .name _ keyword => keyword
  | _ => ""

/-- The token is the sign `s`. -/
def isSymbol (s : String) : Token → Bool
  | .symbol sign => sign == s
  | _ => false

/-- The spelling of a token inside the name of an operator. Nothing between quotes is
escaped. -/
def spelling : Token → String
  | .name ident _ => ident.spelling
  | .literal v => v.spelling
  | .symbol s => s
  | .operator s => s
  | .stray c => c.toString

end Token

end SqlSearch.Sql
