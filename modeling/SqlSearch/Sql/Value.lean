import SqlSearch.Sql.Name
import SqlSearch.Json.Printer

/-!
# Literals

The literals of SQL text, with the values they stand for.

## Main definitions

* `Value`: the literals
* `Value.render`: their written form
* `Value.spelling`: their written form without escapes
-/

namespace SqlSearch.Sql

/-- A literal. -/
inductive Value where
  /-- A number, by its digits; `long` marks one that ends in `L`. -/
  | number (digits : String) (long : Bool)
  /-- `'text'` -/
  | text (value : String)
  /-- `"text"`, where double quotes do not quote identifiers. -/
  | doubleQuoted (value : String)
  /-- `N'text'` -/
  | national (value : String)
  /-- `E'text'`, with backslash escapes. -/
  | escaped (value : String)
  /-- `U&'text'`, with code points after backslashes. -/
  | unicode (value : String)
  /-- `X'digits'` -/
  | hex (digits : String)
  /-- `$tag$text$tag$` -/
  | dollar (tag value : String)
  /-- `B'text'` or `B"text"`, by the quote around it. -/
  | bytes (quote value : String)
  /-- `R'text'`, by the quote around it, which may be threefold. -/
  | raw (quote value : String)
  | boolean (value : Bool)
  | null
  /-- A parameter that is filled in later. -/
  | placeholder (name : String)
  deriving DecidableEq, Repr

/-- A character between the quotes of `E'…'`. -/
def escapeEscaped (c : Char) : List Char :=
  if c = '\'' then ['\\', '\'']
  else if c = '\\' then ['\\', '\\']
  else if c = '\n' then ['\\', 'n']
  else if c = '\t' then ['\\', 't']
  else if c = '\r' then ['\\', 'r']
  else [c]

/-- The last `width` hexadecimal digits of a number, in upper case. -/
def upperHex (width n : Nat) : List Char :=
  match width with
  | 0 => []
  | width + 1 => upperHex width (n / 16) ++ [(Json.hexDigit (n % 16)).toUpper]

/-- A character between the quotes of `U&'…'`. -/
def escapeUnicode (c : Char) : List Char :=
  if c = '\'' then ['\'', '\'']
  else if c = '\\' then ['\\', '\\']
  else if c.toNat < 0x80 then [c]
  else if c.toNat ≤ 0xffff then '\\' :: upperHex 4 c.toNat
  else '\\' :: '+' :: upperHex 6 c.toNat

/-- The written form of a literal. -/
def Value.render : Value → String
  | .number digits long => digits ++ (if long then "L" else "")
  | .text value => quoteWith '\'' value
  | .doubleQuoted value => quoteWith '"' value
  | .national value => "N'" ++ value ++ "'"
  | .escaped value => "E'" ++ String.ofList (value.toList.flatMap escapeEscaped) ++ "'"
  | .unicode value => "U&'" ++ String.ofList (value.toList.flatMap escapeUnicode) ++ "'"
  | .hex digits => "X'" ++ digits ++ "'"
  | .dollar tag value => "$" ++ tag ++ "$" ++ value ++ "$" ++ tag ++ "$"
  | .bytes quote value => "B" ++ quote ++ value ++ quote
  | .raw quote value => "R" ++ quote ++ value ++ quote
  | .boolean value => if value then "true" else "false"
  | .null => "NULL"
  | .placeholder name => name

/-- A literal with its value between the quotes as it stands. -/
def Value.spelling : Value → String
  | .text value => "'" ++ value ++ "'"
  | .doubleQuoted value => "\"" ++ value ++ "\""
  | .escaped value => "E'" ++ value ++ "'"
  | .unicode value => "U&'" ++ value ++ "'"
  | v => v.render

end SqlSearch.Sql
