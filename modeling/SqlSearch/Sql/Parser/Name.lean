import SqlSearch.Options
import SqlSearch.Sql.Parser.Basic

/-!
# Names and literals

Parsers for identifiers, paths, the names given to columns and tables, and literals.

## Main definitions

* `Parser.ident`, `Parser.path`, `Parser.columnNames`: names
* `Parser.alias?`: a name given to something
* `Parser.literal`, `Parser.text`, `Parser.number`, `Parser.count`: literals
* `Parser.words`, `Parser.wordAfter`: keywords in their written form
-/

namespace SqlSearch.Sql.Parser

/-- An identifier. A string can stand for one. -/
def ident : Parser Ident := do
  match ← next with
  | .name ident _ => return ident
  | .literal (.text s) => return ⟨s, some '\''⟩
  | .literal (.doubleQuoted s) => return ⟨s, some '"'⟩
  | _ => fail

/-- Identifiers with periods between them. -/
def path : Parser Path := do
  let first ← ident
  let rest ← many do whenever (← symbol? ".") ident
  return Path.ofIdents first rest

/-- A list of identifiers in parentheses. -/
def columnNames : Parser (List Ident) := parens (commaList ident)

/-- The written form of a list of identifiers. -/
def joinIdents (idents : List Ident) : String :=
  String.intercalate ", " (idents.map Ident.render)

/-- The name given to what stands in front, after `AS` or, where the word is not one that
`ends` it, without. -/
def alias? (ends : String → Bool) : Parser (Option Ident) := do
  let marked ← keyword? "AS"
  match (← remaining).head? with
  | some (.name ident k) =>
    if marked || !ends k then
      let _ ← next
      return some ident
    else return none
  | some (.literal (.text s)) =>
    let _ ← next
    return some ⟨s, some '\''⟩
  | some (.literal (.doubleQuoted s)) =>
    let _ ← next
    return some ⟨s, some '"'⟩
  | _ => if marked then fail else return none

/-- A literal, or one of the words that stand for a value. -/
def literal : Parser Value := do
  match ← next with
  | .literal v => return v
  | .name ident k =>
    if k = "TRUE" then return .boolean true
    else if k = "FALSE" then return .boolean false
    else if k = "NULL" then return .null
    else if ident.quote = some '"' then return .doubleQuoted ident.value
    else fail
  | .symbol s =>
    if s = ":" ∨ s = "@" then
      match ← next with
      | .name ident _ => return .placeholder (s ++ ident.value)
      | .literal (.number n false) => return .placeholder (s ++ n)
      | _ => fail
    else fail
  | _ => fail

/-- The text of a string. A word that is no keyword can stand for one. -/
def text (dialect : Dialect) : Parser String := do
  match ← next with
  | .name ident k => if Keyword.isKnown k then fail else return ident.value
  | .literal (.text s) => return s
  | .literal (.doubleQuoted s) => return s
  | .literal (.escaped s) => if dialect = .mysql then fail else return s
  | .literal (.unicode s) => return s
  | _ => fail

/-- A string between single quotes. -/
def quotedText : Parser String := do
  match ← next with
  | .literal (.text s) => return s
  | _ => fail

/-- A number, or a parameter in place of one, without sign. -/
def unsignedNumber : Parser String := do
  match ← literal with
  | .number digits long => return (Value.number digits long).render
  | .placeholder name => return name
  | _ => fail

/-- A number, or a parameter in place of one, possibly with a sign. -/
def number : Parser String := do
  if ← symbol? "+" then return "+" ++ (← unsignedNumber)
  else if ← symbol? "-" then return "-" ++ (← unsignedNumber)
  else unsignedNumber

/-- The first number, `2 ^ 64`, that does not fit into 64 bits. -/
def countBound : Nat := 18446744073709551616

/-- The number that a run of digits stands for, if it fits into 64 bits. -/
def count? (digits : String) : Option Nat :=
  if digits.toList.all Char.isDigit && !digits.isEmpty then
    let n := digits.toList.foldl (fun n c => 10 * n + (c.toNat - 48)) 0
    if n < countBound then some n else none
  else none

/-- A literal number without sign and fraction. -/
def count : Parser Nat := do
  match ← next with
  | .literal (.number n _) =>
    match count? n with
    | some n => return n
    | none => fail
  | _ => fail

/-- Several keywords in their written form, with a blank behind, if all of them come next. -/
def words (ks : List String) : Parser String := do
  return if ← keywords? ks then String.intercalate " " ks ++ " " else ""

/-- Several keywords in their written form, with a blank in front, if all of them come next. -/
def wordsAfter (ks : List String) : Parser String := do
  return if ← keywords? ks then " " ++ String.intercalate " " ks else ""

/-- One of several keywords, with a blank in front, or nothing. -/
def wordAfter (ks : List String) : Parser String := do
  return (← oneOf? ks).elim "" (" " ++ ·)

end SqlSearch.Sql.Parser
