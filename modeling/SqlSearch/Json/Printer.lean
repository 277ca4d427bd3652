import SqlSearch.Json.Basic

/-!
# Writing JSON

A value has two written forms. The compact form holds no white space outside strings. The
pretty form puts every item and every field on a line of its own, indented by two blanks for
each level, and writes an empty list or object in one piece.

Inside strings the quote, the backslash and the control characters below the blank are escaped,
the latter by a letter where JSON has one and by four hexadecimal digits otherwise. Every other
character stands for itself.

## Main definitions

* `Json.quote`: a string between quotes
* `Json.compact`, `Json.pretty`: the two written forms

## Design

Both printers produce characters (`List Char`), which is the form in which texts are compared;
the `String` versions wrap them.
-/

namespace SqlSearch

namespace Json

/-- A hexadecimal digit, in lower case. -/
def hexDigit (n : Nat) : Char :=
  if n < 10 then Char.ofNat (48 + n) else Char.ofNat (87 + n)

/-- One character inside a string. -/
def escapeChar (c : Char) : List Char :=
  if c = '"' then ['\\', '"']
  else if c = '\\' then ['\\', '\\']
  else if c = '\x08' then ['\\', 'b']
  else if c = '\x0c' then ['\\', 'f']
  else if c = '\n' then ['\\', 'n']
  else if c = '\r' then ['\\', 'r']
  else if c = '\t' then ['\\', 't']
  else if c.toNat < 0x20 then
    ['\\', 'u', '0', '0', hexDigit (c.toNat / 16), hexDigit (c.toNat % 16)]
  else [c]

/-- A string between quotes, its characters escaped. -/
def quoteChars (s : String) : List Char :=
  '"' :: (s.toList.flatMap escapeChar ++ ['"'])

/-- A number in decimal digits. -/
def numChars (n : Nat) : List Char := Nat.toDigits 10 n

mutual

/-- The compact form. -/
def compactChars : Json → List Char
  | .str s => quoteChars s
  | .num n => numChars n
  | .arr [] => ['[', ']']
  | .arr (item :: rest) => '[' :: (item.compactChars ++ compactItems rest)
  | .obj [] => ['\x7b', '\x7d']
  | .obj ((key, value) :: rest) =>
    '\x7b' :: (quoteChars key ++ ':' :: (value.compactChars ++ compactFields rest))

/-- The items after the first, with the closing bracket. -/
def compactItems : List Json → List Char
  | [] => [']']
  | item :: rest => ',' :: (item.compactChars ++ compactItems rest)

/-- The fields after the first, with the closing brace. -/
def compactFields : List (String × Json) → List Char
  | [] => ['\x7d']
  | (key, value) :: rest =>
    ',' :: (quoteChars key ++ ':' :: (value.compactChars ++ compactFields rest))

end

/-- A new line indented by `depth` levels. -/
def newline (depth : Nat) : List Char := '\n' :: List.replicate (2 * depth) ' '

mutual

/-- The pretty form of a value that stands `depth` levels deep. -/
def prettyChars (depth : Nat) : Json → List Char
  | .str s => quoteChars s
  | .num n => numChars n
  | .arr [] => ['[', ']']
  | .arr (item :: rest) =>
    '[' :: (newline (depth + 1) ++ (item.prettyChars (depth + 1) ++ prettyItems depth rest))
  | .obj [] => ['\x7b', '\x7d']
  | .obj ((key, value) :: rest) =>
    '\x7b' :: (newline (depth + 1) ++ (quoteChars key ++ ':' :: ' ' ::
      (value.prettyChars (depth + 1) ++ prettyFields depth rest)))

/-- The items after the first, with the closing bracket on a line of its own. -/
def prettyItems (depth : Nat) : List Json → List Char
  | [] => newline depth ++ [']']
  | item :: rest =>
    ',' :: (newline (depth + 1) ++ (item.prettyChars (depth + 1) ++ prettyItems depth rest))

/-- The fields after the first, with the closing brace on a line of its own. -/
def prettyFields (depth : Nat) : List (String × Json) → List Char
  | [] => newline depth ++ ['\x7d']
  | (key, value) :: rest =>
    ',' :: (newline (depth + 1) ++ (quoteChars key ++ ':' :: ' ' ::
      (value.prettyChars (depth + 1) ++ prettyFields depth rest)))

end

/-- The compact form as a string. -/
def compact (json : Json) : String := String.ofList json.compactChars

/-- The pretty form as a string. -/
def pretty (json : Json) : String := String.ofList (json.prettyChars 0)

end Json

end SqlSearch
