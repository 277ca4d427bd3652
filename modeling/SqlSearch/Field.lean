import SqlSearch.Text.Blank

/-!
# Field names and literal values

SQL names a field by a path such as `users.salary`, possibly quoted, and gives a value by the
text of a literal. Documents hold the bare name and the bare value.

## Main definitions

* `Field.stripQualifier`: the text after the last period
* `Field.stripQuotes`: the text without one pair of quotes around it
* `Field.bare`: the name of a field in an aggregation
* `Field.literalValue`: the value of a literal

## Design

All rules look at characters: a quote or a period is a character of its own, and the text
between two of them is never cut inside a character.
-/

namespace SqlSearch.Field

/-- The characters after the last period, or all of them. -/
def afterLastPeriod (cs : List Char) : List Char := (cs.reverse.takeWhile (· != '.')).reverse

/-- The path without its qualifier: the text after the last period. -/
def stripQualifier (path : String) : String := String.ofList (afterLastPeriod path.toList)

/-- The characters that quote a name. -/
def isQuote (c : Char) : Bool := c == '\'' || c == '"' || c == '\x60'

/-- The characters without the first and the last, if there are two and both are the same
quote. -/
def unquoted : List Char → List Char
  | [] => []
  | c :: cs => if isQuote c && cs.getLast? == some c then cs.dropLast else c :: cs

/-- The text without one pair of quotes around it. -/
def stripQuotes (s : String) : String := String.ofList (unquoted s.toList)

/-- The name of a field in an aggregation: the path without white space at its ends, quotes and
qualifier. Quotes go both around the whole path and around the name that is left. -/
def bare (path : String) : String :=
  stripQuotes (stripQualifier (stripQuotes (Text.trim path)))

/-- Two single quotes in a row become one, from left to right. -/
def collapseQuotes : List Char → List Char
  | [] => []
  | [c] => [c]
  | c :: d :: cs =>
    if c = '\'' ∧ d = '\'' then '\'' :: collapseQuotes cs else c :: collapseQuotes (d :: cs)

/-- The value of a literal: a single-quoted text loses its quotes and its doubled quotes
collapse; any other text is its own value. -/
def literalValue (text : String) : String :=
  match text.toList with
  | '\'' :: cs =>
    if cs.getLast? == some '\'' then String.ofList (collapseQuotes cs.dropLast) else text
  | _ => text

end SqlSearch.Field
