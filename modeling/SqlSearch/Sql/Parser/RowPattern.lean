import SqlSearch.Sql.Parser.TableForm

/-!
# Patterns of rows

Parser for tables made of the rows of another table that follow each other in a given pattern.
A pattern is much like a regular expression over symbols, which stand for conditions on a row.

## Main definitions

* `Parser.rowPattern`: a pattern
* `Grammar.matchRecognize`: what follows `MATCH_RECOGNIZE`
-/

namespace SqlSearch.Sql

open SqlSearch.Sql.Parser

namespace Parser

/-- The first number, `2 ^ 32`, that does not fit into 32 bits. -/
def repeatBound : Nat := 4294967296

/-- How often a part of a pattern is repeated. -/
def repeatCount : Parser Nat := do
  let n ← count
  require (n < repeatBound)
  return n

/-- The sign for how often a part of a pattern is repeated, or nothing. -/
def quantifier? : Parser (Option String) := do
  match (← remaining).head? with
  | some (.symbol "*") =>
    let _ ← next
    return some "*"
  | some (.symbol "+") =>
    let _ ← next
    return some "+"
  | some (.literal (.placeholder "?")) =>
    let _ ← next
    return some "?"
  | some (.symbol "\x7b") =>
    let _ ← next
    let range ← if ← symbol? "," then do
        pure ("," ++ toString (← repeatCount))
      else do
        let low ← repeatCount
        if ← symbol? "," then
          if ← atSymbol "\x7d" then pure s!"{low},"
          else do pure (s!"{low}," ++ toString (← repeatCount))
        else pure (toString low)
    symbol "\x7d"
    return some ("\x7b" ++ range ++ "\x7d")
  | _ => return none

/-- A part of a pattern without repetition; `group` reads what stands in parentheses. -/
def patternPart (group : Parser String) : Parser String := do
  match ← remaining with
  | .symbol "^" :: _ =>
    let _ ← next
    return "^"
  | .literal (.placeholder "$") :: _ =>
    let _ ← next
    return "$"
  | .symbol "\x7b" :: _ =>
    let _ ← next
    symbol "-"
    let name ← ident
    symbol "-"
    symbol "\x7d"
    return "\x7b- " ++ name.render ++ " -\x7d"
  | .name ⟨"PERMUTE", none⟩ _ :: _ =>
    let _ ← next
    return "PERMUTE(" ++ joinIdents (← columnNames) ++ ")"
  | .symbol "(" :: _ => return "( " ++ (← parens group) ++ " )"
  | _ => return (← ident).render

/-- A pattern with parentheses nested at most as deeply as the given depth. -/
def rowPatternOf : Nat → Parser String
  | 0 => tooDeep
  | depth + 1 => do
    let part : Parser String := do
      let base ← patternPart (rowPatternOf depth)
      return base ++ String.join (← many quantifier?)
    let sequence : Parser String := do
      let first ← part
      let rest ← many do
        if ← atSymbol ")" then return none
        else if ← atSymbol "|" then return none
        else some <$> part
      return String.intercalate " " (first :: rest)
    let first ← sequence
    let rest ← many do whenever (← symbol? "|") sequence
    return String.intercalate " | " (first :: rest)

/-- A pattern. -/
def rowPattern : Parser String := do rowPatternOf (← remaining).length

end Parser

namespace Grammar

variable (g : Grammar)

/-- How many rows a match makes, with a blank behind, or nothing. -/
def rowsPerMatch : Parser String := do
  if ← keywords? ["ONE", "ROW", "PER", "MATCH"] then return "ONE ROW PER MATCH "
  else if ← keywords? ["ALL", "ROWS", "PER", "MATCH"] then
    let mode ← choice?
      [["SHOW", "EMPTY", "MATCHES"], ["OMIT", "EMPTY", "MATCHES"],
        ["WITH", "UNMATCHED", "ROWS"]]
    return "ALL ROWS PER MATCH " ++ mode.elim "" (String.intercalate " " · ++ " ")
  else return ""

/-- Where the search goes on behind a match, with a blank behind, or nothing. -/
def afterMatch : Parser String := do
  if !(← keywords? ["AFTER", "MATCH", "SKIP"]) then return ""
  let place ← if ← keywords? ["PAST", "LAST", "ROW"] then pure "PAST LAST ROW"
    else if ← keywords? ["TO", "NEXT", "ROW"] then pure "TO NEXT ROW"
    else if ← keywords? ["TO", "FIRST"] then do pure ("TO FIRST " ++ (← ident).render)
    else do
      keywords ["TO", "LAST"]
      pure ("TO LAST " ++ (← ident).render)
  return s!"AFTER MATCH SKIP {place} "

/-- What follows `MATCH_RECOGNIZE` behind a table. -/
def matchRecognize (table : Relation) : Parser Relation := do
  symbol "("
  let partition ← if ← keywords? ["PARTITION", "BY"] then do
      pure ("PARTITION BY " ++ commas (Expr.renderList (← commaList g.expr)) ++ " ")
    else pure ""
  let order ← if ← keywords? ["ORDER", "BY"] then do
      pure ("ORDER BY " ++ commas ((← commaList g.orderKey).map OrderKey.render) ++ " ")
    else pure ""
  let measures ← if ← keyword? "MEASURES" then do
      let measures ← commaList do
        let e ← g.expr
        let _ ← keyword? "AS"
        return s!"{e.render} AS " ++ (← ident).render
      pure s!"MEASURES {commas measures} "
    else pure ""
  let rows ← rowsPerMatch
  let after ← afterMatch
  keyword "PATTERN"
  let pattern ← parens rowPattern
  keyword "DEFINE"
  let symbols ← commaList do
    let name ← ident
    keyword "AS"
    return s!"{name.render} AS " ++ (← g.expr).render
  symbol ")"
  return { kind := .other
           body :=
             s!"{table.render} MATCH_RECOGNIZE({partition}{order}{measures}{rows}{after}" ++
             s!"PATTERN ({pattern}) DEFINE {commas symbols})"
           as? := ← g.tableAlias? }

end Grammar

end SqlSearch.Sql
