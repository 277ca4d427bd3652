import SqlSearch.Sql.Token

/-!
# Reading tokens

A parser reads tokens from the front of a list and leaves the rest. This module holds parsers
for single tokens and the ways to put parsers together.

## Main definitions

* `Parser`: a parser, with `Failure` for the two ways in which it can fail
* `Parser.orElse`: tries one parser and then another
* `Parser.symbol`, `Parser.keyword` and their relatives: single tokens
* `Parser.iterate`, `Parser.commaList`: repetition

## Design

A name that ends in `?` asks whether something is there and reads it if it is; the same name
without it insists.

The two failures differ in that an alternative is tried only after an unexpected token. Text
that is nested too deeply is refused at once, however it might be read otherwise.

Repetition goes on only while tokens are read, and so it ends.
-/

namespace SqlSearch.Sql

/-- Why reading failed. -/
inductive Failure where
  /-- The next token does not fit. -/
  | unexpected
  /-- The text is nested too deeply. -/
  | tooDeep
  deriving DecidableEq, Repr

/-- A parser: from tokens to a value and the tokens that are left. -/
def Parser (α : Type) : Type := List Token → Except Failure (α × List Token)

namespace Parser

variable {α β : Type}

instance : Monad Parser where
  pure a := fun ts => .ok (a, ts)
  bind p f := fun ts =>
    match p ts with
    | .error e => .error e
    | .ok (a, rest) => f a rest

/-- Refuses the next token. -/
def fail : Parser α := fun _ => .error .unexpected

/-- Refuses the text because of its depth. -/
def tooDeep : Parser α := fun _ => .error .tooDeep

/-- Reads with `p`, and with `q` from the same place if `p` meets an unexpected token. -/
def orElse (p : Parser α) (q : Unit → Parser α) : Parser α := fun ts =>
  match p ts with
  | .error .unexpected => q () ts
  | result => result

instance : OrElse (Parser α) := ⟨orElse⟩

/-- Reads with `p` if that is possible. -/
def optional? (p : Parser α) : Parser (Option α) := (some <$> p) <|> pure none

/-- Reads with `p` if `present` holds. -/
def whenever (present : Bool) (p : Parser α) : Parser (Option α) :=
  if present then some <$> p else pure none

/-- The tokens that are left. -/
def remaining : Parser (List Token) := fun ts => .ok (ts, ts)

/-- The next token, which is read. -/
def next : Parser Token := fun ts =>
  match ts with
  | [] => .error .unexpected
  | t :: rest => .ok (t, rest)

/-- Passes over `n` tokens, or over all that are left if they are fewer. -/
def skip (n : Nat) : Parser Unit := fun ts => .ok ((), ts.drop n)

/-- Reads the next token if it fits. -/
def token? (fits : Token → Bool) : Parser Bool := fun ts =>
  match ts with
  | [] => .ok (false, [])
  | t :: rest => if fits t then .ok (true, rest) else .ok (false, t :: rest)

/-- Whether the next token is the sign `s`. The token is not read. -/
def atSymbol (s : String) : Parser Bool := fun ts =>
  .ok (ts.head?.any (Token.isSymbol s), ts)

/-- The keyword that the token at a distance may stand for. Nothing is read. -/
def keywordAt (distance : Nat) : Parser String := fun ts =>
  .ok ((ts[distance]?.map Token.keyword).getD "", ts)

/-- Whether the next token is one of several keywords. The token is not read. -/
def atKeyword (keywords : List String) : Parser Bool := do
  return keywords.contains (← keywordAt 0)

/-- Reads the sign `s` if it comes next. -/
def symbol? (s : String) : Parser Bool := token? (Token.isSymbol s)

/-- Reads the keyword `k` if it comes next. -/
def keyword? (k : String) : Parser Bool := token? (Token.keyword · == k)

/-- Asks only if the condition holds; otherwise the answer is no and nothing is read. -/
def allow (condition : Bool) (ask : Parser Bool) : Parser Bool :=
  if condition then ask else pure false

/-- Fails unless the condition holds. -/
def require (condition : Bool) : Parser Unit := if condition then pure () else fail

/-- Reads the sign `s`. -/
def symbol (s : String) : Parser Unit := do require (← symbol? s)

/-- Reads the keyword `k`. -/
def keyword (k : String) : Parser Unit := do require (← keyword? k)

/-- Reads a sequence of keywords. -/
def keywords : List String → Parser Unit
  | [] => pure ()
  | k :: rest => do keyword k; keywords rest

/-- Reads a sequence of keywords if all of them come next. -/
def keywords? (ks : List String) : Parser Bool :=
  (do keywords ks; return true) <|> pure false

/-- Reads the sequences of keywords of a list in turn, until one of them is there. -/
def choice? : List (List String) → Parser (Option (List String))
  | [] => pure none
  | ks :: rest => do if ← keywords? ks then return some ks else choice? rest

/-- Reads one of several keywords if one comes next. -/
def oneOf? (ks : List String) : Parser (Option String) := do
  let k ← keywordAt 0
  if ks.contains k then
    keyword k
    return some k
  else
    return none

/-- Reads one of several keywords. -/
def oneOf (ks : List String) : Parser String := do
  match ← oneOf? ks with
  | some k => return k
  | none => fail

/-- Reads with `p` between parentheses. -/
def parens (p : Parser α) : Parser α := do
  symbol "("
  let a ← p
  symbol ")"
  return a

/-- Repeats a step on a value as long as the step goes on and reads something. -/
def iterate (step : α → Parser (Option α)) (a : α) (ts : List Token) :
    Except Failure (α × List Token) :=
  match step a ts with
  | .error e => .error e
  | .ok (none, rest) => .ok (a, rest)
  | .ok (some b, rest) =>
    if _h : rest.length < ts.length then iterate step b rest else .ok (b, rest)
termination_by ts.length

/-- Reads items for as long as there are any. -/
def many (item : Parser (Option α)) : Parser (List α) := do
  let found ← (iterate fun (acc : List α) => do return (← item).map (· :: acc)) []
  return found.reverse

/-- Reads one or more items with commas between them. -/
def commaList (item : Parser α) : Parser (List α) := do
  let first ← item
  let rest ← many do whenever (← symbol? ",") item
  return first :: rest

/-- Reads items with commas between them up to a closing sign, which is left. There may be
none. -/
def commaListUntil (close : String) (item : Parser α) : Parser (List α) := do
  if ← atSymbol close then return [] else commaList item

end Parser

end SqlSearch.Sql
