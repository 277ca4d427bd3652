import SqlSearch.Options
import SqlSearch.Sql.Token
import SqlSearch.Text.Blank
import SqlSearch.Text.Letter

/-!
# From characters to tokens

The lexer reads one token at a time and drops white space and comments. What counts as a
letter, which quotes go around identifiers, which prefixes start a string and where comments
start depends on the dialect.

## Main definitions

* `Lexer.step`: reads a token, or a blank, at the start of a text
* `tokenize`: the tokens of a text, or `none` if a string, a quoted identifier or a comment has
  no end

## Design

`step` takes the first character and the rest apart and answers with the characters that are
left. The loop goes on only with a shorter text, which is what makes it end; a step that read
nothing would end it with an error, and no step does.
-/

namespace SqlSearch.Sql

namespace Lexer

/-- A token, or nothing for white space, with the characters behind it. -/
abbrev Result := Option (Option Token × List Char)

/-- The characters that can start an identifier. -/
def isIdentStart (d : Dialect) (c : Char) : Bool :=
  match d with
  | .generic => Text.isAlphabetic c || c == '_' || c == '#' || c == '@'
  | .mysql =>
    Text.isAlphabetic c || c == '_' || c == '$' || c == '@' ||
      (decide (0x80 ≤ c.toNat) && decide (c.toNat ≤ 0xffff))
  | .postgres => Text.isAlphabetic c || c == '_'

/-- The characters that can follow in an identifier. -/
def isIdentPart (d : Dialect) (c : Char) : Bool :=
  isIdentStart d c || c.isDigit || c == '$'

/-- The quotes that go around identifiers. -/
def quotesIdent (d : Dialect) (c : Char) : Bool :=
  match d with
  | .generic => c == '"' || c == '\x60'
  | .mysql => c == '\x60'
  | .postgres => c == '"'

/-- The characters of which an operator of one's own can be made. -/
def isOperatorChar (d : Dialect) (c : Char) : Bool :=
  d == .postgres && "+-*/<>=~!@#%^&|\x60?".toList.contains c

/-- Reads an identifier that starts with the characters `start`. -/
def scanWord (d : Dialect) (start rest : List Char) : Result :=
  some (some (.word (String.ofList (start ++ rest.takeWhile (isIdentPart d)))),
    rest.dropWhile (isIdentPart d))

/-- Reads to the closing quote. A doubled quote stands for one quote. -/
def scanIdent (quote : Char) : List Char → Option (List Char × List Char)
  | [] => none
  | c :: rest =>
    if c = quote then
      match rest with
      | [] => some ([], [])
      | d :: more =>
        if d = quote then (scanIdent quote more).map fun r => (quote :: r.1, r.2)
        else some ([], d :: more)
    else (scanIdent quote rest).map fun r => (c :: r.1, r.2)

/-- The character that a backslash and `c` stand for. -/
def unescape (c : Char) : Char :=
  if c = '0' then '\x00'
  else if c = 'a' then '\x07'
  else if c = 'b' then '\x08'
  else if c = 'f' then '\x0c'
  else if c = 'n' then '\n'
  else if c = 'r' then '\r'
  else if c = 't' then '\t'
  else if c = 'Z' then '\x1a'
  else c

/-- Reads to the closing quote of a string. A doubled quote stands for one quote and, where
`escapes` is set, a backslash for an escape. -/
def scanString (quote : Char) (escapes : Bool) : List Char → Option (List Char × List Char)
  | [] => none
  | c :: rest =>
    if c = quote then
      match rest with
      | [] => some ([], [])
      | d :: more =>
        if d = quote then (scanString quote escapes more).map fun r => (quote :: r.1, r.2)
        else some ([], d :: more)
    else if c = '\\' ∧ escapes then
      match rest with
      | [] => none
      | d :: more => (scanString quote escapes more).map fun r => (unescape d :: r.1, r.2)
    else (scanString quote escapes rest).map fun r => (c :: r.1, r.2)

/-- Reads to three quotes in a row. -/
def scanTriple (quote : Char) : List Char → Option (List Char × List Char)
  | a :: b :: c :: rest =>
    if a = quote ∧ b = quote ∧ c = quote then some ([], rest)
    else (scanTriple quote (b :: c :: rest)).map fun r => (a :: r.1, r.2)
  | _ => none

/-- The value of a hexadecimal digit. -/
def hexValue? (c : Char) : Option Nat :=
  if c.isDigit then some (c.toNat - 48)
  else if 'a' ≤ c ∧ c ≤ 'f' then some (c.toNat - 87)
  else if 'A' ≤ c ∧ c ≤ 'F' then some (c.toNat - 55)
  else none

/-- The number that digits to a base stand for. -/
def numberOf? (base : Nat) (digits : List Char) : Option Nat :=
  if digits.isEmpty then none
  else digits.foldl (fun n c => n.bind fun n => (hexValue? c).bind fun v =>
    if v < base then some (base * n + v) else none) (some 0)

/-- The number that digits to a base stand for, possibly behind a plus sign. -/
def signedNumberOf? (base : Nat) : List Char → Option Nat
  | '+' :: digits => numberOf? base digits
  | digits => numberOf? base digits

/-- The character with a code point, unless it is the null character or no character at all. -/
def charOf? (n : Nat) : Option Char :=
  if h : n.isValidChar then (if n = 0 then none else some (Char.ofNatAux n h)) else none

/-- The ASCII character of a byte, unless it is the null character. -/
def byteOf? (n : Nat) : Option Char := if n % 256 < 128 then charOf? (n % 256) else none

/-- The character that an escape in `E'…'` stands for: the text is that behind the backslash.
The number says how many characters the escape takes. -/
def escapeOf? : List Char → Option (Char × Nat)
  | [] => none
  | c :: rest =>
    if c = 'b' then some ('\x08', 1)
    else if c = 'f' then some ('\x0c', 1)
    else if c = 'n' then some ('\n', 1)
    else if c = 'r' then some ('\r', 1)
    else if c = 't' then some ('\t', 1)
    else if c = 'u' then codePoint 4 rest
    else if c = 'U' then codePoint 8 rest
    else if c = 'x' then
      let digits := (rest.take 2).takeWhile fun c => (hexValue? c).isSome
      if digits.isEmpty then some ('x', 1)
      else (numberOf? 16 digits).bind fun n => (byteOf? n).map fun c => (c, 1 + digits.length)
    else if '0' ≤ c ∧ c ≤ '7' then
      let digits := c :: (rest.take 2).takeWhile fun c => '0' ≤ c && c ≤ '7'
      (numberOf? 8 digits).bind fun n => (byteOf? n).map fun c => (c, digits.length)
    else if c = '\x00' then none
    else some (c, 1)
where
  /-- A code point in exactly `width` digits, of which the first may be a plus sign. -/
  codePoint (width : Nat) (rest : List Char) : Option (Char × Nat) :=
    if rest.length < width then none
    else
      (signedNumberOf? 16 (rest.take width)).bind fun n =>
        (charOf? n).map fun c => (c, 1 + width)

/-- Reads to the closing quote of `E'…'`; the first `skip` characters belong to an escape that
has been read. -/
def scanEscaped (skip : Nat) : List Char → Option (List Char × List Char)
  | [] => none
  | c :: rest =>
    match skip with
    | skip + 1 => scanEscaped skip rest
    | 0 =>
      if c = '\'' then
        match rest with
        | [] => some ([], [])
        | d :: more =>
          if d = '\'' then (scanEscaped 0 more).map fun r => ('\'' :: r.1, r.2)
          else some ([], d :: more)
      else if c = '\\' then
        (escapeOf? rest).bind fun e => (scanEscaped e.2 rest).map fun r => (e.1 :: r.1, r.2)
      else (scanEscaped 0 rest).map fun r => (c :: r.1, r.2)

/-- The character that an escape in `U&'…'` stands for, as in `escapeOf?`. -/
def unicodeEscapeOf? : List Char → Option (Char × Nat)
  | [] => none
  | '\\' :: _ => some ('\\', 1)
  | '+' :: rest => digits 6 rest 1
  | rest => digits 4 rest 0
where
  /-- A code point in exactly `width` digits, behind `lead` further characters. -/
  digits (width : Nat) (rest : List Char) (lead : Nat) : Option (Char × Nat) :=
    if rest.length < width then none
    else (numberOf? 16 (rest.take width)).bind fun n =>
      if h : n.isValidChar then some (Char.ofNatAux n h, lead + width) else none

/-- Reads to the closing quote of `U&'…'`; `skip` is as in `scanEscaped`. -/
def scanUnicode (skip : Nat) : List Char → Option (List Char × List Char)
  | [] => none
  | c :: rest =>
    match skip with
    | skip + 1 => scanUnicode skip rest
    | 0 =>
      if c = '\'' then
        match rest with
        | [] => some ([], [])
        | d :: more =>
          if d = '\'' then (scanUnicode 0 more).map fun r => ('\'' :: r.1, r.2)
          else some ([], d :: more)
      else if c = '\\' then
        (unicodeEscapeOf? rest).bind fun e => (scanUnicode e.2 rest).map fun r =>
          (e.1 :: r.1, r.2)
      else (scanUnicode 0 rest).map fun r => (c :: r.1, r.2)

/-- Reads to the end of a comment between `/*` and `*/`. Comments nest; `depth` counts the open
ones beside the outermost, and `last` is the character in front. -/
def skipComment (depth : Nat) (last : Char) : List Char → Option (List Char)
  | [] => none
  | c :: rest =>
    if last = '/' ∧ c = '*' then skipComment (depth + 1) c rest
    else if last = '*' ∧ c = '/' then
      match depth with
      | 0 => some rest
      | depth + 1 => skipComment depth c rest
    else skipComment depth c rest

/-- The characters behind the end of a line. -/
def skipLine (cs : List Char) : List Char := (cs.dropWhile (· != '\n')).drop 1

/-- Makes a literal of the characters that were read. -/
def literal (make : String → Value) (scanned : Option (List Char × List Char)) : Result :=
  scanned.map fun r => (some (.literal (make (String.ofList r.1))), r.2)

/-- A sign, whatever follows. -/
def sign (s : String) (rest : List Char) : Result := some (some (.symbol s), rest)

/-- A sign that may be the start of a longer operator. -/
def operator (d : Dialect) (s : String) (rest : List Char) : Result :=
  let more := rest.takeWhile (isOperatorChar d)
  if more.isEmpty then sign s rest
  else some (some (.operator (s ++ String.ofList more)), rest.dropWhile (isOperatorChar d))

/-- The exponent at the start of a text: its characters, none if there is no exponent, and
whether the text starts with the letter of one. -/
def exponent : List Char → List Char × Bool
  | c :: rest =>
    if c = 'e' ∨ c = 'E' then
      let signs := (rest.take 1).takeWhile fun c => c = '+' ∨ c = '-'
      let digits := (rest.drop signs.length).takeWhile Char.isDigit
      (if digits.isEmpty then [] else c :: (signs ++ digits), true)
    else ([], false)
  | [] => ([], false)

/-- Reads a number, or the period. Where names may start with digits, a number that goes on
with letters is a name. -/
def scanNumber (d : Dialect) (cs : List Char) : Result :=
  let whole := cs.takeWhile Char.isDigit
  let rest := cs.dropWhile Char.isDigit
  match whole, rest with
  | ['0'], 'x' :: rest =>
    let isHex := fun c => (hexValue? c).isSome
    some (some (.literal (.hex (String.ofList (rest.takeWhile isHex)))), rest.dropWhile isHex)
  | _, _ =>
    let (mantissa, rest) := match rest with
      | '.' :: rest =>
        (whole ++ '.' :: rest.takeWhile Char.isDigit, rest.dropWhile Char.isDigit)
      | _ => (whole, rest)
    if mantissa = ['.'] then sign "." rest
    else
      let (power, marked) := exponent rest
      let rest := rest.drop power.length
      let letters := rest.takeWhile (isIdentPart d)
      if d = .mysql ∧ marked = false ∧ letters ≠ [] then
        some (some (.word (String.ofList (mantissa ++ letters))),
          rest.dropWhile (isIdentPart d))
      else
        let digits := String.ofList (mantissa ++ power)
        match rest with
        | 'L' :: rest => some (some (.literal (.number digits true)), rest)
        | _ => some (some (.literal (.number digits false)), rest)

/-- How much of a closing tag stands in front of the next character of a `$tag$` string. -/
inductive TagState where
  /-- Nothing. -/
  | outside
  /-- A dollar sign and the characters `seen` of the tag; those of `due` are missing. -/
  | inside (seen due : List Char)
  deriving DecidableEq, Repr

/-- Reads to the tag that closes a `$tag$` string. Characters that have been taken for the
start of a closing tag belong to the text if the tag is not completed, and so does the
character at which this turns out; none of them is looked at again. -/
def scanDollar (tag : List Char) : TagState → List Char → Option (List Char × List Char)
  | _, [] => none
  | .outside, c :: rest =>
    if c = '$' then scanDollar tag (.inside [] tag) rest
    else (scanDollar tag .outside rest).map fun r => (c :: r.1, r.2)
  | .inside _ [], '$' :: rest => some ([], rest)
  | .inside seen due, c :: rest =>
    if due.head? = some c then scanDollar tag (.inside (seen ++ [c]) due.tail) rest
    else (scanDollar tag .outside rest).map fun r => ('$' :: seen ++ c :: r.1, r.2)

/-- Reads what starts with a dollar sign: a string between tags, or a placeholder. -/
def scanDollarSign (rest : List Char) : Result :=
  let isTag := fun c => Text.isAlphanumeric c || c == '_'
  let tag := rest.takeWhile isTag
  match rest.dropWhile isTag with
  | '$' :: rest =>
    literal (.dollar (String.ofList tag)) (scanDollar tag .outside rest)
  | rest => some (some (.literal (.placeholder (String.ofList ('$' :: tag)))), rest)

/-- Reads a string with a letter in front, if the letter `c` in front of `rest` starts one. -/
def scanPrefixed (d : Dialect) (c : Char) (rest : List Char) : Option Result :=
  match c.toUpper, rest with
  | 'B', '\'' :: rest => some (literal (.bytes "'") (scanString '\'' false rest))
  | 'B', '"' :: rest => some (literal (.bytes "\"") (scanString '"' false rest))
  | 'R', '\'' :: rest => if d = .generic then some (scanRaw '\'' rest) else none
  | 'R', '"' :: rest => if d = .generic then some (scanRaw '"' rest) else none
  | 'N', '\'' :: rest => some (literal .national (scanString '\'' true rest))
  | 'E', '\'' :: rest => some (literal .escaped (scanEscaped 0 rest))
  | 'U', '&' :: '\'' :: rest =>
    if d = .mysql then none else some (literal .unicode (scanUnicode 0 rest))
  | 'X', '\'' :: rest => some (literal .hex (scanString '\'' true rest))
  | _, _ => none
where
  /-- A string without escapes, between single or threefold quotes. -/
  scanRaw (quote : Char) (rest : List Char) : Result :=
    let one := quote.toString
    match rest with
    | a :: b :: more =>
      if a = quote ∧ b = quote then literal (.raw (one ++ one ++ one)) (scanTriple quote more)
      else if a = quote then some (some (.literal (.raw one "")), b :: more)
      else literal (.raw one) (scanString quote false rest)
    | _ => literal (.raw one) (scanString quote false rest)

/-- Reads a sign, or a comment that starts like one. -/
def scanSign (d : Dialect) (c : Char) (rest : List Char) : Option Result :=
  match c, rest with
  | '(', _ => some (sign "(" rest)
  | ')', _ => some (sign ")" rest)
  | ',', _ => some (sign "," rest)
  | '-', '-' :: rest => some (some (none, skipLine rest))
  | '-', '>' :: '>' :: rest => some (operator d "->>" rest)
  | '-', '>' :: rest => some (operator d "->" rest)
  | '-', _ => some (operator d "-" rest)
  | '/', '*' :: rest => some ((skipComment 0 ' ' rest).map fun rest => (none, rest))
  | '/', '/' :: more => some (if d = .generic then sign "//" more else sign "/" rest)
  | '/', _ => some (sign "/" rest)
  | '+', _ => some (sign "+" rest)
  | '*', _ => some (sign "*" rest)
  | '%', _ => some (operator d "%" rest)
  | '|', '/' :: rest => some (operator d "|/" rest)
  | '|', '|' :: '/' :: rest => some (operator d "||/" rest)
  | '|', '|' :: rest => some (operator d "||" rest)
  | '|', _ => some (operator d "|" rest)
  | '=', '>' :: rest => some (sign "=>" rest)
  | '=', '=' :: rest => some (sign "==" rest)
  | '=', _ => some (sign "=" rest)
  | '!', '=' :: rest => some (sign "<>" rest)
  | '!', '!' :: rest => some (sign "!!" rest)
  | '!', '~' :: '*' :: rest => some (sign "!~*" rest)
  | '!', '~' :: '~' :: '*' :: rest => some (sign "!~~*" rest)
  | '!', '~' :: '~' :: rest => some (sign "!~~" rest)
  | '!', '~' :: rest => some (sign "!~" rest)
  | '!', _ => some (sign "!" rest)
  | '<', '=' :: '>' :: rest => some (operator d "<=>" rest)
  | '<', '=' :: rest => some (operator d "<=" rest)
  | '<', '>' :: rest => some (operator d "<>" rest)
  | '<', '<' :: rest => some (operator d "<<" rest)
  | '<', '@' :: rest => some (operator d "<@" rest)
  | '<', _ => some (operator d "<" rest)
  | '>', '=' :: rest => some (operator d ">=" rest)
  | '>', '>' :: rest => some (operator d ">>" rest)
  | '>', _ => some (operator d ">" rest)
  | ':', ':' :: rest => some (sign "::" rest)
  | ':', '=' :: rest => some (sign ":=" rest)
  | ':', _ => some (sign ":" rest)
  | ';', _ => some (sign ";" rest)
  | '\\', _ => some (sign "\\" rest)
  | '[', _ => some (sign "[" rest)
  | ']', _ => some (sign "]" rest)
  | '&', '&' :: rest => some (operator d "&&" rest)
  | '&', _ => some (operator d "&" rest)
  | '^', '@' :: rest => some (sign "^@" rest)
  | '^', _ => some (sign "^" rest)
  | '\x7b', _ => some (sign "\x7b" rest)
  | '\x7d', _ => some (sign "\x7d" rest)
  | '~', '*' :: rest => some (operator d "~*" rest)
  | '~', '~' :: '*' :: rest => some (operator d "~~*" rest)
  | '~', '~' :: rest => some (operator d "~~" rest)
  | '~', _ => some (operator d "~" rest)
  | _, _ => none

/-- Reads what starts with `#`: a comment, an operator, or a name where `#` can start one. -/
def scanHash (d : Dialect) (rest : List Char) : Result :=
  if d = .mysql then some (none, skipLine rest)
  else match rest with
    | '-' :: rest => operator d "#-" rest
    | '>' :: '>' :: rest => operator d "#>>" rest
    | '>' :: rest => operator d "#>" rest
    | ' ' :: _ => sign "#" rest
    | c :: more => if isIdentStart d '#' then scanWord d ['#', c] more else operator d "#" rest
    | [] => sign "#" []

/-- Reads what starts with `@`: an operator, or a name where `@` can start one. -/
def scanAt (d : Dialect) (rest : List Char) : Result :=
  match rest with
  | '>' :: rest => sign "@>" rest
  | '?' :: rest => sign "@?" rest
  | '@' :: rest =>
    match rest with
    | c :: more =>
      if c ≠ ' ' ∧ isIdentStart d '@' then scanWord d ['@', '@', c] more else sign "@@" rest
    | [] => sign "@@" []
  | c :: more =>
    if c ≠ ' ' ∧ isIdentStart d '@' then scanWord d ['@', c] more else sign "@" rest
  | [] => sign "@" []

/-- Reads what starts with `?`: a placeholder, or an operator of the dialect. A lone operator
takes the character behind it along. -/
def scanQuestion (d : Dialect) (rest : List Char) : Result :=
  if d = .postgres then
    match rest with
    | '|' :: rest => sign "?|" rest
    | '&' :: rest => sign "?&" rest
    | rest => sign "?" (rest.drop 1)
  else
    some (some (.literal
      (.placeholder (String.ofList ('?' :: rest.takeWhile Text.isNumeric)))),
      rest.dropWhile Text.isNumeric)

/-- Reads the token, or the white space, that starts with `c` and goes on in `rest`. -/
def step (d : Dialect) (c : Char) (rest : List Char) : Result :=
  if c = ' ' ∨ c = '\t' ∨ c = '\n' ∨ c = '\r' then some (none, rest)
  else if let some result := scanPrefixed d c rest then result
  else if c = '\'' then literal .text (scanString '\'' (d == .mysql) rest)
  else if quotesIdent d c then
    (scanIdent c rest).map fun r => (some (.quoted c (String.ofList r.1)), r.2)
  else if c = '"' then literal .doubleQuoted (scanString '"' (d == .mysql) rest)
  else if c.isDigit ∨ c = '.' then scanNumber d (c :: rest)
  else if let some result := scanSign d c rest then result
  else if c = '#' then scanHash d rest
  else if c = '@' then scanAt d rest
  else if c = '?' then scanQuestion d rest
  else if isIdentStart d c then scanWord d [c] rest
  else if c = '$' then scanDollarSign rest
  else if Text.isBlank c then some (none, rest)
  else some (some (.stray c), rest)

end Lexer

/-- The tokens of a text. There are none if a string, a quoted identifier or a comment does not
end. -/
def tokenize (d : Dialect) : List Char → Option (List Token)
  | [] => some []
  | c :: cs =>
    match Lexer.step d c cs with
    | none => none
    | some (token, rest) =>
      if _h : rest.length ≤ cs.length then
        (tokenize d rest).map fun tokens => token.toList ++ tokens
      else none
termination_by cs => cs.length

end SqlSearch.Sql
