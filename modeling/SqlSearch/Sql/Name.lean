/-!
# Names

A name in SQL text is an identifier, possibly between quotes, or a path of identifiers joined
by periods.

## Main definitions

* `Ident`: an identifier with the quote it was written in
* `Path`: a name with its qualifiers
* `escapeQuoted`: text between quotes, the quotes inside it doubled

## Design

A quote inside quoted text is written twice. Two quotes next to each other in the value are
taken for one that is already doubled, and a quote behind a backslash for one that is already
escaped; both are written as they stand. Texts are written without knowing how they were read,
and this rule gives the usual spelling in each case.
-/

namespace SqlSearch.Sql

/-- What stands in front of the next character of a quoted text. -/
inductive QuoteState where
  /-- An ordinary character. -/
  | plain
  /-- A backslash, or quotes behind one. -/
  | escaped
  /-- The first quote of a possible pair, which has been written as two. -/
  | paired
  deriving DecidableEq, Repr

/-- The state behind a character that is no quote. -/
def QuoteState.behind (c : Char) : QuoteState := if c = '\\' then .escaped else .plain

/-- The characters of a text that is written between `quote` characters. -/
def escapeQuoted (quote : Char) : QuoteState → List Char → List Char
  | _, [] => []
  | .plain, c :: rest =>
    if c = quote then c :: c :: escapeQuoted quote .paired rest
    else c :: escapeQuoted quote (.behind c) rest
  | .escaped, c :: rest =>
    if c = quote then c :: escapeQuoted quote .escaped rest
    else c :: escapeQuoted quote (.behind c) rest
  | .paired, c :: rest =>
    if c = quote then escapeQuoted quote .plain rest
    else c :: escapeQuoted quote (.behind c) rest

/-- A text between quotes. -/
def quoteWith (quote : Char) (value : String) : String :=
  String.ofList (quote :: (escapeQuoted quote .plain value.toList ++ [quote]))

/-- An identifier. -/
structure Ident where
  /-- The name, without quotes. -/
  value : String
  /-- The quote it was written in. -/
  quote : Option Char := none
  deriving DecidableEq, Repr

/-- The written form of an identifier. -/
def Ident.render (ident : Ident) : String :=
  match ident.quote with
  | none => ident.value
  | some quote => quoteWith quote ident.value

/-- The identifier between its quotes, the quotes inside it as they stand. -/
def Ident.spelling (ident : Ident) : String :=
  match ident.quote with
  | none => ident.value
  | some quote => quote.toString ++ ident.value ++ quote.toString

/-- A name with its qualifiers. -/
structure Path where
  /-- The qualifiers, outermost first. -/
  qualifiers : List Ident := []
  /-- The name itself. -/
  name : Ident
  deriving DecidableEq, Repr

namespace Path

/-- The path with the identifiers `first` and `rest`, in order. -/
def ofIdents (first : Ident) : List Ident → Path
  | [] => ⟨[], first⟩
  | next :: rest => let path := ofIdents next rest; ⟨first :: path.qualifiers, path.name⟩

/-- The identifiers of a path, in order. -/
def idents (path : Path) : List Ident := path.qualifiers ++ [path.name]

/-- The written form of a path. -/
def render (path : Path) : String := String.intercalate "." (path.idents.map Ident.render)

/-- The values of the identifiers, joined by periods. -/
def joined (path : Path) : String := String.intercalate "." (path.idents.map Ident.value)

end Path

end SqlSearch.Sql
