import SqlSearch.Sql.Parser.Column

/-!
# Data types

Parser for data types. Types of the language are written in upper case, whatever their spelling
was; other types keep theirs.

## Main definitions

* `Grammar.parseType`: a data type, possibly with one closing angle bracket too many
* `Grammar.dataType`: a data type

## Design

The sign `>>` can close two types at once. The inner one then reports that it has closed one
bracket too many, and the outer one reads none.
-/

namespace SqlSearch.Sql

open SqlSearch.Sql.Parser

namespace TypeName

/-- Types that take no argument, with their written forms. -/
def plain : List (String × String) :=
  [("BOOLEAN", "BOOLEAN"), ("BOOL", "BOOL"), ("REAL", "REAL"), ("FLOAT4", "FLOAT4"),
   ("FLOAT32", "Float32"), ("FLOAT64", "FLOAT64"), ("FLOAT8", "FLOAT8"), ("DATE", "DATE"),
   ("DATE32", "Date32"), ("UUID", "UUID"), ("JSON", "JSON"), ("JSONB", "JSONB"),
   ("REGCLASS", "REGCLASS"), ("TEXT", "TEXT"), ("TINYTEXT", "TINYTEXT"),
   ("MEDIUMTEXT", "MEDIUMTEXT"), ("LONGTEXT", "LONGTEXT"), ("BYTEA", "BYTEA"),
   ("TINYBLOB", "TINYBLOB"), ("MEDIUMBLOB", "MEDIUMBLOB"), ("LONGBLOB", "LONGBLOB"),
   ("TRIGGER", "TRIGGER"), ("INT16", "Int16"), ("INT32", "Int32"), ("INT64", "INT64"),
   ("INT128", "Int128"), ("INT256", "Int256"), ("UINT8", "UInt8"), ("UINT16", "UInt16"),
   ("UINT32", "UInt32"), ("UINT64", "UInt64"), ("UINT128", "UInt128"), ("UINT256", "UInt256")]

/-- Types that take a precision. -/
def measured : List String :=
  ["FLOAT", "CLOB", "BINARY", "VARBINARY", "BLOB", "BYTES", "DATETIME", "STRING"]

/-- Types of whole numbers. -/
def integers : List String :=
  ["TINYINT", "INT2", "SMALLINT", "MEDIUMINT", "INT", "INT4", "INT8", "INTEGER", "BIGINT"]

/-- Types of decimal numbers. -/
def decimals : List String := ["NUMERIC", "DECIMAL", "DEC", "BIGNUMERIC", "BIGDECIMAL"]

/-- Types whose values are listed. -/
def enumerations : List String := ["ENUM", "ENUM8", "ENUM16"]

end TypeName

namespace Grammar

/-- A precision in parentheses, or nothing. -/
def precision : Parser String := do
  if ← symbol? "(" then
    let n ← count
    symbol ")"
    return s!"({n})"
  else return ""

/-- A precision and a scale in parentheses, a precision alone, or nothing. -/
def precisionScale (separator : String) : Parser String := do
  if ← symbol? "(" then
    let n ← count
    if ← symbol? "," then
      let m ← count
      symbol ")"
      return s!"({n}{separator}{m})"
    else
      symbol ")"
      return s!"({n})"
  else return ""

/-- The length of a character type in parentheses, or nothing. -/
def charLength : Parser String := do
  if ← symbol? "(" then
    let length ← if ← keyword? "MAX" then pure "MAX" else do
      let n ← count
      pure (toString n ++ (← wordAfter ["CHARACTERS", "OCTETS"]))
    symbol ")"
    return s!"({length})"
  else return ""

/-- The clause on time zones, or nothing. -/
def zone : Parser String := do
  if ← keyword? "WITH" then
    keywords ["TIME", "ZONE"]
    return " WITH TIME ZONE"
  else if ← keyword? "WITHOUT" then
    keywords ["TIME", "ZONE"]
    return " WITHOUT TIME ZONE"
  else return ""

/-- A list of strings in parentheses. -/
def choices : Parser String := do
  let values ← parens (commaList quotedText)
  return "(" ++ commas (values.map fun s => (Value.text s).render) ++ ")"

/-- A list of names in parentheses, each of which may be given a number. -/
def members (dialect : Dialect) : Parser String := do
  let members ← parens (commaList do
    let name := (Value.text (← text dialect)).render
    if ← symbol? "=" then return name ++ " = " ++ (← number) else return name)
  return s!"({commas members})"

/-- The modifiers of a type of one's own. The commas between them may be missing. -/
def modifiers : Parser String := do
  if ← symbol? "(" then
    let found ← many do
      let _ ← many do whenever (← symbol? ",") (pure ())
      if ← symbol? ")" then return none
      match ← next with
      | .name ident _ => return some ident.spelling
      | .literal (.number n _) => return some n
      | .literal (.text s) => return some s
      | _ => fail
    return if found.isEmpty then "" else s!"({commas found})"
  else return ""

/-- A character type that may vary in length or be large. -/
def character (name : String) : Parser String := do
  if ← keyword? "VARYING" then return name ++ " VARYING" ++ (← charLength)
  else if ← keywords? ["LARGE", "OBJECT"] then return name ++ " LARGE OBJECT" ++ (← precision)
  else return name ++ (← charLength)

/-- The rest of a type that starts with the keyword `k` and holds no other type, or nothing if
no such type does. -/
def simpleType? (dialect : Dialect) (k : String) : Option (Parser String) :=
  if let some written := TypeName.plain.lookup k then some (pure written)
  else if TypeName.measured.contains k then some do return k ++ (← precision)
  else if TypeName.integers.contains k then some do
    let width ← precision
    return k ++ width ++ (← wordAfter ["UNSIGNED"])
  else if TypeName.decimals.contains k then some do return k ++ (← precisionScale ",")
  else if k = "VARCHAR" ∨ k = "NVARCHAR" then some do return k ++ (← charLength)
  else if k = "CHARACTER" ∨ k = "CHAR" then some (character k)
  else if k = "BIT" then some do
    let varying ← wordAfter ["VARYING"]
    return k ++ varying ++ (← precision)
  else if k = "DOUBLE" then some do return k ++ (← wordAfter ["PRECISION"])
  else if k = "TIMESTAMP" ∨ k = "TIME" then some do
    let digits ← precision
    return k ++ digits ++ (← zone)
  else if k = "TIMESTAMPTZ" ∨ k = "TIMETZ" then some do return k ++ (← precision)
  else if k = "DATETIME64" then some do
    symbol "("
    let n ← count
    let place ← whenever (← symbol? ",") (text dialect)
    symbol ")"
    return s!"DateTime64({n}" ++ (place.elim "" fun p => s!", '{p}'") ++ ")"
  else if k = "FIXEDSTRING" then some do
    let n ← parens count
    return s!"FixedString({n})"
  else if TypeName.enumerations.contains k then some do return k ++ (← members dialect)
  else if k = "SET" then some do return k ++ (← choices)
  else none

variable (g : Grammar)

/-- Reads the bracket that closes the types in angle brackets, of which `inner` is the last.
The answer says whether one bracket too many has been closed. -/
def closeAngle (inner : TypeName) : Parser Bool := do
  if inner.surplus then return false
  else if ← symbol? ">" then return false
  else
    symbol ">>"
    return true

/-- A field of a composite type: a name and a type if two words come next, and a type
otherwise. -/
def field : Parser TypeName := do
  match ← remaining with
  | .name name _ :: .name _ _ :: _ =>
    let _ ← next
    let t ← g.openType
    return { t with pieces := .text (name.render ++ " ") :: t.pieces }
  | _ => g.openType

/-- The fields of a type between angle brackets, and whether one bracket too many has been
closed. Only the last of them can have closed one. -/
def angledFields : Parser (List Piece × Bool) := do
  let fields ← commaList g.field
  match fields.reverse with
  | [] => fail
  | last :: others =>
    require !(others.any TypeName.surplus)
    return (Piece.separated ", " (fields.map TypeName.pieces), ← closeAngle last)

/-- What follows `STRUCT`: the fields between angle brackets, if there are any. -/
def structFields : Parser (List Piece × Bool) := do
  if ← symbol? "<" then g.angledFields else return ([], false)

/-- The rest of a type that starts with the keyword `k` and holds other types, or nothing if no
such type does. -/
def compositeType? (k : String) : Option (Parser TypeName) :=
  let wrapped (lead : String) (inner : Parser (List Piece)) : Option (Parser TypeName) :=
    if g.dialect = .generic then some do
      return { pieces := .text (lead ++ "(") :: (← parens inner) ++ [.text ")"] }
    else none
  match k with
  | "ARRAY" => some do
    symbol "<"
    let inner ← g.openType
    let surplus ← closeAngle inner
    return { pieces := .text "ARRAY<" :: inner.pieces ++ [.text ">"], surplus }
  | "STRUCT" =>
    if g.dialect = .generic then some do
      let (fields, surplus) ← g.structFields
      return if fields.isEmpty then { pieces := [.text "STRUCT"] }
        else { pieces := .text "STRUCT<" :: fields ++ [.text ">"], surplus }
    else none
  | "UNION" => wrapped "UNION" do
    let fields ← commaList do
      let name ← ident
      return .text (name.render ++ " ") :: (← g.typeName).pieces
    return Piece.separated ", " fields
  | "MAP" => wrapped "Map" do
    let key ← g.typeName
    symbol ","
    return key.pieces ++ .text ", " :: (← g.typeName).pieces
  | "TUPLE" => wrapped "Tuple" do
    return Piece.separated ", " ((← commaList g.field).map TypeName.pieces)
  | "NESTED" => wrapped "Nested" do return Piece.separated ", " (← commaList g.columnDef)
  | "NULLABLE" => wrapped "Nullable" do return (← g.typeName).pieces
  | "LOWCARDINALITY" => wrapped "LowCardinality" do return (← g.typeName).pieces
  | _ => none

/-- A data type that is no array of another one by a suffix. -/
def elementType : Parser TypeName := do
  let k ← keywordAt 0
  if k = "INTERVAL" then
    keyword k
    return { kind := .interval, pieces := [.text k] }
  else if let some rest := simpleType? g.dialect k then
    keyword k
    return { pieces := [.text (← rest)] }
  else if let some rest := g.compositeType? k then
    keyword k
    rest
  else
    match (← remaining).head? with
    | some (.name _ _) =>
      let name ← path
      return { kind := .custom, pieces := [.text (name.render ++ (← modifiers))] }
    | _ => fail

/-- A data type, possibly with one closing angle bracket too many. -/
def parseType : Parser TypeName := do
  (iterate fun (t : TypeName) => do
    if ← symbol? "[" then
      let size ← if g.dialect = .mysql then pure none else optional? count
      symbol "]"
      let suffix := "[" ++ size.elim "" toString ++ "]"
      return some { t with kind := .known, pieces := t.pieces ++ [.text suffix] }
    else return none) (← g.elementType)

/-- A data type. -/
def dataType : Parser TypeName := do
  let t ← g.parseType
  require !t.surplus
  return t

end Grammar

end SqlSearch.Sql
