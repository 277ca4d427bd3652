import SqlSearch.Text.Lowercase

/-!
# Options

What a reader of SQL text is told: the dialect of the text, and what to do with parts that have
no counterpart in a search document.

## Main definitions

* `Dialect`: the SQL dialects
* `Strictness`: whether a part without a counterpart is passed over or refused
* `Options`: both together
* `OptionError`: a name that stands for no option
-/

namespace SqlSearch

/-- A dialect of SQL. -/
inductive Dialect where
  | generic
  | mysql
  | postgres
  deriving DecidableEq, Repr

/-- What happens to a predicate or function that has no counterpart. -/
inductive Strictness where
  /-- It is passed over, and the document matches more than the statement. -/
  | permissive
  /-- The statement is refused. -/
  | strict
  deriving DecidableEq, Repr

/-- A name that stands for no option; it is held in ASCII lower case. -/
inductive OptionError where
  | unknownDialect (name : String)
  | unknownStrictness (name : String)
  deriving DecidableEq, Repr

/-- The wording of an error. -/
def OptionError.message : OptionError → String
  | .unknownDialect name => s!"unknown dialect '{name}' (expected generic, mysql or postgres)"
  | .unknownStrictness name => s!"unknown strictness '{name}' (expected permissive or strict)"

/-- The name of a dialect. -/
def Dialect.name : Dialect → String
  | .generic => "generic"
  | .mysql => "mysql"
  | .postgres => "postgres"

/-- The dialect of a name, read without regard to the case of ASCII letters. -/
def Dialect.ofName (name : String) : Except OptionError Dialect :=
  let lowered := Text.asciiLower name
  if lowered = "generic" then .ok .generic
  else if lowered = "mysql" then .ok .mysql
  else if lowered = "postgres" ∨ lowered = "postgresql" then .ok .postgres
  else .error (.unknownDialect lowered)

/-- The name of a strictness. -/
def Strictness.name : Strictness → String
  | .permissive => "permissive"
  | .strict => "strict"

/-- The strictness of a name, read without regard to the case of ASCII letters. -/
def Strictness.ofName (name : String) : Except OptionError Strictness :=
  let lowered := Text.asciiLower name
  if lowered = "permissive" then .ok .permissive
  else if lowered = "strict" then .ok .strict
  else .error (.unknownStrictness lowered)

/-- Parts without a counterpart are refused. -/
def Strictness.isStrict : Strictness → Bool
  | .permissive => false
  | .strict => true

/-- How a statement is to be read and compiled. -/
structure Options where
  /-- The dialect of the text. -/
  dialect : Dialect := .generic
  /-- What happens to parts without a counterpart. -/
  strictness : Strictness := .permissive
  deriving DecidableEq, Repr

end SqlSearch
