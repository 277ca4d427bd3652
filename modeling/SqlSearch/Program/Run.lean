import SqlSearch.Document.OfSql
import SqlSearch.Program.Arguments
import SqlSearch.Text.Blank

/-!
# Runs of the program

What the program prints and how it ends, as a function of its arguments, its input and the
wording of syntax errors.

## Main definitions

* `Input`: what the standard input holds
* `RunError`: why a command fails
* `Task.execute`: what a command prints
* `Outcome`, `runProgram`: a run of the program
-/

namespace SqlSearch

/-- What the standard input of the program holds. -/
inductive Input where
  /-- Nothing: it is a terminal. -/
  | terminal
  /-- A text. -/
  | text (s : String)
  /-- Bytes that are no text. -/
  | malformed
  deriving DecidableEq, Repr

/-- The input that bytes stand for. -/
def Input.ofBytes (bytes : ByteArray) : Input :=
  match String.fromUTF8? bytes with
  | some s => .text s
  | none => .malformed

/-- Why a command fails. -/
inductive RunError where
  /-- The statement has no document or table. -/
  | statement (cause : Error)
  /-- The input is no text. -/
  | malformedInput
  /-- There is no statement. -/
  | noInput
  deriving DecidableEq, Repr

/-- The wording of an error. -/
def RunError.message (wording : SyntaxWording) : RunError → String
  | .statement cause => cause.message wording
  | .malformedInput => "IO error: stream did not contain valid UTF-8"
  | .noInput => "No SQL provided. Pass it as an argument or pipe it to stdin."

/-- The text of a statement without the white space around it. A text of white space only
counts as missing. -/
def requireSql (sql : Option String) : Except RunError String :=
  match sql.map Text.trim with
  | some text => if text = "" then .error .noInput else .ok text
  | none => .error .noInput

/-- What a command prints for the text of a statement. -/
def Task.execute (task : Task) (dialect : Dialect) (sql : Option String) :
    Except RunError String := do
  let sql ← requireSql sql
  match task with
  | .document pretty strictness =>
    let document ← (Document.ofSql ⟨dialect, strictness⟩ sql).mapError .statement
    return document.render (if pretty then .pretty else .compact)
  | .table => (tableOfSql dialect sql).mapError .statement

/-- The text of the statement: the one in the arguments or else the input. -/
def readSql (sql : Option String) (input : Input) : Except RunError (Option String) :=
  match sql, input with
  | some sql, _ => .ok (some sql)
  | none, .text s => .ok (some s)
  | none, .malformed => .error .malformedInput
  | none, .terminal => .ok none

/-- How a run of the program ends. -/
structure Outcome where
  /-- The exit code. -/
  exitCode : Nat
  /-- The standard output. -/
  out : String := ""
  /-- The message on the standard error, without the end of its line. -/
  message : String := ""
  deriving DecidableEq, Repr

/-- The name and version of the program. -/
def versionLine : String := "sql2es 0.1.0"

/-- How to use the program. -/
def usage : String :=
  "Usage: sql2es [-v] translate [-p] [--strict] [-d DIALECT] [SQL]\n" ++
  "       sql2es [-v] table [-d DIALECT] [SQL]"

/-- A run of the program; `wording` is what its parser says of a text that it cannot read. -/
def runProgram (wording : SyntaxWording) (arguments : List String) (input : Input) : Outcome :=
  match Invocation.ofArguments? arguments with
  | none => { exitCode := 2, message := usage }
  | some .version => { exitCode := 0, out := versionLine ++ "\n" }
  | some .help => { exitCode := 0, out := usage ++ "\n" }
  | some (.command task dialect sql) =>
    match (readSql sql input).bind (task.execute dialect) with
    | .ok text => { exitCode := 0, out := text ++ "\n" }
    | .error cause => { exitCode := 1, message := cause.message wording }

end SqlSearch
