import SqlSearch.Options

/-!
# Command line arguments

The program has two commands. Flags in front of the command are general ones; behind it, flags,
options and one SQL text can stand in any order.

## Main definitions

* `Task`: what a command does
* `Invocation`: what the arguments ask for
* `Invocation.ofArguments?`: the invocation that a list of arguments stands for

## Design

Arguments are read from left to right, and the first one that does not fit makes the whole list
a usage error. An option that is given twice does not fit. Behind an argument `--` every
argument is taken for the SQL text, whatever it starts with.
-/

namespace SqlSearch

/-- What a command does with a statement. -/
inductive Task where
  /-- It prints the document of the statement, in lines of their own if `pretty` is set. -/
  | document (pretty : Bool) (strictness : Strictness)
  /-- It prints the table of the statement. -/
  | table
  deriving DecidableEq, Repr

/-- What the arguments of the program ask for. -/
inductive Invocation where
  /-- A command. Without a text the statement is read from the input. -/
  | command (task : Task) (dialect : Dialect) (sql : Option String)
  /-- The version of the program. -/
  | version
  /-- A text on how to use the program. -/
  | help
  deriving DecidableEq, Repr

namespace Arguments

/-- A command. -/
inductive Command where
  | document
  | table
  deriving DecidableEq, Repr

/-- The command of a name. -/
def Command.ofName? (name : String) : Option Command :=
  if name = "translate" then some .document
  else if name = "table" then some .table
  else none

/-- The options of a command. -/
inductive Flag where
  | verbose
  | pretty
  | strict
  | dialect
  | help
  deriving DecidableEq, Repr

namespace Flag

/-- The option of a long name. -/
def ofName? (command : Command) (name : String) : Option Flag :=
  if name = "verbose" then some .verbose
  else if name = "dialect" then some .dialect
  else if name = "help" then some .help
  else if command = .document ∧ name = "pretty" then some .pretty
  else if command = .document ∧ name = "strict" then some .strict
  else none

/-- The option of a letter. -/
def ofLetter? (command : Command) (letter : Char) : Option Flag :=
  if letter = 'v' then some .verbose
  else if letter = 'd' then some .dialect
  else if letter = 'h' then some .help
  else if command = .document ∧ letter = 'p' then some .pretty
  else none

end Flag

/-- What the arguments behind a command have said so far. -/
structure Given where
  /-- The flags. -/
  flags : List Flag := []
  /-- The dialect. -/
  dialect : Option Dialect := none
  /-- The SQL text. -/
  sql : Option String := none
  deriving DecidableEq, Repr

namespace Given

/-- Adds a flag that has not been given before. -/
def addFlag? (given : Given) (flag : Flag) : Option Given :=
  if given.flags.contains flag then none else some { given with flags := flag :: given.flags }

/-- Adds the name of a dialect where none has been given before. -/
def addDialect? (given : Given) (name : String) : Option Given :=
  match given.dialect, Dialect.ofName name with
  | none, .ok dialect => some { given with dialect := some dialect }
  | _, _ => none

/-- Adds an SQL text where none has been given before. -/
def addSql? (given : Given) (sql : String) : Option Given :=
  match given.sql with
  | none => some { given with sql := some sql }
  | some _ => none

/-- The invocation of a command. -/
def invocation (given : Given) : Command → Invocation
  | .document =>
    let strictness := if given.flags.contains .strict then .strict else .permissive
    .command (.document (given.flags.contains .pretty) strictness)
      (given.dialect.getD .generic)
      given.sql
  | .table => .command .table (given.dialect.getD .generic) given.sql

end Given

/-- What an argument amounts to. -/
inductive Effect where
  /-- It has been read. -/
  | read (given : Given)
  /-- It is complete only with the name of a dialect. -/
  | needsDialect (given : Given)
  /-- It asks for help. -/
  | help
  deriving DecidableEq, Repr

/-- Reads letters bundled into one argument. The letter of the dialect takes the rest of the
argument, possibly behind an equality sign, for its name. -/
def readLetters? (command : Command) (given : Given) : List Char → Option Effect
  | [] => some (.read given)
  | letter :: rest =>
    match Flag.ofLetter? command letter with
    | none => none
    | some .help => some .help
    | some .dialect =>
      match rest with
      | [] => some (.needsDialect given)
      | '=' :: name => (given.addDialect? (String.ofList name)).map .read
      | name => (given.addDialect? (String.ofList name)).map .read
    | some flag => (given.addFlag? flag).bind fun given => readLetters? command given rest

/-- Reads a long option, given by what follows the two hyphens. -/
def readLong? (command : Command) (given : Given) (text : List Char) : Option Effect :=
  let name := String.ofList (text.takeWhile (· != '='))
  match Flag.ofName? command name, text.dropWhile (· != '=') with
  | some .dialect, [] => some (.needsDialect given)
  | some .dialect, _ :: value => (given.addDialect? (String.ofList value)).map .read
  | some .help, [] => some .help
  | some flag, [] => (given.addFlag? flag).map .read
  | _, _ => none

/-- Reads an argument behind a command. -/
def readArgument? (command : Command) (given : Given) (argument : String) : Option Effect :=
  match argument.toList with
  | '-' :: '-' :: text => readLong? command given text
  | '-' :: letter :: letters => readLetters? command given (letter :: letters)
  | _ => (given.addSql? argument).map .read

/-- An argument cannot be the value of the option in front of it. -/
def isOption (argument : String) : Bool :=
  match argument.toList with
  | '-' :: _ :: _ => true
  | _ => false

/-- Reads the arguments behind a command. -/
def readCommand? (command : Command) (given : Given) : List String → Option Invocation
  | [] => some (given.invocation command)
  | argument :: rest =>
    if argument = "--" then
      match rest with
      | [] => some (given.invocation command)
      | [sql] => (given.addSql? sql).map (·.invocation command)
      | _ => none
    else
      match readArgument? command given argument with
      | none => none
      | some .help => some .help
      | some (.read given) => readCommand? command given rest
      | some (.needsDialect given) =>
        match rest with
        | [] => none
        | name :: rest =>
          if isOption name then none
          else (given.addDialect? name).bind fun given => readCommand? command given rest

/-- What the letters of an argument in front of the command amount to: whether one of them
makes the program talkative, or an invocation. -/
def readGeneralLetters? (verbose : Bool) : List Char → Option (Bool ⊕ Invocation)
  | [] => some (.inl verbose)
  | letter :: rest =>
    if letter = 'V' then some (.inr .version)
    else if letter = 'h' then some (.inr .help)
    else if letter = 'v' then if verbose then none else readGeneralLetters? true rest
    else none

/-- Whether help can be asked for by the word `help` in front of these arguments: the name of
one command at most. -/
def canExplain : List String → Bool
  | [] => true
  | [name] => name = "help" || (Command.ofName? name).isSome
  | _ => false

/-- Reads all arguments; `verbose` says that the general flag has been given. -/
def readAll? (verbose : Bool) : List String → Option Invocation
  | [] => none
  | argument :: rest =>
    if argument = "--version" then some .version
    else if argument = "--help" then some .help
    else if argument = "help" then if canExplain rest then some .help else none
    else if argument = "--verbose" then if verbose then none else readAll? true rest
    else
      match argument.toList with
      | '-' :: '-' :: _ => none
      | '-' :: letter :: letters =>
        match readGeneralLetters? verbose (letter :: letters) with
        | none => none
        | some (.inr invocation) => some invocation
        | some (.inl verbose) => readAll? verbose rest
      | _ => (Command.ofName? argument).bind fun command => readCommand? command {} rest

end Arguments

/-- The invocation that the arguments of the program stand for. -/
def Invocation.ofArguments? (arguments : List String) : Option Invocation :=
  Arguments.readAll? false arguments

end SqlSearch
