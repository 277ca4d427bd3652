import SqlSearch.Program.Run
import SqlSearch.Proofs.FieldName

/-!
# Arguments and input

An SQL text can be handed to the program behind `--` or on its standard input, and it makes no
difference which.  The options of a command can be written in many ways and in any order: a
flag by its name or its letter, letters bundled behind one hyphen, and the name of a dialect in
an argument of its own, behind an equality sign, or right behind its letter.  All of them are
read to the same invocation, with a text behind them or without.

## Main definitions

* `Arguments.Spelling`: a way to write options, and its arguments (`Spelling.words`)
* `Arguments.ValidOptions`: options that a command has, none of them twice
* `Arguments.asked`: what a command is asked to do by its options
* `Arguments.commandLine`: the arguments of the program

## Main statements

* `Arguments.readLetters?_letters`: letters are read one by one
* `Arguments.readCommand?_words`: one spelling is read, whatever follows
* `Arguments.readCommand?_flatMap_words`: a list of them is read, whatever follows
* `Text.trim_surrounded`: white space around a text is trimmed
* `Arguments.argument_and_input_agree`: a text behind `--` and on the standard input
-/

namespace SqlSearch

/-! ## White space around a text -/

namespace Text

/-- **White space around a text is trimmed.** -/
theorem trim_surrounded {before after : String}
    (blankBefore : ∀ c ∈ before.toList, isBlank c = true)
    (blankAfter : ∀ c ∈ after.toList, isBlank c = true) (s : String) :
    trim (before ++ s ++ after) = trim s := by
  have front : ((before ++ s ++ after).toList).dropWhile isBlank =
      (s.toList ++ after.toList).dropWhile isBlank := by
    rw [String.toList_append, String.toList_append, List.append_assoc,
      List.dropWhile_append_of_pos blankBefore]
  have back (text : List Char) :
      (text ++ after.toList).reverse.dropWhile isBlank = text.reverse.dropWhile isBlank := by
    rw [List.reverse_append,
      List.dropWhile_append_of_pos fun c member => blankAfter c (List.mem_reverse.mp member)]
  rw [trim, trim, trimChars, trimChars, front, List.dropWhile_append]
  split
  · next blank =>
    rw [List.isEmpty_iff.mp blank, List.dropWhile_eq_nil_iff.mpr blankAfter]
  · rw [back]

end Text

namespace Arguments

/-! ## Spellings of options -/

/-- The long name of an option. -/
def Flag.name : Flag → String
  | .verbose => "verbose"
  | .pretty => "pretty"
  | .strict => "strict"
  | .dialect => "dialect"
  | .help => "help"

/-- The letter of an option, if it has one. -/
def Flag.letter? : Flag → Option Char
  | .verbose => some 'v'
  | .pretty => some 'p'
  | .strict => none
  | .dialect => some 'd'
  | .help => some 'h'

/-- The name of a command. -/
def Command.name : Command → String
  | .document => "translate"
  | .table => "table"

/-- The flags of a command: its options but for the dialect. -/
def Command.flags : Command → List Flag
  | .document => [.verbose, .pretty, .strict, .help]
  | .table => [.verbose, .help]

/-- The letters of flags, one after the other. -/
def letters (flags : List Flag) : List Char := flags.filterMap Flag.letter?

/-- How the name of a dialect is joined to its option. -/
inductive Joint where
  /-- It is an argument of its own. -/
  | apart
  /-- It stands behind an equality sign. -/
  | equals
  /-- It stands right behind the letter. -/
  | direct
  deriving DecidableEq, Repr

/-- What stands behind the option, in the same argument. -/
def Joint.joined : Joint → String → List Char
  | .apart, _ => []
  | .equals, name => '=' :: name.toList
  | .direct, name => name.toList

/-- What stands in the next argument. -/
def Joint.following : Joint → String → List String
  | .apart, name => [name]
  | .equals, _ => []
  | .direct, _ => []

/-- **A way to write options.** -/
inductive Spelling where
  /-- A flag by its name: `--pretty`. -/
  | long (flag : Flag)
  /-- Flags by their letters: `-pv`. -/
  | short (flags : List Flag)
  /-- A dialect by the name of its option: `--dialect mysql`, `--dialect=mysql`. -/
  | longDialect (joint : Joint) (name : String)
  /-- A dialect by the letter of its option, behind those of flags: `-pvd mysql`, `-pvd=mysql`,
  `-pvdmysql`. -/
  | shortDialect (flags : List Flag) (joint : Joint) (name : String)
  deriving DecidableEq, Repr

namespace Spelling

/-- The arguments that are written. -/
def words : Spelling → List String
  | .long flag => ["--" ++ flag.name]
  | .short flags => [String.ofList ('-' :: letters flags)]
  | .longDialect joint name =>
    String.ofList ("--dialect".toList ++ joint.joined name) :: joint.following name
  | .shortDialect flags joint name =>
    String.ofList ('-' :: (letters flags ++ 'd' :: joint.joined name)) :: joint.following name

/-- The flags that are given. -/
def flags : Spelling → List Flag
  | .long flag => [flag]
  | .short flags => flags
  | .longDialect _ _ => []
  | .shortDialect flags _ _ => flags

/-- The name of the dialect that is given, if there is one. -/
def dialectName? : Spelling → Option String
  | .long _ => none
  | .short _ => none
  | .longDialect _ name => some name
  | .shortDialect _ _ name => some name

/-- The dialect that is given, if there is one. -/
def dialect? (spelling : Spelling) : Option Dialect :=
  spelling.dialectName?.bind fun name => (Dialect.ofName name).toOption

/-- **The spelling is one of the command**: the command has the flags, they have letters where
letters are written, the dialect is known, and its name does not stand right behind the long
name of its option. -/
inductive Fits (command : Command) : Spelling → Prop
  | long {flag : Flag} : flag ∈ command.flags → Fits command (.long flag)
  | short {flags : List Flag} : flags ≠ [] →
    (∀ flag ∈ flags, flag ∈ command.flags ∧ flag.letter?.isSome) →
    Fits command (.short flags)
  | longDialect {joint : Joint} {name : String} {dialect : Dialect} : joint ≠ .direct →
    Dialect.ofName name = .ok dialect → Fits command (.longDialect joint name)
  | shortDialect {flags : List Flag} (joint : Joint) {name : String} {dialect : Dialect} :
    (∀ flag ∈ flags, flag ∈ command.flags ∧ flag.letter?.isSome) →
      Dialect.ofName name = .ok dialect →
    Fits command (.shortDialect flags joint name)

end Spelling

/-- **Valid options** of a command: it has all of them, no flag is given twice, and one dialect
at most. -/
structure ValidOptions (command : Command) (options : List Spelling) : Prop where
  /-- The command has the options. -/
  fits : ∀ spelling ∈ options, spelling.Fits command
  /-- No flag is given twice. -/
  distinct : (options.flatMap Spelling.flags).Nodup
  /-- There is one dialect at most. -/
  single : (options.filterMap Spelling.dialectName?).length ≤ 1

/-- What a command does, given its flags. -/
def Command.task (flags : List Flag) : Command → Task
  | .document =>
    .document (decide (.pretty ∈ flags)) (if .strict ∈ flags then .strict else .permissive)
  | .table => .table

/-- **What a command is asked to do** by its options, with an SQL text or without. -/
def asked (command : Command) (options : List Spelling) (sql : Option String) : Invocation :=
  if .help ∈ options.flatMap Spelling.flags then .help
  else
    .command (command.task (options.flatMap Spelling.flags))
      ((options.findSome? Spelling.dialect?).getD .generic) sql

/-- **The arguments of the program**: a lead in front of the command, the command and its
options. -/
def commandLine (lead : List String) (command : Command) (options : List Spelling) :
    List String :=
  lead ++ command.name :: options.flatMap Spelling.words

/-! ## Reading one spelling -/

section Reading

variable {command : Command} {given : Given}

theorem addFlag?_of_notMem {flag : Flag} (new : flag ∉ given.flags) :
    given.addFlag? flag = some { given with flags := flag :: given.flags } := by
  rw [Given.addFlag?, if_neg (by simpa using new)]

theorem addDialect?_of_none {name : String} {dialect : Dialect} (first : given.dialect = none)
    (known : Dialect.ofName name = .ok dialect) :
    given.addDialect? name = some { given with dialect := some dialect } := by
  rw [Given.addDialect?, first, known]

theorem readLetters?_cons {flag : Flag} {letter : Char} (own : flag ∈ command.flags)
    (has : flag.letter? = some letter) (rest : List Char) :
    readLetters? command given (letter :: rest) =
      if flag = .help then some .help
      else (given.addFlag? flag).bind fun given => readLetters? command given rest := by
  cases command <;> cases flag <;> first | (cases has <;> rfl) | simp [Command.flags] at own

/-- **Letters are read one by one**, until one asks for help. -/
theorem readLetters?_letters {flags : List Flag}
    (own : ∀ flag ∈ flags, flag ∈ command.flags ∧ flag.letter?.isSome)
    (new : (flags ++ given.flags).Nodup) (rest : List Char) :
    readLetters? command given (letters flags ++ rest) =
      if .help ∈ flags then some .help
      else readLetters? command { given with flags := flags.reverse ++ given.flags } rest := by
  induction flags generalizing given with
  | nil => rfl
  | cons flag others ih =>
    obtain ⟨⟨own, lettered⟩, others_own⟩ := List.forall_mem_cons.mp own
    obtain ⟨letter, has⟩ := Option.isSome_iff_exists.mp lettered
    have split : letters (flag :: others) = letter :: letters others :=
      List.filterMap_cons_some has
    rw [split, List.cons_append, readLetters?_cons own has]
    by_cases help : flag = .help
    · rw [if_pos help, if_pos (by simp [help])]
    · have first := (List.nodup_cons.mp new).1
      have next : (others ++ flag :: given.flags).Nodup := List.perm_middle.nodup_iff.mpr new
      rw [if_neg help, addFlag?_of_notMem fun old => first (List.mem_append_right others old),
        Option.bind_some, ih others_own next, List.reverse_cons, List.append_assoc,
        List.singleton_append]
      simp only [List.mem_cons, Ne.symm help, false_or]

theorem hyphen_notMem_letters (flags : List Flag) : '-' ∉ letters flags := by
  intro hyphen
  obtain ⟨flag, -, has⟩ := List.mem_filterMap.mp hyphen
  cases flag <;> cases has

/-- What follows a hyphen is read as letters, unless it is a second hyphen. -/
theorem readArgument?_hyphen {text : List Char} (nonEmpty : text ≠ [])
    (noHyphen : text.head? ≠ some '-') :
    readArgument? command given (String.ofList ('-' :: text)) =
      readLetters? command given text := by
  obtain ⟨c, text, rfl⟩ := List.exists_cons_of_ne_nil nonEmpty
  rw [readArgument?, String.toList_ofList]
  split
  · next same =>
    cases same
    exact absurd rfl noHyphen
  · next same =>
    cases same
    rfl
  · next noLetter => exact absurd rfl (noLetter c text)

/-- An argument of letters and of what follows them. -/
theorem readArgument?_letters {flags : List Flag}
    (own : ∀ flag ∈ flags, flag ∈ command.flags ∧ flag.letter?.isSome)
    (new : (flags ++ given.flags).Nodup) (tail : List Char)
    (nonEmpty : letters flags ++ tail ≠ []) (noHyphen : tail.head? ≠ some '-') :
    readArgument? command given (String.ofList ('-' :: (letters flags ++ tail))) =
      if .help ∈ flags then some .help
      else readLetters? command { given with flags := flags.reverse ++ given.flags } tail := by
  rw [readArgument?_hyphen nonEmpty, readLetters?_letters own new]
  cases written : letters flags with
  | nil => exact noHyphen
  | cons c others =>
    rintro ⟨⟩
    exact hyphen_notMem_letters flags (written ▸ List.mem_cons_self)

theorem readArgument?_long {flag : Flag} (own : flag ∈ command.flags) :
    readArgument? command given ("--" ++ flag.name) =
      if flag = .help then some .help else (given.addFlag? flag).map .read := by
  cases command <;> cases flag <;> first | rfl | simp [Command.flags] at own

/-- The name of a dialect is not empty, and it starts neither with a hyphen nor with an
equality sign. -/
theorem exists_cons_of_ofName {name : String} {dialect : Dialect}
    (known : Dialect.ofName name = .ok dialect) :
    ∃ c rest, name.toList = c :: rest ∧ c ≠ '-' ∧ c ≠ '=' := by
  have starts : ∃ c, (Text.asciiLower name).toList.head? = some c ∧ c ∈ ['g', 'm', 'p'] := by
    rw [Dialect.ofName] at known
    split at known
    · next lowered => exact ⟨'g', by rw [lowered]; rfl, by decide⟩
    split at known
    · next lowered => exact ⟨'m', by rw [lowered]; rfl, by decide⟩
    split at known
    · next lowered =>
      exact ⟨'p', by rcases lowered with lowered | lowered <;> rw [lowered] <;> rfl, by decide⟩
    · cases known
  rw [Text.asciiLower, String.toList_ofList, List.head?_map] at starts
  obtain ⟨_, first, small⟩ := starts
  obtain ⟨c, head, rfl⟩ := Option.map_eq_some_iff.mp first
  obtain ⟨rest, split⟩ := List.head?_eq_some_iff.mp head
  refine ⟨c, rest, split, ?_, ?_⟩
  all_goals
    rintro rfl
    exact absurd small (by decide)

/-! ### From an argument to the rest -/

theorem ne_end_of_readArgument? {argument : String} {effect : Effect}
    (read : readArgument? command given argument = some effect) : argument ≠ "--" := by
  rintro rfl
  cases command <;> cases read

section Argument

variable {argument : String} {next : Given} (rest : List String)

theorem readCommand?_of_help (read : readArgument? command given argument = some .help) :
    readCommand? command given (argument :: rest) = some .help := by
  rw [readCommand?.eq_def]
  dsimp only
  rw [if_neg (ne_end_of_readArgument? read), read]

theorem readCommand?_of_read
    (read : readArgument? command given argument = some (.read next)) :
    readCommand? command given (argument :: rest) = readCommand? command next rest := by
  rw [readCommand?.eq_def]
  dsimp only
  rw [if_neg (ne_end_of_readArgument? read), read]

section Dialect

variable {name : String} {dialect : Dialect} (first : next.dialect = none)
  (known : Dialect.ofName name = .ok dialect)
include first known

theorem readCommand?_of_needsDialect
    (read : readArgument? command given argument = some (.needsDialect next)) :
    readCommand? command given (argument :: name :: rest) =
      readCommand? command { next with dialect := some dialect } rest := by
  have noOption : isOption name = false := by
    obtain ⟨c, letters, split, noHyphen, -⟩ := exists_cons_of_ofName known
    rw [isOption, split]
    split
    · next same =>
      cases same
      exact absurd rfl noHyphen
    · rfl
  rw [readCommand?.eq_def]
  dsimp only
  rw [if_neg (ne_end_of_readArgument? read), read]
  simp only [noOption, Bool.false_eq_true, ↓reduceIte, addDialect?_of_none first known,
    Option.bind_some]

/-- The letter of the dialect takes the name, wherever it stands. -/
theorem readCommand?_of_joint (joint : Joint)
    (read : readArgument? command given argument =
      readLetters? command next ('d' :: joint.joined name)) :
    readCommand? command given (argument :: joint.following name ++ rest) =
      readCommand? command { next with dialect := some dialect } rest := by
  have added : (next.addDialect? (String.ofList name.toList)).map .read =
      some (Effect.read { next with dialect := some dialect }) := by
    rw [String.ofList_toList, addDialect?_of_none first known, Option.map_some]
  cases joint with
  | apart =>
    exact readCommand?_of_needsDialect rest first known (read.trans (by cases command <;> rfl))
  | equals =>
    refine readCommand?_of_read rest (read.trans (Eq.trans ?_ added))
    cases command <;> rfl
  | direct =>
    obtain ⟨c, letters, split, -, noSign⟩ := exists_cons_of_ofName known
    refine readCommand?_of_read rest (read.trans (Eq.trans ?_ added))
    simp [Joint.joined, split, readLetters?, Flag.ofLetter?, noSign]

end Dialect

end Argument

/-- The name of the option does what its letter does. -/
theorem readArgument?_longDialect {joint : Joint} (noDirect : joint ≠ .direct)
    (name : String) :
    readArgument? command given (String.ofList ("--dialect".toList ++ joint.joined name)) =
      readLetters? command given ('d' :: joint.joined name) := by
  rw [readArgument?, String.toList_ofList]
  cases joint with
  | apart | equals => cases command <;> rfl
  | direct => exact absurd rfl noDirect

/-- What has been said once a spelling has been read. -/
def Given.after (given : Given) (spelling : Spelling) : Given :=
  { given with
    flags := spelling.flags.reverse ++ given.flags
    dialect := spelling.dialect?.or given.dialect }

theorem Given.after_of_known {spelling : Spelling} {name : String} {dialect : Dialect}
    (gives : spelling.dialectName? = some name) (known : Dialect.ofName name = .ok dialect) :
    given.after spelling =
      { given with
        flags := spelling.flags.reverse ++ given.flags
        dialect := some dialect } := by
  rw [Given.after, Spelling.dialect?, gives, Option.bind_some, known]
  rfl

/-- **One spelling is read**, whatever follows. -/
theorem readCommand?_words {spelling : Spelling} (fits : spelling.Fits command)
    (new : (spelling.flags ++ given.flags).Nodup)
    (first : spelling.dialectName? ≠ none → given.dialect = none) (rest : List String) :
    readCommand? command given (spelling.words ++ rest) =
      if .help ∈ spelling.flags then some .help
      else readCommand? command (given.after spelling) rest := by
  cases fits with
  | @long flag own =>
    have read := @readArgument?_long command given flag own
    split
    · next help =>
      rw [if_pos (List.mem_singleton.mp help).symm] at read
      exact readCommand?_of_help rest read
    · next noHelp =>
      rw [if_neg fun help => noHelp (List.mem_singleton.mpr help.symm),
        addFlag?_of_notMem (List.nodup_cons.mp new).1] at read
      exact readCommand?_of_read rest read
  | @short flags nonEmpty own =>
    have written : letters flags ++ [] ≠ [] := by
      obtain ⟨flag, others, rfl⟩ := List.exists_cons_of_ne_nil nonEmpty
      obtain ⟨letter, has⟩ := Option.isSome_iff_exists.mp (own flag List.mem_cons_self).2
      rw [letters, List.filterMap_cons_some has]
      nofun
    have read := readArgument?_letters own new [] written nofun
    rw [List.append_nil] at read
    split
    · next help => exact readCommand?_of_help rest (read.trans (if_pos help))
    · next noHelp => exact readCommand?_of_read rest (read.trans (if_neg noHelp))
  | longDialect noDirect known =>
    rw [Given.after_of_known rfl known]
    exact readCommand?_of_joint rest (first nofun) known _
      (readArgument?_longDialect noDirect _)
  | @shortDialect flags joint name dialect own known =>
    have read := readArgument?_letters own new ('d' :: joint.joined name) (by simp) (by simp)
    rw [Given.after_of_known rfl known]
    split
    · next help => exact readCommand?_of_help _ (read.trans (if_pos help))
    · next noHelp =>
      refine readCommand?_of_joint rest ?_ known joint (read.trans (if_neg noHelp))
      exact first nofun

/-! ## Reading all of them -/

/-- There is room for the options: none of their flags is there yet, and no dialect if they
give one. -/
structure Given.Admits (given : Given) (options : List Spelling) : Prop where
  /-- No flag is there twice. -/
  distinct : (options.flatMap Spelling.flags ++ given.flags).Nodup
  /-- There is one dialect at most. -/
  single : (options.filterMap Spelling.dialectName?).length + given.dialect.toList.length ≤ 1

namespace Given.Admits

variable {spelling : Spelling} {others : List Spelling}
  (admits : given.Admits (spelling :: others))
include admits

theorem new : (spelling.flags ++ given.flags).Nodup := by
  have distinct := admits.distinct
  rw [List.flatMap_cons, List.append_assoc] at distinct
  exact distinct.sublist ((List.Sublist.refl _).append (List.sublist_append_right _ _))

/-- If the first spelling gives a dialect, then nothing else does. -/
theorem only (gives : spelling.dialectName? ≠ none) :
    given.dialect = none ∧ others.filterMap Spelling.dialectName? = [] := by
  obtain ⟨name, gives⟩ := Option.ne_none_iff_exists'.mp gives
  have single := admits.single
  rw [List.filterMap_cons_some gives, List.length_cons] at single
  constructor
  · exact Option.toList_eq_nil_iff.mp (List.length_eq_zero_iff.mp (by omega))
  · exact List.length_eq_zero_iff.mp (by omega)

/-- What one spelling says leaves room for the others. -/
theorem after : (given.after spelling).Admits others := by
  constructor
  · have order :
        (others.flatMap Spelling.flags ++ (spelling.flags.reverse ++ given.flags)).Perm
          ((spelling.flags ++ others.flatMap Spelling.flags) ++ given.flags) := by
      rw [← List.append_assoc]
      exact (List.perm_append_comm.trans ((List.reverse_perm _).append_right _)).append_right _
    exact order.nodup_iff.mpr admits.distinct
  · by_cases gives : spelling.dialectName? = none
    · have single := admits.single
      rw [List.filterMap_cons_none gives] at single
      rwa [Given.after, Spelling.dialect?, gives]
    · rw [(admits.only gives).2, Given.after]
      cases spelling.dialect?.or given.dialect <;> simp

end Given.Admits

/-- What has been said once all spellings have been read. -/
theorem foldl_after {options : List Spelling} (admits : given.Admits options) :
    options.foldl Given.after given =
      { given with
        flags := (options.flatMap Spelling.flags).reverse ++ given.flags
        dialect := (options.findSome? Spelling.dialect?).or given.dialect } := by
  induction options generalizing given with
  | nil => rfl
  | cons spelling others ih =>
    have dialect :
        (others.findSome? Spelling.dialect?).or (spelling.dialect?.or given.dialect) =
          ((spelling :: others).findSome? Spelling.dialect?).or given.dialect := by
      rw [List.findSome?_cons]
      by_cases gives : spelling.dialectName? = none
      · rw [Spelling.dialect?, gives]
        rfl
      · have none : others.findSome? Spelling.dialect? = none := by
          rw [List.findSome?_eq_none_iff]
          intro other member
          rw [Spelling.dialect?,
            List.filterMap_eq_nil_iff.mp (admits.only gives).2 other member]
          rfl
        rw [none]
        cases spelling.dialect? <;> rfl
    rw [List.foldl_cons, ih admits.after, Given.after, dialect, List.flatMap_cons,
      List.reverse_append, List.append_assoc]

/-- **A list of spellings is read**, whatever follows. -/
theorem readCommand?_flatMap_words {options : List Spelling}
    (fits : ∀ spelling ∈ options, spelling.Fits command) (admits : given.Admits options)
    (rest : List String) :
    readCommand? command given (options.flatMap Spelling.words ++ rest) =
      if .help ∈ options.flatMap Spelling.flags then some .help
      else readCommand? command (options.foldl Given.after given) rest := by
  induction options generalizing given with
  | nil => rfl
  | cons spelling others ih =>
    obtain ⟨fits, others_fit⟩ := List.forall_mem_cons.mp fits
    rw [List.flatMap_cons, List.append_assoc,
      readCommand?_words fits admits.new fun gives => (admits.only gives).1,
      ih others_fit admits.after, List.flatMap_cons, List.foldl_cons]
    by_cases help : .help ∈ spelling.flags
    · rw [if_pos help, if_pos (List.mem_append_left _ help)]
    · simp only [List.mem_append, help, false_or, if_false]

theorem invocation_eq (given : Given) (command : Command) :
    given.invocation command =
      .command (command.task given.flags) (given.dialect.getD .generic) given.sql := by
  cases command with
  | document => simp [Given.invocation, Command.task]
  | table => rfl

theorem task_reverse (flags : List Flag) (command : Command) :
    command.task flags.reverse = command.task flags := by
  cases command with
  | document => simp [Command.task]
  | table => rfl

end Reading

section CommandLine

variable {lead : List String} {command : Command} {options : List Spelling}

theorem readAll?_lead (leads : lead ∈ [[], ["-v"], ["--verbose"]]) (rest : List String) :
    Invocation.ofArguments? (lead ++ command.name :: rest) = readCommand? command {} rest := by
  simp only [List.mem_cons, List.not_mem_nil, or_false] at leads
  rcases leads with rfl | rfl | rfl <;> cases command <;> rfl

/-- **What valid options ask for** with nothing behind them, and with a text behind `--`. -/
theorem ofArguments?_commandLine (leads : lead ∈ [[], ["-v"], ["--verbose"]])
    (valid : ValidOptions command options) :
    Invocation.ofArguments? (commandLine lead command options) =
      some (asked command options none) ∧
      ∀ sql, Invocation.ofArguments? (commandLine lead command options ++ ["--", sql]) =
        some (asked command options (some sql)) := by
  have admits : Given.Admits {} options :=
    ⟨by simpa using valid.distinct, by simpa using valid.single⟩
  have read := readCommand?_flatMap_words valid.fits admits
  have state := foldl_after admits
  rw [List.append_nil, Option.or_none] at state
  constructor
  · have alone := read []
    rw [List.append_nil] at alone
    rw [commandLine, readAll?_lead leads, alone, asked, state, readCommand?, invocation_eq,
      task_reverse]
    split <;> rfl
  · intro sql
    rw [commandLine, List.append_assoc, List.cons_append, readAll?_lead leads, read, asked,
      state]
    split
    · rfl
    · rw [readCommand?, if_pos rfl, Given.addSql?, Option.map_some, invocation_eq,
        task_reverse]

/-! ## Runs -/

theorem execute_congr {first second : String} (same : Text.trim first = Text.trim second)
    (task : Task) (dialect : Dialect) :
    task.execute dialect (some first) = task.execute dialect (some second) := by
  rw [Task.execute, Task.execute, requireSql, requireSql, Option.map_some, Option.map_some,
    same]

section Runs

variable (wording : SyntaxWording) (leads : lead ∈ [[], ["-v"], ["--verbose"]])
  (valid : ValidOptions command options)
include leads valid

/-- A text behind `--` does what the text on the standard input does, and so does one that
differs in the white space around it. -/
theorem runProgram_of_trim_eq {text other : String} (same : Text.trim text = Text.trim other)
    (input : Input) :
    runProgram wording (commandLine lead command options ++ ["--", text]) input =
      runProgram wording (commandLine lead command options) (.text other) := by
  obtain ⟨alone, behind⟩ := ofArguments?_commandLine leads valid
  rw [runProgram, runProgram, alone, behind, asked, asked]
  by_cases help : .help ∈ options.flatMap Spelling.flags
  · rw [if_pos help, if_pos help]
  · rw [if_neg help, if_neg help]
    simp only [readSql, Except.bind, execute_congr same]

/-- A text of white space counts as missing, unless the arguments ask for help. -/
theorem runProgram_blank (noHelp : .help ∉ options.flatMap Spelling.flags) {text : String}
    (blank : ∀ c ∈ text.toList, Text.isBlank c = true) :
    runProgram wording (commandLine lead command options) (.text text) =
      { exitCode := 1, message := RunError.noInput.message wording } := by
  have trimmed : Text.trim text = "" := by
    rw [Text.trim, Text.trimChars, List.dropWhile_eq_nil_iff.mpr blank]
    rfl
  have missing : requireSql (some text) = .error .noInput := by
    rw [requireSql, Option.map_some, trimmed]
    rfl
  rw [runProgram, (ofArguments?_commandLine leads valid).1, asked, if_neg noHelp]
  simp only [readSql, Except.bind, Task.execute, missing]
  rfl

end Runs

/-- **A text behind `--` and on the standard input.** The options of a command may be written
in any way and in any order: they ask for what they say. The rest holds whatever the program
says of a text that is no SQL.

* With a text behind `--` the program ends as it does with the text on its standard input,
  whatever the standard input holds otherwise.
* White space around the text makes no difference, in either place.
* A text of white space counts as missing, unless help is asked for. -/
theorem argument_and_input_agree (wording : SyntaxWording) (lead : List String)
    (command : Command) (options : List Spelling) (sql before after : String) (input : Input)
    (leads : lead ∈ [[], ["-v"], ["--verbose"]]) (valid : ValidOptions command options)
    (blankBefore : ∀ c ∈ before.toList, Text.isBlank c = true)
    (blankAfter : ∀ c ∈ after.toList, Text.isBlank c = true) :
    Invocation.ofArguments? (commandLine lead command options) =
      some (asked command options none) ∧
    runProgram wording (commandLine lead command options ++ ["--", sql]) input =
      runProgram wording (commandLine lead command options) (.text sql) ∧
    runProgram wording (commandLine lead command options ++ ["--", before ++ sql ++ after])
        input =
      runProgram wording (commandLine lead command options ++ ["--", sql]) input ∧
    runProgram wording (commandLine lead command options) (.text (before ++ sql ++ after)) =
      runProgram wording (commandLine lead command options) (.text sql) ∧
    (.help ∉ options.flatMap Spelling.flags → (∀ c ∈ sql.toList, Text.isBlank c = true) →
      runProgram wording (commandLine lead command options) (.text sql) =
        { exitCode := 1, message := RunError.noInput.message wording }) := by
  have trimmed := Text.trim_surrounded blankBefore blankAfter sql
  have same : runProgram wording (commandLine lead command options ++ ["--", sql]) input =
      runProgram wording (commandLine lead command options) (.text sql) :=
        runProgram_of_trim_eq wording leads valid rfl input
  refine ⟨(ofArguments?_commandLine leads valid).1, same, ?_, ?_,
    fun noHelp => runProgram_blank wording leads valid noHelp⟩
  · rw [same]
    exact runProgram_of_trim_eq wording leads valid trimmed input
  · -- The text on the input goes the way of `--`: there only the trimmed text counts.
    rw [← runProgram_of_trim_eq wording leads valid trimmed.symm input]
    exact same

/-- `-pdMySQL --strict -v` -/
def bundledOptions : List Spelling :=
  [.shortDialect [.pretty] .direct "MySQL", .long .strict, .short [.verbose]]

/-- The dialect and the text, which are all that there is to say. -/
def plainWording : SyntaxWording := fun dialect sql => dialect.name ++ ": " ++ sql

/-- Texts that start with a hyphen, behind options of three kinds and next to an input that is
no text. The first one is a comment in front of a statement, and the second one is no SQL. -/
theorem argument_and_input_agree_bundled :
    commandLine ["--verbose"] .document bundledOptions =
        ["--verbose", "translate", "-pdMySQL", "--strict", "-v"] ∧
      asked .document bundledOptions none = .command (.document true .strict) .mysql none ∧
      Invocation.ofArguments? ["--verbose", "translate", "-pdMySQL", "--strict", "-v"] =
        some (.command (.document true .strict) .mysql none) ∧
      runProgram plainWording ["--verbose", "translate", "-pdMySQL", "--strict", "-v", "--",
          "\n" ++ "-- all\nSELECT a FROM t" ++ "\t "] .malformed =
        runProgram plainWording ["--verbose", "translate", "-pdMySQL", "--strict", "-v"]
          (.text "-- all\nSELECT a FROM t") ∧
      runProgram plainWording ["--verbose", "translate", "-pdMySQL", "--strict", "-v", "--",
          "\n" ++ "-1" ++ "\t "] .malformed =
        { exitCode := 1, message := "Failed to parse SQL: mysql: -1" } ∧
      runProgram plainWording ["--verbose", "translate", "-pdMySQL", "--strict", "-v"]
          (.text "\n ") =
        { exitCode := 1,
          message := "No SQL provided. Pass it as an argument or pipe it to stdin." } := by
  have line : commandLine ["--verbose"] .document bundledOptions =
      ["--verbose", "translate", "-pdMySQL", "--strict", "-v"] := by decide +kernel
  have meaning : asked .document bundledOptions none =
      .command (.document true .strict) .mysql none := by decide +kernel
  have valid : ValidOptions .document bundledOptions := by
    refine ⟨List.forall_mem_cons.mpr ⟨?_, List.forall_mem_cons.mpr ⟨?_, ?_⟩⟩,
      by decide, by decide⟩
    · exact .shortDialect .direct (by decide) (rfl : Dialect.ofName "MySQL" = .ok .mysql)
    · exact .long (by decide)
    · exact List.forall_mem_singleton.mpr (.short (by decide) (by decide))
  have run (sql : String) := argument_and_input_agree plainWording ["--verbose"] .document
    bundledOptions sql "\n" "\t " .malformed (by decide) valid (List.all_eq_true.mp rfl)
    (List.all_eq_true.mp rfl)
  rw [line, meaning] at run
  have paired (sql : String) := (run sql).2.2.1.trans (run sql).2.1
  refine ⟨line, meaning, (run "").1, paired _, (paired "-1").trans (by decide +kernel), ?_⟩
  exact (run "\n ").2.2.2.2 (by decide) (List.all_eq_true.mp rfl)

end CommandLine

end Arguments

end SqlSearch
