import Mathlib.Data.List.TakeWhile
import SqlSearch.Sql.Lexer

/-!
# Numbers among the tokens

The lexer yields a number for digits with a fraction and an exponent, each of which may be
missing.  It never yields a sign in front: that is a token of its own.  All scanners but one
yield other tokens, and so the texts of numbers are those of that scanner.

## Main definitions

* `NumberText`: the texts of numbers
* `Lexer.NoNumber`, `Lexer.NumberByScanner`: what a branch of the lexer can yield

## Main statements

* `Lexer.numberText_of_scanNumber`: what the scanner of numbers yields
* `Lexer.numberByScanner_step`: no other scanner yields a number
* `numberText_of_mem_tokenize`: the numbers among the tokens of a text
-/

namespace SqlSearch.Sql

/-! ## The texts of numbers -/

/-- A fraction: a period and digits, or nothing. -/
inductive FractionText : List Char → Prop
  | absent : FractionText []
  | digits {text : List Char} : (∀ c ∈ text, c.isDigit = true) → FractionText ('.' :: text)

/-- An exponent: its letter, possibly a sign, and digits; or nothing. -/
inductive ExponentText : List Char → Prop
  | absent : ExponentText []
  | digits {letter : Char} {sign text : List Char} : letter = 'e' ∨ letter = 'E' →
    sign ∈ [[], ['+'], ['-']] →
    text ≠ [] → (∀ c ∈ text, c.isDigit = true) → ExponentText (letter :: (sign ++ text))

/-- **The texts of numbers**: digits, a fraction and an exponent, with a digit in front of the
exponent. There is no sign in front. -/
inductive NumberText : List Char → Prop
  | intro {whole fraction exponent : List Char} :
    (∀ c ∈ whole, c.isDigit = true) → FractionText fraction →
    ExponentText exponent → (∃ c ∈ whole ++ fraction, c.isDigit = true) →
      NumberText (whole ++ fraction ++ exponent)

theorem NumberText.ne_empty {digits : String} (number : NumberText digits.toList) :
    digits ≠ "" := by
  rintro rfl
  generalize same : "".toList = text at number
  obtain ⟨-, -, -, c, member, -⟩ := number
  have empty := List.append_eq_nil_iff.mp same.symm
  rw [empty.1] at member
  cases member

namespace Lexer

theorem exponentText_exponent (text : List Char) : ExponentText (exponent text).1 := by
  cases text with
  | nil => exact .absent
  | cons c rest =>
    rw [exponent]
    split
    · next letter =>
      dsimp only
      split
      · exact .absent
      · next some =>
        refine .digits letter ?_ (by simpa using some) fun c member =>
          List.mem_takeWhile_imp member
        cases rest with
        | nil => simp
        | cons sign others =>
          by_cases isSign : sign = '+' ∨ sign = '-'
          · rcases isSign with rfl | rfl <;> simp
          · simp [isSign]
    · exact .absent

/-- Digits with a period between or around them hold a digit, unless there is nothing but the
period. -/
theorem exists_digit_of_ne {whole digits : List Char} (isWhole : ∀ c ∈ whole, c.isDigit = true)
    (isFraction : ∀ c ∈ digits, c.isDigit = true)
    (someDigit : whole ++ '.' :: digits ≠ ['.']) :
    ∃ c ∈ whole ++ '.' :: digits, c.isDigit = true := by
  cases whole with
  | cons c others => exact ⟨c, by simp, isWhole c List.mem_cons_self⟩
  | nil =>
    cases digits with
    | nil => exact absurd rfl someDigit
    | cons c others => exact ⟨c, by simp, isFraction c List.mem_cons_self⟩

/-- **What the scanner of numbers yields**, where a digit or a period stands in front. -/
theorem numberText_of_scanNumber {d : Dialect} {c : Char} {text rest : List Char}
    {digits : String} {long : Bool} (starts : c.isDigit = true ∨ c = '.')
    (read : scanNumber d (c :: text) = some (some (.literal (.number digits long)), rest)) :
    NumberText digits.toList := by
  have whole : ∀ d ∈ (c :: text).takeWhile Char.isDigit, d.isDigit = true :=
    fun d => List.mem_takeWhile_imp
  rw [scanNumber] at read
  dsimp only at read
  split at read
  · cases read
  · split at read
    · next fraction _ =>
      split at read
      · cases read
      next mantissa =>
      split at read
      · cases read
      have digit := exists_digit_of_ne whole (fun d => List.mem_takeWhile_imp) mantissa
      split at read
      all_goals
        cases read
        rw [String.toList_ofList]
        exact .intro whole (.digits fun d => List.mem_takeWhile_imp)
          (exponentText_exponent _) digit
    · next noFraction =>
      split at read
      · cases read
      split at read
      · cases read
      have isDigit : c.isDigit = true := by
        refine starts.resolve_right ?_
        rintro rfl
        exact noFraction text rfl
      have digit : ∃ d ∈ (c :: text).takeWhile Char.isDigit ++ [], d.isDigit = true :=
        ⟨c, by rw [List.append_nil,
          List.takeWhile_cons_of_pos isDigit]; exact List.mem_cons_self, isDigit⟩
      have number (behind : List Char) :=
        NumberText.intro whole .absent (exponentText_exponent behind) digit
      rw [List.append_nil] at number
      split at read
      all_goals
        cases read
        rw [String.toList_ofList]
        exact number _

/-! ## The other scanners -/

/-- What is read, if anything, **is no number**. -/
def NoNumber (result : Result) : Prop :=
  ∀ digits long rest, result ≠ some (some (.literal (.number digits long)), rest)

@[simp] theorem noNumber_none : NoNumber none := nofun

@[simp] theorem noNumber_blank (rest : List Char) : NoNumber (some (none, rest)) := nofun

@[simp] theorem noNumber_some_iff (token : Token) (rest : List Char) :
    NoNumber (some (some token, rest)) ↔
      ∀ digits long, token ≠ .literal (.number digits long) := by
  simp [NoNumber]

@[simp] theorem noNumber_sign (s : String) (rest : List Char) : NoNumber (sign s rest) := by
  simp [sign]

@[simp] theorem noNumber_operator (d : Dialect) (s : String) (rest : List Char) :
    NoNumber (operator d s rest) := by
  rw [operator]
  split <;> simp

@[simp] theorem noNumber_scanWord (d : Dialect) (start rest : List Char) :
    NoNumber (scanWord d start rest) := by
  simp [scanWord, Token.word]

@[simp] theorem noNumber_literal {make : String → Value}
    (other : ∀ s digits long, make s ≠ .number digits long)
    (scanned : Option (List Char × List Char)) : NoNumber (literal make scanned) := by
  cases scanned <;> simp [literal, other]

theorem noNumber_scanSign {d : Dialect} {c : Char} {rest : List Char} {result : Result}
    (found : scanSign d c rest = some result) : NoNumber result := by
  unfold scanSign at found
  split at found <;> cases found
  case h_8.refl => cases skipComment 0 ' ' _ <;> simp
  case h_9.refl => split <;> simp
  all_goals simp

@[simp] theorem noNumber_scanRaw (quote : Char) (rest : List Char) :
    NoNumber (scanPrefixed.scanRaw quote rest) := by
  unfold scanPrefixed.scanRaw
  repeat' split
  all_goals simp

theorem noNumber_scanPrefixed {d : Dialect} {c : Char} {rest : List Char} {result : Result}
    (found : scanPrefixed d c rest = some result) : NoNumber result := by
  unfold scanPrefixed at found
  repeat' split at found
  all_goals cases found
  all_goals simp

theorem noNumber_scanHash (d : Dialect) (rest : List Char) : NoNumber (scanHash d rest) := by
  unfold scanHash
  repeat' split
  all_goals simp

theorem noNumber_scanAt (d : Dialect) (rest : List Char) : NoNumber (scanAt d rest) := by
  unfold scanAt
  repeat' split
  all_goals simp

theorem noNumber_scanQuestion (d : Dialect) (rest : List Char) :
    NoNumber (scanQuestion d rest) := by
  unfold scanQuestion
  repeat' split
  all_goals simp

theorem noNumber_scanDollarSign (rest : List Char) : NoNumber (scanDollarSign rest) := by
  rw [scanDollarSign]
  split <;> simp

/-! ## The lexer -/

section Step

variable (d : Dialect) (c : Char) (rest : List Char)

/-- A number that is read in front of a text comes from the scanner of numbers. -/
def NumberByScanner (result : Result) : Prop :=
  NoNumber result ∨ ((c.isDigit = true ∨ c = '.') ∧ result = scanNumber d (c :: rest))

variable {d c rest} in
theorem NumberByScanner.ite {p : Prop} [Decidable p] {first second : Result}
    (yes : p → NumberByScanner d c rest first) (no : ¬ p → NumberByScanner d c rest second) :
    NumberByScanner d c rest (if p then first else second) :=
  iteInduction (motive := NumberByScanner d c rest) yes no

/-- **No other scanner yields a number.** -/
theorem numberByScanner_step : NumberByScanner d c rest (step d c rest) := by
  unfold step
  refine .ite (fun _ => .inl (by simp)) fun _ => ?_
  cases found : scanPrefixed d c rest with
  | some result => exact .inl (noNumber_scanPrefixed found)
  | none =>
    refine .ite (fun _ => .inl (by simp)) fun _ => ?_
    refine .ite (fun _ => .inl (by cases scanIdent c rest <;> simp [Token.quoted])) fun _ => ?_
    refine .ite (fun _ => .inl (by simp)) fun _ => ?_
    refine .ite (fun starts => .inr ⟨starts, rfl⟩) fun _ => ?_
    cases found : scanSign d c rest with
    | some result => exact .inl (noNumber_scanSign found)
    | none =>
      refine .ite (fun _ => .inl (noNumber_scanHash d rest)) fun _ => ?_
      refine .ite (fun _ => .inl (noNumber_scanAt d rest)) fun _ => ?_
      refine .ite (fun _ => .inl (noNumber_scanQuestion d rest)) fun _ => ?_
      refine .ite (fun _ => .inl (by simp)) fun _ => ?_
      refine .ite (fun _ => .inl (noNumber_scanDollarSign rest)) fun _ => ?_
      exact .ite (fun _ => .inl (by simp)) fun _ => .inl (by simp)

end Step

end Lexer

/-- **The numbers among the tokens of a text.** -/
theorem numberText_of_mem_tokenize {d : Dialect} {text : List Char} {tokens : List Token}
    {digits : String} {long : Bool} (read : tokenize d text = some tokens)
    (member : .literal (.number digits long) ∈ tokens) :
    NumberText digits.toList := by
  fun_induction tokenize d text generalizing tokens with
  | case1 =>
    cases read
    cases member
  | case2 c rest fails => cases read
  | case3 c rest token behind found shorter ih =>
    obtain ⟨others, readOthers, rfl⟩ := Option.map_eq_some_iff.mp read
    rcases List.mem_append.mp member with first | later
    · obtain rfl : token = some (.literal (.number digits long)) := by simpa using first
      rcases Lexer.numberByScanner_step d c rest with none | ⟨starts, scanned⟩
      · exact absurd found (none digits long behind)
      · exact Lexer.numberText_of_scanNumber starts (scanned.symm.trans found)
    · exact ih readOthers later
  | case4 c rest token behind found longer => cases read

end SqlSearch.Sql
