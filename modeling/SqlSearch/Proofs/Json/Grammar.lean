import SqlSearch.Proofs.Json.Structure

/-!
# The grammar of JSON

The rules of the JSON standard, in full and in its notation: white space between all tokens,
numbers with sign, fraction and exponent, every escape, and the three literal names.  A text is
JSON if the rules derive it.

The compact form uses little of this, and is shown to be derived.

## Main definitions

* `Json.Grammar.Value`: the texts of values
* `Json.IsText`: the JSON texts

## Main statements

* `Json.isText_compactChars`: the compact form is JSON

## Design

The rules for lists and objects share their commas: `Grammar.Separated` takes the rule of an
element as a parameter, and `Grammar.Padded` puts white space around it.
-/

namespace SqlSearch.Json

namespace Grammar

/-! ## White space -/

/-- `ws = *( %x20 / %x09 / %x0A / %x0D )` -/
def Blanks (text : List Char) : Prop := ∀ c ∈ text, c = ' ' ∨ c = '\t' ∨ c = '\n' ∨ c = '\r'

/-- A text with white space around it. -/
inductive Padded (Rule : List Char → Prop) : List Char → Prop
  | intro {before text after : List Char} : Blanks before → Rule text → Blanks after →
    Padded Rule (before ++ text ++ after)

/-! ## Numbers -/

/-- `1*DIGIT` -/
def Digits (text : List Char) : Prop := text ≠ [] ∧ ∀ c ∈ text, c.isDigit = true

/-- `int = zero / ( digit1-9 *DIGIT )` -/
inductive Whole : List Char → Prop
  | zero : Whole ['0']
  | digits {first : Char} {others : List Char} : first.isDigit = true → first ≠ '0' →
    (∀ c ∈ others, c.isDigit = true) → Whole (first :: others)

/-- `[ frac ]`, with `frac = decimal-point 1*DIGIT` -/
inductive Fraction : List Char → Prop
  | absent : Fraction []
  | digits {text : List Char} : Digits text → Fraction ('.' :: text)

/-- `[ exp ]`, with `exp = e [ minus / plus ] 1*DIGIT` -/
inductive Exponent : List Char → Prop
  | absent : Exponent []
  | digits {e : Char} {sign text : List Char} :
    e = 'e' ∨ e = 'E' → sign ∈ [[], ['-'], ['+']] → Digits text →
    Exponent (e :: (sign ++ text))

/-- `number = [ minus ] int [ frac ] [ exp ]` -/
inductive Number : List Char → Prop
  | intro {sign whole fraction exponent : List Char} :
    sign ∈ [[], ['-']] → Whole whole → Fraction fraction →
    Exponent exponent → Number (sign ++ whole ++ fraction ++ exponent)

/-! ## Strings -/

/-- `HEXDIG`, in either case -/
def HexDigit (c : Char) : Prop := c.isDigit = true ∨ ('a' ≤ c ∧ c ≤ 'f') ∨ ('A' ≤ c ∧ c ≤ 'F')

/-- `char = unescaped / escape ( … )`, with `unescaped = %x20-21 / %x23-5B / %x5D-10FFFF` -/
inductive Character : List Char → Prop
  | unescaped {c : Char} : 0x20 ≤ c.toNat → c ≠ '"' → c ≠ '\\' → Character [c]
  | letter {c : Char} : c ∈ ['"', '\\', '/', 'b', 'f', 'n', 'r', 't'] → Character ['\\', c]
  | code {a b c d : Char} : HexDigit a → HexDigit b → HexDigit c → HexDigit d →
    Character ['\\', 'u', a, b, c, d]

/-- `*char` -/
inductive Characters : List Char → Prop
  | nil : Characters []
  | cons {char others : List Char} : Character char → Characters others →
    Characters (char ++ others)

/-- `string = quotation-mark *char quotation-mark` -/
inductive Quoted : List Char → Prop
  | intro {text : List Char} : Characters text → Quoted ('"' :: (text ++ ['"']))

/-! ## Values -/

/-- Elements with commas between them. -/
inductive Separated (Element : List Char → Prop) : List Char → Prop
  | last {text : List Char} : Element text → Separated Element text
  | more {first others : List Char} : Element first → Separated Element others →
    Separated Element (first ++ ',' :: others)

/-- `member = string name-separator value` -/
inductive Member (Rule : List Char → Prop) : List Char → Prop
  | intro {key value : List Char} :
    Padded Quoted key → Padded Rule value → Member Rule (key ++ ':' :: value)

/-- **The texts of values**:
`value = false / null / true / object / array / number / string` -/
inductive Value : List Char → Prop
  | name {text : List Char} :
    text ∈ ["false".toList, "null".toList, "true".toList] → Value text
  | emptyObject {blanks : List Char} : Blanks blanks → Value ('\x7b' :: (blanks ++ ['\x7d']))
  | object {members : List Char} : Separated (Member Value) members →
    Value ('\x7b' :: (members ++ ['\x7d']))
  | emptyArray {blanks : List Char} : Blanks blanks → Value ('[' :: (blanks ++ [']']))
  | array {elements : List Char} : Separated (Padded Value) elements →
    Value ('[' :: (elements ++ [']']))
  | number {text : List Char} : Number text → Value text
  | string {text : List Char} : Quoted text → Value text

end Grammar

/-- **The JSON texts**: `JSON-text = ws value ws` -/
def IsText (text : List Char) : Prop := Grammar.Padded Grammar.Value text

namespace Grammar

/-! ## The compact form -/

theorem blanks_nil : Blanks [] := List.forall_mem_nil _

/-- White space may be absent. -/
theorem Padded.of_rule {Rule : List Char → Prop} {text : List Char} (derived : Rule text) :
    Padded Rule text := by
  have padded := Padded.intro blanks_nil derived blanks_nil
  rwa [List.nil_append, List.append_nil] at padded

/-- Texts that are derived one by one are derived with commas between them. -/
theorem separated_of_each {Element : List Char → Prop} {first : List Char}
    {others : List (List Char)} (each : ∀ text ∈ first :: others, Element text) :
    Separated Element (first ++ others.flatMap ([','] ++ ·)) := by
  induction others generalizing first with
  | nil =>
    rw [List.flatMap_nil, List.append_nil]
    exact .last (each first List.mem_cons_self)
  | cons next others ih =>
    rw [List.forall_mem_cons] at each
    rw [List.flatMap_cons, List.append_assoc]
    exact .more each.1 (ih each.2)

/-- No number but zero starts with the digit zero. -/
theorem head?_toDigits_ne_zero {n : Nat} (positive : 0 < n) :
    (Nat.toDigits 10 n).head? ≠ some '0' := by
  induction n using Nat.strongRecOn with
  | ind n ih =>
    by_cases small : n < 10
    · have noZero : ∀ d < 10, 0 < d → d.digitChar ≠ '0' := by decide
      rw [Nat.toDigits_of_lt_base small]
      simpa using noZero n small positive
    · have before := ih (n / 10) (by omega) (by omega)
      rw [Nat.toDigits_of_base_le (by decide) (by omega), List.head?_append]
      cases first : (Nat.toDigits 10 (n / 10)).head? with
      | none => exact absurd (List.head?_eq_none_iff.mp first) Nat.toDigits_ne_nil
      | some digit => rwa [first] at before

theorem whole_numChars (n : Nat) : Whole (numChars n) := by
  have digits : ∀ c ∈ numChars n, c.isDigit = true :=
    fun c => Nat.isDigit_of_mem_toDigits (by decide) (by decide)
  rcases Nat.eq_zero_or_pos n with rfl | positive
  · exact .zero
  · have noZero : (numChars n).head? ≠ some '0' := head?_toDigits_ne_zero positive
    cases written : numChars n with
    | nil => exact absurd written Nat.toDigits_ne_nil
    | cons first others =>
      rw [written, List.forall_mem_cons] at digits
      rw [written, List.head?_cons] at noZero
      exact .digits digits.1 (fun zero => noZero (congrArg some zero)) digits.2

theorem number_numChars (n : Nat) : Number (numChars n) := by
  have number := Number.intro (List.mem_cons_self) (whole_numChars n) .absent .absent
  rwa [List.nil_append, List.append_nil, List.append_nil] at number

theorem hexDigit_hexDigit : ∀ n < 16, HexDigit (Json.hexDigit n) := by
  unfold HexDigit
  decide

theorem character_escapeChar (c : Char) : Character (escapeChar c) := by
  rcases escapeChar_cases c with
    ⟨letter, member, written⟩ | ⟨control, written⟩ | ⟨plain, quote, backslash, written⟩
  · have known : ∀ escape ∈ letterEscapes,
        escape.1 ∈ ['"', '\\', '/', 'b', 'f', 'n', 'r', 't'] := by decide
    rw [written]
    exact .letter (known _ member)
  · rw [written]
    exact .code (Or.inl rfl) (Or.inl rfl) (hexDigit_hexDigit _ (by omega))
      (hexDigit_hexDigit _ (by omega))
  · rw [written]
    exact .unescaped plain quote backslash

theorem quoted_quoteChars (s : String) : Quoted (quoteChars s) := by
  refine .intro ?_
  induction s.toList with
  | nil => exact .nil
  | cons c chars ih =>
    rw [List.flatMap_cons]
    exact .cons (character_escapeChar c) ih

/-- The compact form of a value is the text of a value. -/
theorem value_compactChars (json : Json) : Value json.compactChars := by
  induction json with
  | str s => exact .string (quoted_quoteChars s)
  | num n => exact .number (number_numChars n)
  | arr items ih =>
    have elements : ∀ text ∈ items.map compactChars, Padded Value text := by
      intro text member
      obtain ⟨item, inside, rfl⟩ := List.mem_map.mp member
      exact .of_rule (ih item inside)
    rw [compactChars_arr]
    cases written : items.map compactChars with
    | nil => exact .emptyArray blanks_nil
    | cons first others =>
      rw [written] at elements
      rw [enclose_commas]
      exact .array (separated_of_each elements)
  | obj fields ih =>
    have members : ∀ text ∈ fields.map fieldChars, Member Value text := by
      intro text member
      obtain ⟨field, inside, rfl⟩ := List.mem_map.mp member
      exact .intro (.of_rule (quoted_quoteChars field.1)) (.of_rule (ih field inside))
    rw [compactChars_obj]
    cases written : fields.map fieldChars with
    | nil => exact .emptyObject blanks_nil
    | cons first others =>
      rw [written] at members
      rw [enclose_commas]
      exact .object (separated_of_each members)

end Grammar

/-- **The compact form is JSON.** -/
theorem isText_compactChars (json : Json) : IsText json.compactChars :=
  .of_rule (Grammar.value_compactChars json)

end SqlSearch.Json
