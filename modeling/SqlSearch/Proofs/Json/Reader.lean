import SqlSearch.Proofs.Json.Structure

/-!
# Reading JSON back

A reader for the compact form, and the proof that it gives back every value that is written.
So the compact form loses nothing, and two values never share a text.

A number ends where no further digit follows.  What is read is therefore always stated in front
of an arbitrary rest that does not start with a digit (`Ends`); inside a list or an object a
comma or a bracket follows.

## Main definitions

* `Json.readChars`, `Json.readNumber`, `Json.readEnclosed`: the parts of a text
* `Json.readValue`, `Json.ofText?`: the value of a text

## Main statements

* `Json.readChars_quoted`: a quoted string is read back, whatever its characters
* `Json.readEnclosed_enclose`: enclosed texts are read back if each of them is
* `Json.ofText?_compact`: the compact form is read back

## Design

Lists and objects are read by one function, which takes the reader of its elements as a
parameter, as one function (`Json.enclose`) describes how they are written.  Nesting and
repetition are bounded by the length of the text.
-/

namespace SqlSearch.Json

/-! ## Strings -/

/-- The value of a hexadecimal digit in lower case. -/
def hexValue? (c : Char) : Option Nat :=
  if c.isDigit then some (c.toNat - 48)
  else if 'a' ≤ c ∧ c ≤ 'f' then some (c.toNat - 87)
  else none

/-- The character of four hexadecimal digits. -/
def unicode? (a b c d : Char) : Option Char := do
  let a ← hexValue? a
  let b ← hexValue? b
  let c ← hexValue? c
  let d ← hexValue? d
  return Char.ofNat (4096 * a + 256 * b + 16 * c + d)

/-- Reads the characters of a string up to its closing quote; returns them with what follows
the quote. -/
def readChars : List Char → Option (List Char × List Char)
  | [] => none
  | '"' :: rest => some ([], rest)
  | '\\' :: 'u' :: a :: b :: c :: d :: rest => do
    let char ← unicode? a b c d
    let (chars, rest) ← readChars rest
    return (char :: chars, rest)
  | '\\' :: letter :: rest => do
    let char ← letterEscapes.lookup letter
    let (chars, rest) ← readChars rest
    return (char :: chars, rest)
  | char :: rest => do
    let (chars, rest) ← readChars rest
    return (char :: chars, rest)

theorem hexValue?_hexDigit : ∀ n < 16, hexValue? (hexDigit n) = some n := by decide

/-- A control character is read back from its code. -/
theorem unicode?_hexDigit {c : Char} (control : c.toNat < 0x20) :
    unicode? '0' '0' (hexDigit (c.toNat / 16)) (hexDigit (c.toNat % 16)) = some c := by
  have zero : hexValue? '0' = some 0 := by decide
  have high := hexValue?_hexDigit (c.toNat / 16) (by omega)
  have low := hexValue?_hexDigit (c.toNat % 16) (by omega)
  have whole : 4096 * 0 + 256 * 0 + 16 * (c.toNat / 16) + c.toNat % 16 = c.toNat := by omega
  simp only [unicode?, zero, high, low, Option.bind_eq_bind, Option.bind_some, Option.pure_def,
    whole, Char.ofNat_toNat]

/-- No letter of an escape stands for two characters, and none is the one in front of a
code. -/
theorem lookup_letterEscapes :
    ∀ escape ∈ letterEscapes, letterEscapes.lookup escape.1 = some escape.2 ∧
      escape.1 ≠ 'u' := by decide

/-- A character is read back, escaped or not. -/
theorem readChars_escapeChar {c : Char} {text chars rest : List Char}
    (read : readChars text = some (chars, rest)) :
    readChars (escapeChar c ++ text) = some (c :: chars, rest) := by
  rcases escapeChar_cases c with
    ⟨letter, member, written⟩ | ⟨control, written⟩ | ⟨-, quote, backslash, written⟩
  · obtain ⟨found, notCode⟩ := lookup_letterEscapes _ member
    rw [written]
    simp [readChars, notCode, found, read]
  · rw [written]
    simp [readChars, unicode?_hexDigit control, read]
  · rw [written]
    simp [readChars, backslash, read]

/-- **A quoted string is read back**, whatever its characters. -/
theorem readChars_quoted (chars rest : List Char) :
    readChars (chars.flatMap escapeChar ++ '"' :: rest) = some (chars, rest) := by
  induction chars with
  | nil => rfl
  | cons c chars ih =>
    rw [List.flatMap_cons, List.append_assoc]
    exact readChars_escapeChar ih

/-! ## Numbers -/

/-- Reads a number in decimal digits. -/
def readNumber (text : List Char) : Option (Json × List Char) :=
  if text.takeWhile Char.isDigit = [] then none
  else some (.num (Nat.ofDigitChars 10 (text.takeWhile Char.isDigit) 0),
    text.dropWhile Char.isDigit)

/-- The text does not start with a digit, so that a number in front of it **ends** there. -/
def Ends (text : List Char) : Prop := ∀ c ∈ text.head?, c.isDigit = false

theorem ends_nil : Ends [] := nofun

theorem ends_cons {c : Char} (text : List Char) (noDigit : c.isDigit = false) :
    Ends (c :: text) := by
  intro d first
  cases first
  exact noDigit

/-- A number is read back where it ends. -/
theorem readNumber_numChars (n : Nat) {rest : List Char} (ends : Ends rest) :
    readNumber (numChars n ++ rest) = some (.num n, rest) := by
  have digits : ∀ c ∈ numChars n, c.isDigit = true :=
    fun c => Nat.isDigit_of_mem_toDigits (by decide) (by decide)
  have stops : rest.takeWhile Char.isDigit = [] ∧ rest.dropWhile Char.isDigit = rest := by
    cases rest with
    | nil => exact ⟨rfl, rfl⟩
    | cons c rest => simp [ends c rfl]
  have taken : (numChars n ++ rest).takeWhile Char.isDigit = numChars n := by
    rw [List.takeWhile_append_of_pos digits, stops.1, List.append_nil]
  have dropped : (numChars n ++ rest).dropWhile Char.isDigit = rest := by
    rw [List.dropWhile_append_of_pos digits, stops.2]
  have some : numChars n ≠ [] := Nat.toDigits_ne_nil
  rw [readNumber, taken, dropped, if_neg some, numChars, Nat.ofDigitChars_ten_toDigits]

/-! ## Lists and objects -/

section Enclosed

variable {α : Type} (element : List Char → Option (α × List Char)) (close : Char)

/-- Reads elements, each behind a comma, up to a closing bracket. -/
def readOthers : Nat → List Char → Option (List α × List Char)
  | 0, _ => none
  | _, [] => none
  | bound + 1, c :: text =>
    if c = close then some ([], text)
    else if c = ',' then do
      let (first, text) ← element text
      let (others, text) ← readOthers bound text
      return (first :: others, text)
    else none

/-- Reads elements with commas between them, up to a closing bracket. -/
def readEnclosed : List Char → Option (List α × List Char)
  | [] => none
  | c :: text =>
    if c = close then some ([], text)
    else do
      let (first, text) ← element (c :: text)
      let (others, text) ← readOthers element close text.length text
      return (first :: others, text)

variable {element close} (write : α → List Char) (rest : List Char)

/-- A comma or the bracket follows an element, and no digit. -/
theorem ends_others (noDigit : close.isDigit = false) (elements : List α) :
    Ends ((elements.map write).flatMap ([','] ++ ·) ++ close :: rest) := by
  cases elements with
  | nil => exact ends_cons rest noDigit
  | cons a others => exact ends_cons _ (by decide)

theorem length_lt_length_others (close : Char) (elements : List α) :
    elements.length < ((elements.map write).flatMap ([','] ++ ·) ++ close :: rest).length := by
  induction elements with
  | nil => simp
  | cons a others ih =>
    simp only [List.map_cons, List.flatMap_cons, List.length_append, List.length_cons,
      List.length_nil] at ih ⊢
    omega

theorem readOthers_flatMap (noComma : close ≠ ',') (noDigit : close.isDigit = false)
    {elements : List α}
    (each : ∀ a ∈ elements, ∀ text, Ends text → element (write a ++ text) = some (a, text))
    {bound : Nat} (enough : elements.length < bound) :
    readOthers element close bound
      ((elements.map write).flatMap ([','] ++ ·) ++ close :: rest) =
      some (elements, rest) := by
  induction elements generalizing bound with
  | nil =>
    obtain ⟨bound, rfl⟩ := Nat.exists_eq_succ_of_ne_zero (Nat.ne_of_gt enough)
    simp [readOthers]
  | cons a others ih =>
    obtain ⟨bound, rfl⟩ :=
      Nat.exists_eq_succ_of_ne_zero (Nat.ne_of_gt (Nat.zero_lt_of_lt enough))
    have first := each a List.mem_cons_self _ (ends_others write rest noDigit others)
    have restRead :=
      ih (fun b member => each b (List.mem_cons_of_mem a member))
        (Nat.lt_of_succ_lt_succ enough)
    rw [List.map_cons, List.flatMap_cons, List.append_assoc, List.append_assoc,
      List.singleton_append, readOthers, if_neg noComma.symm, if_pos rfl, first]
    simp only [Option.bind_eq_bind, Option.bind_some, restRead, Option.pure_def]

/-- **Enclosed texts are read back** if each of them is, and if none starts with the closing
bracket. -/
theorem readEnclosed_enclose (noComma : close ≠ ',') (noDigit : close.isDigit = false)
    {elements : List α}
    (each : ∀ a ∈ elements, ∀ text, Ends text → element (write a ++ text) = some (a, text))
    (opened : ∀ a ∈ elements, ∃ c text, write a = c :: text ∧ c ≠ close) :
    readEnclosed element close (enclose [] [','] [] close (elements.map write) ++ rest) =
      some (elements, rest) := by
  cases elements with
  | nil => simp [enclose, readEnclosed]
  | cons a others =>
    have first := each a List.mem_cons_self _ (ends_others write rest noDigit others)
    have restRead := readOthers_flatMap write rest noComma noDigit
      (fun b member => each b (List.mem_cons_of_mem a member))
        (length_lt_length_others write rest close others)
    obtain ⟨c, text, starts, noClose⟩ := opened a List.mem_cons_self
    have written : enclose [] [','] [] close ((a :: others).map write) ++ rest =
        c :: (text ++ ((others.map write).flatMap ([','] ++ ·) ++ close :: rest)) := by
      rw [List.map_cons, enclose_commas, starts]
      simp
    rw [starts, List.cons_append] at first
    rw [written, readEnclosed, if_neg noClose, first]
    simp only [Option.bind_eq_bind, Option.bind_some, restRead, Option.pure_def]

end Enclosed

/-! ## Values -/

/-- Reads a field, given the reader of its value. -/
def readField (value : List Char → Option (Json × List Char)) :
    List Char → Option ((String × Json) × List Char)
  | '"' :: text => do
    let (key, text) ← readChars text
    if text.head? = some ':' then
      let (json, text) ← value text.tail
      return ((String.ofList key, json), text)
    else none
  | _ => none

/-- Reads a value that nests no deeper than `bound`; returns it with what follows. -/
def readValue : Nat → List Char → Option (Json × List Char)
  | 0, _ => none
  | _, [] => none
  | bound + 1, c :: text =>
    if c = '"' then (readChars text).map fun read => (.str (String.ofList read.1), read.2)
    else if c = '[' then
      (readEnclosed (readValue bound) ']' text).map fun read => (.arr read.1, read.2)
    else if c = '\x7b' then
      (readEnclosed (readField (readValue bound)) '\x7d' text).map fun read =>
        (.obj read.1, read.2)
    else readNumber (c :: text)

/-- **The value of a text** in the compact form. -/
def ofText? (text : String) : Option Json :=
  (readValue (text.length + 1) text.toList).bind fun read => if read.2 = [] then some read.1
    else none

/-- A number starts with a digit. -/
theorem exists_numChars_eq_cons (n : Nat) :
    ∃ c digits, numChars n = c :: digits ∧ c.isDigit = true := by
  cases written : numChars n with
  | nil => exact absurd written Nat.toDigits_ne_nil
  | cons c digits =>
    have first : c ∈ Nat.toDigits 10 n := by
      rw [numChars] at written
      rw [written]
      exact List.mem_cons_self
    exact ⟨c, digits, rfl, Nat.isDigit_of_mem_toDigits (by decide) (by decide) first⟩

/-- No value starts with a closing bracket. -/
theorem exists_compactChars_eq_cons (json : Json) :
    ∃ c text, json.compactChars = c :: text ∧ c ≠ ']' := by
  cases json with
  | str s => exact ⟨'"', _, by rw [compactChars, quoteChars], by decide⟩
  | num n =>
    obtain ⟨c, digits, written, digit⟩ := exists_numChars_eq_cons n
    refine ⟨c, digits, by rw [compactChars, written], ?_⟩
    rintro rfl
    exact absurd digit (by decide)
  | arr items => exact ⟨'[', _, compactChars_arr items, by decide⟩
  | obj fields => exact ⟨'\x7b', _, compactChars_obj fields, by decide⟩

/-- A field is read back if its value is. -/
theorem readField_fieldChars {value : List Char → Option (Json × List Char)}
    {field : String × Json} {rest : List Char}
    (read : value (field.2.compactChars ++ rest) = some (field.2, rest)) :
    readField value (fieldChars field ++ rest) = some (field, rest) := by
  have key := readChars_quoted field.1.toList (':' :: (field.2.compactChars ++ rest))
  simp only [fieldChars, quoteChars, List.cons_append, List.append_assoc, List.nil_append]
  rw [readField, key]
  simp [read]

/-- A value is read back, whatever follows that is no digit. -/
theorem readValue_compactChars (json : Json) {bound : Nat} {rest : List Char}
    (enough : json.compactChars.length ≤ bound) (ends : Ends rest) :
    readValue (bound + 1) (json.compactChars ++ rest) = some (json, rest) := by
  induction json generalizing bound rest with
  | str s =>
    simp only [compactChars, quoteChars, List.cons_append, List.append_assoc, List.nil_append]
    rw [readValue, if_pos rfl, readChars_quoted]
    simp
  | num n =>
    obtain ⟨c, digits, written, digit⟩ := exists_numChars_eq_cons n
    have number := readNumber_numChars n ends
    rw [written, List.cons_append] at number
    have noQuote : c ≠ '"' := by rintro rfl; exact absurd digit (by decide)
    have noBracket : c ≠ '[' := by rintro rfl; exact absurd digit (by decide)
    have noBrace : c ≠ '\x7b' := by rintro rfl; exact absurd digit (by decide)
    rw [compactChars, written, List.cons_append, readValue, if_neg noQuote, if_neg noBracket,
      if_neg noBrace, number]
  | arr items ih =>
    -- Items are shorter than the list by a bracket at least, so one level less is enough for
    -- them.
    rw [compactChars_arr, List.length_cons] at enough
    obtain ⟨deeper, rfl⟩ :=
      Nat.exists_eq_succ_of_ne_zero (Nat.ne_of_gt (Nat.zero_lt_of_lt enough))
    have each : ∀ item ∈ items, ∀ text, Ends text →
        readValue (deeper + 1) (item.compactChars ++ text) = some (item, text) := by
      intro item member text textEnds
      have inside : item.compactChars.length ≤
          (enclose [] [','] [] ']' (items.map compactChars)).length :=
        length_le_length_enclose (List.mem_map_of_mem member)
      exact ih item member (Nat.le_trans inside (Nat.le_of_succ_le_succ enough)) textEnds
    have opened : ∀ item ∈ items, ∃ c text, item.compactChars = c :: text ∧ c ≠ ']' :=
      fun item _ => exists_compactChars_eq_cons item
    have read := readEnclosed_enclose compactChars rest (by decide) (by decide) each opened
    rw [compactChars_arr, List.cons_append, readValue, if_neg (by decide), if_pos rfl, read]
    rfl
  | obj fields ih =>
    rw [compactChars_obj, List.length_cons] at enough
    obtain ⟨deeper, rfl⟩ :=
      Nat.exists_eq_succ_of_ne_zero (Nat.ne_of_gt (Nat.zero_lt_of_lt enough))
    have each : ∀ field ∈ fields, ∀ text, Ends text →
        readField (readValue (deeper + 1)) (fieldChars field ++ text) =
          some (field, text) := by
      intro field member text textEnds
      have inside : (fieldChars field).length ≤
          (enclose [] [','] [] '\x7d' (fields.map fieldChars)).length :=
        length_le_length_enclose (List.mem_map_of_mem member)
      have shorter : field.2.compactChars.length ≤ (fieldChars field).length := by
        simp only [fieldChars, List.length_append, List.length_cons]
        omega
      have enoughForValue :=
        Nat.le_trans shorter (Nat.le_trans inside (Nat.le_of_succ_le_succ enough))
      exact readField_fieldChars (ih field member enoughForValue textEnds)
    have opened : ∀ field ∈ fields, ∃ c text, fieldChars field = c :: text ∧ c ≠ '\x7d' :=
      fun field _ => ⟨'"', _, by rw [fieldChars, quoteChars, List.cons_append], by decide⟩
    have read := readEnclosed_enclose fieldChars rest (by decide) (by decide) each opened
    rw [compactChars_obj, List.cons_append, readValue, if_neg (by decide), if_neg (by decide),
      if_pos rfl, read]
    rfl

/-- **The compact form is read back.** -/
theorem ofText?_compact (json : Json) : ofText? json.compact = some json := by
  have read := readValue_compactChars json (Nat.le_refl _) ends_nil
  rw [List.append_nil] at read
  rw [ofText?, compact, String.length_ofList, String.toList_ofList, read]
  rfl

end SqlSearch.Json
