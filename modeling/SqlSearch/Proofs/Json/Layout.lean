import SqlSearch.Program.Run
import SqlSearch.Proofs.Json.Structure

/-!
# White space in JSON texts

White space outside strings has no meaning in JSON.  To delete it one has to know where strings
begin and end, and so which quotes are escaped.  A scanner does this with three states, and is
shown to turn the pretty form of a value into its compact form.

## Main definitions

* `Json.ScanState`, `Json.dropBlanks`: the scanner
* `Json.squeeze`: a text without the white space outside strings

## Main statements

* `Json.dropBlanks_quoteChars`: strings stay as they are, white space, quotes and backslashes
  inside included
* `Json.dropBlanks_prettyChars`: the pretty form becomes the compact form
* `Document.pretty_squeezes_to_compact`: so it is for documents, and for what the program
  prints

## Design

All statements are about a text in front of an arbitrary rest, so that the state in which the
scanner leaves a text is part of them: it enters and leaves every value outside strings.
-/

namespace SqlSearch

namespace Json

/-! ## The scanner -/

/-- Where a scanner stands. -/
inductive ScanState where
  /-- Outside strings. -/
  | outside
  /-- Inside a string. -/
  | inside
  /-- Inside a string, behind a backslash. -/
  | escaped
  deriving DecidableEq, Repr

/-- White space outside strings. -/
def isBlank (c : Char) : Bool := c == ' ' || c == '\t' || c == '\n' || c == '\r'

/-- The state behind a character. -/
def ScanState.next : ScanState → Char → ScanState
  | .outside, c => if c = '"' then .inside else .outside
  | .inside, c => if c = '"' then .outside else if c = '\\' then .escaped else .inside
  | .escaped, _ => .inside

/-- A text without the white space outside strings, read from a state on. -/
def dropBlanks : ScanState → List Char → List Char
  | _, [] => []
  | state, c :: text =>
    if state = .outside ∧ isBlank c then dropBlanks .outside text
    else c :: dropBlanks (state.next c) text

/-- **The text without the white space outside strings.** -/
def squeeze (text : String) : String := String.ofList (dropBlanks .outside text.toList)

/-! ## What is kept and what is dropped -/

/-- Outside strings, characters that are neither white space nor a quote are kept. -/
theorem dropBlanks_outside_cons {c : Char} (noQuote : c ≠ '"') (noBlank : isBlank c = false)
    (text : List Char) :
    dropBlanks .outside (c :: text) = c :: dropBlanks .outside text := by
  simp [dropBlanks, ScanState.next, noQuote, noBlank]

/-- A text of such characters is kept. -/
theorem dropBlanks_outside_append {token : List Char}
    (plain : ∀ c ∈ token, c ≠ '"' ∧ isBlank c = false) (text : List Char) :
    dropBlanks .outside (token ++ text) = token ++ dropBlanks .outside text := by
  induction token with
  | nil => rfl
  | cons c token ih =>
    rw [List.forall_mem_cons] at plain
    rw [List.cons_append, dropBlanks_outside_cons plain.1.1 plain.1.2, ih plain.2,
      List.cons_append]

/-- White space outside strings is dropped. -/
theorem dropBlanks_blanks {blanks : List Char} (blank : ∀ c ∈ blanks, isBlank c = true)
    (text : List Char) :
    dropBlanks .outside (blanks ++ text) = dropBlanks .outside text := by
  induction blanks with
  | nil => rfl
  | cons c blanks ih =>
    rw [List.forall_mem_cons] at blank
    rw [List.cons_append, dropBlanks, if_pos ⟨rfl, blank.1⟩, ih blank.2]

/-- Inside a string, an escaped character is kept, and the string goes on. -/
theorem dropBlanks_escapeChar (c : Char) (text : List Char) :
    dropBlanks .inside (escapeChar c ++ text) = escapeChar c ++ dropBlanks .inside text := by
  rcases escapeChar_cases c with
    ⟨letter, -, written⟩ | ⟨control, written⟩ | ⟨-, quote, backslash, written⟩
  · rw [written]
    simp [dropBlanks, ScanState.next]
  · have noQuote : ∀ n < 16, hexDigit n ≠ '"' ∧ hexDigit n ≠ '\\' := by decide
    have high := noQuote (c.toNat / 16) (by omega)
    have low := noQuote (c.toNat % 16) (by omega)
    rw [written]
    simp [dropBlanks, ScanState.next, high, low]
  · rw [written]
    simp [dropBlanks, ScanState.next, quote, backslash]

/-- **Strings stay as they are**, and the scanner leaves them. -/
theorem dropBlanks_quoteChars (s : String) (text : List Char) :
    dropBlanks .outside (quoteChars s ++ text) = quoteChars s ++ dropBlanks .outside text := by
  have body : ∀ chars :
    List Char, dropBlanks .inside (chars.flatMap escapeChar ++ '"' :: text) =
      chars.flatMap escapeChar ++ '"' :: dropBlanks .outside text := by
    intro chars
    induction chars with
    | nil => simp [dropBlanks, ScanState.next]
    | cons c chars ih =>
      rw [List.flatMap_cons, List.append_assoc, dropBlanks_escapeChar, ih, List.append_assoc]
  have opened : dropBlanks .outside ('"' :: (s.toList.flatMap escapeChar ++ '"' :: text)) =
      '"' :: dropBlanks .inside (s.toList.flatMap escapeChar ++ '"' :: text) := by
    simp [dropBlanks, ScanState.next, isBlank]
  simp only [quoteChars, List.cons_append, List.append_assoc, List.nil_append]
  rw [opened, body]

/-- A digit is neither white space nor a quote. -/
theorem plain_of_isDigit {c : Char} (digit : c.isDigit = true) :
    c ≠ '"' ∧ isBlank c = false := by
  refine ⟨?_, ?_⟩
  · rintro rfl
    exact absurd digit (by decide)
  · rw [Bool.eq_false_iff]
    intro blank
    simp only [isBlank, Bool.or_eq_true, beq_iff_eq] at blank
    rcases blank with ((rfl | rfl) | rfl) | rfl <;> exact absurd digit (by decide)

theorem dropBlanks_numChars (n : Nat) (text : List Char) :
    dropBlanks .outside (numChars n ++ text) = numChars n ++ dropBlanks .outside text :=
  dropBlanks_outside_append
    (fun _ member => plain_of_isDigit
      (Nat.isDigit_of_mem_toDigits (by decide) (by decide) member)) text

/-! ## Values -/

section Enclosed

variable {α : Type} {pretty compact : α → List Char} {lead trail : List Char}
  {elements : List α}

theorem dropBlanks_others (leadBlank : ∀ c ∈ lead, isBlank c = true)
    (each : ∀ a ∈ elements, ∀ text,
      dropBlanks .outside (pretty a ++ text) = compact a ++ dropBlanks .outside text)
      (text : List Char) :
    dropBlanks .outside ((elements.map pretty).flatMap (',' :: lead ++ ·) ++ text) =
      (elements.map compact).flatMap ([','] ++ ·) ++ dropBlanks .outside text := by
  induction elements with
  | nil => rfl
  | cons a others ih =>
    rw [List.forall_mem_cons] at each
    simp only [List.map_cons, List.flatMap_cons, List.cons_append, List.append_assoc,
      List.nil_append] at ih ⊢
    rw [dropBlanks_outside_cons (by decide) (by decide), dropBlanks_blanks leadBlank, each.1,
      ih each.2]

/-- **The layout of enclosed texts is dropped**, if what is laid out becomes what is enclosed
without it. -/
theorem dropBlanks_enclose {close : Char} (plainClose : close ≠ '"' ∧ isBlank close = false)
    (leadBlank : ∀ c ∈ lead, isBlank c = true) (trailBlank : ∀ c ∈ trail, isBlank c = true)
    (each : ∀ a ∈ elements, ∀ text,
      dropBlanks .outside (pretty a ++ text) = compact a ++ dropBlanks .outside text)
      (text : List Char) :
    dropBlanks .outside (enclose lead (',' :: lead) trail close (elements.map pretty) ++
      text) =
      enclose [] [','] [] close (elements.map compact) ++ dropBlanks .outside text := by
  have closed : dropBlanks .outside (trail ++ close :: text) =
      close :: dropBlanks .outside text := by
    rw [dropBlanks_blanks trailBlank, dropBlanks_outside_cons plainClose.1 plainClose.2]
  cases elements with
  | nil => exact dropBlanks_outside_cons plainClose.1 plainClose.2 text
  | cons a others =>
    rw [List.forall_mem_cons] at each
    have body := dropBlanks_others leadBlank each.2 (trail ++ close :: text)
    rw [closed] at body
    rw [List.map_cons, List.map_cons, enclose, enclose, List.nil_append, List.nil_append]
    simp only [List.append_assoc, List.cons_append, List.nil_append] at body ⊢
    rw [dropBlanks_blanks leadBlank, each.1, body]

end Enclosed

theorem isBlank_newline (depth : Nat) : ∀ c ∈ newline depth, isBlank c = true := by
  intro c member
  rcases List.mem_cons.mp member with rfl | member
  · rfl
  · rw [List.eq_of_mem_replicate member]
    rfl

/-- **The pretty form becomes the compact form**, at any depth and whatever follows. -/
theorem dropBlanks_prettyChars (json : Json) (depth : Nat) (text : List Char) :
    dropBlanks .outside (json.prettyChars depth ++ text) =
      json.compactChars ++ dropBlanks .outside text := by
  have closingBracket : ']' ≠ '"' ∧ isBlank ']' = false := by decide
  have closingBrace : '\x7d' ≠ '"' ∧ isBlank '\x7d' = false := by decide
  induction json generalizing depth text with
  | str s =>
    rw [prettyChars, compactChars]
    exact dropBlanks_quoteChars s text
  | num n =>
    rw [prettyChars, compactChars]
    exact dropBlanks_numChars n text
  | arr items ih =>
    have body :=
      dropBlanks_enclose closingBracket (isBlank_newline (depth + 1)) (isBlank_newline depth)
      (fun item member => ih item member (depth + 1)) text
    rw [prettyChars_arr, compactChars_arr, List.cons_append,
      dropBlanks_outside_cons (by decide) (by decide), body, List.cons_append]
  | obj fields ih =>
    have each : ∀ field ∈ fields, ∀ text,
        dropBlanks .outside (prettyFieldChars (depth + 1) field ++ text) =
          fieldChars field ++ dropBlanks .outside text := by
      intro field member text
      -- Of the colon and the blank behind a key the colon is kept.
      have value := ih field member (depth + 1) text
      simp only [prettyFieldChars, fieldChars, List.append_assoc, List.cons_append]
      rw [dropBlanks_quoteChars, dropBlanks_outside_cons (by decide) (by decide), dropBlanks,
        if_pos (by decide), value]
    have body :=
      dropBlanks_enclose closingBrace (isBlank_newline (depth + 1)) (isBlank_newline depth)
        each text
    rw [prettyChars_obj, compactChars_obj, List.cons_append,
      dropBlanks_outside_cons (by decide) (by decide), body, List.cons_append]

theorem squeeze_pretty (json : Json) : squeeze json.pretty = json.compact := by
  have whole := json.dropBlanks_prettyChars 0 []
  rw [List.append_nil, dropBlanks, List.append_nil] at whole
  rw [squeeze, pretty, compact, String.toList_ofList, whole]

end Json

/-! ## Documents -/

/-- The text of a document that the program prints. -/
theorem Task.execute_document (pretty : Bool) (strictness : Strictness) (dialect : Dialect)
    (sql : Option String) :
    (Task.document pretty strictness).execute dialect sql =
      (requireSql sql).bind fun text =>
        ((Document.ofSql ⟨dialect, strictness⟩ text).mapError .statement).map
          (·.render (if pretty then .pretty else .compact)) := by
  rw [Task.execute]
  refine congrArg (requireSql sql).bind (funext fun text => ?_)
  dsimp only
  cases Document.ofSql ⟨dialect, strictness⟩ text with
  | error cause => rfl
  | ok doc => rfl

/-- **The pretty and the compact text are one document.** Without its white space outside
strings the pretty text of a document is the compact one, key by key and character by
character. So the two texts of an SQL text, and what the program prints for it with and without
the option, differ in that only, and where one of them is missing both are, for the same
reason. -/
theorem Document.pretty_squeezes_to_compact :
    (∀ doc : Document, Json.squeeze (doc.render .pretty) = doc.render .compact) ∧
    (∀ (options : Options) (sql : String),
      ((Document.ofSql options sql).map (·.render .pretty)).map Json.squeeze =
        (Document.ofSql options sql).map (·.render .compact)) ∧
    ∀ (strictness : Strictness) (dialect : Dialect) (sql : Option String),
      ((Task.document true strictness).execute dialect sql).map Json.squeeze =
        (Task.document false strictness).execute dialect sql := by
  have texts : ∀ doc : Document, Json.squeeze (doc.render .pretty) = doc.render .compact :=
    fun doc => doc.toJson.squeeze_pretty
  refine ⟨texts, fun options sql => ?_, fun strictness dialect sql => ?_⟩
  · cases Document.ofSql options sql with
    | error error => rfl
    | ok doc => exact congrArg Except.ok (texts doc)
  · rw [Task.execute_document, Task.execute_document]
    cases requireSql sql with
    | error cause => rfl
    | ok text =>
      rw [Except.bind, Except.bind]
      cases Document.ofSql ⟨dialect, strictness⟩ text with
      | error cause => rfl
      | ok doc => exact congrArg Except.ok (texts doc)

end SqlSearch
