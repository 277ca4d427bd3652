import SqlSearch.Json.Printer

/-!
# The structure of JSON values and of their texts

A JSON value nests through lists of items and through lists of fields.  This module packages
the induction over both once, and says once what the printers write: both written forms of a
list or an object are texts enclosed between brackets, and they differ in the white space
around these texts only.

## Main definitions

* `Json.objects`: all objects of a value, at every depth
* `Json.DistinctKeys`: no object of a value repeats a key
* `Json.letterEscapes`: the escapes of one letter
* `Json.enclose`: texts one after the other, up to a closing bracket

## Main statements

* `Json.induction`: what passes from the items and fields of a value to the value holds of
  every value
* `Json.escapeChar_cases`: how a character is written inside a string
* `Json.compactChars_arr`, `Json.compactChars_obj`, `Json.prettyChars_arr`,
  `Json.prettyChars_obj`: what the printers write for lists and objects
-/

namespace SqlSearch.Json

/-- **Induction on items and fields.** -/
@[induction_eliminator]
theorem induction {motive : Json → Prop} (str : ∀ s, motive (.str s))
    (num : ∀ n, motive (.num n))
    (arr : ∀ items, (∀ item ∈ items, motive item) → motive (.arr items))
    (obj : ∀ fields, (∀ field ∈ fields, motive field.2) → motive (.obj fields)) (json : Json) :
    motive json := by
  refine @Json.rec motive (fun items => ∀ item ∈ items, motive item)
    (fun fields => ∀ field ∈ fields, motive field.2) (fun field => motive field.2)
    str num arr obj ?_ ?_ ?_ ?_ ?_ json
  · exact List.forall_mem_nil _
  · exact fun item items first others => List.forall_mem_cons.mpr ⟨first, others⟩
  · exact List.forall_mem_nil _
  · exact fun field fields first others => List.forall_mem_cons.mpr ⟨first, others⟩
  · exact fun key value holds => holds

/-! ## Objects -/

mutual

/-- **The objects of a value**, at every depth, each by its fields. -/
def objects : Json → List (List (String × Json))
  | .str _ => []
  | .num _ => []
  | .arr items => itemObjects items
  | .obj fields => fields :: fieldObjects fields

/-- The objects of all items. -/
def itemObjects : List Json → List (List (String × Json))
  | [] => []
  | item :: rest => item.objects ++ itemObjects rest

/-- The objects of the values of all fields. -/
def fieldObjects : List (String × Json) → List (List (String × Json))
  | [] => []
  | (_, value) :: rest => value.objects ++ fieldObjects rest

end

theorem mem_itemObjects_iff {items : List Json} {object : List (String × Json)} :
    object ∈ itemObjects items ↔ ∃ item ∈ items, object ∈ item.objects := by
  induction items with
  | nil => simp [itemObjects]
  | cons item rest ih => simp [itemObjects, ih]

theorem mem_fieldObjects_iff {fields object : List (String × Json)} :
    object ∈ fieldObjects fields ↔ ∃ field ∈ fields, object ∈ field.2.objects := by
  induction fields with
  | nil => simp [fieldObjects]
  | cons field rest ih => simp [fieldObjects, ih]

/-- Every object of a value has the property `p`. -/
def EveryObject (p : List (String × Json) → Prop) (json : Json) : Prop :=
  ∀ object ∈ json.objects, p object

section EveryObject

variable {p : List (String × Json) → Prop}

@[simp] theorem everyObject_str (s : String) : EveryObject p (.str s) := nofun

@[simp] theorem everyObject_num (n : Nat) : EveryObject p (.num n) := nofun

@[simp] theorem everyObject_arr (items : List Json) :
    EveryObject p (.arr items) ↔ ∀ item ∈ items, EveryObject p item := by
  simp only [EveryObject, objects, mem_itemObjects_iff]
  constructor
  · intro every item member object inside
    exact every object ⟨item, member, inside⟩
  · rintro every object ⟨item, member, inside⟩
    exact every item member object inside

@[simp] theorem everyObject_obj (fields : List (String × Json)) :
    EveryObject p (.obj fields) ↔ p fields ∧ ∀ field ∈ fields, EveryObject p field.2 := by
  simp only [EveryObject, objects, List.forall_mem_cons, mem_fieldObjects_iff]
  refine and_congr_right fun _ => ?_
  constructor
  · intro every field member object inside
    exact every object ⟨field, member, inside⟩
  · rintro every object ⟨field, member, inside⟩
    exact every field member object inside

end EveryObject

/-- **No object repeats a key.** -/
def DistinctKeys (json : Json) : Prop :=
  json.EveryObject fun fields => (fields.map Prod.fst).Nodup

@[simp] theorem distinctKeys_str (s : String) : (str s).DistinctKeys := everyObject_str s

@[simp] theorem distinctKeys_num (n : Nat) : (num n).DistinctKeys := everyObject_num n

@[simp] theorem distinctKeys_arr (items : List Json) :
    (arr items).DistinctKeys ↔ ∀ item ∈ items, item.DistinctKeys :=
  everyObject_arr items

@[simp] theorem distinctKeys_obj (fields : List (String × Json)) :
    (obj fields).DistinctKeys ↔ (fields.map Prod.fst).Nodup ∧
      ∀ field ∈ fields, field.2.DistinctKeys :=
  everyObject_obj fields

/-- An object with a single field repeats no key. -/
@[simp] theorem distinctKeys_single (key : String) (value : Json) :
    (single key value).DistinctKeys ↔ value.DistinctKeys := by
  simp [single]

/-! ## Escapes -/

/-- The letters that stand for a character behind a backslash. -/
def letterEscapes : List (Char × Char) :=
  [('"', '"'), ('\\', '\\'), ('b', '\x08'), ('f', '\x0c'), ('n', '\n'), ('r', '\r'),
    ('t', '\t')]

/-- **How a character is written inside a string**: by a letter behind a backslash, by its
code, or as it stands. -/
theorem escapeChar_cases (c : Char) :
    (∃ letter, (letter, c) ∈ letterEscapes ∧ escapeChar c = ['\\', letter]) ∨
    (c.toNat < 0x20 ∧
      escapeChar c = ['\\', 'u', '0', '0', hexDigit (c.toNat / 16), hexDigit (c.toNat % 16)]) ∨
    (0x20 ≤ c.toNat ∧ c ≠ '"' ∧ c ≠ '\\' ∧ escapeChar c = [c]) := by
  by_cases escaped : ∃ letter, (letter, c) ∈ letterEscapes
  · refine Or.inl ?_
    obtain ⟨letter, member⟩ := escaped
    have table : ∀ escape ∈ letterEscapes, escapeChar escape.2 = ['\\', escape.1] := by decide
    exact ⟨letter, member, table _ member⟩
  · refine Or.inr ?_
    simp only [letterEscapes, List.mem_cons, Prod.mk.injEq, List.not_mem_nil, or_false,
      exists_or, exists_eq_left, not_or] at escaped
    obtain ⟨quote, backslash, b, f, n, r, t⟩ := escaped
    by_cases control : c.toNat < 0x20
    · exact Or.inl ⟨control, by simp [escapeChar, *]⟩
    · exact Or.inr ⟨Nat.le_of_not_lt control, quote, backslash, by simp [escapeChar, *]⟩

/-! ## Enclosed texts -/

/-- Texts one after the other up to a closing bracket: `lead` stands in front of the first one,
`separator` between any two, and `trail` in front of the bracket. -/
def enclose (lead separator trail : List Char) (close : Char) : List (List Char) → List Char
  | [] => [close]
  | first :: others =>
    lead ++ (first ++ (others.flatMap (separator ++ ·) ++ (trail ++ [close])))

/-- A field in the compact form. -/
def fieldChars (field : String × Json) : List Char :=
  quoteChars field.1 ++ ':' :: field.2.compactChars

/-- A field in the pretty form. -/
def prettyFieldChars (depth : Nat) (field : String × Json) : List Char :=
  quoteChars field.1 ++ ':' :: ' ' :: field.2.prettyChars depth

/-- A text is no longer than what it is enclosed in. -/
theorem length_le_length_enclose {lead separator trail text : List Char} {close : Char}
    {texts : List (List Char)} (member : text ∈ texts) :
    text.length ≤ (enclose lead separator trail close texts).length := by
  cases texts with
  | nil => cases member
  | cons first others =>
    simp only [enclose, List.length_append]
    rcases List.mem_cons.mp member with rfl | member
    · omega
    · have within : (separator ++ text).length ≤ (others.flatMap (separator ++ ·)).length :=
        (List.sublist_flatten_of_mem (List.mem_map_of_mem member)).length_le
      simp only [List.length_append] at within
      omega

/-- Texts with commas between them and no white space. -/
theorem enclose_commas (close : Char) (first : List Char) (others : List (List Char)) :
    enclose [] [','] [] close (first :: others) =
      first ++ others.flatMap ([','] ++ ·) ++ [close] := by
  simp [enclose]

theorem compactItems_eq (items : List Json) :
    compactItems items = (items.map compactChars).flatMap ([','] ++ ·) ++ [']'] := by
  induction items with
  | nil => simp [compactItems]
  | cons item rest ih => simp [compactItems, ih]

theorem compactFields_eq (fields : List (String × Json)) :
    compactFields fields = (fields.map fieldChars).flatMap ([','] ++ ·) ++ ['\x7d'] := by
  induction fields with
  | nil => simp [compactFields]
  | cons field rest ih => simp [compactFields, fieldChars, ih]

theorem prettyItems_eq (depth : Nat) (items : List Json) :
    prettyItems depth items =
      (items.map (prettyChars (depth + 1))).flatMap (',' :: newline (depth + 1) ++ ·) ++
        (newline depth ++ [']']) := by
  induction items with
  | nil => simp [prettyItems]
  | cons item rest ih => simp [prettyItems, ih]

theorem prettyFields_eq (depth : Nat) (fields : List (String × Json)) :
    prettyFields depth fields =
      (fields.map (prettyFieldChars (depth + 1))).flatMap (',' :: newline (depth + 1) ++ ·) ++
        (newline depth ++ ['\x7d']) := by
  induction fields with
  | nil => simp [prettyFields]
  | cons field rest ih => simp [prettyFields, prettyFieldChars, ih]

/-- The compact form of a list: items with commas between them. -/
theorem compactChars_arr (items : List Json) :
    (arr items).compactChars = '[' :: enclose [] [','] [] ']' (items.map compactChars) := by
  cases items with
  | nil => rfl
  | cons item rest => simp [compactChars, enclose, compactItems_eq]

/-- The compact form of an object: fields with commas between them. -/
theorem compactChars_obj (fields : List (String × Json)) :
    (obj fields).compactChars = '\x7b' ::
      enclose [] [','] [] '\x7d' (fields.map fieldChars) := by
  cases fields with
  | nil => rfl
  | cons field rest => simp [compactChars, enclose, compactFields_eq, fieldChars]

/-- The pretty form of a list: every item on a line of its own. -/
theorem prettyChars_arr (depth : Nat) (items : List Json) :
    (arr items).prettyChars depth =
      '[' :: enclose (newline (depth + 1)) (',' :: newline (depth + 1)) (newline depth) ']'
        (items.map (prettyChars (depth + 1))) := by
  cases items with
  | nil => rfl
  | cons item rest => simp [prettyChars, enclose, prettyItems_eq]

/-- The pretty form of an object: every field on a line of its own. -/
theorem prettyChars_obj (depth : Nat) (fields : List (String × Json)) :
    (obj fields).prettyChars depth =
      '\x7b' :: enclose (newline (depth + 1)) (',' :: newline (depth + 1))
        (newline depth) '\x7d'
        (fields.map (prettyFieldChars (depth + 1))) := by
  cases fields with
  | nil => rfl
  | cons field rest => simp [prettyChars, enclose, prettyFields_eq, prettyFieldChars]

end SqlSearch.Json
