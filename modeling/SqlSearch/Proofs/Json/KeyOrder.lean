import Mathlib.Data.List.Forall2
import SqlSearch.Proofs.Json.Structure

/-!
# Values with sorted keys

Sorting the keys of a value puts the fields of every object, one after the other, into a list
that is kept in order. A field takes the place of an earlier one with its key, so nothing is
lost exactly because no object repeats a key.

Keys are compared character by character.  Their bytes are in the same order: the first byte of
a character tells how many bytes follow and holds the leading digits of its code, and the bytes
behind it hold the others.

## Main definitions

* `Json.bytes`: the bytes of a text
* `Json.IncreasingKeys`: the fields of an object are in the byte order of their keys
* `Json.Agrees`: two values hold the same, up to the order of fields

## Main statements

* `Json.bytes_lt_bytes`: the order of texts is the order of their bytes
* `Json.increasingKeys_sortKeys`: sorting puts every object in key order
* `Json.agrees_sortKeys`: sorting loses, merges and adds nothing if no object repeats a key
-/

namespace SqlSearch.Json

/-! ## Byte order -/

/-- The bytes of a text. -/
def bytes (s : String) : List UInt8 := s.toUTF8.data.toList

theorem bytes_eq_flatMap (s : String) : bytes s = s.toList.flatMap String.utf8EncodeChar := by
  rw [bytes, String.toUTF8_eq_toByteArray, ← String.utf8Encode_toList, List.utf8Encode,
    List.data_toByteArray]

/-- How the code of a character is spread over bytes: how many follow the first one, and the
mark by which the first one tells. -/
def spread (code : Nat) : Nat × Nat :=
  if code ≤ 0x7f then (0, 0)
  else if code ≤ 0x7ff then (1, 0xc0)
  else if code ≤ 0xffff then (2, 0xe0)
  else (3, 0xf0)

/-- A code without so many of its last digits to base 64. -/
def highDigits : Nat → Nat → Nat
  | 0, code => code
  | count + 1, code => highDigits count (code / 64)

/-- The first byte: the leading digits of the code under the mark. -/
def firstByte (code : Nat) : Nat := highDigits (spread code).1 code + (spread code).2

/-- The bytes behind the first: so many of the last digits of the code. -/
def lowBytes : Nat → Nat → List UInt8
  | 0, _ => []
  | count + 1, code => lowBytes count (code / 64) ++ [UInt8.ofNat (code % 64 + 0x80)]

theorem toNat_lt_bound (c : Char) : c.toNat < 0x110000 := by
  have valid := c.valid
  simp only [UInt32.isValidChar, Nat.isValidChar] at valid
  have code : c.toNat = c.val.toNat := rfl
  omega

theorem utf8EncodeChar_eq (c : Char) :
    String.utf8EncodeChar c = UInt8.ofNat (firstByte c.toNat) ::
      lowBytes (spread c.toNat).1 c.toNat := by
  have bound := toNat_lt_bound c
  have code : c.val.toNat = c.toNat := rfl
  rw [String.utf8EncodeChar.eq_1, code, firstByte, spread]
  -- The remainders by which the first byte is formed cut nothing off, as the code is within
  -- its range.
  split_ifs with one two three
  · simp [lowBytes, highDigits]
  · have top : c.toNat / 64 % 32 = c.toNat / 64 := Nat.mod_eq_of_lt (by omega)
    simp [lowBytes, highDigits, top]
  · have top : c.toNat / 4096 % 16 = c.toNat / 4096 := Nat.mod_eq_of_lt (by omega)
    simp [lowBytes, highDigits, top, Nat.div_div_eq_div_mul]
  · have top : c.toNat / 262144 % 8 = c.toNat / 262144 := Nat.mod_eq_of_lt (by omega)
    simp [lowBytes, highDigits, top, Nat.div_div_eq_div_mul]

theorem ofNat_lt_ofNat {m n : Nat} (less : m < n) (bound : n < 256) :
    UInt8.ofNat m < UInt8.ofNat n := by
  rw [UInt8.lt_iff_toNat_lt, UInt8.toNat_ofNat', UInt8.toNat_ofNat']
  omega

/-- The first byte decides, or it leaves the decision to bytes of the same number. -/
theorem firstByte_lt_or_eq {code code' : Nat} (less : code < code')
    (bound : code' < 0x110000) :
    firstByte code < firstByte code' ∨
      spread code = spread code' ∧ highDigits (spread code).1 code =
        highDigits (spread code').1 code' := by
  simp only [firstByte, spread]
  split_ifs <;> simp only [highDigits, Prod.mk.injEq, true_and] <;> omega

theorem firstByte_lt {code : Nat} (bound : code < 0x110000) : firstByte code < 256 := by
  simp only [firstByte, spread]
  split_ifs <;> simp only [highDigits] <;> omega

/-- The last digits are compared from the highest one on. -/
theorem lowBytes_lt {count code code' : Nat}
    (top : highDigits count code = highDigits count code') (less : code < code')
    (rest rest' : List UInt8) :
    lowBytes count code ++ rest < lowBytes count code' ++ rest' := by
  induction count generalizing code code' rest rest' with
  | zero => exact absurd top (Nat.ne_of_lt less)
  | succ count ih =>
    rw [lowBytes, lowBytes, List.append_assoc, List.append_assoc]
    -- The digits in front of the last one decide, or they are equal and the last one does.
    rcases Nat.lt_or_ge (code / 64) (code' / 64) with higher | lower
    · exact ih top higher _ _
    · have same : code / 64 = code' / 64 := by omega
      rw [same]
      refine List.append_left_lt (List.cons_lt_cons_iff.mpr (Or.inl ?_))
      exact ofNat_lt_ofNat (by omega) (by omega)

/-- A smaller character has smaller bytes, whatever follows. -/
theorem utf8EncodeChar_lt {c d : Char} (less : c < d) (rest rest' : List UInt8) :
    String.utf8EncodeChar c ++ rest < String.utf8EncodeChar d ++ rest' := by
  have codes : c.toNat < d.toNat := less
  have bound := toNat_lt_bound d
  rw [utf8EncodeChar_eq, utf8EncodeChar_eq, List.cons_append, List.cons_append,
    List.cons_lt_cons_iff]
  rcases firstByte_lt_or_eq codes bound with first | ⟨shape, top⟩
  · exact Or.inl (ofNat_lt_ofNat first (firstByte_lt bound))
  · rw [shape] at top
    refine Or.inr ⟨?_, ?_⟩
    · rw [firstByte, firstByte, shape, top]
    · rw [shape]
      exact lowBytes_lt top codes rest rest'

/-- **The order of texts is the order of their bytes.** -/
theorem bytes_lt_bytes {s t : String} (less : s < t) : bytes s < bytes t := by
  have chars : ∀ {cs ds : List Char}, cs < ds →
      cs.flatMap String.utf8EncodeChar < ds.flatMap String.utf8EncodeChar := by
    intro cs
    induction cs with
    | nil =>
      intro ds less
      cases ds with
      | nil => exact absurd less (List.not_lt_nil _)
      | cons d ds =>
        rw [List.flatMap_cons, utf8EncodeChar_eq]
        exact List.nil_lt_cons _ _
    | cons c cs ih =>
      intro ds less
      cases ds with
      | nil => exact absurd less (List.not_lt_nil _)
      | cons d ds =>
        rw [List.flatMap_cons, List.flatMap_cons]
        rcases List.cons_lt_cons_iff.mp less with first | ⟨rfl, others⟩
        · exact utf8EncodeChar_lt first _ _
        · exact List.append_left_lt (ih others)
  rw [bytes_eq_flatMap, bytes_eq_flatMap]
  exact chars (String.lt_iff.mp less)

/-! ## Insertion -/

section Insertion

variable {key : String} {value : Json} {sorted : List (String × Json)}

theorem mem_insertField {field : String × Json}
    (member : field ∈ insertField key value sorted) :
    field = (key, value) ∨ field ∈ sorted := by
  induction sorted with
  | nil => exact Or.inl (List.mem_singleton.mp member)
  | cons other rest ih =>
    rw [insertField] at member
    split_ifs at member with same smaller
    · exact (List.mem_cons.mp member).imp_right (List.mem_cons_of_mem _)
    · exact List.mem_cons.mp member
    · rcases List.mem_cons.mp member with first | member
      · exact Or.inr (first ▸ List.mem_cons_self)
      · exact (ih member).imp_right (List.mem_cons_of_mem _)

/-- Insertion keeps the fields in order. -/
theorem pairwise_insertField (increasing : sorted.Pairwise (·.1 < ·.1)) :
    (insertField key value sorted).Pairwise (·.1 < ·.1) := by
  induction sorted with
  | nil => exact List.pairwise_singleton _ _
  | cons other rest ih =>
    obtain ⟨above, later⟩ := List.pairwise_cons.mp increasing
    rw [insertField]
    split_ifs with same smaller
    · exact List.pairwise_cons.mpr ⟨same ▸ above, later⟩
    · refine List.pairwise_cons.mpr ⟨List.forall_mem_cons.mpr ⟨smaller, ?_⟩, increasing⟩
      exact fun field member => String.lt_trans smaller (above field member)
    · refine List.pairwise_cons.mpr ⟨fun field member => ?_, ih later⟩
      rcases mem_insertField member with rfl | member
      · exact Std.lt_of_le_of_ne (String.not_lt.mp smaller) (Ne.symm same)
      · exact above field member

/-- A field with a new key is added to the others. -/
theorem insertField_perm (new : key ∉ sorted.map Prod.fst) :
    (insertField key value sorted).Perm ((key, value) :: sorted) := by
  induction sorted with
  | nil => exact List.Perm.refl _
  | cons other rest ih =>
    rw [List.map_cons, List.mem_cons, not_or] at new
    rw [insertField, if_neg new.1]
    split_ifs with smaller
    · exact List.Perm.refl _
    · exact ((ih new.2).cons other).trans (List.Perm.swap _ _ _)

end Insertion

/-! ## Sorting -/

/-- A field with the keys of its value sorted. -/
def sortedField (field : String × Json) : String × Json := (field.1, field.2.sortKeys)

theorem sortItems_eq_map (items : List Json) : sortItems items = items.map sortKeys := by
  induction items with
  | nil => rfl
  | cons item rest ih => rw [sortItems, ih, List.map_cons]

theorem mem_sortFields {field : String × Json} {sorted fields : List (String × Json)}
    (member : field ∈ sortFields sorted fields) :
    field ∈ sorted ∨ field ∈ fields.map sortedField := by
  induction fields generalizing sorted with
  | nil => exact Or.inl member
  | cons first rest ih =>
    rw [sortFields] at member
    rw [List.map_cons, List.mem_cons]
    rcases ih member with inserted | later
    · rcases mem_insertField inserted with same | before
      · exact Or.inr (Or.inl same)
      · exact Or.inl before
    · exact Or.inr (Or.inr later)

theorem pairwise_sortFields {sorted : List (String × Json)} (fields : List (String × Json))
    (increasing : sorted.Pairwise (·.1 < ·.1)) :
    (sortFields sorted fields).Pairwise (·.1 < ·.1) := by
  induction fields generalizing sorted with
  | nil => exact increasing
  | cons first rest ih => exact ih (pairwise_insertField increasing)

/-- Fields whose keys differ from each other, and from those there are, are all added. -/
theorem sortFields_perm {sorted fields : List (String × Json)}
    (distinct : (sorted.map Prod.fst ++ fields.map Prod.fst).Nodup) :
    (sortFields sorted fields).Perm (sorted ++ fields.map sortedField) := by
  induction fields generalizing sorted with
  | nil => rw [sortFields, List.map_nil, List.append_nil]
  | cons first rest ih =>
    -- The first key is new, so its field is added; and the other keys are new to the longer
    -- list.
    obtain ⟨new, others⟩ := List.nodup_cons.mp (List.perm_middle.nodup_iff.mp distinct)
    have inserted : (insertField first.1 first.2.sortKeys sorted).Perm
        (sortedField first :: sorted) :=
      insertField_perm fun member => new (List.mem_append_left _ member)
    have keys := (inserted.map Prod.fst).append_right (rest.map Prod.fst)
    have later := ih (keys.nodup_iff.mpr (List.nodup_cons.mpr ⟨new, others⟩))
    exact later.trans ((inserted.append_right _).trans List.perm_middle.symm)

/-- The fields of an object are in the byte order of their keys. -/
def IncreasingKeys (fields : List (String × Json)) : Prop :=
  fields.Pairwise fun field later => bytes field.1 < bytes later.1

/-- **Sorting puts every object in key order.** -/
theorem increasingKeys_sortKeys (json : Json) : json.sortKeys.EveryObject IncreasingKeys := by
  induction json with
  | str s => simp [sortKeys]
  | num n => simp [sortKeys]
  | arr items ih =>
    rw [sortKeys, sortItems_eq_map, everyObject_arr]
    exact List.forall_mem_map.mpr ih
  | obj fields ih =>
    rw [sortKeys, everyObject_obj]
    refine ⟨(pairwise_sortFields fields List.Pairwise.nil).imp bytes_lt_bytes,
      fun field member => ?_⟩
    rcases mem_sortFields member with before | member
    · cases before
    · obtain ⟨original, given, rfl⟩ := List.mem_map.mp member
      exact ih original given

/-! ## Agreement -/

/-- **Two values hold the same, up to the order of fields.**  Scalars are equal and items agree
one by one.  The fields of an object are, in another order, fields with the keys of the first
object and values that agree with its values. -/
inductive Agrees : Json → Json → Prop where
  | str (s : String) : Agrees (.str s) (.str s)
  | num (n : Nat) : Agrees (.num n) (.num n)
  | arr {items items' : List Json} (each : List.Forall₂ Agrees items items') :
    Agrees (.arr items) (.arr items')
  | obj {fields paired fields' : List (String × Json)}
    (keys : fields.map Prod.fst = paired.map Prod.fst)
      (values : List.Forall₂ Agrees (fields.map Prod.snd) (paired.map Prod.snd))
        (order : paired.Perm fields') :
      Agrees (.obj fields) (.obj fields')

/-- **Sorting loses, merges and adds nothing** if no object repeats a key. -/
theorem agrees_sortKeys {json : Json} (distinct : json.DistinctKeys) :
    Agrees json json.sortKeys := by
  induction json with
  | str s => exact .str s
  | num n => exact .num n
  | arr items ih =>
    rw [sortKeys, sortItems_eq_map]
    refine .arr (List.forall₂_map_right_iff.mpr (List.forall₂_same.mpr fun item member => ?_))
    exact ih item member ((distinctKeys_arr items).mp distinct item member)
  | obj fields ih =>
    obtain ⟨here, inside⟩ := (distinctKeys_obj fields).mp distinct
    have order : (sortFields [] fields).Perm (fields.map sortedField) := sortFields_perm here
    rw [sortKeys]
    refine .obj ?_ ?_ order.symm
    · rw [List.map_map]
      rfl
    · rw [List.map_map, List.forall₂_map_left_iff, List.forall₂_map_right_iff,
        List.forall₂_same]
      exact fun field member => ih field member (inside field member)

end SqlSearch.Json
