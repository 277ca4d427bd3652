import SqlSearch.Proofs.FieldName
import SqlSearch.Proofs.StringLiteral

/-!
# Cutting names and literals at byte offsets

The rules for field names and literals speak of characters.  A text is held as bytes, though,
and in UTF-8 it can be cut only where a character begins or the text ends; a cut anywhere else
fails.  This module has the rules once more, as an implementation on bytes: it looks at single
bytes and cuts at offsets that it computes from them, and it never asks where characters begin.
None of its cuts fails, and what it leaves are the bytes of what the rules leave.

The reason is that the rules look for ASCII characters only.  Such a character is a single
byte, and that byte occurs in no other character, because every byte of a longer one is `0x80`
or above.

## Main definitions

* `Bytes.encode`, `Bytes.utf8`: the bytes of characters, and of a text
* `Bytes.Cut`, `Bytes.slice?`: cutting, which fails inside a character
* `Bytes.qualifierCut?`, `Bytes.enclosureCut?`: where the rules cut
* `Bytes.stripQualifier?`, `Bytes.stripQuotes?`, `Bytes.bare?`, `Bytes.literalValue?`: the
  rules on bytes

## Main statements

* `Bytes.eq_of_mem_utf8EncodeChar`: the byte of an ASCII character occurs in no other character
* `Bytes.isBoundary_iff`: bytes show where characters begin
* `Bytes.slice?_cutAround`: a cut at two such offsets leaves the characters between them
* `Bytes.cuts_keep_characters_whole`: the rules on bytes never fail and agree with those on
  characters
-/

namespace SqlSearch.Field.Bytes

/-! ## The bytes of characters -/

/-- The bytes of characters, one after the other. -/
def encode (cs : List Char) : List UInt8 := cs.flatMap String.utf8EncodeChar

/-- The bytes of a text. -/
def utf8 (s : String) : List UInt8 := s.toUTF8.data.toList

theorem utf8_eq_encode (s : String) : utf8 s = encode s.toList := by
  rw [utf8, String.toUTF8_eq_toByteArray, ← String.utf8Encode_toList, List.utf8Encode,
    List.toList_data_toByteArray]
  rfl

theorem utf8_ofList (cs : List Char) : utf8 (String.ofList cs) = encode cs := by
  rw [utf8_eq_encode, String.toList_ofList]

@[simp] theorem encode_nil : encode [] = [] := rfl

@[simp] theorem encode_cons (c : Char) (cs : List Char) :
    encode (c :: cs) = String.utf8EncodeChar c ++ encode cs := rfl

@[simp] theorem encode_append (cs cs' : List Char) :
    encode (cs ++ cs') = encode cs ++ encode cs' := List.flatMap_append

/-- Every byte of a character that takes several is `0x80` or above. -/
theorem high_of_mem_utf8EncodeChar {c : Char} (wide : c.utf8Size ≠ 1) {b : UInt8}
    (member : b ∈ String.utf8EncodeChar c) : 0x80 ≤ b := by
  -- Each byte is made by setting the bits of a mark of its own, and the highest bit is one of
  -- them.
  have marked (bits mark : UInt8) (high : 0x80 ≤ mark) : 0x80 ≤ bits ||| mark := by
    rw [UInt8.le_iff_toNat_le] at high ⊢
    rw [UInt8.toNat_or]
    exact high.trans Nat.right_le_or
  rcases c.utf8Size_eq with one | two | three | four
  · exact absurd one wide
  · rw [String.utf8EncodeChar_eq_cons_cons two] at member
    simp only [List.mem_cons, List.not_mem_nil, or_false] at member
    rcases member with rfl | rfl <;> exact marked _ _ (by decide)
  · rw [String.utf8EncodeChar_eq_cons_cons_cons three] at member
    simp only [List.mem_cons, List.not_mem_nil, or_false] at member
    rcases member with rfl | rfl | rfl <;> exact marked _ _ (by decide)
  · rw [String.utf8EncodeChar_eq_cons_cons_cons_cons four] at member
    simp only [List.mem_cons, List.not_mem_nil, or_false] at member
    rcases member with rfl | rfl | rfl | rfl <;> exact marked _ _ (by decide)

section Ascii

variable {a : Char} (ascii : a.toNat < 0x80)
include ascii

theorem toNat_toUInt8_of_ascii : a.toUInt8.toNat = a.toNat := by
  have below : a.val.toNat < 0x80 := ascii
  rw [Char.toUInt8, UInt32.toNat_toUInt8]
  exact Nat.mod_eq_of_lt (below.trans (by decide))

/-- An ASCII character is a single byte. -/
theorem utf8EncodeChar_of_ascii : String.utf8EncodeChar a = [a.toUInt8] := by
  have below : a.val.toNat < 0x80 := ascii
  have narrow : a.utf8Size = 1 := by
    rw [Char.utf8Size_eq_one_iff, UInt32.le_iff_toNat_le]
    exact Nat.le_of_lt_succ below
  exact String.utf8EncodeChar_eq_singleton narrow

theorem encode_singleton_of_ascii : encode [a] = [a.toUInt8] := by
  rw [encode_cons, utf8EncodeChar_of_ascii ascii, encode_nil, List.append_nil]

/-- **The byte of an ASCII character occurs in no other character.** -/
theorem eq_of_mem_utf8EncodeChar {c : Char} (member : a.toUInt8 ∈ String.utf8EncodeChar c) :
    c = a := by
  have low := toNat_toUInt8_of_ascii ascii
  by_cases narrow : c.utf8Size = 1
  · have isAscii : c.toNat < 0x80 := by
      have below := UInt32.le_iff_toNat_le.mp (Char.utf8Size_eq_one_iff.mp narrow)
      exact Nat.lt_succ_of_le below
    rw [utf8EncodeChar_of_ascii isAscii, List.mem_singleton] at member
    rw [member, toNat_toUInt8_of_ascii isAscii] at low
    exact Char.toNat_inj.mp low
  · have high := UInt8.le_iff_toNat_le.mp (high_of_mem_utf8EncodeChar narrow member)
    rw [low] at high
    exact absurd ascii (Nat.not_lt.mpr high)

theorem mem_encode_iff (cs : List Char) : a.toUInt8 ∈ encode cs ↔ a ∈ cs := by
  rw [encode, List.mem_flatMap]
  constructor
  · rintro ⟨c, member, inside⟩
    rwa [← eq_of_mem_utf8EncodeChar ascii inside]
  · intro member
    exact ⟨a, member, by rw [utf8EncodeChar_of_ascii ascii]; exact List.mem_singleton.mpr rfl⟩

/-- The first byte shows whether the first character is the ASCII character. -/
theorem head?_encode_eq_iff (cs : List Char) :
    (encode cs).head? = some a.toUInt8 ↔ cs.head? = some a := by
  cases cs with
  | nil => simp
  | cons c rest =>
    rw [encode_cons, List.head?_append_of_ne_nil _ String.utf8EncodeChar_ne_nil,
      List.head?_cons, Option.some_inj]
    constructor
    · intro first
      exact eq_of_mem_utf8EncodeChar ascii (List.mem_of_head? first)
    · rintro rfl
      rw [utf8EncodeChar_of_ascii ascii, List.head?_cons]

/-- So does the last byte for the last character. -/
theorem getLast?_encode_eq_iff (cs : List Char) :
    (encode cs).getLast? = some a.toUInt8 ↔ cs.getLast? = some a := by
  rcases List.eq_nil_or_concat' cs with rfl | ⟨front, c, rfl⟩
  · simp
  · have last : encode [c] = String.utf8EncodeChar c := by simp
    rw [encode_append, last, List.getLast?_append_of_ne_nil _ String.utf8EncodeChar_ne_nil,
      List.getLast?_concat, Option.some_inj]
    constructor
    · intro final
      exact eq_of_mem_utf8EncodeChar ascii (List.mem_of_getLast? final)
    · rintro rfl
      rw [utf8EncodeChar_of_ascii ascii, List.getLast?_singleton]

end Ascii

/-! ## Cuts -/

/-- The offsets between which bytes are cut out. -/
structure Cut where
  /-- Where it begins. -/
  start : Nat
  /-- Where it ends. -/
  stop : Nat
  deriving DecidableEq, Repr

/-- At the offset stands the first byte of a character, or the bytes end there. -/
def isBoundary (bytes : List UInt8) (offset : Nat) : Bool :=
  offset == bytes.length || bytes[offset]?.any fun b => b.IsUTF8FirstByte

/-- The bytes of a cut. It **fails** if its offsets are out of order, or if one of them lies
inside a character. -/
def slice? (bytes : List UInt8) (cut : Cut) : Option (List UInt8) :=
  if cut.start ≤ cut.stop ∧ isBoundary bytes cut.start ∧ isBoundary bytes cut.stop then
    some ((bytes.take cut.stop).drop cut.start)
  else none

/-- The cut keeps the characters of a text whole: its offsets are in order, and both are
positions of the text. -/
structure Cut.KeepsWhole (cut : Cut) (s : String) : Prop where
  /-- The offsets are in order. -/
  ordered : cut.start ≤ cut.stop
  /-- It begins between characters. -/
  start : String.Pos.Raw.IsValid s ⟨cut.start⟩
  /-- It ends between characters. -/
  stop : String.Pos.Raw.IsValid s ⟨cut.stop⟩

theorem length_utf8 (s : String) : (utf8 s).length = s.utf8ByteSize := by
  rw [utf8, String.toUTF8_eq_toByteArray, Array.length_toList]
  rfl

/-- **Bytes show where characters begin**: what is tested on them is whether the offset is a
position of the text. -/
theorem isBoundary_iff (s : String) (offset : Nat) :
    isBoundary (utf8 s) offset = true ↔ String.Pos.Raw.IsValid s ⟨offset⟩ := by
  rw [String.Pos.Raw.isValid_iff_isUTF8FirstByte, isBoundary, Bool.or_eq_true, beq_iff_eq,
    length_utf8]
  refine or_congr ?_ ?_
  · rw [String.Pos.Raw.ext_iff]
    rfl
  · rw [Option.any_eq_true]
    simp only [decide_eq_true_eq, List.getElem?_eq_some_iff, length_utf8]
    constructor
    · rintro ⟨b, ⟨inside, rfl⟩, first⟩
      exact ⟨inside, first⟩
    · rintro ⟨inside, first⟩
      exact ⟨_, ⟨inside, rfl⟩, first⟩

/-- The number of bytes in front of some of the characters is a position of the text. -/
theorem isValid_of_append {s : String} {front back : List Char}
    (split : s.toList = front ++ back) :
    String.Pos.Raw.IsValid s ⟨(encode front).length⟩ := by
  rw [String.Pos.Raw.isValid_iff_exists_append]
  refine ⟨String.ofList front, String.ofList back, ?_, ?_⟩
  · rw [← String.ofList_append, ← split, String.ofList_toList]
  · rw [← utf8_ofList, length_utf8]
    rfl

/-- The cut around the characters `inner`, of which `front` stands in front. -/
def cutAround (front inner : List Char) : Cut :=
  ⟨(encode front).length, (encode (front ++ inner)).length⟩

section Split

variable {s : String} {front inner back : List Char}
  (split : s.toList = front ++ inner ++ back)
include split

theorem cutAround_keepsWhole : (cutAround front inner).KeepsWhole s where
  ordered := by simp [cutAround]
  start := isValid_of_append (by rw [split, List.append_assoc])
  stop := isValid_of_append split

/-- **A cut around characters leaves their bytes.** -/
theorem slice?_cutAround : slice? (utf8 s) (cutAround front inner) = some (encode inner) := by
  have whole := cutAround_keepsWhole split
  rw [slice?, if_pos ⟨whole.ordered, (isBoundary_iff s _).mpr whole.start,
    (isBoundary_iff s _).mpr whole.stop⟩, utf8_eq_encode, split, encode_append _ back]
  simp only [cutAround, List.take_left, encode_append, List.drop_left]

end Split

/-! ## The rules on bytes -/

/-- The offset of the last period. -/
def lastPeriod? : List UInt8 → Option Nat
  | [] => none
  | b :: rest =>
    match lastPeriod? rest with
    | some offset => some (offset + 1)
    | none => if b = '.'.toUInt8 then some 0 else none

/-- Where a path is cut: behind the last period, if there is one. -/
def qualifierCut? (bytes : List UInt8) : Option Cut :=
  (lastPeriod? bytes).map fun offset => ⟨offset + 1, bytes.length⟩

/-- The first and the last byte are the same quote, and they are two bytes. -/
def isEnclosed (quotes : List Char) (bytes : List UInt8) : Bool :=
  decide (2 ≤ bytes.length) && quotes.any fun quote =>
    bytes.head? == some quote.toUInt8 && bytes.getLast? == some quote.toUInt8

/-- Where a text is cut that stands between two quotes of one kind: inside the first and the
last byte. -/
def enclosureCut? (quotes : List Char) (bytes : List UInt8) : Option Cut :=
  if isEnclosed quotes bytes then some ⟨1, bytes.length - 1⟩ else none

/-- What a rule leaves: the bytes of its cut, or all of them if it has none. -/
def cutOut? (bytes : List UInt8) : Option Cut → Option (List UInt8)
  | some cut => slice? bytes cut
  | none => some bytes

/-- The quotes around a name. -/
def nameQuotes : List Char := ['\'', '"', '\x60']

/-- The quote around a literal. -/
def literalQuotes : List Char := ['\'']

/-- The path without its qualifier. -/
def stripQualifier? (bytes : List UInt8) : Option (List UInt8) :=
  cutOut? bytes (qualifierCut? bytes)

/-- The text without one pair of quotes around it. -/
def stripQuotes? (bytes : List UInt8) : Option (List UInt8) :=
  cutOut? bytes (enclosureCut? nameQuotes bytes)

/-- The name of a field in an aggregation. White space is looked for in characters. -/
def bare? (path : String) : Option (List UInt8) := do
  let unquoted ← stripQuotes? (utf8 (Text.trim path))
  let name ← stripQualifier? unquoted
  stripQuotes? name

/-- Two single quotes in a row become one, from left to right. -/
def collapse : List UInt8 → List UInt8
  | [] => []
  | [b] => [b]
  | b :: d :: bytes =>
    if b = '\''.toUInt8 ∧ d = '\''.toUInt8 then b :: collapse bytes
    else b :: collapse (d :: bytes)

/-- The value of a literal. -/
def literalValue? (bytes : List UInt8) : Option (List UInt8) :=
  match enclosureCut? literalQuotes bytes with
  | some cut => (slice? bytes cut).map collapse
  | none => some bytes

/-! ## Qualifiers -/

theorem lastPeriod?_eq_none {bytes : List UInt8} (noPeriod : '.'.toUInt8 ∉ bytes) :
    lastPeriod? bytes = none := by
  induction bytes with
  | nil => rfl
  | cons b rest ih =>
    rw [List.mem_cons, not_or] at noPeriod
    rw [lastPeriod?, ih noPeriod.2, if_neg (Ne.symm noPeriod.1)]

theorem lastPeriod?_append {back : List UInt8} (noPeriod : '.'.toUInt8 ∉ back)
    (front : List UInt8) :
    lastPeriod? (front ++ '.'.toUInt8 :: back) = some front.length := by
  induction front with
  | nil =>
    rw [List.nil_append, lastPeriod?, lastPeriod?_eq_none noPeriod, if_pos rfl,
      List.length_nil]
  | cons b rest ih => rw [List.cons_append, lastPeriod?, ih, List.length_cons]

/-- A path has no period, or is cut around the name behind the last one. -/
theorem qualifierCut?_cases (s : String) :
    ('.' ∉ s.toList ∧ qualifierCut? (utf8 s) = none) ∨
      ∃ qualifier name, s.toList = qualifier ++ ['.'] ++ name ++ [] ∧ '.' ∉ name ∧
        qualifierCut? (utf8 s) = some (cutAround (qualifier ++ ['.']) name) := by
  have ascii : '.'.toNat < 0x80 := by decide
  rw [utf8_eq_encode]
  by_cases period : '.' ∈ s.toList
  · right
    obtain ⟨back, front, reversed, noPeriod⟩ :=
      List.eq_append_cons_of_mem (List.mem_reverse.mpr period)
    have split : s.toList = front.reverse ++ ['.'] ++ back.reverse := by
      rw [List.reverse_eq_iff.mp reversed]
      simp
    have absent : '.' ∉ back.reverse := by rwa [List.mem_reverse]
    refine ⟨front.reverse, back.reverse, by rw [split, List.append_nil], absent, ?_⟩
    have bytes : encode s.toList =
        encode front.reverse ++ '.'.toUInt8 :: encode back.reverse := by
      rw [split, encode_append, encode_append, encode_singleton_of_ascii ascii,
        List.append_assoc, List.singleton_append]
    have behind : (encode (front.reverse ++ ['.'])).length =
        (encode front.reverse).length + 1 := by
      rw [encode_append, encode_singleton_of_ascii ascii, List.length_append,
        List.length_singleton]
    rw [qualifierCut?, bytes, lastPeriod?_append (mt (mem_encode_iff ascii _).mp absent),
      ← bytes, Option.map_some, cutAround, behind, ← split]
  · left
    refine ⟨period, ?_⟩
    rw [qualifierCut?, lastPeriod?_eq_none (mt (mem_encode_iff ascii _).mp period),
      Option.map_none]

theorem stripQualifier?_utf8 (s : String) :
    stripQualifier? (utf8 s) = some (utf8 (stripQualifier s)) := by
  rw [stripQualifier?, stripQualifier, utf8_ofList]
  rcases qualifierCut?_cases s with ⟨noPeriod, cut⟩ | ⟨qualifier, name, split, noPeriod, cut⟩
  · rw [cut, (afterLastPeriod_eq_self_iff _).mpr noPeriod, cutOut?, utf8_eq_encode]
  · rw [cut, cutOut?, slice?_cutAround split, split, List.append_nil, List.append_assoc,
      List.singleton_append, afterLastPeriod_append,
      (afterLastPeriod_eq_self_iff _).mpr noPeriod]

/-! ## Quotes -/

section Quotes

variable {quotes : List Char} (ascii : ∀ quote ∈ quotes, quote.toNat < 0x80)
include ascii

/-- The bytes show whether a text stands between quotes: a single character is no pair of
them. -/
theorem isEnclosed_encode_iff (cs : List Char) :
    isEnclosed quotes (encode cs) = true ↔
      ∃ quote ∈ quotes, ∃ inner, cs = quote :: inner ++ [quote] := by
  simp only [isEnclosed, Bool.and_eq_true, decide_eq_true_eq, List.any_eq_true, beq_iff_eq]
  constructor
  · rintro ⟨long, quote, listed, first, last⟩
    have isAscii := ascii quote listed
    rw [head?_encode_eq_iff isAscii, List.head?_eq_some_iff] at first
    rw [getLast?_encode_eq_iff isAscii] at last
    obtain ⟨rest, rfl⟩ := first
    rcases List.eq_nil_or_concat' rest with rfl | ⟨inner, final, rfl⟩
    · rw [encode_cons, utf8EncodeChar_of_ascii isAscii] at long
      simp at long
    · rw [← List.cons_append, List.getLast?_concat, Option.some_inj] at last
      exact ⟨quote, listed, inner, by rw [last]; rfl⟩
  · rintro ⟨quote, listed, inner, rfl⟩
    have isAscii := ascii quote listed
    refine ⟨?_, quote, listed, ?_, ?_⟩
    · simp only [List.cons_append, encode_cons, encode_append, utf8EncodeChar_of_ascii isAscii,
        List.length_append, List.length_cons]
      omega
    · rw [head?_encode_eq_iff isAscii, List.cons_append, List.head?_cons]
    · rw [getLast?_encode_eq_iff isAscii, List.getLast?_concat]

/-- A text does not stand between quotes, or is cut around what stands between them. -/
theorem enclosureCut?_cases (s : String) :
    ((¬ ∃ quote ∈ quotes, ∃ inner, s.toList = quote :: inner ++ [quote]) ∧
      enclosureCut? quotes (utf8 s) = none) ∨
      ∃ quote ∈ quotes, ∃ inner, s.toList = [quote] ++ inner ++ [quote] ∧
        enclosureCut? quotes (utf8 s) = some (cutAround [quote] inner) := by
  rw [utf8_eq_encode, enclosureCut?]
  by_cases enclosed : ∃ quote ∈ quotes, ∃ inner, s.toList = quote :: inner ++ [quote]
  · right
    rw [if_pos ((isEnclosed_encode_iff ascii _).mpr enclosed)]
    obtain ⟨quote, listed, inner, split⟩ := enclosed
    refine ⟨quote, listed, inner, split, ?_⟩
    rw [split, ← List.singleton_append, cutAround, encode_append,
      encode_singleton_of_ascii (ascii quote listed), List.length_append,
      List.length_singleton, Nat.add_sub_cancel]
  · left
    exact ⟨enclosed, if_neg (mt (isEnclosed_encode_iff ascii _).mp enclosed)⟩

/-- The cut, if there is one, keeps characters whole. -/
theorem keepsWhole_of_enclosureCut? {s : String} {cut : Cut}
    (found : enclosureCut? quotes (utf8 s) = some cut) :
    cut.KeepsWhole s := by
  rcases enclosureCut?_cases ascii s with ⟨-, none⟩ | ⟨quote, -, inner, split, some⟩
  · rw [none] at found
    cases found
  · rw [some] at found
    cases found
    exact cutAround_keepsWhole split

end Quotes

theorem isQuote_iff (c : Char) : isQuote c = true ↔ c ∈ nameQuotes := by
  simp [isQuote, nameQuotes, or_assoc]

theorem ascii_nameQuotes : ∀ quote ∈ nameQuotes, quote.toNat < 0x80 := by simp [nameQuotes]

theorem ascii_literalQuotes : ∀ quote ∈ literalQuotes, quote.toNat < 0x80 := by
  simp [literalQuotes]

theorem stripQuotes?_utf8 (s : String) :
    stripQuotes? (utf8 s) = some (utf8 (stripQuotes s)) := by
  rw [stripQuotes?, stripQuotes, utf8_ofList]
  rcases enclosureCut?_cases ascii_nameQuotes s with
    ⟨plain, cut⟩ | ⟨quote, listed, inner, split, cut⟩
  · have notQuoted : ¬ IsQuoted s.toList := by
      rintro ⟨quote, inner, isQuote, enclosed⟩
      exact plain ⟨quote, (isQuote_iff quote).mp isQuote, inner, enclosed⟩
    rw [cut, cutOut?, unquoted_of_not_isQuoted notQuoted, utf8_eq_encode]
  · rw [cut, cutOut?, slice?_cutAround split, split]
    exact congrArg (fun cs => some (encode cs))
      (unquoted_of_isQuote ((isQuote_iff quote).mpr listed) inner).symm

theorem bare?_eq (path : String) : bare? path = some (utf8 (bare path)) := by
  simp only [bare?, stripQuotes?_utf8, stripQualifier?_utf8, Option.bind_eq_bind,
    Option.bind_some, bare]

/-! ## Literals -/

theorem collapse_append {bytes : List UInt8} (noQuote : '\''.toUInt8 ∉ bytes)
    (rest : List UInt8) :
    collapse (bytes ++ rest) = bytes ++ collapse rest := by
  induction bytes with
  | nil => rfl
  | cons b bytes ih =>
    rw [List.mem_cons, not_or] at noQuote
    rw [List.cons_append, List.cons_append, ← ih noQuote.2]
    cases bytes ++ rest with
    | nil => rfl
    | cons d others => rw [collapse, if_neg fun both => noQuote.1 both.1.symm]

theorem collapse_cons {rest : List UInt8} (stops : rest.head? ≠ some '\''.toUInt8)
    (b : UInt8) :
    collapse (b :: rest) = b :: collapse rest := by
  cases rest with
  | nil => rfl
  | cons d others =>
    rw [collapse, if_neg]
    rintro ⟨-, rfl⟩
    exact stops rfl

/-- Quotes collapse on bytes as they do on characters. -/
theorem collapse_encode (cs : List Char) :
    collapse (encode cs) = encode (collapseQuotes cs) := by
  have ascii : '\''.toNat < 0x80 := by decide
  have quote (cs : List Char) : encode ('\'' :: cs) = '\''.toUInt8 :: encode cs := by
    rw [encode_cons, utf8EncodeChar_of_ascii ascii, List.singleton_append]
  have other {c : Char} (noQuote : c ≠ '\'') (cs : List Char) :
      collapse (encode (c :: cs)) = String.utf8EncodeChar c ++ collapse (encode cs) :=
    collapse_append (fun member => noQuote (eq_of_mem_utf8EncodeChar ascii member)) _
  fun_induction collapseQuotes cs with
  | case1 => rfl
  | case2 c =>
    by_cases isQuote : c = '\''
    · rw [isQuote, quote]
      rfl
    · rw [other isQuote, encode_cons]
      rfl
  | case3 c d cs both ih =>
    rw [both.1, both.2, quote, quote, quote, collapse, if_pos ⟨rfl, rfl⟩, ih]
  | case4 c d cs notBoth ih =>
    by_cases isQuote : c = '\''
    · have stops : (encode (d :: cs)).head? ≠ some '\''.toUInt8 := by
        rw [ne_eq, head?_encode_eq_iff ascii, List.head?_cons, Option.some_inj]
        exact fun isQuote' => notBoth ⟨isQuote, isQuote'⟩
      rw [isQuote, quote, quote, collapse_cons stops, ih]
    · rw [other isQuote, ih, encode_cons]

/-- A text that does not stand between single quotes is its own value. -/
theorem literalValue_eq_self {text : String}
    (plain : ¬ ∃ quote ∈ literalQuotes, ∃ inner, text.toList = quote :: inner ++ [quote]) :
    literalValue text = text := by
  rw [literalValue]
  split
  · next cs opened =>
    rw [if_neg]
    intro closed
    obtain ⟨inner, rfl⟩ := List.getLast?_eq_some_iff.mp (beq_iff_eq.mp closed)
    exact plain ⟨'\'', List.mem_singleton.mpr rfl, inner, opened⟩
  · rfl

theorem literalValue?_utf8 (text : String) :
    literalValue? (utf8 text) = some (utf8 (literalValue text)) := by
  rw [literalValue?]
  rcases enclosureCut?_cases ascii_literalQuotes text with
    ⟨plain, cut⟩ | ⟨quote, listed, inner, split, cut⟩
  · rw [cut, literalValue_eq_self plain]
  · cases List.mem_singleton.mp listed
    have value : literalValue text = String.ofList (collapseQuotes inner) := by
      rw [← literalValue_quoted, ← text.ofList_toList, split]
      rfl
    simp only [cut, slice?_cutAround split, Option.map_some, collapse_encode, value,
      utf8_ofList]

/-! ## All rules -/

theorem keepsWhole_of_qualifierCut? {s : String} {cut : Cut}
    (found : qualifierCut? (utf8 s) = some cut) :
    cut.KeepsWhole s := by
  rcases qualifierCut?_cases s with ⟨-, none⟩ | ⟨qualifier, name, split, -, some⟩
  · rw [none] at found
    cases found
  · rw [some] at found
    cases found
    exact cutAround_keepsWhole split

/-- **Cuts keep characters whole.** Of every text: wherever one of the rules cuts its bytes,
the two offsets are in order and lie between characters; so no rule fails, and what it leaves
are the bytes of what it leaves of the characters. -/
theorem cuts_keep_characters_whole (s : String) :
    (∀ cut ∈ qualifierCut? (utf8 s), cut.KeepsWhole s) ∧
    (∀ cut ∈ enclosureCut? nameQuotes (utf8 s), cut.KeepsWhole s) ∧
    (∀ cut ∈ enclosureCut? literalQuotes (utf8 s), cut.KeepsWhole s) ∧
    stripQualifier? (utf8 s) = some (utf8 (stripQualifier s)) ∧
    stripQuotes? (utf8 s) = some (utf8 (stripQuotes s)) ∧
    literalValue? (utf8 s) = some (utf8 (literalValue s)) ∧
    bare? s = some (utf8 (bare s)) :=
  ⟨fun _ => keepsWhole_of_qualifierCut?, fun _ => keepsWhole_of_enclosureCut? ascii_nameQuotes,
    fun _ => keepsWhole_of_enclosureCut? ascii_literalQuotes, stripQualifier?_utf8 s,
    stripQuotes?_utf8 s, literalValue?_utf8 s, bare?_eq s⟩

/-- A path in which characters of one, two and four bytes stand next to each other. It is cut
behind its period, in front of the four bytes of the last character; a cut inside one of the
characters fails. -/
theorem cuts_keep_characters_whole_wide :
    utf8 "'é.😀'" = [0x27, 0xc3, 0xa9, 0x2e, 0xf0, 0x9f, 0x98, 0x80, 0x27] ∧
      qualifierCut? (utf8 "'é.😀'") = some ⟨4, 9⟩ ∧ Cut.KeepsWhole ⟨4, 9⟩ "'é.😀'" ∧
      enclosureCut? nameQuotes (utf8 "'é.😀'") = some ⟨1, 8⟩ ∧ Cut.KeepsWhole ⟨1, 8⟩ "'é.😀'" ∧
      slice? (utf8 "'é.😀'") ⟨2, 9⟩ = none ∧ bare? "'é.😀'" = some (utf8 "😀") := by
  have behind : qualifierCut? (utf8 "'é.😀'") = some ⟨4, 9⟩ := by decide +kernel
  have inside : enclosureCut? nameQuotes (utf8 "'é.😀'") = some ⟨1, 8⟩ := by decide +kernel
  have bareName : bare "'é.😀'" = "😀" := by decide +kernel
  obtain ⟨qualifier, quotes, -, -, -, -, name⟩ := cuts_keep_characters_whole "'é.😀'"
  rw [bareName] at name
  exact ⟨by decide +kernel, behind, qualifier _ behind, inside, quotes _ inside,
    by decide +kernel, name⟩

end SqlSearch.Field.Bytes
