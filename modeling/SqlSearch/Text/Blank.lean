import SqlSearch.Text.Ranges

/-!
# White space

White space is taken in the wide sense: next to blank, tab and the line ends it covers the
other spaces of typography, such as the no-break space. Field names and whole SQL texts are
trimmed with it.

## Main definitions

* `isBlank`: the white-space characters
* `trim`: a string without the white space at its ends
-/

namespace SqlSearch.Text

/-- The white-space characters outside the control characters and the blank. -/
def wideBlanks : CodeRanges :=
  [(0x85, 0x85), (0xa0, 0xa0), (0x1680, 0x1680), (0x2000, 0x200a), (0x2028, 0x2029),
   (0x202f, 0x202f), (0x205f, 0x205f), (0x3000, 0x3000)]

/-- A white-space character. -/
def isBlank (c : Char) : Bool :=
  c == ' ' || (decide (0x9 ≤ c.toNat) && decide (c.toNat ≤ 0xd)) || wideBlanks.contains c

/-- The characters from the first to the last that is not white space. -/
def trimChars (cs : List Char) : List Char :=
  ((cs.dropWhile isBlank).reverse.dropWhile isBlank).reverse

/-- The string without the white space at its ends. -/
def trim (s : String) : String := String.ofList (trimChars s.toList)

end SqlSearch.Text
