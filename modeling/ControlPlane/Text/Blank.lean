/-!
# White space

Three sets of white space are in use.  `isBlank` is the wide one: the characters with a space or
paragraph-separating bidirectional class, the information separators U+001C to U+001F among them.
`isWhite` is the Unicode property `White_Space`, which leaves those four out.  The ASCII sets of the
single formats stand beside the formats.
-/

namespace ControlPlane.Text

/-- The Unicode property `White_Space`. -/
def isWhite (c : Char) : Bool :=
  let n := c.toNat
  (9 ≤ n && n ≤ 13) || n == 0x20 || n == 0x85 || n == 0xA0 || n == 0x1680 ||
    (0x2000 ≤ n && n ≤ 0x200A) || n == 0x2028 || n == 0x2029 || n == 0x202F || n == 0x205F ||
    n == 0x3000

/-- White space in the wide sense: `White_Space` and the four information separators. -/
def isBlank (c : Char) : Bool :=
  isWhite c || (0x1C ≤ c.toNat && c.toNat ≤ 0x1F)

/-- A list without the longest run of `p` at its end. -/
def trimEnd (p : Char → Bool) (cs : List Char) : List Char :=
  (cs.reverse.dropWhile p).reverse

/-- A list without the longest runs of `p` at both ends. -/
def trim (p : Char → Bool) (cs : List Char) : List Char :=
  trimEnd p (cs.dropWhile p)

end ControlPlane.Text
