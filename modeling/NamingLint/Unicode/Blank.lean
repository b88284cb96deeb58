/-!
# White space

The property White_Space, and the trimming and splitting of texts that go by it.
-/

namespace NamingLint.Unicode

/-- The property White_Space. -/
def isWhiteSpace (c : Char) : Bool :=
  let n := c.toNat
  (0x9 ≤ n && n ≤ 0xD) || n == 0x20 || n == 0x85 || n == 0xA0 || n == 0x1680 ||
    (0x2000 ≤ n && n ≤ 0x200A) || n == 0x2028 || n == 0x2029 || n == 0x202F || n == 0x205F ||
    n == 0x3000

/-- Remove white space at the front. -/
def trimFront (text : List Char) : List Char :=
  text.dropWhile isWhiteSpace

/-- Remove white space at the end. -/
def trimBack (text : List Char) : List Char :=
  (text.reverse.dropWhile isWhiteSpace).reverse

/-- Remove white space at both ends. -/
def trim (text : List Char) : List Char :=
  trimBack (trimFront text)

end NamingLint.Unicode
