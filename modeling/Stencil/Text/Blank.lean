/-!
# Blank characters

White space of every script, and trimming it from the two ends of a text. The class is the
property `White_Space` of the character standard; it is larger than the ASCII class of the
standard library.
-/

namespace Stencil.Text

/-- White space of any script: tabs and line breaks, the space, and the spaces of fixed or
    varying width. -/
def isBlank (c : Char) : Bool :=
  let n := c.toNat
  (0x09 ≤ n && n ≤ 0x0D) || n == 0x20 || n == 0x85 || n == 0xA0 || n == 0x1680 ||
    (0x2000 ≤ n && n ≤ 0x200A) || n == 0x2028 || n == 0x2029 || n == 0x202F || n == 0x205F ||
    n == 0x3000

def trimLeft (s : List Char) : List Char := s.dropWhile isBlank

def trimRight (s : List Char) : List Char := (s.reverse.dropWhile isBlank).reverse

def trim (s : List Char) : List Char := trimRight (trimLeft s)

theorem length_trimLeft_le (s : List Char) : (trimLeft s).length ≤ s.length :=
  (List.dropWhile_suffix isBlank).length_le

end Stencil.Text
