/-!
# Blank characters

`isBlank` is the Unicode property White_Space, the one notion of white space of this library: it
decides which table names are blank, and what is cut from the arguments of a rule before they are
read. The class is larger than `Char.isWhitespace`, which knows ASCII only.
-/

namespace Seedbed.Text

/-- Whether a character has the Unicode property White_Space. -/
def isBlank (c : Char) : Bool :=
  let n := c.toNat
  (9 ≤ n && n ≤ 13) || n == 0x20 || n == 0x85 || n == 0xA0 || n == 0x1680 ||
    (0x2000 ≤ n && n ≤ 0x200A) || n == 0x2028 || n == 0x2029 || n == 0x202F || n == 0x205F ||
    n == 0x3000

/-- The text without the blanks at its start. -/
def trimStart (cs : List Char) : List Char :=
  cs.dropWhile isBlank

/-- The text without the blanks at its end. -/
def trimEnd (cs : List Char) : List Char :=
  (cs.reverse.dropWhile isBlank).reverse

/-- The text without the blanks at either end. -/
def trim (cs : List Char) : List Char :=
  trimEnd (trimStart cs)

/-- Whether a text is empty or holds blanks only. -/
def isAllBlank (cs : List Char) : Bool :=
  cs.all isBlank

end Seedbed.Text
