/-!
Blank characters: those with the Unicode property White_Space. Trimming drops them from both ends
of a text, and a text is blank if nothing else is in it.
-/

namespace Lightpath

namespace Text

/-- Whether a character has the Unicode property White_Space. -/
def isBlank (c : Char)
    : Bool :=
  let n := c.toNat
  (9 ≤ n && n ≤ 13) || n == 0x20 || n == 0x85 || n == 0xA0 || n == 0x1680
    || (0x2000 ≤ n && n ≤ 0x200A) || n == 0x2028 || n == 0x2029 || n == 0x202F
    || n == 0x205F || n == 0x3000

/-- The characters without the blank ones at either end. -/
def trimChars (cs : List Char)
    : List Char :=
  ((cs.dropWhile isBlank).reverse.dropWhile isBlank).reverse

/-- The text without the blank characters at either end. -/
def trim (s : String)
    : String :=
  String.ofList (trimChars s.toList)

/-- Whether a text has no character but blank ones. -/
def allBlank (s : String)
    : Bool :=
  s.toList.all isBlank

end Text

end Lightpath
