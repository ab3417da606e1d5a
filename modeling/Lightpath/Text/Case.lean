/-!
Case folding for the comparison with words of ASCII letters. Besides the capitals of ASCII only the
Kelvin sign has an ASCII letter as its lower-case form, and no other character outside ASCII
has a lower-case or upper-case form made of the letters that the words here use.
-/

namespace Lightpath

namespace Text

/-- The lower-case form where it is an ASCII letter; any other character is kept. -/
def foldLower (c : Char)
    : Char :=
  if c = '\u212a' then 'k' else c.toLower

/-- The text in lower case, as far as its comparison with an ASCII word can tell. -/
def lowerWord (s : String)
    : String :=
  String.ofList (s.toList.map foldLower)

/-- The text in upper case, as far as its comparison with a word of digits and `G` can tell. -/
def upperWord (s : String)
    : String :=
  String.ofList (s.toList.map Char.toUpper)

end Text

end Lightpath
