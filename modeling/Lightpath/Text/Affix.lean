/-!
Fixed beginnings of texts. `Text.dropFront?` gives what is left without one, if the text has it at all.
-/

namespace Lightpath

namespace Text

/-- The rest of a list after a fixed beginning. -/
def dropFront?
    : List Char → List Char → Option (List Char)
  | [], cs => some cs
  | _ :: _, [] => none
  | a :: front, c :: cs => if a = c then dropFront? front cs else none

end Text

end Lightpath
