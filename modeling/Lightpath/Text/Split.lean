/-!
Splitting a text at marks: the parts between them, one more than there are marks.
-/

namespace Lightpath

namespace Text

/-- The parts of a list between the characters that are marks. -/
def partsBetween (isMark : Char → Bool)
    : List Char → List (List Char)
  | [] => [[]]
  | c :: rest =>
      if isMark c then [] :: partsBetween isMark rest
      else match partsBetween isMark rest with
        | part :: parts => (c :: part) :: parts
        | [] => [[c]]

/-- What stands before the first mark, and what stands after it if there is one. -/
def splitFirst (isMark : Char → Bool) (cs : List Char)
    : List Char × Option (List Char) :=
  match cs.span fun c => !isMark c with
  | (before, []) => (before, none)
  | (before, _ :: after) => (before, some after)

/-- What stands before the last mark, if there is one, and what stands after it. -/
def splitLast (isMark : Char → Bool) (cs : List Char)
    : Option (List Char) × List Char :=
  match splitFirst isMark cs.reverse with
  | (after, none) => (none, after.reverse)
  | (after, some before) => (some before.reverse, after.reverse)

end Text

end Lightpath
