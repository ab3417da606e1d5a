import Lightpath.Http.Domain.Mapping
import Lightpath.Text.Composite
import Lightpath.Text.Direction
import Lightpath.Text.Joining

/-!
The labels of a domain, which are the parts between its dots. A label does not begin with a mark,
controls the joining of letters only where that makes a difference, and does not mix directions of
writing once a letter of the domain runs from right to left.
-/

namespace Lightpath

namespace Domain

/-- Whether a joiner or a non-joiner has a meaning after the characters before it, which stand in
reverse, and before the ones after it: it follows a virama, or it parts two letters that would join.
-/
def isJoinerMeaningful (c : Char) (before after : List Char)
    : Bool :=
  before.head?.any Text.isVirama
    || c.toNat = 0x200C && Text.joinsAs [.after, .dual] before
      && Text.joinsAs [.before, .dual] after

/-- Whether all joiners and non-joiners have a meaning, after the characters before them, which stand
in reverse.
-/
def joinersMeaningful (before : List Char)
    : List Char → Bool
  | [] => true
  | c :: rest =>
      (!(c.toNat = 0x200C || c.toNat = 0x200D) || isJoinerMeaningful c before rest)
        && joinersMeaningful (c :: before) rest

/-- The greatest length of a label that is not ASCII. -/
def maxLength
    : Nat :=
  1000

/-- Whether a label is good in any domain. -/
def isValidLabel (label : List Char)
    : Bool :=
  !label.head?.any Text.isMark && joinersMeaningful [] label
    && (label.length ≤ maxLength || label.all fun c => c.toNat ≤ 0x7F)

/-- Whether a character makes a domain one in which directions matter. -/
def needsDirections (c : Char)
    : Bool :=
  Text.direction c = .rightToLeft || Text.direction c = .arabicNumber

/-- Whether the directions of a label from left to right are good; the marks at its end do not
count.
-/
def runsLeftToRight (directions : List Text.Direction)
    : Bool :=
  directions.all (fun d => [.leftToRight, .europeanNumber, .neutral, .mark].contains d)
    && match directions.reverse.dropWhile (· = .mark) with
      | last :: _ => last = .leftToRight || last = .europeanNumber
      | [] => true

/-- Whether the directions of a label from right to left are good: the marks at its end do not count,
and it has numbers of one kind.
-/
def runsRightToLeft (directions : List Text.Direction)
    : Bool :=
  directions.all (fun d =>
      [.rightToLeft, .arabicNumber, .europeanNumber, .neutral, .mark].contains d)
    && !(directions.contains .arabicNumber && directions.contains .europeanNumber)
    && match directions.reverse.dropWhile (· = .mark) with
      | last :: _ => [.rightToLeft, .arabicNumber, .europeanNumber].contains last
      | [] => true

/-- Whether a label is good in a domain in which directions matter. -/
def isDirected (label : List Char)
    : Bool :=
  match label.map Text.direction with
  | [] => true
  | .leftToRight :: rest => runsLeftToRight (.leftToRight :: rest)
  | .rightToLeft :: rest => runsRightToLeft (.rightToLeft :: rest)
  | _ => false

end Domain

end Lightpath
