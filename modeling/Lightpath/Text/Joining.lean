import Lightpath.Text.RangeTable

/-!
How letters join their neighbours in writing. Transparent characters stand between two others without
any influence on how these join.
-/

namespace Lightpath

namespace Text

/-- How a character joins: with the ones on both sides, with the one before it alone, with the one
after it alone, or not at all but without a break.
-/
inductive Joining where
  | dual
  | before
  | after
  | transparent
deriving DecidableEq, Repr

/-- The places, in the order of the ways to join, of the characters that join. -/
def joiningCharacters
    : RangeTable Nat :=
  RangeTable.ofPackedValues [
    "4t 1 3 gi 34 3 7n 7 3 7b 19 3 1 1 3 1 2 3 1 2 3 1 1 3 20 b 3 1 1 3 3 1 0 1 4 1 0 1 0 0 1 1",
    "0 1 0 0 1 1 0 5 0 0 4 1 0 d 0 1 7 0 0 1 1 0 2 0 0 l 3 e 2 0 0 1 3 0 3 1 1 3 1 0 g 0 0 i 1 0",
    "12 0 0 1 1 0 2 0 0 9 1 0 1 0 0 1 1 0 1 0 0 1 1 0 2 0 0 2 1 1 1 1 0 7 3 2 6 3 2 2 3 1 4 3 0",
    "2 1 a 3 0 2 1 0 f 1 3 0 1 1 0 1 3 0 3 0 0 5 1 0 4 0 0 1 1 0 9 0 0 1 1 0 1 0 0 1 1 0 1 0 0 1",
    "1 0 2 0 0 1 1 0 r 3 2 1 1 0 b 0 0 3 1 0 f 0 0 2 1 0 4 0 0 1 1 0 1 0 0 2 1 0 3 0 0 2 1 0 6 0",
    "12 b 3 p x 0 0 9 3 9 1 3 o 4 3 1 9 3 1 3 3 1 5 3 i 1 1 0 5 0 0 2 1 0 1 0 0 1 1 0 a 0 0 1 1",
    "0 1 0 0 3 1 0 3 3 4 1 0 1 4 0 1 1 1 0 1 0 0 2 1 5 j 1 3 1 0 2 5 0 0 1 1 0 1 0 7 9 3 0 a 0 0",
    "3 1 1 1 1 0 2 0 0 2 1 0 6 0 0 1 1 0 f 0 1 o 3 1 w 3 1j 1 3 1 1 3 4 8 3 4 1 3 3 7 3 a 2 3 t",
    "1 3 1m 1 3 4 4 3 8 1 3 k 2 3 q 1 3 2 2 3 1l 1 3 4 2 3 4 2 3 2 3 3 3 1 3 u 2 3 3 1 3 b 2 3",
    "1l 1 3 4 5 3 1 2 3 4 1 3 k 2 3 m 6 3 1 1 3 1m 1 3 2 1 3 1 4 3 8 1 3 7 2 3 b 2 3 u 1 3 1p 1",
    "3 c 1 3 1e 1 3 3 1 3 1j 1 3 1 3 3 5 3 3 1 4 3 7 2 3 b 2 3 t 1 3 1m 1 3 2 1 3 6 1 3 5 2 3 k",
    "2 3 s 2 3 1l 2 3 4 4 3 8 1 3 k 2 3 t 1 3 20 1 3 7 3 3 1 1 3 2i 1 3 2 7 3 c 8 3 2q 1 3 2 9 3",
    "b 7 3 21 2 3 r 1 3 1 1 3 1 1 3 1j e 3 1 5 3 1 2 3 5 b 3 1 10 3 9 1 3 2u 4 3 1 6 3 1 2 3 2 2",
    "3 p 2 3 4 3 3 g 4 3 d 1 3 2 2 3 6 1 3 f 1 3 jj 3 3 qa 3 3 t 2 3 u 2 3 u 2 3 1s 2 3 1 7 3 8",
    "1 3 2 b 3 9 1 3 15 1 0 3 3 3 1 1 3 g 2h 0 c 2 3 0 y 0 0 1 3 0 1 0 39 3 3 4 2 3 9 1 3 6 3 3",
    "63 2 3 2 1 3 1m 1 3 1 7 3 1 1 3 1 1 3 2 8 3 6 a 3 2 1 3 1c 1a 3 2 c 3 k 4 3 1c 1 3 1 5 3 1",
    "1 3 5 1 3 14 9 3 c 2 3 w 4 3 2 2 3 1 3 3 1k 1 3 1 2 3 3 1 3 1 3 3 1m 8 3 2 2 3 48 3 3 1 d 3",
    "1 7 3 4 1 3 6 1 3 3 2 3 5i 1s 3 ej 1 3 2 2 3 q 5 3 1d 5 3 5 6 3 2o x 3 2da 3 3 3x 1 3 2o w",
    "3 fe 4 3 2z 2 3 n9w 4 3 1 a 3 w 2 3 28 2 3 7k 1 3 3 1 3 4 1 3 p 2 3 5 1 3 j 1e 0 0 1 2 29 2",
    "3 q i 3 d 1 3 12 8 3 p b 3 1a 3 3 1c 1 3 2 4 3 2 2 3 13 1 3 1v 6 3 2 2 3 2 2 3 c 1 3 8 1 3",
    "1b 1 3 1f 1 3 1 3 3 2 2 3 5 2 3 1 1 3 16 2 3 8 1 3 6m 1 3 2 1 3 4 1 3 fn4 1 3 kh g 3 g g 3",
    "5r 1 3 6x 3 3 e9 1 3 6a 1 3 45 5 3 1ae 3 3 1 2 3 5 4 3 14 3 3 4 1 3 3k 5 0 0 1 1 1 1 1 1 2",
    "1 2 1 2 0 5 1 0 4 0 0 1 2 0 5 0 0 1 1 0 3 0 0 1 1 2 1 1 0 2 3 4 4 0 0 1 1 40 1 0 0 1 1 0 1",
    "0 0 3 1 0 3 0 0 1 1 0 2 0 0 1 1 0 1 0 0 2 1 0 1 0 0 1 1 n 4 1 0 2 0 9d 1 2 0 x 0 0 1 1 0 1",
    "0 0 4 3 1t 5 3 8t 2 3 l 1 1 0 2 0 1 2 0 1e 6 3 1c 3 0 0 1 1 0 h 0 1 b 3 0 3 0 0 1 1 r 4 0 0",
    "2 1 0 c 0 0 4 3 16 1 0 1 2 0 0 3 1 1 1 0 0 2 1 0 2 0 0 1 1 0 2 0 1 1 0 0 2 1 0 1 0 4 1 1 0",
    "1 0 0 1 2 1h 1 3 1i f 3 15 1 3 2 2 3 a 3 3 1d 4 3 2 2 3 7 1 3 1p 3 3 10 5 3 1 8 3 1q 1 3 c",
    "2 3 1g 9 3 a 4 3 2 1 3 2n 3 3 2 1 3 1 2 3 6 1 3 2 1 3 4d 1 3 3 8 3 l 2 3 1l 2 3 3 1 3 11 7",
    "3 3 5 3 1y 6 3 d 1 3 1 1 3 1 1 3 e 2 3 2d 8 3 2 3 3 1 1 3 n 1 3 2c 6 3 1 1 3 4 2 3 1 2 3 6m",
    "4 3 6 2 3 1 2 3 r 2 3 2d 8 3 2 1 3 1 2 3 2y 1 3 1 1 3 2 6 3 1 1 3 2t 1 3 1 1 3 2 4 3 1 5 3",
    "77 9 3 1 2 3 74 2 3 1 1 3 4 1 3 40 4 3 2 2 3 4 1 3 w a 3 14 6 3 2 4 3 8 1 3 9 6 3 2 3 3 1a",
    "d 3 1 2 3 5i 1 3 1 3 3 1 1 3 5l 7 3 1 6 3 1 1 3 2a m 3 2 7 3 1 2 3 1 2 3 3e 6 3 3 1 3 1 2 3",
    "1 7 3 1 1 3 20 2 3 3 1 3 1 1 3 9n 2 3 b 2 3 1g 5 3 5 1 3 1 1 3 n 1 3 445 h 3 6 f 3 8ug c 3",
    "3 3 3 1xc 5 3 1n 7 3 t4 1 3 1r 4 3 29 1 3 f5k 2 3 1 4 3 3mk 1a 3 2 n 3 f4 3 3 9 g 3 2 7 3 u",
    "4 3 44 3 3 1iz 1j 3 4 1e 3 8 1 3 e 1 3 m 5 3 1 f 3 11s 7 3 1 h 3 2 7 3 1 2 3 1 5 3 2s 1 3",
    "4g 7 3 af 1 3 1p 4 3 e4 4 3 72 2 3 6r 1 3 2 1 3 7 2 3 5 1 3 d6 7 3 15 1w 0 0 8 3 gzat 1 3 u",
    "2o 3 3k 6o 3"]

/-- How a character joins, if it does. -/
def joining? (c : Char)
    : Option Joining :=
  (joiningCharacters.find? c).bind fun n =>
    [Joining.dual, .before, .after, .transparent][n]?

/-- Whether the first character that is not transparent joins in one of the given ways. -/
def joinsAs (ways : List Joining) (cs : List Char)
    : Bool :=
  match cs.dropWhile fun c => joining? c = some .transparent with
  | [] => false
  | c :: _ => (joining? c).any ways.contains

end Text

end Lightpath
