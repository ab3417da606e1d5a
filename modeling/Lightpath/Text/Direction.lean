import Lightpath.Text.RangeTable

/-!
The direction of writing. Letters run from left to right or from right to left, numbers and marks go
with the letters around them, and other characters have no direction of their own.
-/

namespace Lightpath

namespace Text

/-- What a character says of the direction. -/
inductive Direction where
  | leftToRight
  | rightToLeft
  | arabicNumber
  | europeanNumber
  | neutral
  | mark
  | separator
deriving DecidableEq, Repr

/-- The places, in the order of the directions after the first, of the characters that do not run
from left to right.
-/
def directedCharacters
    : RangeTable Nat :=
  RangeTable.ofPackedValues [
    "0 9 3 0 5 5 0 e 3 0 5 5 0 f 3 0 a 2 0 7 3 q 6 3 q a 3 0 1 5 0 10 3 1 7 3 0 2 2 0 1 3 1 3 3",
    "0 1 2 1 5 3 n 1 3 v 1 3 ch 2 3 7 e 3 2 e 3 5 9 3 1 h 3 0 34 4 4 2 3 8 1 3 5 2 3 1 1 3 32 1",
    "3 3w 7 4 74 6 3 1 19 4 0 1 0 0 1 4 0 1 0 0 2 4 0 1 0 0 2 4 0 1 0 0 1 4 8 11 0 b 6 1 0 2 3 0",
    "1 0 0 2 3 0 1 0 0 1 3 0 1 0 0 2 3 0 b 4 0 1c 0 0 l 4 0 a 1 0 1 3 0 2 1 0 3 0 0 1 4 0 2t 0 0",
    "7 4 0 1 1 0 1 3 0 6 4 0 2 0 0 2 4 0 1 3 0 4 4 0 2 0 0 a 2 0 n 0 0 1 4 0 u 0 0 r 4 2 2h 0 0",
    "b 4 0 1m 0 0 9 4 0 2 0 0 4 3 0 1 0 2 1 4 0 o 0 0 4 4 0 1 0 0 9 4 0 1 0 0 3 4 0 1 0 0 5 4 2",
    "15 0 0 3 4 2 1e 0 0 2 1 5 9 4 0 16 0 0 o 4 0 1 1 0 w 4 1j 1 4 1 1 4 4 8 4 4 1 4 3 7 4 a 2 4",
    "t 1 4 1m 1 4 4 4 4 8 1 4 k 2 4 e 2 3 7 1 3 2 5 4 1l 1 4 4 h 4 u 2 4 3 1 4 b 2 4 1l 1 4 4 8",
    "4 4 1 4 k 2 4 d 1 3 8 8 4 1m 1 4 2 1 4 1 4 4 8 a 4 b 2 4 u 1 4 1p 1 4 c 1 4 11 8 3 5 1 4 3",
    "1 4 1j 1 4 1 3 4 5 h 4 b 2 4 k 7 3 2 1 4 1m 1 4 f 2 4 k 2 4 s 2 4 1l 2 4 4 4 4 8 1 4 k 2 4",
    "t 1 4 20 1 4 7 5 4 2i 1 4 2 7 4 4 1 3 7 8 4 2q 1 4 2 9 4 b 7 4 21 2 4 r 1 4 1 1 4 1 1 4 0 4",
    "3 1f e 4 1 5 4 1 2 4 5 1c 4 9 1 4 2u 4 4 1 6 4 1 2 4 2 2 4 p 2 4 4 3 4 g 4 4 d 1 4 2 2 4 6",
    "1 4 f 1 4 jj 3 4 1c a 3 2u 1 3 hr 1 5 q 2 3 39 3 4 t 2 4 u 2 4 u 2 4 1s 2 4 1 7 4 8 1 4 2 b",
    "4 7 1 3 1 1 4 i r 3 0 3 4 0 1 3 0 1 4 39 2 4 y 1 4 3a 3 4 4 2 4 9 1 4 6 3 4 4 6 3 48 y 3 n",
    "2 4 2 1 4 1m 1 4 1 9 4 1 1 4 2 8 4 6 d 4 1c 2c 4 1c 1 4 1 5 4 1 1 4 5 1 4 14 9 4 c 2 4 w 4",
    "4 2 2 4 1 3 4 1k 1 4 1 2 4 3 1 4 1 3 4 1m 8 4 2 2 4 48 3 4 1 d 4 1 7 4 4 1 4 6 1 4 3 2 4 5i",
    "1s 4 cd 1 3 1 3 3 b 3 3 d 3 3 d 3 3 d 2 3 1 b 5 0 3 3 1 1 0 0 o 3 0 7 5 0 1c 3 0 1 5 0 5 3",
    "1 4 5 0 6 3 0 1 2 3 6 2 0 5 3 1 a 2 0 5 3 h y 3 e x 4 f 2 3 1 4 3 1 2 3 a 1 3 1 3 3 5 6 3 1",
    "1 3 1 1 3 1 1 3 4 1 3 b 2 3 4 5 3 5 4 3 2 g 3 15 bx 3 1x q 3 1 6q 3 0 k 2 26 ci 3 1 9f 3 74",
    "lc 3 6d 6 3 4 3 4 7 7 3 3j 1 4 2o w 4 0 e8 3 0 1 5 0 4 3 3 p 3 9 4 4 2 1 3 5 2 3 5 3 3 2h 2",
    "4 0 2 3 3 1 3 2i 1 3 5g 1c 3 19 2 3 1d g 3 s 3 3 1e f 3 c 4 3 4n 4 3 2r 2 3 v 1 3 534 1s 3",
    "h3k 1j 3 92 3 3 2n 4 4 0 1 3 0 a 4 0 2 3 u 2 4 28 2 4 e y 3 2u 1 3 3d 1 4 3 1 4 4 1 4 p 2 4",
    "1 4 3 0 1 4 b 2 3 1m 4 3 24 2 4 q i 4 d 1 4 12 8 4 p b 4 1a 3 4 1c 1 4 2 4 4 2 2 4 13 1 4",
    "1v 6 4 2 2 4 2 2 4 c 1 4 8 1 4 1b 1 4 1f 1 4 1 3 4 2 2 4 5 2 4 1 1 4 16 2 4 8 1 4 37 2 3 3d",
    "1 4 2 1 4 4 1 4 fn3 1 0 0 1 4 0 a 0 0 1 3 0 49 0 0 g 3 0 a3 0 0 i 3 0 1s 0 0 2 3 0 1i 0 0 8",
    "3 w d 0 0 3 3 0 g 4 0 a 3 6 g 4 0 1o 3 4 3x 0 2 h 3 0 a 2 0 7 3 q 6 3 q b 3 3e u 3 77 1 3",
    "1q 25 3 3 h 3 2k 1 4 6a 1 4 0 r 2 3e 5 4 w5 7w 0 3 1 3 0 69 0 0 f 4 0 12 0 2 8 4 0 4l 0 0 2",
    "4 4 23 0 3 7 3 0 dg 0 0 4 4 8 q 1 0 s 0 3 5 4 0 1 3 0 x 0 5s v 1 1 16 0 1 2 4 0 r 0 8 9 3 x",
    "6 4 0 1y 0 0 b 4 0 1d 0 0 4 4 0 35 0 a 1 4 1i f 4 b k 3 a 1 4 2 2 4 a 3 4 1d 4 4 2 2 4 7 1",
    "4 1p 3 4 10 5 4 1 8 4 1q 1 4 c 2 4 1g 9 4 a 4 4 2 1 4 2n 3 4 2 1 4 1 2 4 6 1 4 2 1 4 4d 1 4",
    "3 8 4 l 2 4 1l 2 4 3 1 4 11 f 4 1y 6 4 d 1 4 1 1 4 1 1 4 e 2 4 2d 8 4 2 3 4 1 1 4 n 1 4 2c",
    "6 4 1 1 4 4 2 4 1 2 4 6m 4 4 6 2 4 1 2 4 r 2 4 2d 8 4 2 1 4 1 2 4 v d 3 1q 1 4 1 1 4 2 6 4",
    "1 1 4 2t 3 4 2 4 4 1 5 4 77 9 4 1 2 4 74 2 4 1 1 4 4 1 4 40 8 4 4 1 4 w 6 4 2 2 4 14 6 4 2",
    "4 4 8 1 4 9 6 4 2 3 4 1a d 4 1 2 4 5i 1 4 1 3 4 1 1 4 5l e 4 2c m 4 2 7 4 1 2 4 1 2 4 3e l",
    "4 1 1 4 20 2 4 3 1 4 1 1 4 9n 2 4 b 2 4 1g 5 4 5 1 4 1 1 4 n 1 4 3e t 3 40e 1 4 6 f 4 8ug c",
    "4 3 3 4 1xc 5 4 1n 7 4 t4 1 4 1r 4 4 27 1 3 1 1 4 f5k 2 4 1 380 3 0 a 2 0 dz 3 f 1z 4 f4 3",
    "4 9 8 3 0 8 4 2 7 4 u 4 4 1n 2h 3 0 3 4 0 1 3 56 2f 3 p0 1 3 1l 1 3 1l 1 3 1l 1 3 1l 1 3 a",
    "1e 2 e8 1j 4 4 1e 4 8 1 4 e 1 4 m l 4 11s 17 4 2s 1 4 4g 7 4 af 1 4 1p 4 4 f 1 3 do 4 4 72",
    "2 4 6r 1 4 2 1 4 7 2 4 5 1 4 7e 5s 0 0 7 4 15 1w 0 0 7 4 0 12p 0 1g ee 3 a b 2 0 5 3 v 1 3",
    "1m 6 3 1p 1 3 4y 1w0 3 0 a 2 0 1 3 gvly 3j 3 3k 6o 4"]

/-- The direction of a character. -/
def direction (c : Char)
    : Direction :=
  match directedCharacters.find? c with
  | some n =>
      ([Direction.rightToLeft, .arabicNumber, .europeanNumber, .neutral, .mark, .separator][n]?).getD
        .separator
  | none => .leftToRight

end Text

end Lightpath
