/-!
Percent-encoding: a byte as a percent sign and two hexadecimal digits. Controls and characters beyond
ASCII are always encoded, by the bytes of their UTF-8 form; which further characters are depends
on the part of a URL that they stand in.
-/

namespace Lightpath

namespace PercentEncoding

/-- The capital hexadecimal digit of a number below sixteen. -/
def hexDigit (n : Nat)
    : Char :=
  if n < 10 then Char.ofNat ('0'.toNat + n) else Char.ofNat ('A'.toNat + (n - 10))

/-- The encoded form of a byte. -/
def encodeByte (b : UInt8)
    : List Char :=
  ['%', hexDigit (b.toNat / 16), hexDigit (b.toNat % 16)]

/-- Whether a character is encoded in every part: a control or a character beyond ASCII. -/
def isAlwaysEncoded (c : Char)
    : Bool :=
  c.toNat < 0x20 || 0x7E < c.toNat

/-- One character, encoded if it has to be or belongs to the given ones. -/
def encodeChar (special : List Char) (c : Char)
    : List Char :=
  if isAlwaysEncoded c || special.contains c then
    (String.utf8EncodeChar c).flatMap encodeByte
  else [c]

/-- A text with the given characters encoded besides those that always are. -/
def encode (special : List Char) (cs : List Char)
    : List Char :=
  cs.flatMap (encodeChar special)

/-- The characters encoded in a fragment. -/
def fragmentSet
    : List Char :=
  [' ', '"', '<', '>', '`']

/-- The characters encoded in a query. -/
def querySet
    : List Char :=
  [' ', '"', '#', '<', '>']

/-- The characters encoded in a query of a scheme with servers. -/
def serverQuerySet
    : List Char :=
  '\'' :: querySet

/-- The characters encoded in a path. -/
def pathSet
    : List Char :=
  fragmentSet ++ ['#', '?', '\x7b', '\x7d']

/-- The characters encoded in a segment that is added to a path. -/
def segmentSet
    : List Char :=
  pathSet ++ ['/', '%']

/-- The characters encoded in a segment that is added where a backslash separates segments. -/
def serverSegmentSet
    : List Char :=
  segmentSet ++ ['\\']

/-- The characters encoded in a user name and a password. -/
def userSet
    : List Char :=
  pathSet ++ ['/', ':', ';', '=', '@', '[', '\\', ']', '^', '|']

/-- The value of a hexadecimal digit. -/
def hexValue? (c : Char)
    : Option Nat :=
  if c.isDigit then some (c.toNat - '0'.toNat)
  else if 'a' ≤ c ∧ c ≤ 'f' then some (c.toNat - 'a'.toNat + 10)
  else if 'A' ≤ c ∧ c ≤ 'F' then some (c.toNat - 'A'.toNat + 10)
  else none

/-- The bytes of a text with every encoded byte decoded; a percent sign without two digits stands
for itself.
-/
def decodeBytes
    : List Char → List UInt8
  | '%' :: a :: b :: rest =>
      match hexValue? a, hexValue? b with
      | some high, some low => UInt8.ofNat (high * 16 + low) :: decodeBytes rest
      | _, _ => String.utf8EncodeChar '%' ++ decodeBytes (a :: b :: rest)
  | c :: rest => String.utf8EncodeChar c ++ decodeBytes rest
  | [] => []

/-- The text whose UTF-8 bytes a decoded text has, if there is one. -/
def decode? (cs : List Char)
    : Option (List Char) :=
  (String.fromUTF8? (ByteArray.mk (decodeBytes cs).toArray)).map String.toList

end PercentEncoding

end Lightpath
