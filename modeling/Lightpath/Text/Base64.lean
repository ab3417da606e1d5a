/-!
Base64 of a text: the bits of its UTF-8 bytes in groups of six, and equals signs up to a multiple of
four characters.
-/

namespace Lightpath

namespace Text

namespace Base64

/-- The character of a group of six bits. -/
def symbol (n : Nat)
    : Char :=
  if n < 26 then Char.ofNat ('A'.toNat + n)
  else if n < 52 then Char.ofNat ('a'.toNat + (n - 26))
  else if n < 62 then Char.ofNat ('0'.toNat + (n - 52))
  else if n = 62 then '+'
  else '/'

/-- The characters of a list of bytes, three bytes at a time. -/
def encodeBytes
    : List UInt8 → List Char
  | [] => []
  | [a] =>
      [symbol (a.toNat / 4), symbol (a.toNat % 4 * 16), '=', '=']
  | [a, b] =>
      [symbol (a.toNat / 4), symbol (a.toNat % 4 * 16 + b.toNat / 16),
        symbol (b.toNat % 16 * 4), '=']
  | a :: b :: c :: rest =>
      symbol (a.toNat / 4) :: symbol (a.toNat % 4 * 16 + b.toNat / 16)
        :: symbol (b.toNat % 16 * 4 + c.toNat / 64) :: symbol (c.toNat % 64)
        :: encodeBytes rest

/-- The Base64 form of a text. -/
def encode (s : String)
    : String :=
  String.ofList (encodeBytes (s.toList.flatMap String.utf8EncodeChar))

end Base64

end Text

end Lightpath
