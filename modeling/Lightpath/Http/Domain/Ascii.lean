import Lightpath.Http.Domain.Label
import Lightpath.Http.Punycode
import Lightpath.Text.Split

/-!
Domains in ASCII. The characters of a domain are mapped to plain ones and put together; labels that
are in ASCII already have to stand for what their Unicode form would be mapped to; and every label
that is not ASCII is written in Punycode.
-/

namespace Lightpath

namespace Domain

/-- Whether an ASCII character can be in no domain. -/
def isDenied (c : Char)
    : Bool :=
  c.toNat ≤ 0x20 || c.toNat = 0x7F
    || ['%', '#', '/', ':', '<', '>', '?', '@', '[', '\\', ']', '^', '`', '\x7b', '|',
      '\x7d'].contains c

/-- The plain characters that a domain stands for, put together. -/
def mapped? (cs : List Char)
    : Option (List Char) := do
  let parts ← cs.mapM mapChar?
  let domain := Text.compose parts.flatten
  if domain.any isDenied then none else some domain

/-- The greatest length of a label in Punycode, without its mark. -/
def maxPunycodeLength
    : Nat :=
  2000

/-- The label that a Punycode form without its mark stands for. It has a character beyond ASCII and
stands for itself.
-/
def decoded? (cs : List Char)
    : Option (List Char) :=
  if cs.isEmpty || cs.getLast? = some '-' || maxPunycodeLength < cs.length
      || cs.any fun c => 0x7F < c.toNat then none
  else do
    let label ← Punycode.decode? cs
    if label.all isKept && Text.compose label = label then some label else none

/-- The Unicode form of a label that is mapped already. -/
def unicodeLabel?
    : List Char → Option (List Char)
  | 'x' :: 'n' :: '-' :: '-' :: rest => decoded? rest
  | label => some label

/-- A label in ASCII. -/
def asciiLabel (label : List Char)
    : List Char :=
  if label.all fun c => c.toNat ≤ 0x7F then label
  else ['x', 'n', '-', '-'] ++ Punycode.encode label

/-- A domain in ASCII, unless one of its labels is not good. -/
def toAscii? (cs : List Char)
    : Option (List Char) := do
  let domain ← mapped? cs
  let labels ← (Text.partsBetween (· = '.') domain).mapM unicodeLabel?
  let isGood := labels.all isValidLabel
    && (!labels.any (fun label => label.any needsDirections) || labels.all isDirected)
  if isGood then some (['.'].intercalate (labels.map asciiLabel)) else none

end Domain

end Lightpath
