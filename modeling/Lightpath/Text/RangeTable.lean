/-!
Ranges of characters in ascending order, each with a value, and the search for the one that holds a
character. Long tables are written as packed text: numbers in base 36 with blanks between them, in
which a range follows the one before it by the number of code points that lie between.
-/

namespace Lightpath

namespace Text

/-- The value of a digit of base 36: figures first, then small letters. -/
def packedDigit (c : Char)
    : Nat :=
  if c.isDigit then c.toNat - '0'.toNat else c.toNat - 'a'.toNat + 10

/-- The numbers in a line of packed text, given the one read so far, if there is one. -/
def unpackChars (read : Option Nat)
    : List Char → List Nat
  | [] => read.toList
  | ' ' :: rest => read.toList ++ unpackChars none rest
  | c :: rest => unpackChars (some (read.getD 0 * 36 + packedDigit c)) rest

/-- The numbers in lines of packed text. -/
def unpack (lines : List String)
    : List Nat :=
  lines.flatMap fun line => unpackChars none line.toList

/-- Code points from the first to the last, with what is said of them. -/
structure CharRange (α : Type) where
  first : Nat
  last : Nat
  value : α

/-- Ranges in ascending order of which no two meet. -/
structure RangeTable (α : Type) where
  ranges : Array (CharRange α)

namespace RangeTable

variable {α : Type}

/-- The value for a code point among the ranges from one place up to another. -/
def search? (t : RangeTable α) (n low high : Nat)
    : Option (CharRange α) :=
  if low < high then
    let middle := (low + high) / 2
    match t.ranges[middle]? with
    | none => none
    | some range =>
        if n < range.first then search? t n low middle
        else if range.last < n then search? t n (middle + 1) high
        else some range
  else none
termination_by high - low
decreasing_by all_goals omega

/-- The range that holds a character. -/
def range? (t : RangeTable α) (c : Char)
    : Option (CharRange α) :=
  t.search? c.toNat 0 t.ranges.size

/-- The value for a character. -/
def find? (t : RangeTable α) (c : Char)
    : Option α :=
  (t.range? c).map CharRange.value

/-- Whether a range holds a character. -/
def contains (t : RangeTable α) (c : Char)
    : Bool :=
  (t.range? c).isSome

/-- The ranges that numbers state two by two: how far each is from the end of the one before, and
how many code points it has.
-/
def rangesOf (next : Nat)
    : List Nat → List (CharRange Unit)
  | gap :: size :: rest =>
      ⟨next + gap, next + gap + size - 1, ()⟩ :: rangesOf (next + gap + size) rest
  | _ => []

/-- The set of characters in packed ranges. -/
def ofPacked (lines : List String)
    : RangeTable Unit :=
  ⟨(rangesOf 0 (unpack lines)).toArray⟩

/-- The ranges that numbers state three by three: the distance and the size as for a set, then the
value.
-/
def valuesOf (next : Nat)
    : List Nat → List (CharRange Nat)
  | gap :: size :: value :: rest =>
      ⟨next + gap, next + gap + size - 1, value⟩ :: valuesOf (next + gap + size) rest
  | _ => []

/-- The values of characters in packed ranges. -/
def ofPackedValues (lines : List String)
    : RangeTable Nat :=
  ⟨(valuesOf 0 (unpack lines)).toArray⟩

end RangeTable

end Text

end Lightpath
