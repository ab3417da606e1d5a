import Lightpath.Json.Record

/-!
Ranges of spectral slots of 6.25 GHz and the frequencies they stand for. Frequencies are doubles in
THz, rounded to five decimal places.
-/

namespace Lightpath

/-- A range of spectral slots by its lowest and highest slot. -/
structure Spectrum where
  lowest : Nat
  highest : Nat
deriving DecidableEq, Repr

namespace Spectrum

/-- The range used where none is given. -/
def standard
    : Spectrum :=
  ⟨761, 768⟩

/-- The lower edge of slot one, in THz. -/
def anchor
    : Float :=
  191.325

/-- The width of a slot, in THz. -/
def slotWidth
    : Float :=
  0.00625

/-- The value with five decimal places, a half rounded away from zero. -/
def roundThz (x : Float)
    : Float :=
  (x * 100000.0).round / 100000.0

/-- The lower edge in THz. -/
def lowEdge (s : Spectrum)
    : Float :=
  roundThz (anchor + (s.lowest - 1).toFloat * slotWidth)

/-- The upper edge in THz. -/
def highEdge (s : Spectrum)
    : Float :=
  roundThz (anchor + s.highest.toFloat * slotWidth)

/-- The middle between the edges in THz. -/
def center (s : Spectrum)
    : Float :=
  roundThz ((s.lowEdge + s.highEdge) / 2.0)

/-- The number of slots. -/
def slots (s : Spectrum)
    : Nat :=
  s.highest + 1 - s.lowest

/-- The width of a number of slots in GHz. -/
def widthOf (slots : Nat)
    : Float :=
  slots.toFloat * 6.25

/-- Whether the number of slots can be computed in words of 32 bits. -/
def hasWidth (s : Spectrum)
    : Bool :=
  s.highest + 1 < UInt32.size && s.lowest ≤ s.highest + 1

/-- Whether the range starts at slot one or later and is not empty. -/
def isValid (s : Spectrum)
    : Bool :=
  1 ≤ s.lowest && s.lowest ≤ s.highest

/-- The text of a range. -/
def text (s : Spectrum)
    : String :=
  toString s.lowest ++ ":" ++ toString s.highest

/-- The lower edge as a number of a document. -/
def lowEdgeJson (s : Spectrum)
    : Json :=
  .ofDouble (.ofFloat s.lowEdge)

/-- The upper edge as a number of a document. -/
def highEdgeJson (s : Spectrum)
    : Json :=
  .ofDouble (.ofFloat s.highEdge)

/-- The middle as a number of a document. -/
def centerJson (s : Spectrum)
    : Json :=
  .ofDouble (.ofFloat s.center)

/-- The width of a number of slots as a number of a document. -/
def widthJsonOf (slots : Nat)
    : Json :=
  .ofDouble (.ofFloat (widthOf slots))

/-- The width as a number of a document. -/
def widthJson (s : Spectrum)
    : Json :=
  widthJsonOf s.slots

/-- The range that a document describes. -/
def ofJson? (v : Json)
    : Option Spectrum := do
  let r ← JsonRecord.ofJson? ["min_slot", "max_slot"] v
  some {
    lowest := ← r.required "min_slot" (Json.natBelow? UInt32.size)
    highest := ← r.required "max_slot" (Json.natBelow? UInt32.size) }

/-- The document of a range. -/
def toJson (s : Spectrum)
    : Json :=
  Json.ofMembers [("min_slot", .ofNat s.lowest), ("max_slot", .ofNat s.highest)]

end Spectrum

end Lightpath
