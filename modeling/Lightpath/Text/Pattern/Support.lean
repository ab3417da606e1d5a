import Lightpath.Text.Pattern.Reader

/-!
Which patterns can be used. A pattern matches texts and not bytes, so that one without Unicode may
not reach beyond ASCII; the edges of words are known in ASCII alone.
-/

namespace Lightpath

/-- Whether an atom can be used, with Unicode or without. -/
def PatternAtom.isSupported (unicode : Bool)
    : PatternAtom → Bool
  | .literal c isByte => unicode || !isByte || c.toNat < 128
  | .anyCharacter => unicode
  | .lineEdge => true
  | .wordEdge => !unicode
  | .shorthand negated => unicode || !negated
  | .category letter => unicode && ['c', 'l', 'm', 'n', 'p', 's', 'z'].contains letter.toLower

/-- Whether the outcome of an operation holds what the left set and the right set hold or not. -/
def SetOperation.holds
    : SetOperation → Bool → Bool → Bool
  | .intersection, left, right => left && right
  | .difference, left, right => left && !right
  | .symmetricDifference, left, right => left != right

namespace PatternSet

/-- Whether an atom can be used in a set. -/
def supportsAtom (unicode : Bool) (atom : PatternAtom)
    : Bool :=
  atom.isSupported unicode && match atom with
    | .literal c _ => unicode || c.toNat < 128
    | _ => true

mutual

/-- Whether a set holds what lies beyond ASCII, if it can be used. Without Unicode no set in brackets
may do so.
-/
def beyondAscii? (unicode : Bool)
    : PatternSet → Option Bool
  | .empty => some false
  | .single atom => if supportsAtom unicode atom then some false else none
  | .range first last =>
      if supportsAtom unicode first && supportsAtom unicode last then some false else none
  | .named negated => if !unicode && negated then none else some negated
  | .union parts => anyBeyondAscii? unicode parts
  | .bracketed negated inner => do
      let inside ← beyondAscii? unicode inner
      if !unicode && inside != negated then none else some (inside != negated)
  | .operation kind left right => do
      let left ← beyondAscii? unicode left
      let right ← beyondAscii? unicode right
      some (kind.holds left right)

/-- Whether one of several sets holds what lies beyond ASCII, if all can be used. -/
def anyBeyondAscii? (unicode : Bool)
    : List PatternSet → Option Bool
  | [] => some false
  | part :: rest => do
      let first ← beyondAscii? unicode part
      let others ← anyBeyondAscii? unicode rest
      some (first || others)

end

end PatternSet

namespace Pattern

mutual

/-- Whether Unicode holds after a pattern, if it can be used where Unicode holds or not. -/
def unicodeAfter? (unicode : Bool)
    : Pattern → Option Bool
  | .empty => some unicode
  | .single atom => if atom.isSupported unicode then some unicode else none
  | .setting flags => some (flags.unicode.getD unicode)
  | .oneOf set => (set.beyondAscii? unicode).map fun _ => unicode
  | .group _ flags inner =>
      (unicodeAfter? (flags.unicode.getD unicode) inner).map fun _ => unicode
  | .repetition inner => unicodeAfter? unicode inner
  | .sequence parts => unicodeAfterParts? unicode parts
  | .alternatives parts => unicodeAfterParts? unicode parts

/-- Whether Unicode holds after several patterns, if all can be used. -/
def unicodeAfterParts? (unicode : Bool)
    : List Pattern → Option Bool
  | [] => some unicode
  | part :: rest => (unicodeAfter? unicode part).bind fun unicode => unicodeAfterParts? unicode rest

end

/-- The deepest nesting. -/
def maxDepth
    : Nat :=
  250

/-- Whether a pattern can be used: no two groups have one name, it does not nest too deep, and all
its parts can be used.
-/
def isSupported (p : Pattern)
    : Bool :=
  p.names.Nodup && p.depth ≤ maxDepth && (p.unicodeAfter? true).isSome

end Pattern

end Lightpath
