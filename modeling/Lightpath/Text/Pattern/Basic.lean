/-!
Patterns for texts, as trees. A pattern is made of single characters and places in a text, which are
put in a row, offered as alternatives, grouped and repeated; a set of characters is a tree of its own.
-/

namespace Lightpath

/-- The smallest parts of a pattern. A literal can be the number of a byte. -/
inductive PatternAtom where
  | literal (char : Char) (isByte : Bool)
  | anyCharacter
  | lineEdge
  | wordEdge
  | shorthand (negated : Bool)
  | category (letter : Char)
deriving DecidableEq, Repr

/-- The operations on two sets of characters. -/
inductive SetOperation where
  | intersection
  | difference
  | symmetricDifference
deriving DecidableEq, Repr

/-- A set of characters. -/
inductive PatternSet where
  | empty
  | single (atom : PatternAtom)
  | range (first last : PatternAtom)
  | named (negated : Bool)
  | union (parts : List PatternSet)
  | bracketed (negated : Bool) (inner : PatternSet)
  | operation (kind : SetOperation) (left right : PatternSet)
deriving Repr

/-- What flags say of blanks and of Unicode, where they say it. -/
structure PatternFlags where
  verbose : Option Bool := none
  unicode : Option Bool := none
deriving DecidableEq, Repr

/-- A pattern. A group may have a name, or flags that hold inside it. -/
inductive Pattern where
  | empty
  | single (atom : PatternAtom)
  | setting (flags : PatternFlags)
  | oneOf (set : PatternSet)
  | group (name : Option String) (flags : PatternFlags) (inner : Pattern)
  | repetition (inner : Pattern)
  | sequence (parts : List Pattern)
  | alternatives (parts : List Pattern)
deriving Repr

namespace PatternSet

/-- The union of sets; one alone is its own. -/
def ofParts
    : List PatternSet → PatternSet
  | [] => .empty
  | [part] => part
  | parts => .union parts

mutual

/-- How deep unions, operations and brackets nest. -/
def depth
    : PatternSet → Nat
  | .union parts => depthOfParts parts + 1
  | .bracketed _ inner => depth inner + 1
  | .operation _ left right => max (depth left) (depth right) + 1
  | _ => 0

/-- The greatest depth of several sets. -/
def depthOfParts
    : List PatternSet → Nat
  | [] => 0
  | part :: rest => max (depth part) (depthOfParts rest)

end

end PatternSet

namespace Pattern

/-- Patterns in a row; one alone is its own. -/
def ofSequence
    : List Pattern → Pattern
  | [] => .empty
  | [part] => part
  | parts => .sequence parts

/-- Patterns to choose from; one alone is its own. -/
def ofAlternatives
    : List Pattern → Pattern
  | [] => .empty
  | [part] => part
  | parts => .alternatives parts

mutual

/-- How deep groups, repetitions, rows, alternatives and the parts of sets nest. -/
def depth
    : Pattern → Nat
  | .oneOf set => set.depth
  | .group _ _ inner => depth inner + 1
  | .repetition inner => depth inner + 1
  | .sequence parts => depthOfParts parts + 1
  | .alternatives parts => depthOfParts parts + 1
  | _ => 0

/-- The greatest depth of several patterns. -/
def depthOfParts
    : List Pattern → Nat
  | [] => 0
  | part :: rest => max (depth part) (depthOfParts rest)

end

mutual

/-- The names of the groups in order. -/
def names
    : Pattern → List String
  | .group name _ inner => name.toList ++ names inner
  | .repetition inner => names inner
  | .sequence parts => namesOfParts parts
  | .alternatives parts => namesOfParts parts
  | _ => []

/-- The names of the groups of several patterns. -/
def namesOfParts
    : List Pattern → List String
  | [] => []
  | part :: rest => names part ++ namesOfParts rest

end

end Pattern

end Lightpath
