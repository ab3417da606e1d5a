import Lightpath.Text.Alphanumeric
import Lightpath.Text.Blank
import Lightpath.Text.Pattern.Basic

/-!
Reading a pattern in which no brace closes, as in a field of a log filter. Counted repetitions and
names of characters in braces can therefore never be complete. In a verbose pattern blanks and
comments stand between its parts without a meaning.
-/

namespace Lightpath

namespace Pattern

/-- The characters after a comment, whose line break ends it. -/
def dropComment
    : List Char → List Char
  | [] => []
  | c :: rest => if c = '\n' then rest else dropComment rest

/-- The text without the blanks and comments at its head, of which there are no more than
`limit`.
-/
def dropGapsWithin (limit : Nat) (cs : List Char)
    : List Char :=
  match limit with
  | 0 => cs
  | limit + 1 =>
      match cs with
      | '#' :: rest => dropGapsWithin limit (dropComment rest)
      | c :: rest => if Text.isBlank c then dropGapsWithin limit rest else cs
      | [] => []

/-- The text without what has no meaning at its head. -/
def dropGaps (verbose : Bool) (cs : List Char)
    : List Char :=
  if verbose then dropGapsWithin cs.length cs else cs

/-- The next character that could matter after a hyphen in a set. In a verbose pattern blanks and one
number sign are passed over, unless nothing is left then.
-/
def following? (verbose : Bool) (cs : List Char)
    : Option Char :=
  if !verbose then cs.head?
  else
    let rest := cs.dropWhile Text.isBlank
    let rest := match rest with
      | '#' :: rest => rest.dropWhile Text.isBlank
      | rest => rest
    match rest with
    | c :: _ => some c
    | [] => cs.head?

/-- The characters with a meaning of their own in some place. -/
def metaCharacters
    : List Char :=
  ['\\', '.', '+', '*', '?', '(', ')', '|', '[', ']', '\x7b', '\x7d', '^', '$', '#', '&', '-', '~']

/-- Whether a character stands for itself after a backslash. -/
def isEscapable (c : Char)
    : Bool :=
  metaCharacters.contains c
    || (c.toNat < 128 && !c.isAlphanum && c ≠ '<' && c ≠ '>')

/-- The value of a hexadecimal digit. -/
def hexValue? (c : Char)
    : Option Nat :=
  if c.isDigit then some (c.toNat - '0'.toNat)
  else if 'a' ≤ c ∧ c ≤ 'f' then some (c.toNat - 'a'.toNat + 10)
  else if 'A' ≤ c ∧ c ≤ 'F' then some (c.toNat - 'A'.toNat + 10)
  else none

/-- The number that so many hexadecimal digits state, and what follows them. -/
def hexNumber? (verbose : Bool) (value : Nat)
    : Nat → List Char → Option (Nat × List Char)
  | 0, cs => some (value, cs)
  | digits + 1, cs =>
      match cs with
      | [] => none
      | c :: rest => do
          let digit ← hexValue? c
          hexNumber? verbose (value * 16 + digit) digits (dropGaps verbose rest)

/-- The character with a number of so many hexadecimal digits, and what follows it. -/
def hexCharacter? (verbose : Bool) (digits : Nat) (cs : List Char)
    : Option (PatternAtom × List Char) := do
  let (n, rest) ← hexNumber? verbose 0 digits (dropGaps verbose cs)
  if n < 0xD800 ∨ (0xDFFF < n ∧ n < 0x110000) then
    some (.literal (Char.ofNat n) (digits = 2), rest)
  else none

/-- The class of characters that a letter names, and what follows it. -/
def category? (verbose : Bool) (cs : List Char)
    : Option (PatternAtom × List Char) :=
  match dropGaps verbose cs with
  | [] => none
  | c :: rest => if c = '\\' then none else some (.category c, dropGaps verbose rest)

/-- What a backslash and the characters after it stand for, and what follows. -/
def escape? (verbose : Bool)
    : List Char → Option (PatternAtom × List Char)
  | [] => none
  | c :: rest =>
      if c = 'x' then hexCharacter? verbose 2 rest
      else if c = 'u' then hexCharacter? verbose 4 rest
      else if c = 'U' then hexCharacter? verbose 8 rest
      else if c = 'p' || c = 'P' then category? verbose rest
      else if c = 'd' || c = 's' || c = 'w' then some (.shorthand false, rest)
      else if c = 'D' || c = 'S' || c = 'W' then some (.shorthand true, rest)
      else if isEscapable c then some (.literal c false, rest)
      else if c = 'A' || c = 'z' then some (.lineEdge, rest)
      else if c = 'b' || c = 'B' || c = '<' || c = '>' then some (.wordEdge, rest)
      else
        match [('a', '\x07'), ('f', '\x0c'), ('t', '\t'), ('n', '\n'), ('r', '\r'),
            ('v', '\x0b')].lookup c with
        | some char => some (.literal char false, rest)
        | none => none

/-- The letters of flags. -/
def flagLetters
    : List Char :=
  ['i', 'm', 's', 'U', 'u', 'R', 'x']

/-- Flags up to a closing parenthesis or a colon, after the characters read so far in reverse, with
that mark and what follows it. Every flag and the hyphen for negation stand only once.
-/
def readFlags? (read : List Char) (flags : PatternFlags)
    : List Char → Option (List Char × PatternFlags × Char × List Char)
  | [] => none
  | c :: rest =>
      if c = ':' || c = ')' then
        if read.head? = some '-' then none else some (read, flags, c, rest)
      else if read.contains c then none
      else if c = '-' then readFlags? (c :: read) flags rest
      else if flagLetters.contains c then
        let isSet := !read.contains '-'
        let flags := match c with
          | 'x' => { flags with verbose := some isSet }
          | 'u' => { flags with unicode := some isSet }
          | _ => flags
        readFlags? (c :: read) flags rest
      else none

/-- Whether a character can stand in the name of a group. -/
def isNameChar (isFirst : Bool) (c : Char)
    : Bool :=
  if isFirst then c = '_' || Text.isAlphabetic c
  else c = '_' || c = '.' || c = '[' || c = ']' || Text.isAlphanumeric c

/-- The name of a group up to its angle bracket, and what follows. -/
def groupName? (cs : List Char)
    : Option (String × List Char) :=
  match cs.span (· ≠ '>') with
  | (c :: name, _ :: rest) =>
      if isNameChar true c && name.all (isNameChar false) then
        some (String.ofList (c :: name), rest)
      else none
  | _ => none

/-- What an opening parenthesis begins. -/
inductive Opening where
  | setting (flags : PatternFlags)
  | group (name : Option String) (flags : PatternFlags)

/-- What a parenthesis begins, given the text after it, and what follows. -/
def opening? (verbose : Bool) (cs : List Char)
    : Option (Opening × List Char) :=
  match dropGaps verbose cs with
  | '?' :: 'P' :: '<' :: rest =>
      (groupName? rest).map fun (name, rest) => (.group name {}, rest)
  | '?' :: '<' :: rest => (groupName? rest).map fun (name, rest) => (.group name {}, rest)
  | '?' :: rest =>
      match readFlags? [] {} rest with
      | some (_, flags, ':', rest) => some (.group none flags, rest)
      | some (read, flags, _, rest) => if read.isEmpty then none else some (.setting flags, rest)
      | none => none
  | rest => some (.group none {}, rest)

/-- The names of the sets that have one inside brackets with colons. -/
def setNames
    : List String :=
  ["alnum", "alpha", "ascii", "blank", "cntrl", "digit", "graph", "lower", "print", "punct",
    "space", "upper", "word", "xdigit"]

/-- A set by its name after an opening bracket, and what follows it. -/
def namedSet? (cs : List Char)
    : Option (PatternSet × List Char) :=
  let named (negated : Bool) (cs : List Char) :=
    match cs.span (· ≠ ':') with
    | (name, ':' :: ']' :: rest) =>
        if setNames.contains (String.ofList name) then some (PatternSet.named negated, rest)
        else none
    | _ => none
  match cs with
  | ':' :: '^' :: rest => named true rest
  | ':' :: rest => named false rest
  | _ => none

/-- One character of a set, with or without a backslash, and what follows it. -/
def setAtom? (verbose : Bool)
    : List Char → Option (PatternAtom × List Char)
  | [] => none
  | '\\' :: rest => escape? verbose rest
  | c :: rest => some (.literal c false, rest)

/-- A set of one atom, if it can be in a set at all. -/
def setOfAtom?
    : PatternAtom → Option PatternSet
  | .literal c isByte => some (.single (.literal c isByte))
  | .shorthand negated => some (.single (.shorthand negated))
  | .category letter => some (.single (.category letter))
  | _ => none

/-- The range between two atoms, if they are characters in order. -/
def setOfRange?
    : PatternAtom → PatternAtom → Option PatternSet
  | .literal first a, .literal last b =>
      if first ≤ last then some (.range (.literal first a) (.literal last b)) else none
  | _, _ => none

/-- A character or a range of a set, and what follows it. -/
def setPart? (verbose : Bool) (cs : List Char)
    : Option (PatternSet × List Char) := do
  let (first, rest) ← setAtom? verbose cs
  match dropGaps verbose rest with
  | [] => none
  | '-' :: rest =>
      let next := following? verbose rest
      if next = some ']' ∨ next = some '-' then
        (setOfAtom? first).map fun set => (set, '-' :: rest)
      else
        let (last, rest) ← setAtom? verbose (dropGaps verbose rest)
        (setOfRange? first last).map fun set => (set, rest)
  | rest => (setOfAtom? first).map fun set => (set, rest)

/-- The operation that two equal marks stand for. -/
def setOperation?
    : List Char → Option (SetOperation × List Char)
  | '&' :: '&' :: rest => some (.intersection, rest)
  | '-' :: '-' :: rest => some (.difference, rest)
  | '~' :: '~' :: rest => some (.symmetricDifference, rest)
  | _ => none

/-- The hyphens at the head of a set, which stand for themselves, and what follows them. -/
def leadingHyphens (verbose : Bool) (limit : Nat) (cs : List Char)
    : Nat × List Char :=
  match limit, cs with
  | limit + 1, '-' :: rest =>
      let (n, rest) := leadingHyphens verbose limit (dropGaps verbose rest)
      (n + 1, rest)
  | _, cs => (0, cs)

/-- The head of a set after its bracket: whether it is negated, the parts that the head holds, and
what follows.
-/
def setHead (verbose : Bool) (cs : List Char)
    : Bool × List PatternSet × List Char :=
  let cs := dropGaps verbose cs
  let (negated, cs) := match cs with
    | '^' :: rest => (true, dropGaps verbose rest)
    | cs => (false, cs)
  match leadingHyphens verbose cs.length cs with
  | (0, ']' :: rest) => (negated, [.single (.literal ']' false)], dropGaps verbose rest)
  | (n, rest) => (negated, List.replicate n (.single (.literal '-' false)), rest)

/-- What stands before an operation, joined to the parts after it. -/
def joinSets (before : Option (SetOperation × PatternSet)) (parts : List PatternSet)
    : PatternSet :=
  let set := PatternSet.ofParts parts
  match before with
  | some (kind, left) => .operation kind left set
  | none => set

/-- The rest of a set up to its bracket, given the parts read so far in reverse and what stands
before the last operation; no more than `limit` parts are read.
-/
def readSet? (verbose : Bool) (limit : Nat) (negated : Bool)
    (before : Option (SetOperation × PatternSet)) (parts : List PatternSet) (cs : List Char)
    : Option (PatternSet × List Char) :=
  match limit with
  | 0 => none
  | limit + 1 =>
      let cs := dropGaps verbose cs
      match setOperation? cs with
      | some (kind, rest) =>
          readSet? verbose limit negated (some (kind, joinSets before parts.reverse)) [] rest
      | none =>
          match cs with
          | [] => none
          | ']' :: rest => some (.bracketed negated (joinSets before parts.reverse), rest)
          | '[' :: rest =>
              match namedSet? rest with
              | some (set, rest) => readSet? verbose limit negated before (set :: parts) rest
              | none =>
                  let (isNegated, head, rest) := setHead verbose rest
                  match readSet? verbose limit isNegated none head.reverse rest with
                  | some (set, rest) => readSet? verbose limit negated before (set :: parts) rest
                  | none => none
          | cs =>
              match setPart? verbose cs with
              | some (set, rest) => readSet? verbose limit negated before (set :: parts) rest
              | none => none

/-- A set after its opening bracket, and what follows it. -/
def set? (verbose : Bool) (cs : List Char)
    : Option (PatternSet × List Char) :=
  let (negated, head, rest) := setHead verbose cs
  readSet? verbose (cs.length + 1) negated none head.reverse rest

/-- Whether a pattern can be repeated. -/
def isRepeatable
    : Pattern → Bool
  | .empty => false
  | .setting _ => false
  | _ => true

/-- A part that stands on its own: an escape, a set, or a single character. -/
def part? (verbose : Bool)
    : List Char → Option (Pattern × List Char)
  | [] => none
  | '\\' :: rest => (escape? verbose rest).map fun (atom, rest) => (.single atom, rest)
  | '[' :: rest => (set? verbose rest).map fun (set, rest) => (.oneOf set, rest)
  | '.' :: rest => some (.single .anyCharacter, rest)
  | '^' :: rest => some (.single .lineEdge, rest)
  | '$' :: rest => some (.single .lineEdge, rest)
  | c :: rest => if c = '\x7b' then none else some (.single (.literal c false), rest)

/-- The alternatives up to a closing parenthesis or the end, given the parts of the present one and
the ones before it, both in reverse; no more than `limit` steps are made.
-/
def alternatives? (verbose : Bool) (limit : Nat) (parts before : List Pattern) (cs : List Char)
    : Option (Pattern × List Char) :=
  match limit with
  | 0 => none
  | limit + 1 =>
      let finished (rest : List Char) :=
        some (ofAlternatives ((ofSequence parts.reverse :: before).reverse), rest)
      match dropGaps verbose cs with
      | [] => finished []
      | ')' :: rest => finished (')' :: rest)
      | '|' :: rest =>
          alternatives? verbose limit [] (ofSequence parts.reverse :: before) rest
      | '(' :: rest =>
          match opening? verbose rest with
          | none => none
          | some (.setting flags, rest) =>
              alternatives? (flags.verbose.getD verbose) limit (.setting flags :: parts) before rest
          | some (.group name flags, rest) =>
              match alternatives? (flags.verbose.getD verbose) limit [] [] rest with
              | some (inner, ')' :: rest) =>
                  alternatives? verbose limit (.group name flags inner :: parts) before rest
              | _ => none
      | c :: rest =>
          if c = '?' || c = '*' || c = '+' then
            match parts with
            | last :: parts =>
                if isRepeatable last then
                  let rest := match rest with
                    | '?' :: rest => rest
                    | rest => rest
                  alternatives? verbose limit (.repetition last :: parts) before rest
                else none
            | [] => none
          else
            match part? verbose (c :: rest) with
            | some (part, rest) => alternatives? verbose limit (part :: parts) before rest
            | none => none

/-- The pattern that a whole text states. -/
def ofChars? (cs : List Char)
    : Option Pattern :=
  match alternatives? false (cs.length + 1) [] [] cs with
  | some (pattern, []) => some pattern
  | _ => none

end Pattern

end Lightpath
