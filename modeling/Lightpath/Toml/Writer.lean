import Lightpath.Toml.Scalar

/-!
The quoted form of a text in a configuration text. Escapes are used only where no other form holds the
text: plain quotes first, then verbatim ones, then the forms for several lines.
-/

namespace Lightpath

namespace Toml

/-- The length of the longest run of a character. -/
def longestRun (mark : Char) (cs : List Char)
    : Nat :=
  (cs.foldl
    (fun (run, best) c => if c = mark then (run + 1, max best (run + 1)) else (0, best))
    ((0, 0) : Nat × Nat)).2

/-- Whether a character can only be written as an escape. -/
def needsEscape (c : Char)
    : Bool :=
  (c.toNat < 32 && c ≠ '\t' && c ≠ '\n') || c.toNat = 127

/-- The escape of a character by its number. -/
def numericEscape (c : Char)
    : List Char :=
  let digits := (Nat.toDigits 16 c.toNat).map Char.toUpper
  ['\\', 'u'] ++ List.replicate (4 - digits.length) '0' ++ digits

/-- The characters of a text with escapes, after a run of `quotes` quotes; a quote that would
make the run longer than `free` is escaped, and line breaks only if `oneLine`.
-/
def escapeText (free : Nat) (oneLine : Bool) (quotes : Nat)
    : List Char → List Char
  | [] => []
  | c :: rest =>
      if c = '"' then
        if free ≤ quotes then '\\' :: '"' :: escapeText free oneLine 0 rest
        else '"' :: escapeText free oneLine (quotes + 1) rest
      else
        let shown :=
          if c = '\\' then ['\\', '\\']
          else if c = '\x08' then ['\\', 'b']
          else if c = '\t' then ['\\', 't']
          else if c = '\n' then if oneLine then ['\\', 'n'] else ['\n']
          else if c = '\x0c' then ['\\', 'f']
          else if c = '\r' then ['\\', 'r']
          else if needsEscape c then numericEscape c
          else [c]
        shown ++ escapeText free oneLine 0 rest

/-- A text between delimiters; on several lines its first line starts below the delimiter. -/
def delimited (delimiter : String) (lineBreak : Bool) (cs : List Char)
    : String :=
  delimiter ++ (if lineBreak then "\n" else "") ++ String.ofList cs ++ delimiter

/-- A text in the plainest form that holds it. -/
def quote (s : String)
    : String :=
  let cs := s.toList
  let breaks := cs.contains '\n'
  let controls := cs.any needsEscape
  let backslash := cs.contains '\\'
  let singles := longestRun '\'' cs
  let doubles := longestRun '"' cs
  let basic := delimited "\"" false (escapeText 0 true 0 cs)
  let longBasic := delimited "\"\"\"" breaks (escapeText 2 false 0 cs)
  if !controls && !backslash && doubles = 0 && !breaks then basic
  else if !controls && singles = 0 && !breaks then delimited "'" false cs
  else if !controls && !backslash && doubles ≤ 2 then longBasic
  else if !controls && singles ≤ 2 then delimited "'''" breaks cs
  else if breaks then longBasic
  else basic

end Toml

end Lightpath
