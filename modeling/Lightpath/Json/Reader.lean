import Lightpath.Json.Numeral

/-!
Reading the text of a document. `Json.parseValue?` keeps the members as they stand, in their order
and with repeated names; `Json.parse?` puts them into the order of their names, where a later
member takes the place of an earlier one. Documents nest at most 127 deep.
-/

namespace Lightpath

namespace Json

/-- The text without the spaces and line breaks at its head. -/
def skipSpace (cs : List Char)
    : List Char :=
  cs.dropWhile fun c => c = ' ' || c = '\t' || c = '\n' || c = '\r'

/-- The value of a hexadecimal digit. -/
def hexValue? (c : Char)
    : Option Nat :=
  if '0' ≤ c ∧ c ≤ '9' then some (c.toNat - '0'.toNat)
  else if 'a' ≤ c ∧ c ≤ 'f' then some (c.toNat - 'a'.toNat + 10)
  else if 'A' ≤ c ∧ c ≤ 'F' then some (c.toNat - 'A'.toNat + 10)
  else none

/-- The number written with four hexadecimal digits. -/
def hexQuad? (a b c d : Char)
    : Option Nat := do
  let a ← hexValue? a
  let b ← hexValue? b
  let c ← hexValue? c
  let d ← hexValue? d
  some (((a * 16 + b) * 16 + c) * 16 + d)

/-- The character that a letter after a backslash stands for. -/
def escaped?
    : Char → Option Char
  | '"' => some '"'
  | '\\' => some '\\'
  | '/' => some '/'
  | 'b' => some '\x08'
  | 'f' => some '\x0c'
  | 'n' => some '\n'
  | 'r' => some '\r'
  | 't' => some '\t'
  | _ => none

/-- The character of a pair of surrogates. -/
def surrogatePair (high low : Nat)
    : Char :=
  Char.ofNat (0x10000 + (high - 0xD800) * 0x400 + (low - 0xDC00))

/-- The rest of a string up to its closing quote, after the characters read so far, which stand
in reverse. A surrogate has to be the half of a pair.
-/
def parseString? (read : List Char)
    : List Char → Option (String × List Char)
  | [] => none
  | '"' :: rest => some (String.ofList read.reverse, rest)
  | '\\' :: 'u' :: a :: b :: c :: d :: rest =>
      match hexQuad? a b c d with
      | none => none
      | some n =>
          if 0xDC00 ≤ n ∧ n ≤ 0xDFFF then none
          else if 0xD800 ≤ n ∧ n ≤ 0xDBFF then
            match rest with
            | '\\' :: 'u' :: a' :: b' :: c' :: d' :: rest' =>
                match hexQuad? a' b' c' d' with
                | some m =>
                    if 0xDC00 ≤ m ∧ m ≤ 0xDFFF then
                      parseString? (surrogatePair n m :: read) rest'
                    else none
                | none => none
            | _ => none
          else parseString? (Char.ofNat n :: read) rest
  | '\\' :: c :: rest =>
      match escaped? c with
      | some c => parseString? (c :: read) rest
      | none => none
  | c :: rest => if c.toNat < 32 then none else parseString? (c :: read) rest

mutual

/-- The value at the head of a text and what follows it; `depth` more levels may open. -/
def parseValue? (depth : Nat) (cs : List Char)
    : Option (Json × List Char) :=
  match cs with
  | 'n' :: 'u' :: 'l' :: 'l' :: rest => some (.null, rest)
  | 't' :: 'r' :: 'u' :: 'e' :: rest => some (.bool true, rest)
  | 'f' :: 'a' :: 'l' :: 's' :: 'e' :: rest => some (.bool false, rest)
  | '"' :: rest => (parseString? [] rest).map fun (s, rest) => (.string s, rest)
  | '[' :: rest =>
      match depth with
      | 0 => none
      | depth + 1 =>
          match skipSpace rest with
          | ']' :: rest => some (.array [], rest)
          | rest => (parseItems? depth rest.length rest).map fun (v, r) => (.array v, r)
  | '{' :: rest =>
      match depth with
      | 0 => none
      | depth + 1 =>
          match skipSpace rest with
          | '}' :: rest => some (.object [], rest)
          | rest => (parseMembers? depth rest.length rest).map fun (v, r) => (.object v, r)
  | cs => (Numeral.read? cs).map fun (n, rest) => (.number n, rest)
termination_by (depth, 0)

/-- The items of an array up to its closing bracket; there are at most `limit` of them. -/
def parseItems? (depth limit : Nat) (cs : List Char)
    : Option (List Json × List Char) :=
  match limit with
  | 0 => none
  | limit + 1 =>
      match parseValue? depth (skipSpace cs) with
      | none => none
      | some (v, rest) =>
          match skipSpace rest with
          | ']' :: rest => some ([v], rest)
          | ',' :: rest => (parseItems? depth limit rest).map fun (vs, r) => (v :: vs, r)
          | _ => none
termination_by (depth, limit + 1)

/-- The members of an object up to its closing brace; there are at most `limit` of them. -/
def parseMembers? (depth limit : Nat) (cs : List Char)
    : Option (List (String × Json) × List Char) :=
  match limit with
  | 0 => none
  | limit + 1 =>
      match skipSpace cs with
      | '"' :: rest =>
          match parseString? [] rest with
          | none => none
          | some (key, rest) =>
              match skipSpace rest with
              | ':' :: rest =>
                  match parseValue? depth (skipSpace rest) with
                  | none => none
                  | some (v, rest) =>
                      match skipSpace rest with
                      | '}' :: rest => some ([(key, v)], rest)
                      | ',' :: rest =>
                          (parseMembers? depth limit rest).map fun (ms, r) =>
                            ((key, v) :: ms, r)
                      | _ => none
              | _ => none
      | _ => none
termination_by (depth, limit + 1)

end

mutual

/-- The document with the members of each object in the order of their names. -/
def sorted
    : Json → Json
  | .array items => .array (sortedItems items)
  | .object members => .object (Keyed.ofList (sortedMembers members))
  | v => v

/-- Each item with its members sorted. -/
def sortedItems
    : List Json → List Json
  | [] => []
  | v :: rest => sorted v :: sortedItems rest

/-- Each member's value with its members sorted. -/
def sortedMembers
    : List (String × Json) → List (String × Json)
  | [] => []
  | (k, v) :: rest => (k, sorted v) :: sortedMembers rest

end

/-- The document that a whole text holds. -/
def parse? (text : String)
    : Option Json :=
  match parseValue? 127 (skipSpace text.toList) with
  | some (v, rest) => if (skipSpace rest).isEmpty then some (sorted v) else none
  | none => none

end Json

end Lightpath
