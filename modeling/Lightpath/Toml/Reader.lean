import Lightpath.Toml.Table
import Lightpath.Toml.Text

/-!
Reading a configuration text as a document. Lines state keys with values or the header of the table
that the next keys belong to; values are texts, scalars, arrays and inline tables.
-/

namespace Lightpath

namespace Toml

/-- The deepest nesting of arrays and inline tables. -/
def maxDepth
    : Nat :=
  80

/-- The text without the blanks at its head. -/
def skipBlanks (cs : List Char)
    : List Char :=
  cs.dropWhile isLineBlank

/-- The rest of a text after the characters of a comment. -/
def dropComment?
    : List Char → Option (List Char)
  | [] => some []
  | '\n' :: rest => some ('\n' :: rest)
  | '\r' :: '\n' :: rest => some ('\r' :: '\n' :: rest)
  | c :: rest => if isControl c then none else dropComment? rest

/-- The text without the blanks, comments and line breaks at its head, of which there are no
more than `limit`.
-/
def skipLines? (limit : Nat) (cs : List Char)
    : Option (List Char) :=
  match limit with
  | 0 => none
  | limit + 1 =>
      match skipBlanks cs with
      | '\n' :: rest => skipLines? limit rest
      | '\r' :: '\n' :: rest => skipLines? limit rest
      | '#' :: rest =>
          match dropComment? rest with
          | some rest => skipLines? limit rest
          | none => none
      | rest => some rest

/-- The text of the next lines, after blanks, comments and line breaks. -/
def nextLine? (cs : List Char)
    : Option (List Char) :=
  skipLines? (cs.length + 1) cs

/-- What follows the end of a line: blanks and a comment may stand before it. -/
def endLine? (cs : List Char)
    : Option (List Char) :=
  let rest := skipBlanks cs
  let ended := match rest with
    | '#' :: comment => dropComment? comment
    | rest => some rest
  match ended with
  | some [] => some []
  | some ('\n' :: rest) => some rest
  | some ('\r' :: '\n' :: rest) => some rest
  | _ => none

/-- Whether a character may stand in a key without quotes. -/
def isKeyChar (c : Char)
    : Bool :=
  c.isAlphanum || c = '_' || c = '-'

/-- One part of a key and what follows it. -/
def keyPart? (cs : List Char)
    : Option (String × List Char) :=
  match lineText? cs with
  | some result => some result
  | none =>
      match cs.span isKeyChar with
      | ([], _) => none
      | (key, rest) => some (String.ofList key, rest)

/-- The greatest number of parts of a key with dots. -/
def maxKeyParts
    : Nat :=
  80

/-- A key with dots and what follows it; it has no more than `limit` parts. -/
def key? (limit : Nat) (cs : List Char)
    : Option (List String × List Char) :=
  match limit with
  | 0 => none
  | limit + 1 =>
      match keyPart? (skipBlanks cs) with
      | none => none
      | some (part, rest) =>
          match skipBlanks rest with
          | '.' :: rest => (key? limit rest).map fun (path, rest) => (part :: path, rest)
          | rest => some ([part], rest)

/-- Whether a character ends an unquoted word. -/
def endsWord (c : Char)
    : Bool :=
  c = ' ' || c = '\t' || c = '\n' || c = '\r' || c = ',' || c = ']' || c = '}' || c = '#'
    || c = '=' || c = '[' || c = '{' || c = '"' || c = '\''

/-- The unquoted word at the head and what follows; a date and a time of day may be one word. -/
def word (cs : List Char)
    : List Char × List Char :=
  let (first, rest) := cs.span fun c => !endsWord c
  match dropDate? first, rest with
  | some [], ' ' :: more =>
      let (second, rest') := more.span fun c => !endsWord c
      if (dropTime? second).isSome then (first ++ ' ' :: second, rest') else (first, rest)
  | _, _ => (first, rest)

/-- A key and its value inside an inline table, where line breaks and comments may stand on either
side of the equals sign.
-/
def assignment? {α : Type} (read : List Char → Option (α × List Char)) (cs : List Char)
    : Option (List String × α × List Char) := do
  let (path, rest) ← key? maxKeyParts cs
  match ← nextLine? rest with
  | '=' :: rest => do
      let (v, rest) ← read (← nextLine? rest)
      some (path, v, rest)
  | _ => none

mutual

/-- The value at the head of a text and what follows it; `depth` more levels may open. -/
def value? (depth : Nat) (cs : List Char)
    : Option (Json × List Char) :=
  match cs with
  | '[' :: rest =>
      match depth with
      | 0 => none
      | depth + 1 => (items? depth (rest.length + 1) rest).map fun (v, r) => (.array v, r)
  | '{' :: rest =>
      match depth with
      | 0 => none
      | depth + 1 =>
          (inline? depth (rest.length + 1) rest []).map fun (members, r) =>
            (.object (TomlNode.membersJson members), r)
  | '"' :: _ => (text? cs).map fun (s, rest) => (.string s, rest)
  | '\'' :: _ => (text? cs).map fun (s, rest) => (.string s, rest)
  | cs =>
      let (token, rest) := word cs
      (scalar? token).map fun v => (v, rest)
termination_by (depth, 0)

/-- The items of an array up to its bracket; a comma may stand after the last. -/
def items? (depth limit : Nat) (cs : List Char)
    : Option (List Json × List Char) :=
  match limit with
  | 0 => none
  | limit + 1 =>
      match nextLine? cs with
      | none => none
      | some (']' :: rest) => some ([], rest)
      | some cs =>
          match value? depth cs with
          | none => none
          | some (v, rest) =>
              match nextLine? rest with
              | some (']' :: rest) => some ([v], rest)
              | some (',' :: rest) =>
                  (items? depth limit rest).map fun (vs, r) => (v :: vs, r)
              | _ => none
termination_by (depth, limit + 1)

/-- The members of an inline table up to its brace, after those read so far. -/
def inline? (depth limit : Nat) (cs : List Char) (members : TomlNode.Members)
    : Option (TomlNode.Members × List Char) :=
  match limit with
  | 0 => none
  | limit + 1 =>
      match nextLine? cs with
      | none => none
      | some ('}' :: rest) => some (members, rest)
      | some cs =>
          match assignment? (value? depth) cs with
          | none => none
          | some (path, v, rest) =>
              match TomlNode.putValue? .stated true v path members with
              | none => none
              | some members =>
                  match nextLine? rest with
                  | some ('}' :: rest) => some (members, rest)
                  | some (',' :: rest) => inline? depth limit rest members
                  | _ => none
termination_by (depth, limit + 1)

end

/-- The path of a header up to its bracket, and what follows it. -/
def header? (cs : List Char)
    : Option (List String × List Char) :=
  match key? maxKeyParts cs with
  | some (path, ']' :: rest) => some (path, rest)
  | _ => none

/-- The path without its last key, and that key. -/
def splitPath? (path : List String)
    : Option (List String × String) :=
  match path.reverse with
  | [] => none
  | key :: before => some (before.reverse, key)

/-- A table under construction with the path of the table that keys belong to. -/
structure Draft where
  root : TomlNode.Members
  path : List String

/-- The draft after a header, which may be that of a list of tables. -/
def Draft.state? (d : Draft) (path : List String)
    (place : String → TomlNode.Members → Option TomlNode.Members)
    : Option Draft := do
  let (before, key) ← splitPath? path
  let root ← TomlNode.updateAt? (place key) before d.root
  some ⟨root, path⟩

/-- The draft after a key with its value. -/
def Draft.assign? (d : Draft) (path : List String) (v : Json)
    : Option Draft := do
  let root ← TomlNode.updateAt? (TomlNode.putValue? .stated true v path) d.path d.root
  some { d with root := root }

/-- The draft after one line, which is not empty, and the lines that follow. -/
def line? (d : Draft)
    : List Char → Option (Draft × List Char)
  | '[' :: '[' :: cs => do
      let (path, rest) ← header? cs
      match rest with
      | ']' :: rest =>
          let d ← d.state? path TomlNode.stateItem?
          let rest ← endLine? rest
          some (d, rest)
      | _ => none
  | '[' :: cs => do
      let (path, rest) ← header? cs
      let d ← d.state? path TomlNode.stateTable?
      let rest ← endLine? rest
      some (d, rest)
  | cs => do
      let (path, rest) ← key? maxKeyParts cs
      match rest with
      | '=' :: rest =>
          let (v, rest) ← value? maxDepth (skipBlanks rest)
          let d ← d.assign? path v
          let rest ← endLine? rest
          some (d, rest)
      | _ => none

/-- The draft after all lines, of which there are no more than `limit`. -/
def lines? (limit : Nat) (d : Draft) (cs : List Char)
    : Option Draft :=
  match limit with
  | 0 => none
  | limit + 1 =>
      match nextLine? cs with
      | none => none
      | some [] => some d
      | some cs =>
          match line? d cs with
          | none => none
          | some (d, rest) => lines? limit d rest

/-- The text without the mark that some editors put at its head. -/
def dropByteOrderMark
    : List Char → List Char
  | c :: rest => if c.toNat = 0xFEFF then rest else c :: rest
  | [] => []

/-- The document that a whole configuration text holds, with its members as they stand. -/
def parse? (text : String)
    : Option Json :=
  let cs := dropByteOrderMark text.toList
  (lines? (cs.length + 1) ⟨[], []⟩ cs).map fun d => .object (TomlNode.membersJson d.root)

end Toml

end Lightpath
