import Lightpath.Json.Reader

/-!
Reading those parts of a document that a record knows. The values of other members are passed over:
they have to be well formed, but it does not matter whether their numbers are in range, whether the
surrogates in their strings have partners, or how deep they nest.
-/

namespace Lightpath

/-- A reader of the value at the head of a text, which also says what follows it. -/
abbrev JsonReader :=
  List Char → Option (Json × List Char)

namespace Json

/-- What follows a string, whose opening quote has been read. -/
def skipString?
    : List Char → Option (List Char)
  | [] => none
  | '"' :: rest => some rest
  | '\\' :: 'u' :: a :: b :: c :: d :: rest =>
      if (hexQuad? a b c d).isSome then skipString? rest else none
  | '\\' :: c :: rest => if (escaped? c).isSome then skipString? rest else none
  | c :: rest => if c.toNat < 32 then none else skipString? rest

mutual

/-- What follows a value; no more than `limit` steps are made. -/
def skipValue? (limit : Nat) (cs : List Char)
    : Option (List Char) :=
  match limit with
  | 0 => none
  | limit + 1 =>
      match cs with
      | 'n' :: 'u' :: 'l' :: 'l' :: rest => some rest
      | 't' :: 'r' :: 'u' :: 'e' :: rest => some rest
      | 'f' :: 'a' :: 'l' :: 's' :: 'e' :: rest => some rest
      | '"' :: rest => skipString? rest
      | '[' :: rest =>
          match skipSpace rest with
          | ']' :: rest => some rest
          | rest => skipItems? limit rest
      | '{' :: rest =>
          match skipSpace rest with
          | '}' :: rest => some rest
          | rest => skipMembers? limit rest
      | cs => (Numeral.token? cs).map fun (_, rest) => rest

/-- What follows the items of an array and its bracket. -/
def skipItems? (limit : Nat) (cs : List Char)
    : Option (List Char) :=
  match limit with
  | 0 => none
  | limit + 1 =>
      match skipValue? limit (skipSpace cs) with
      | none => none
      | some rest =>
          match skipSpace rest with
          | ']' :: rest => some rest
          | ',' :: rest => skipItems? limit rest
          | _ => none

/-- What follows the members of an object and its brace. -/
def skipMembers? (limit : Nat) (cs : List Char)
    : Option (List Char) :=
  match limit with
  | 0 => none
  | limit + 1 =>
      match skipSpace cs with
      | '"' :: rest =>
          match (skipString? rest).map skipSpace with
          | some (':' :: rest) =>
              match (skipValue? limit (skipSpace rest)).map skipSpace with
              | some ('}' :: rest) => some rest
              | some (',' :: rest) => skipMembers? limit rest
              | _ => none
          | _ => none
      | _ => none

end

/-- What follows the value at the head of a text, of which nothing is kept. -/
def skip? (cs : List Char)
    : Option (List Char) :=
  skipValue? (2 * cs.length + 2) cs

/-- A value read as a whole. -/
def whole
    : JsonReader :=
  parseValue? 127

/-- The items of an array up to its bracket; each is read by the reader for its place, and as a
whole where there is none.
-/
def selectItems? (readers : Nat → JsonReader) (limit place : Nat) (cs : List Char)
    : Option (List Json × List Char) :=
  match limit with
  | 0 => none
  | limit + 1 =>
      match readers place (skipSpace cs) with
      | none => none
      | some (v, rest) =>
          match skipSpace rest with
          | ']' :: rest => some ([v], rest)
          | ',' :: rest =>
              (selectItems? readers limit (place + 1) rest).map fun (vs, r) => (v :: vs, r)
          | _ => none

/-- An array whose bracket has been read. -/
def selectArray? (readers : Nat → JsonReader)
    : JsonReader :=
  fun cs =>
    match skipSpace cs with
    | ']' :: rest => some (.array [], rest)
    | rest => (selectItems? readers rest.length 0 rest).map fun (vs, r) => (.array vs, r)

/-- The members of an object up to its brace, without those that have no reader. -/
def selectMembers? (fields : List (String × JsonReader)) (limit : Nat) (cs : List Char)
    : Option (List (String × Json) × List Char) :=
  match limit with
  | 0 => none
  | limit + 1 =>
      match skipSpace cs with
      | '"' :: rest => do
          let (key, rest) ← parseString? [] rest
          match skipSpace rest with
          | ':' :: rest =>
              let rest := skipSpace rest
              let (member, rest) ← match fields.lookup key with
                | some read => (read rest).map fun (v, rest) => ([(key, v)], rest)
                | none => (skip? rest).map fun rest => ([], rest)
              match skipSpace rest with
              | '}' :: rest => some (member, rest)
              | ',' :: rest =>
                  (selectMembers? fields limit rest).map fun (ms, r) => (member ++ ms, r)
              | _ => none
          | _ => none
      | _ => none

/-- A list, each item of which is read the same way. -/
def listOf (item : JsonReader)
    : JsonReader
  | '[' :: rest => selectArray? (fun _ => item) rest
  | cs => whole cs

/-- A record with the given fields, by name or by place. -/
def recordOf (fields : List (String × JsonReader))
    : JsonReader
  | '{' :: rest =>
      match skipSpace rest with
      | '}' :: rest => some (.object [], rest)
      | rest => (selectMembers? fields rest.length rest).map fun (ms, r) => (.object ms, r)
  | '[' :: rest =>
      selectArray? (fun place => ((fields[place]?).map Prod.snd).getD whole) rest
  | cs => whole cs

/-- The document that a whole text holds, as far as a reader keeps it. -/
def select? (read : JsonReader) (text : String)
    : Option Json :=
  match read (skipSpace text.toList) with
  | some (v, rest) => if (skipSpace rest).isEmpty then some v else none
  | none => none

end Json

end Lightpath
