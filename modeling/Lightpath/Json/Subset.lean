import Lightpath.Json.Writer

/-!
Whether a document holds everything that another one states. Members that are only in the actual
document do not matter, arrays are compared without regard to order, and the first place where the
two part is reported with its path.
-/

namespace Lightpath

/-- How two documents part at a place. -/
inductive MismatchReason where
  | missingKey
  | sequenceDiffers (expected actual : Json)
  | valueDiffers (expected actual : Json)
deriving Repr

/-- The first place where two documents part, by the keys that lead there. -/
structure Mismatch where
  keys : List String
  reason : MismatchReason
deriving Repr

namespace Mismatch

/-- The path of a mismatch. -/
def path (m : Mismatch)
    : String :=
  "/" ++ "/".intercalate m.keys

/-- The text of a mismatch. -/
def message (m : Mismatch)
    : String :=
  match m.reason with
  | .missingKey => m.path ++ ": missing"
  | .sequenceDiffers expected actual =>
      m.path ++ ": expected sequence " ++ expected.compact ++ " got " ++ actual.compact
  | .valueDiffers expected actual =>
      m.path ++ ": expected " ++ expected.compact ++ " got " ++ actual.compact

end Mismatch

namespace Json

/-- The list without the first item that equals the given one, if there is any. -/
def removeFirst? (v : Json)
    : List Json → Option (List Json)
  | [] => none
  | w :: rest => if w == v then some rest else (removeFirst? v rest).map (w :: ·)

/-- Whether two lists have the same items, each as often, in any order. -/
def sameItems
    : List Json → List Json → Bool
  | [], actual => actual.isEmpty
  | v :: rest, actual =>
      match removeFirst? v actual with
      | some others => sameItems rest others
      | none => false

mutual

/-- The first mismatch of two values, reached by the given keys. -/
def valueMismatch? (keys : List String)
    : Json → Json → Option Mismatch
  | .object fields, .object members => memberMismatch? keys (.object members) fields
  | .array expected, .array actual =>
      if sameItems expected actual then none
      else some ⟨keys, .sequenceDiffers (.array expected) (.array actual)⟩
  | expected, actual =>
      if expected == actual then none else some ⟨keys, .valueDiffers expected actual⟩

/-- The first mismatch among the expected members, in their order. -/
def memberMismatch? (keys : List String) (actual : Json)
    : List (String × Json) → Option Mismatch
  | [] => none
  | (k, expected) :: rest =>
      let found := match actual.get? k with
        | none => some ⟨keys ++ [k], .missingKey⟩
        | some v => valueMismatch? (keys ++ [k]) expected v
      match found with
      | some m => some m
      | none => memberMismatch? keys actual rest

end

/-- The first mismatch of an expected and an actual document. -/
def mismatch? (expected actual : Json)
    : Option Mismatch :=
  match expected with
  | .object fields => memberMismatch? [] actual fields
  | _ => valueMismatch? [] expected actual

/-- Whether the actual document holds everything that the expected one states. -/
def isSubset (expected actual : Json)
    : Bool :=
  (mismatch? expected actual).isNone

end Json

end Lightpath
