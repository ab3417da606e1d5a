import Lightpath.Lifecycle.Verdict
import Lightpath.Simulation.Element
import Lightpath.Text.Affix

/-!
Assertions on a verdict and on what a run leaves behind on an element.
-/

namespace Lightpath

/-- Which assertion does not hold. -/
inductive AssertionError where
  | flagMismatch (check : Check) (expected actual : Bool)
  | findingMissing (check : Check) (category : FindingCategory) (subject : String)
  | resourcesLeft (names : List String)
  | sessionsLeaked (number : Nat)
deriving DecidableEq, Repr

namespace AssertionError

/-- The message of an error. -/
def message
    : AssertionError → String
  | .flagMismatch check expected actual =>
      check.flagName ++ " is " ++ Verdict.flagWord actual ++ ", expected "
        ++ Verdict.flagWord expected
  | .findingMissing check category subject =>
      "No " ++ category.heading ++ " finding for " ++ check.flagName
        ++ " on a subject containing '" ++ subject ++ "'"
  | .resourcesLeft names =>
      "Resources left on the element after the run: " ++ Text.bracketed Text.quoted names
  | .sessionsLeaked number =>
      toString number ++ " management sessions were never closed"

end AssertionError

namespace Assertion

/-- The error of the first flag that is not as expected. -/
def flags (v : Verdict) (expected : List Bool)
    : Except AssertionError Unit :=
  match (Check.all.zip expected).find? fun p => v.holds p.1 ≠ p.2 with
  | some (check, value) => .error (.flagMismatch check value (v.holds check))
  | none => .ok ()

/-- Whether a text occurs in another. -/
def occursIn (part : List Char)
    : List Char → Bool
  | [] => part.isEmpty
  | c :: rest => (Text.dropFront? part (c :: rest)).isSome || occursIn part rest

/-- The error of a verdict without a finding on such a subject. -/
def finding (v : Verdict) (check : Check) (category : FindingCategory) (subject : String)
    : Except AssertionError Unit :=
  if v.findings.any fun f =>
      f.check = check && f.category = category
        && occursIn subject.toList f.subject.toList
  then .ok ()
  else .error (.findingMissing check category subject)

/-- The error of an element that still holds resources or open sessions. -/
def clean (s : ElementState)
    : Except AssertionError Unit :=
  let names := s.interfaceNames ++ s.connectionNames
  if !names.isEmpty then .error (.resourcesLeft names)
  else if 0 < s.openSessions then .error (.sessionsLeaked s.openSessions)
  else .ok ()

end Assertion

end Lightpath
