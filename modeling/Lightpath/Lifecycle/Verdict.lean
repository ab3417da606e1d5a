import Lightpath.Json.Basic

/-!
The verdict of a run: a flag for each of five checks, and the findings in the order of their
recording. Every flag starts set; a finding takes the flag of its check away, and nothing sets one
again.
-/

namespace Lightpath

/-- What a run checks of each service. -/
inductive Check where
  | create
  | config
  | pm
  | alarm
  | delete
deriving DecidableEq, Repr

namespace Check

/-- All checks in order. -/
def all
    : List Check :=
  [.create, .config, .pm, .alarm, .delete]

/-- The word of a check. -/
def word
    : Check → String
  | .create => "create"
  | .config => "config"
  | .pm => "pm"
  | .alarm => "alarm"
  | .delete => "delete"

/-- The name of a check's flag. -/
def flagName (c : Check)
    : String :=
  c.word ++ "Check"

end Check

/-- The sorts of finding. -/
inductive FindingCategory where
  | assertionMismatch
  | telemetryUnavailable
  | lifecycleInconsistency
  | reconstruction
deriving DecidableEq, Repr

namespace FindingCategory

/-- All sorts. -/
def all
    : List FindingCategory :=
  [.assertionMismatch, .telemetryUnavailable, .lifecycleInconsistency, .reconstruction]

/-- The word of a sort. -/
def word
    : FindingCategory → String
  | .assertionMismatch => "assertion-mismatch"
  | .telemetryUnavailable => "telemetry-unavailable"
  | .lifecycleInconsistency => "lifecycle-inconsistency"
  | .reconstruction => "reconstruction"

/-- The heading of a sort in a listing. -/
def heading
    : FindingCategory → String
  | .assertionMismatch => "AssertionMismatch"
  | .telemetryUnavailable => "TelemetryUnavailable"
  | .lifecycleInconsistency => "LifecycleInconsistency"
  | .reconstruction => "Reconstruction"

end FindingCategory

/-- Something that speaks against a check, about a port, an interface or a service. -/
structure Finding where
  check : Check
  category : FindingCategory
  subject : String
  detail : String
deriving DecidableEq, Repr

namespace Finding

/-- The members of the document of a finding, in the order of their listing. -/
def fields (f : Finding)
    : List (String × Json) :=
  [("check", .string f.check.word), ("category", .string f.category.word),
    ("subject", .string f.subject), ("detail", .string f.detail)]

end Finding

/-- The flags of the checks and the findings of a run. -/
structure Verdict where
  create : Bool := true
  config : Bool := true
  pm : Bool := true
  alarm : Bool := true
  delete : Bool := true
  findings : List Finding := []
deriving DecidableEq, Repr

namespace Verdict

/-- Whether a check holds, by its flag. -/
def holds (v : Verdict)
    : Check → Bool
  | .create => v.create
  | .config => v.config
  | .pm => v.pm
  | .alarm => v.alarm
  | .delete => v.delete

/-- Whether every check holds. -/
def passed (v : Verdict)
    : Bool :=
  Check.all.all v.holds

/-- The verdict without the flag of a check. -/
def lose (v : Verdict)
    : Check → Verdict
  | .create => { v with create := false }
  | .config => { v with config := false }
  | .pm => { v with pm := false }
  | .alarm => { v with alarm := false }
  | .delete => { v with delete := false }

/-- The verdict with one more finding, which costs it the flag of its check. -/
def record (v : Verdict) (f : Finding)
    : Verdict :=
  { v.lose f.check with findings := v.findings ++ [f] }

/-- The flags of all checks in order. -/
def flags (v : Verdict)
    : List Bool :=
  Check.all.map v.holds

/-- The word of a flag. -/
def flagWord (b : Bool)
    : String :=
  if b then "true" else "false"

/-- The text of a verdict: each flag with its value. -/
def text (v : Verdict)
    : String :=
  " ".intercalate (Check.all.map fun c => c.flagName ++ "=" ++ flagWord (v.holds c))

/-- The members of the document of a verdict in the order of their listing, given how a finding
is put together.
-/
def fields (finding : List (String × Json) → Json) (v : Verdict)
    : List (String × Json) :=
  Check.all.map (fun c => (c.flagName, Json.bool (v.holds c)))
    ++ [("findings", .array (v.findings.map fun f => finding f.fields))]

/-- The document of a verdict. -/
def toJson (v : Verdict)
    : Json :=
  Json.ofMembers (v.fields Json.ofMembers)

end Verdict

end Lightpath
