import Lightpath.Model.Role

/-!
Structural defects: where a device's configuration falls short of its checklists, and whether that
counts against it.
-/

namespace Lightpath

/-- Whether a defect counts against the part it is in. -/
inductive Severity where
  | error
  | warning
deriving DecidableEq, Repr

namespace Severity

/-- The word of a severity. -/
def word
    : Severity → String
  | .error => "error"
  | .warning => "warning"

/-- The word of a severity at the head of a line. -/
def heading
    : Severity → String
  | .error => "Error"
  | .warning => "Warning"

end Severity

/-- What is wrong at a place. -/
inductive DefectKind where
  | missingAttribute
  | missingTree
  | notAnObject
  | invalidValue (found : String)
  | unknownCategory
deriving DecidableEq, Repr

/-- A defect with the place where it stands, the role found there, and the leaf or subtree in
question.
-/
structure StructuralDefect where
  path : String
  role : Option StructuralRole
  leaf : String
  kind : DefectKind
  severity : Severity := .error
deriving DecidableEq, Repr

namespace StructuralDefect

/-- The same defect without weight. -/
def soften (d : StructuralDefect)
    : StructuralDefect :=
  { d with severity := .warning }

/-- Whether a defect counts. -/
def isError (d : StructuralDefect)
    : Bool :=
  d.severity = .error

/-- The text of a defect. -/
def message (d : StructuralDefect)
    : String :=
  let path := if d.path = "" then "/" else d.path
  match d.kind with
  | .missingAttribute => path ++ ": missing '" ++ d.leaf ++ "'"
  | .missingTree => "missing subtree '" ++ d.leaf ++ "'"
  | .notAnObject => path ++ ": '" ++ d.leaf ++ "' is not an object"
  | .invalidValue found =>
      path ++ ": invalid '" ++ d.leaf ++ "' value '" ++ found ++ "'"
  | .unknownCategory => "device category could not be determined"

/-- The members that tell the kind of a defect. -/
def kindFields
    : DefectKind → List (String × Json)
  | .missingAttribute => [("kind", .string "missing-attribute")]
  | .missingTree => [("kind", .string "missing-tree")]
  | .notAnObject => [("kind", .string "not-an-object")]
  | .invalidValue found => [("kind", .string "invalid-value"), ("value", .string found)]
  | .unknownCategory => [("kind", .string "unknown-category")]

/-- The members of the document of a defect, in the order of their listing. -/
def fields (d : StructuralDefect)
    : List (String × Json) :=
  [("path", .string d.path),
    ("role", Json.ofOption (fun r => .string r.word) d.role),
    ("attribute", .string d.leaf)]
    ++ kindFields d.kind ++ [("severity", .string d.severity.word)]

/-- The document of a defect. -/
def toJson (d : StructuralDefect)
    : Json :=
  Json.ofMembers d.fields

end StructuralDefect

end Lightpath
