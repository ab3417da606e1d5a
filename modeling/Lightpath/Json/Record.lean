import Lightpath.Json.Basic

/-!
Reading a document as a record with known fields. An object gives the fields by name and an array
gives them by position; names that are not fields are passed over, and so is in configuration text what
comes after the last position. A field can be required, have
a default for its absence, or be optional, where null counts as absence.
-/

namespace Lightpath

/-- What a document was written in. -/
inductive DocumentFormat where
  | json
  | toml
deriving DecidableEq, Repr

/-- The values found for the fields of a record. -/
structure JsonRecord where
  found : List (String × Json)

namespace JsonRecord

/-- The record in a document whose array form has to state every field. -/
def ofFullJson? (fields : List String)
    : Json → Option JsonRecord
  | .object members => some ⟨members⟩
  | .array items => if items.length = fields.length then some ⟨fields.zip items⟩ else none
  | _ => none

/-- The record in a document of a format, given the field names in their order. -/
def inFormat? (format : DocumentFormat) (fields : List String)
    : Json → Option JsonRecord
  | .object members => some ⟨members⟩
  | .array items =>
      if format = .toml ∨ items.length ≤ fields.length then some ⟨fields.zip items⟩ else none
  | _ => none

/-- The record in a document, given the field names in their order. -/
def ofJson? (fields : List String)
    : Json → Option JsonRecord :=
  inFormat? .json fields

/-- The value of a field; a field stated more than once cannot be read. -/
def value? (r : JsonRecord) (field : String)
    : Option (Option Json) :=
  match r.found.filter fun m => m.1 = field with
  | [] => some none
  | [m] => some (some m.2)
  | _ => none

/-- A field that has to be there. -/
def required {α : Type} (r : JsonRecord) (field : String) (read : Json → Option α)
    : Option α :=
  match r.value? field with
  | some (some v) => read v
  | _ => none

/-- A field with a value of its own for absence. -/
def orElse {α : Type} (r : JsonRecord) (field : String) (absent : α) (read : Json → Option α)
    : Option α :=
  match r.value? field with
  | some none => some absent
  | some (some v) => read v
  | none => none

/-- A field that may be absent or null. -/
def optional {α : Type} (r : JsonRecord) (field : String) (read : Json → Option α)
    : Option (Option α) :=
  match r.value? field with
  | some none => some none
  | some (some .null) => some none
  | some (some v) => (read v).map some
  | none => none

end JsonRecord

namespace Json

/-- Each item of an array, read the same way. -/
def list? {α : Type} (read : Json → Option α)
    : Json → Option (List α)
  | .array items => items.mapM read
  | _ => none

/-- The members of an object without those that have no value. -/
def ofFields (fields : List (String × Option Json))
    : Json :=
  ofMembers (fields.filterMap fun f => f.2.map fun v => (f.1, v))

end Json

end Lightpath
