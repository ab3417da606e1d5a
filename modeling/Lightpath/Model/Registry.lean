import Lightpath.Keyed
import Lightpath.Model.Checklist

/-!
The registry of checklists by version and role. It only ever grows: a batch is registered as a whole
or not at all, and no checklist takes the place of another.
-/

namespace Lightpath

/-- Why a registry cannot answer or take a batch. -/
inductive RegistryError where
  | unknownVersion (version : ModelVersion)
  | duplicateChecklist (version : ModelVersion) (role : StructuralRole)
  | unreadableDescriptor
  | missingFile
deriving DecidableEq, Repr

namespace RegistryError

/-- The message of an error. -/
def message
    : RegistryError → String
  | .unknownVersion version => "Unknown schema version '" ++ version.text ++ "'"
  | .duplicateChecklist version role =>
      "Checklist for role '" ++ role.word ++ "' already registered for version '"
        ++ version.text ++ "'"
  | .unreadableDescriptor => "Invalid schema descriptor"
  | .missingFile => "IO error"

end RegistryError

/-- The checklists of each version, in ascending order of the versions. -/
structure Registry where
  tables : List (String × List Checklist) := []
deriving DecidableEq, Repr

namespace Registry

/-- The checklists of a version. -/
def table (r : Registry) (version : ModelVersion)
    : List Checklist :=
  (r.tables.lookup version.text).getD []

/-- The attributes that a version asks of a role, if it has a checklist for it. -/
def checklist? (r : Registry) (version : ModelVersion) (role : StructuralRole)
    : Option Checklist :=
  (r.table version).find? fun c => c.role = role

/-- Whether a version is registered. -/
def contains (r : Registry) (version : ModelVersion)
    : Bool :=
  Keyed.contains version.text r.tables

/-- The registered versions in ascending order. -/
def versions (r : Registry)
    : List ModelVersion :=
  r.tables.map fun t => ⟨t.1⟩

/-- A table with one more checklist, which takes the place of one for the same role. -/
def putChecklist (table : List Checklist) (c : Checklist)
    : List Checklist :=
  (table.filter fun old => old.role ≠ c.role) ++ [c]

/-- The registry with the checklists of a descriptor. -/
def insert (r : Registry) (d : Descriptor)
    : Registry :=
  ⟨Keyed.insert d.version.text (d.checklists.foldl putChecklist (r.table d.version)) r.tables⟩

/-- The pairs of version and role that a batch brings, in order. -/
def pairs (batch : List Descriptor)
    : List (ModelVersion × StructuralRole) :=
  batch.flatMap fun d => d.checklists.map fun c => (d.version, c.role)

/-- The first pair that is registered already or that the batch brings twice. -/
def conflict? (r : Registry) (seen : List (ModelVersion × StructuralRole))
    : List (ModelVersion × StructuralRole) → Option (ModelVersion × StructuralRole)
  | [] => none
  | pair :: rest =>
      if (r.checklist? pair.1 pair.2).isSome ∨ pair ∈ seen then some pair
      else conflict? r (pair :: seen) rest

/-- The registry with a batch of descriptors, unless a pair of the batch is taken. -/
def registerAll (r : Registry) (batch : List Descriptor)
    : Except RegistryError Registry :=
  match r.conflict? [] (pairs batch) with
  | some (version, role) => .error (.duplicateChecklist version role)
  | none => .ok (batch.foldl insert r)

/-- The registry with one descriptor more. -/
def register (r : Registry) (d : Descriptor)
    : Except RegistryError Registry :=
  r.registerAll [d]

end Registry

end Lightpath
