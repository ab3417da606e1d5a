import Lightpath.Json.Selection
import Lightpath.Model.Registry
import Lightpath.Toml.Reader

/-!
Files of descriptors. A file whose name ends in `toml` is configuration text, any other one is a JSON
document; either holds a list of descriptors under `version`.
-/

namespace Lightpath

/-- The parts of an attribute that matter. -/
def Attribute.reader
    : JsonReader :=
  Json.recordOf [("name", Json.whole), ("nested", Json.whole), ("soft", Json.whole)]

/-- The parts of a checklist that matter. -/
def Checklist.reader
    : JsonReader :=
  Json.recordOf [("role", Json.whole), ("attributes", Json.listOf Attribute.reader)]

/-- The parts of a descriptor that matter. -/
def Descriptor.reader
    : JsonReader :=
  Json.recordOf [("version", Json.whole), ("checklist", Json.listOf Checklist.reader)]

namespace Registry

/-- The descriptors in the text of a file with a given ending of its name. -/
def descriptorsIn? (ending text : String)
    : Option (List Descriptor) :=
  if ending = "toml" then (Toml.parse? text).bind (Descriptor.listOfJson? .toml)
  else
    let reader := Json.recordOf [("version", Json.listOf Descriptor.reader)]
    (Json.select? reader text).bind (Descriptor.listOfJson? .json)

/-- The registry with the descriptors of a file, and their number; without a text there is no
such file.
-/
def load (r : Registry) (ending : String)
    : Option String → Except RegistryError (Registry × Nat)
  | none => .error .missingFile
  | some text =>
      match descriptorsIn? ending text with
      | none => .error .unreadableDescriptor
      | some batch => (r.registerAll batch).map fun r => (r, batch.length)

end Registry

end Lightpath
