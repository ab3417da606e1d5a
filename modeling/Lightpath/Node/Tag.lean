import Lightpath.Text.Blank
import Lightpath.Text.Case
import Lightpath.Json.Word

/-!
The tags that say what a device is: the version of its model and its category. A version tag is kept
in a normal form, so that two spellings of one version compare equal.
-/

namespace Lightpath

/-- The version of a device model, such as `2.2.1`. -/
structure ModelVersion where
  text : String
deriving DecidableEq, Repr

namespace ModelVersion

/-- The text without a letter `v` at its head. -/
def dropMark
    : List Char → List Char
  | 'v' :: rest => rest
  | 'V' :: rest => rest
  | cs => cs

/-- The text without a zero patch number at its end, if a point is left before it. -/
def dropZeroPatch (cs : List Char)
    : List Char :=
  match cs.reverse with
  | '0' :: '.' :: rest => if '.' ∈ rest then rest.reverse else cs
  | _ => cs

/-- The version that a tag names: blanks around it, a leading `v` and a zero patch number are
dropped.
-/
def ofTag (tag : String)
    : ModelVersion :=
  ⟨String.ofList (dropZeroPatch (dropMark (Text.trimChars tag.toList)))⟩

/-- The version that a document states by a tag. -/
def ofJson? (v : Json)
    : Option ModelVersion :=
  v.string?.map ofTag

/-- The order of versions is the order of their texts. -/
instance : LT ModelVersion where
  lt a b := a.text < b.text

end ModelVersion

/-- The two categories of device. -/
inductive DeviceCategory where
  | xponder
  | roadm
deriving DecidableEq, Repr

namespace DeviceCategory

/-- All categories. -/
def all
    : List DeviceCategory :=
  [.xponder, .roadm]

/-- The word of a category. -/
def word
    : DeviceCategory → String
  | .xponder => "xponder"
  | .roadm => "roadm"

/-- The short word that devices use of their own category. -/
def nodeType
    : DeviceCategory → String
  | .xponder => "xpdr"
  | .roadm => "rdm"

/-- The category that a text names by either word in any letter case. -/
def ofText? (text : String)
    : Option DeviceCategory :=
  let t := Text.lowerWord text
  all.find? fun c => t = c.word || t = c.nodeType

/-- The category that a document states by its exact word. -/
def ofJson?
    : Json → Option DeviceCategory :=
  Json.enum? .json all word

end DeviceCategory

end Lightpath
