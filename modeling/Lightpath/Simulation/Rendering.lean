import Lightpath.Keyed
import Lightpath.Json.Basic

/-!
What a simulated node makes of a request: the resources it would hold afterwards, in the order of
their creation, or why it refuses.
-/

namespace Lightpath

/-- Why a request is not rendered. -/
inductive RenderError where
  | unknownRpc (rpc : String)
  | rejected (reason : String)
deriving DecidableEq, Repr

namespace RenderError

/-- The message of an error. -/
def message
    : RenderError → String
  | .unknownRpc rpc => "unknown operation " ++ rpc
  | .rejected reason => reason

end RenderError

/-- A resource with the name under which its node lists it and its configuration. -/
structure RenderedResource where
  name : String
  listKey : String
  config : Json
deriving Repr

namespace RenderedResource

/-- Whether a resource is a cross-connection. -/
def isConnection (r : RenderedResource)
    : Bool :=
  r.listKey = "connection-id"

end RenderedResource

/-- The resources of a request with a description of their service. -/
structure Rendering where
  description : String
  resources : List RenderedResource
deriving Repr

namespace Rendering

/-- The names of the resources in order. -/
def names (r : Rendering)
    : List String :=
  r.resources.map RenderedResource.name

/-- The names listed under a key. -/
def namesUnder (r : Rendering) (key : String)
    : List String :=
  (r.resources.filter fun x => x.listKey = key).map RenderedResource.name

/-- The entry in which a node lists what it created. -/
def nodeEntry (r : Rendering) (node : String)
    : Json :=
  let keys := (r.resources.map RenderedResource.listKey).eraseDups
  Json.ofMembers (("node-id", .string node) ::
    keys.map fun key => (key, Json.ofStrings (r.namesUnder key)))

end Rendering

end Lightpath
