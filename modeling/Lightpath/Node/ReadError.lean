import Lightpath.Json.Writer

/-!
The ways in which a word or a port-table document cannot be read, each with its message.
-/

namespace Lightpath

/-- Why a text or a port-table document was not understood. -/
inductive ReadError where
  | qualifier (text : String)
  | xponderKind (text : String)
  | poolKind (text : String)
  | signalRate (text : String)
  | deviceCategory (text : String)
  | noNodes
  | nodesNotAList (found : Json)
  | unreadableNode
deriving Repr

namespace ReadError

/-- The message of an error. -/
def message
    : ReadError → String
  | .qualifier text => "invalid port qualifier: " ++ text
  | .xponderKind text => "invalid xponder type: " ++ text
  | .poolKind text => "invalid switching pool type: " ++ text
  | .signalRate text => "invalid signal rate: " ++ text
  | .deviceCategory text => "invalid device category: " ++ text
  | .noNodes => "invalid port-mapping document: no port-mapping nodes found"
  | .nodesNotAList found =>
      "invalid port-mapping document: node list is not an array: " ++ found.compact
  | .unreadableNode => "invalid port-mapping document: unreadable node"

end ReadError

end Lightpath
