import Lightpath.Json.Basic
import Lightpath.Text.Quoted

/-!
What can be wrong with a port table that a topology is rebuilt from. Input defects are found on the
way; linkage defects are ports that end up without any partner.
-/

namespace Lightpath

/-- A fault of a port table. Pools and groups are given by their numbers, ports by their names. -/
inductive TopologyDefect where
  | duplicateRow (port : String)
  | unknownPoolKind (pool : Nat) (text : String)
  | groupCount (pool groups : Nat)
  | unresolvedGroup (pool group : Nat) (networkPorts : List String)
  | unknownMember (pool group : Nat) (port : String)
  | sharedMember (port : String) (groups : List (Nat × Nat))
  | unlinkedNetwork (port : String)
  | unlinkedDegree (port : String)
deriving DecidableEq, Repr

namespace TopologyDefect

/-- The message of a defect. -/
def message
    : TopologyDefect → String
  | .duplicateRow port =>
      "Logical connection point '" ++ port ++ "' appears in more than one port-mapping row"
  | .unknownPoolKind pool text =>
      "Switching pool " ++ toString pool ++ " has invalid type '" ++ text ++ "'"
  | .groupCount pool groups =>
      "Non-blocking switching pool " ++ toString pool ++ " has " ++ toString groups
        ++ " groups, expected exactly one"
  | .unresolvedGroup pool group ports =>
      "Switching pool " ++ toString pool ++ " group " ++ toString group ++ " resolves to "
        ++ toString ports.length ++ " network ports " ++ Text.bracketed Text.quoted ports
        ++ ", expected one"
  | .unknownMember pool group port =>
      "Switching pool " ++ toString pool ++ " group " ++ toString group
        ++ " lists unknown port '" ++ port ++ "'"
  | .sharedMember port groups =>
      "Port '" ++ port ++ "' is listed in more than one switching-pool group "
        ++ Text.bracketed Text.paired groups
  | .unlinkedNetwork port => "Network port '" ++ port ++ "' has no linked client port"
  | .unlinkedDegree port =>
      "Degree port '" ++ port ++ "' has no linked shared-risk-group port"

/-- The document of a defect: its kind and what it names. -/
def toJson
    : TopologyDefect → Json
  | .duplicateRow port => Json.ofMembers [("defect", .string "duplicate-lcp"), ("lcp", .string port)]
  | .unknownPoolKind pool text =>
      Json.ofMembers [("defect", .string "invalid-pool-type"), ("pool", .ofNat pool),
        ("value", .string text)]
  | .groupCount pool groups =>
      Json.ofMembers [("defect", .string "pool-group-count"), ("pool", .ofNat pool),
        ("groups", .ofNat groups)]
  | .unresolvedGroup pool group ports =>
      Json.ofMembers [("defect", .string "unresolved-group"), ("pool", .ofNat pool),
        ("group", .ofNat group), ("network_ports", Json.ofStrings ports)]
  | .unknownMember pool group port =>
      Json.ofMembers [("defect", .string "unknown-member"), ("pool", .ofNat pool),
        ("group", .ofNat group), ("lcp", .string port)]
  | .sharedMember port groups =>
      Json.ofMembers [("defect", .string "duplicate-membership"), ("lcp", .string port),
        ("groups", .array (groups.map fun g => .array [.ofNat g.1, .ofNat g.2]))]
  | .unlinkedNetwork port =>
      Json.ofMembers [("defect", .string "no-linked-clients"), ("network_port", .string port)]
  | .unlinkedDegree port =>
      Json.ofMembers [("defect", .string "no-linked-srgs"), ("degree_port", .string port)]

end TopologyDefect

end Lightpath
