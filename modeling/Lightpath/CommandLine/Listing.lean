import Lightpath.Json.Writer
import Lightpath.Lifecycle.Verdict
import Lightpath.Model.Report
import Lightpath.Topology.Reconstruction

/-!
How results are listed: for readers line by line, or as an indented document whose members stand in the
order in which they are put together here.
-/

namespace Lightpath

namespace Listing

/-- A text with spaces behind it up to a width. -/
def padded (width : Nat) (s : String)
    : String :=
  s ++ String.ofList (List.replicate (width - s.length) ' ')

/-- Lines, each with its end. -/
def lines (texts : List String)
    : String :=
  String.join (texts.map (· ++ "\n"))

/-- A document on lines of its own. -/
def document (v : Json)
    : String :=
  v.pretty ++ "\n"

/-- The line of a subtree's result. -/
def treeLine (r : TreeResult)
    : String :=
  padded 20 r.tree.key ++ " " ++ padded 8 (if r.valid then "ok" else "FAIL") ++ " ("
    ++ toString r.instances ++ " instances)"

/-- The line of a structural defect. -/
def defectLine (d : StructuralDefect)
    : String :=
  "  " ++ d.severity.heading ++ ": " ++ d.message

/-- A conformance report line by line. -/
def report (r : ConformanceReport)
    : String :=
  lines (r.results.map treeLine ++ r.defects.map defectLine)

/-- A conformance report as a document. -/
def reportDocument (r : ConformanceReport)
    : String :=
  document (.object [
    ("version", .string r.version.text),
    ("category", Json.ofOption (fun c => .string c.word) r.category),
    ("results", .array (r.results.map fun t => .object t.fields)),
    ("defects", .array (r.defects.map fun d => .object d.fields))])

/-- The line of a port and the ports linked to it. -/
def linkLine (name : String) (linked : List String)
    : String :=
  "  " ++ name ++ " -> [" ++ ", ".intercalate linked ++ "]"

/-- A topology with its defects line by line. -/
def topology (node : String) (t : Topology) (defects : List TopologyDefect)
    : String :=
  lines ([node ++ ": " ++ toString t.records.length ++ " ports"]
    ++ t.networks.map (fun r => linkLine r.port.name r.clientNames)
    ++ t.degrees.map (fun r => linkLine r.port.name (r.riskGroups.map Port.name))
    ++ defects.map fun d => "  defect: " ++ d.message)

/-- A topology with its defects as a document, in ascending order of the members. -/
def topologyDocument (node : String) (t : Topology) (defects : List TopologyDefect)
    : String :=
  document (Json.ofMembers [
    ("node-id", .string node),
    ("ports", t.toJson),
    ("defects", .array (defects.map TopologyDefect.toJson))])

/-- The line of a finding. -/
def findingLine (f : Finding)
    : String :=
  "  " ++ f.check.flagName ++ " [" ++ f.category.heading ++ "] " ++ f.subject ++ ": " ++ f.detail

/-- A verdict line by line. -/
def verdict (v : Verdict)
    : String :=
  lines (v.text :: v.findings.map findingLine)

/-- A verdict as a document. -/
def verdictDocument (v : Verdict)
    : String :=
  document (.object (v.fields .object))

end Listing

end Lightpath
