import Lightpath.Service.Kind
import Lightpath.Service.Spectrum

/-!
The names of resources. A name is made of the name of a port and what the resource is, so that every
run gives one resource one name.
-/

namespace Lightpath

namespace ResourceName

/-- The optical signal of a port over a range of slots. -/
def signal (port : String) (spectrum : Spectrum)
    : String :=
  port ++ "-" ++ spectrum.text

/-- The group of optical signals that carry a rate. -/
def signalGroup (port : String) (rate : SignalRate)
    : String :=
  port ++ "-OTSIGROUP-" ++ rate.word

/-- The transport unit of a port at a rate. -/
def transportUnit (port : String) (rate : SignalRate)
    : String :=
  match rate.slices? with
  | none => port ++ "-OTU"
  | some n => port ++ "-OTUC" ++ toString n

/-- The data unit of a port at a rate. -/
def dataUnit (port : String) (rate : SignalRate)
    : String :=
  match rate.slices? with
  | none => port ++ "-ODU4"
  | some n => port ++ "-ODUC" ++ toString n

/-- The Ethernet interface of a transponder's client. -/
def ethernet (port : String)
    : String :=
  port ++ "-ETHERNET"

/-- The Ethernet interface of a client service. -/
def clientEthernet (port : String) (kind : ClientKind)
    : String :=
  port ++ "-ETHERNET" ++ toString kind.gbps ++ "G"

/-- The data unit on the client side of a client service. -/
def clientDataUnit (port : String) (kind : ClientKind)
    : String :=
  port ++ "-" ++ kind.dataUnit

/-- The data unit on the network side that carries one client. -/
def tributary (network : String) (kind : ClientKind) (client : String)
    : String :=
  network ++ "-" ++ kind.dataUnit ++ "-" ++ client

/-- The network media channel of a port. -/
def networkChannel (port : String) (spectrum : Spectrum)
    : String :=
  port ++ "-nmc-" ++ spectrum.text

/-- The media channel of a degree. -/
def mediaChannel (port : String) (spectrum : Spectrum)
    : String :=
  port ++ "-mc-" ++ spectrum.text

/-- The cross-connection from one port to another. -/
def connection (source destination : String) (spectrum : Spectrum)
    : String :=
  source ++ "-" ++ destination ++ "-" ++ spectrum.text

end ResourceName

end Lightpath
