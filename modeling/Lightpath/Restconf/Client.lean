import Lightpath.Configuration
import Lightpath.Http.UrlReader
import Lightpath.Restconf.Answer
import Lightpath.Text.Base64

/-!
A client of a controller that speaks RESTCONF. Devices are reached below the place where the controller
mounts them; a session is no more than the name of its node, so opening and closing it makes no
exchange.
-/

namespace Lightpath

/-- What a client knows of its controller. -/
structure RestconfClient where
  base : Url
  username : String
  password : String
deriving DecidableEq, Repr

/-- The network of a client with the sessions opened so far, each with its node until it is
closed.
-/
structure RestconfState (σ : Type) where
  network : σ
  sessions : List (Option String) := []

namespace RestconfClient

/-- What is wrong with an address whose path cannot be extended. -/
def notExtensible
    : String :=
  "URL cannot be a base"

/-- The client of the controller in the settings. -/
def ofSettings (settings : ControllerSettings)
    : Except TransportError RestconfClient :=
  match Url.ofText? settings.baseUrl with
  | none => .error (.malformed settings.baseUrl "invalid base URL")
  | some base =>
      if base.isExtensible then .ok ⟨base, settings.username, settings.password⟩
      else .error (.malformed settings.baseUrl notExtensible)

/-- The address of a place below the controller's own. -/
def url (c : RestconfClient) (segments : List String)
    : Url :=
  c.base.extend segments

/-- The place where the controller mounts a node. -/
def mount (node : String)
    : List String :=
  ["rests", "data", "network-topology:network-topology", "topology=topology-netconf",
    "node=" ++ node, "yang-ext:mount"]

/-- The authorization of every request. -/
def authorization (c : RestconfClient)
    : String :=
  "Basic " ++ Text.Base64.encode (c.username ++ ":" ++ c.password)

/-- Which part of a device's data a read is about. -/
inductive Content where
  | config
  | nonconfig
deriving DecidableEq, Repr

/-- The word of a part. -/
def Content.word
    : Content → String
  | .config => "config"
  | .nonconfig => "nonconfig"

/-- The part that a read request is about. -/
def contentOf
    : ReadRequest → Content
  | .deviceConfig => .config
  | .currentPm _ => .nonconfig
  | .activeAlarms => .nonconfig

variable {σ : Type}

/-- One exchange: the status and the document of its answer. -/
def send (c : RestconfClient) (exchange : Exchange σ) (method : HttpMethod) (url : Url)
    (body : Option Json)
    : StateM σ (Except TransportError (Nat × Json)) := do
  match ← exchange ⟨method, url, c.authorization, body⟩ with
  | .error reason => pure (.error (.unavailable url.text reason))
  | .ok answer =>
      let document := Restconf.readBody url.text answer.status answer.body
      pure (document.map fun v => (answer.status, v))

/-- A get of a part of the data at an address. -/
def get (c : RestconfClient) (exchange : Exchange σ) (url : Url) (content : Option Content)
    : StateM σ (Except TransportError (Nat × Json)) :=
  let url := match content with
    | some content => url.withParameter "content" content.word
    | none => url
  c.send exchange .get url none

/-- The answer to a request. -/
def invoke (c : RestconfClient) (exchange : Exchange σ) (rpc : String) (request : Json)
    : StateM σ (Except TransportError RpcResponse) := do
  let answer ← c.send exchange .post (c.url ["rests", "operations", rpc]) (some request)
  pure (answer.map fun (status, output) => ⟨status, output⟩)

/-- The answer to the lookup of a part of a node's configuration. -/
def lookup (c : RestconfClient) (exchange : Exchange σ) (node segment : String)
    : StateM σ (Except TransportError Lookup) := do
  let url := c.url (mount node ++ [ResourceId.deviceRoot, segment])
  let answer ← c.get exchange url (some .config)
  pure (answer.bind fun (status, body) => Restconf.readLookup url.text status body)

/-- The port table document of a node. -/
def portTable (c : RestconfClient) (exchange : Exchange σ) (node : String)
    : StateM σ (Except TransportError Json) := do
  let url := c.url ["rests", "data", "transportpce-portmapping:network", "nodes=" ++ node]
  let answer ← c.get exchange url none
  pure (answer.bind fun (status, body) => Restconf.readDocument url.text status body)

/-- The document of a read from a node. -/
def readFrom (c : RestconfClient) (exchange : Exchange σ) (node : String)
    (request : ReadRequest)
    : StateM σ (Except TransportError Json) := do
  let url := c.url (mount node ++ request.segments)
  let answer ← c.get exchange url (some (contentOf request))
  pure (answer.bind fun (status, body) => Restconf.readDocument url.text status body)

/-- An exchange's part of a step of a client with sessions. -/
def onNetwork {α : Type} (act : StateM σ α)
    : StateM (RestconfState σ) α :=
  fun s =>
    let (a, network) := act s.network
    (a, { s with network := network })

/-- A session on a node; no exchange is made. -/
def openSession (node : String)
    : StateM (RestconfState σ) (Except TransportError Nat) :=
  fun s => (.ok s.sessions.length, { s with sessions := s.sessions ++ [some node] })

/-- A read over a session that is not closed. -/
def read (c : RestconfClient) (exchange : Exchange σ) (session : Nat) (request : ReadRequest)
    : StateM (RestconfState σ) (Except TransportError Json) := do
  match ((← MonadState.get).sessions[session]?).join with
  | some node => onNetwork (c.readFrom exchange node request)
  | none => pure (.error (.unavailable "session" "session closed"))

/-- A session closed; no exchange is made. -/
def close (session : Nat)
    : StateM (RestconfState σ) (Except TransportError Unit) :=
  fun s => (.ok (), { s with sessions := s.sessions.set session none })

/-- The client as what a verifier works with. -/
def collaborators (c : RestconfClient) (exchange : Exchange σ)
    : Collaborators (RestconfState σ) Nat :=
  { invoke := fun rpc request => onNetwork (c.invoke exchange rpc request)
    interface := fun node name => onNetwork (c.lookup exchange node ("interface=" ++ name))
    connection := fun node name =>
      onNetwork (c.lookup exchange node ("roadm-connections=" ++ name))
    openSession := openSession
    read := c.read exchange
    close := close }

end RestconfClient

end Lightpath
