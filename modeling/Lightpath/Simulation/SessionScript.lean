import Lightpath.Session.Call

/-!
Sessions that follow a script: the opening, the read and the close each fail as the script says, and
a read that does not fail gives the script's document. Every call is written down.
-/

namespace Lightpath

/-- How a session behaves. -/
structure SessionScript where
  openFault : Option TransportError := none
  readFault : Option TransportError := none
  closeFault : Option TransportError := none
  document : Json := .null
deriving Repr

namespace SessionScript

/-- A value, unless there is a fault. -/
def withFault {α : Type} (fault : Option TransportError) (value : α)
    : Except TransportError α :=
  match fault with
  | some e => .error e
  | none => .ok value

/-- The answer to the opening of a session. -/
def openAnswer (script : SessionScript)
    : Except TransportError Unit :=
  withFault script.openFault ()

/-- The answer to a read. -/
def readAnswer (script : SessionScript)
    : Except TransportError Json :=
  withFault script.readFault script.document

/-- The answer to the close of a session. -/
def closeAnswer (script : SessionScript)
    : Except TransportError Unit :=
  withFault script.closeFault ()

/-- An answer given after its call is written down. -/
def written {α : Type} (call : Call) (answer : α)
    : StateM (List Call) α :=
  fun calls => (answer, calls ++ [call])

/-- The source of sessions that follow the script; its state is the calls so far. -/
def source (script : SessionScript)
    : SessionSource (List Call) Unit :=
  { openSession := fun node => written (.openSession node) script.openAnswer
    read := fun _ request => written (.read request) script.readAnswer
    close := fun _ => written .close script.closeAnswer }

end SessionScript

end Lightpath
