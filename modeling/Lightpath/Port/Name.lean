import Lightpath.Text.Affix
import Lightpath.Text.DecimalDigit

/-!
The languages of port names. A name states its owner and a number, then what it ends: a line or a
client side of an xponder, a degree, or a drop of a shared-risk group. The names of a roadm may
carry more text after a dash.
-/

namespace Lightpath

namespace PortName

/-- The rest of a text after a fixed beginning. -/
def dropLiteral? (literal : String) (cs : List Char)
    : Option (List Char) :=
  Text.dropFront? literal.toList cs

/-- Whether a name is `XPDR` and a number, then `-NETWORK` and a number. -/
def isNetwork (name : String)
    : Bool :=
  let rest := do
    let cs ← dropLiteral? "XPDR" name.toList
    let cs ← Text.dropDigits? cs
    let cs ← dropLiteral? "-NETWORK" cs
    Text.dropDigits? cs
  rest = some []

/-- Whether a name is `XPDR` and a number, then `-CLIENT` and a number. -/
def isClient (name : String)
    : Bool :=
  let rest := do
    let cs ← dropLiteral? "XPDR" name.toList
    let cs ← Text.dropDigits? cs
    let cs ← dropLiteral? "-CLIENT" cs
    Text.dropDigits? cs
  rest = some []

/-- Whether a text is over, or goes on after a dash. -/
def endsOrDashes
    : Option (List Char) → Bool
  | some [] => true
  | some ('-' :: _) => true
  | _ => false

/-- Whether a name is `DEG` and a number, then `-TTP`. -/
def isDegree (name : String)
    : Bool :=
  endsOrDashes do
    let cs ← dropLiteral? "DEG" name.toList
    let cs ← Text.dropDigits? cs
    dropLiteral? "-TTP" cs

/-- Whether a name is `SRG` and a number, then `-PP` and a number. -/
def isRiskGroup (name : String)
    : Bool :=
  endsOrDashes do
    let cs ← dropLiteral? "SRG" name.toList
    let cs ← Text.dropDigits? cs
    let cs ← dropLiteral? "-PP" cs
    Text.dropDigits? cs

end PortName

end Lightpath
