import Lightpath.Http.Host
import Lightpath.Http.Url

/-!
Reading a URL that stands on its own, by the rules of the URL standard: the scheme decides whether an
authority has to follow and whether a backslash separates segments like a slash.
-/

namespace Lightpath

namespace Url

/-- The scheme at the head of a text, in lower case, and what follows its colon. -/
def scheme? (cs : List Char)
    : Option (String × List Char) :=
  match Text.splitFirst (· = ':') cs with
  | (front, some rest) =>
      match kept front with
      | c :: scheme =>
          if c.isAlpha && scheme.all fun x => x.isAlphanum || x = '+' || x = '-' || x = '.' then
            some (String.ofList ((c :: scheme).map Char.toLower), rest)
          else none
      | [] => none
  | _ => none

/-- Whether a character separates segments. -/
def isSeparator (server : Bool) (c : Char)
    : Bool :=
  c = '/' || server && c = '\\'

/-- The text after a separator at its head, if it has one there. -/
def afterSeparator? (server : Bool) (cs : List Char)
    : Option (List Char) :=
  match cs.dropWhile isPassedOver with
  | c :: rest => if isSeparator server c then some rest else none
  | [] => none

/-- How the segments of a path are read in a URL. -/
def readingRules (scheme : String)
    : SegmentRules where
  isFile := isFileScheme scheme
  special := PercentEncoding.pathSet

/-- A path with segments added one by one, each given by its text. -/
def steps (rules : SegmentRules) (path : OpenPath)
    : List (List Char) → OpenPath
  | [] => path
  | [segment] => path.step rules true segment
  | segment :: rest => steps rules (path.step rules false segment) rest

/-- The path that a text states; a separator at its head is no more than a mark. -/
def openPath (scheme : String) (cs : List Char)
    : OpenPath :=
  let server := isServerScheme scheme
  if kept cs = [] then ⟨if server then [""] else [], false⟩
  else
    steps (readingRules scheme) {}
      (Text.partsBetween (isSeparator server) ((afterSeparator? server cs).getD cs))

/-- The port at the head of a text, after a colon, and what follows it: nothing is the same as the
usual port, and only a path can follow.
-/
def port? (usual : Option Nat)
    : List Char → Option (Option Nat × List Char)
  | ':' :: cs => do
      let (digits, rest) := cs.span Char.isDigit
      if !rest.isEmpty && rest.head? ≠ some '\\' then none
      let n ← Host.number? 10 digits
      if 65535 < n then none
      else some (if digits.isEmpty || some n = usual then none else some n, rest)
  | rest => some (none, rest)

/-- The host at the head of a text, up to the first colon outside brackets, and what follows it. -/
def hostFront (inBrackets : Bool)
    : List Char → List Char × List Char
  | [] => ([], [])
  | c :: cs =>
      if c = ':' && !inBrackets then ([], c :: cs)
      else
        let (host, rest) := hostFront (c = '[' || inBrackets && c ≠ ']') cs
        (c :: host, rest)

/-- The user name and the password that a text states. -/
def userAndPassword (cs : List Char)
    : String × String :=
  let (user, password) := Text.splitFirst (· = ':') cs
  let encoded (cs : List Char) := String.ofList (PercentEncoding.encode PercentEncoding.userSet cs)
  (encoded user, encoded (password.getD []))

/-- Whether a character ends an authority. -/
def endsAuthority (server : Bool) (c : Char)
    : Bool :=
  isSeparator server c || c = '?' || c = '#'

/-- The authority at the head of a text, and what follows it. Only schemes without servers may
leave the host out, and then neither a user nor a port may be stated. A lone at sign states no
user, but then something has to follow it.
-/
def authority? (scheme : String) (cs : List Char)
    : Option (Authority × List Char) := do
  let server := isServerScheme scheme
  let (front, rest) := cs.span fun c => !endsAuthority server c
  let (user, place) := Text.splitLast (· = '@') front
  if user = some [] && place.isEmpty && !rest.isEmpty then none
  let (hostText, portText) := hostFront false place
  let host ← Host.ofText? server hostText
  let (port, path) ← port? ((serverSchemes.lookup scheme).getD none) portText
  let (username, password) := userAndPassword (user.getD [])
  let isStated := username ≠ "" || password ≠ "" || !portText.isEmpty
  if hostText.isEmpty && (server || isStated) then none
  else some (⟨username, password, host, port⟩, path ++ rest)

/-- The text of the path at the head of a text: a question mark or a number sign ends it. -/
def pathFront (cs : List Char)
    : List Char :=
  cs.takeWhile fun c => c ≠ '?' && c ≠ '#'

/-- A URL whose query and fragment stand in a text after its path. -/
def withRest (scheme : String) (authority : Option Authority) (path : UrlPath) (cs : List Char)
    : Url :=
  let (front, fragment) := Text.splitFirst (· = '#') (kept cs)
  let query := (Text.splitFirst (· = '?') front).2
  let querySet := if isServerScheme scheme then PercentEncoding.serverQuerySet
    else PercentEncoding.querySet
  let encoded (special cs : List Char) := String.ofList (PercentEncoding.encode special cs)
  { scheme := scheme
    authority := authority
    path := path
    query := query.map (encoded querySet)
    fragment := fragment.map (encoded PercentEncoding.fragmentSet) }

/-- The URL of a text that starts with an authority. -/
def withAuthority? (scheme : String) (cs : List Char)
    : Option Url := do
  let (authority, rest) ← authority? scheme cs
  let path := openPath scheme (pathFront rest)
  some (withRest scheme (some authority) (.segments false (path.close false)) rest)

/-- The URL of a file on a host. A path that starts with a drive leaves no place for the host. -/
def onHost (host : String) (cs : List Char)
    : Url :=
  let path := openPath "file" (pathFront cs)
  withRest "file" (some { host := if path.hasDrive then "" else host })
    (.segments false (path.close true)) cs

/-- The URL of a file, whose host may be missing; a drive is none. -/
def ofFile? (cs : List Char)
    : Option Url :=
  match (afterSeparator? true cs).bind (afterSeparator? true) with
  | none => some (onHost "" cs)
  | some place =>
      let (front, rest) := place.span fun c => !endsAuthority true c
      if kept front = [] then some (onHost "" rest)
      else if isDrive (kept front) then some (onHost "" place)
      else do
        let host ← Host.ofText? true (kept front)
        some (onHost (if host = "localhost" then "" else host) rest)

/-- Whether a list of segments could be taken for an authority: its text starts with two slashes. -/
def looksLikeAuthority
    : List String → Bool
  | "" :: _ :: _ => true
  | _ => false

/-- The URL of a scheme without servers. -/
def ofOther? (scheme : String)
    : List Char → Option Url
  | '/' :: '/' :: rest => withAuthority? scheme rest
  | '/' :: rest =>
      let list := (openPath scheme (pathFront ('/' :: rest))).close false
      some (withRest scheme none (.segments (looksLikeAuthority list) list) rest)
  | rest =>
      some (withRest scheme none
        (.whole (String.ofList (PercentEncoding.encode [] (pathFront rest)))) rest)

/-- Whether a character is dropped at the ends of a text: a control or a space. -/
def isEdge (c : Char)
    : Bool :=
  c.toNat ≤ 0x20

/-- A text without what is dropped at its ends. -/
def trimmed (s : String)
    : List Char :=
  ((s.toList.dropWhile isEdge).reverse.dropWhile isEdge).reverse

/-- The URL that a text states. -/
def ofText? (s : String)
    : Option Url := do
  let (scheme, rest) ← scheme? (trimmed s)
  if isFileScheme scheme then ofFile? rest
  else if isServerScheme scheme then
    withAuthority? scheme ((kept rest).dropWhile (isSeparator true))
  else ofOther? scheme (kept rest)

end Url

end Lightpath
