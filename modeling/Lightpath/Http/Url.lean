import Lightpath.Http.PercentEncoding
import Lightpath.Text.Split

/-!
URLs with their parts in standard form, their text, and adding segments to their path. A path is a list
of segments, or a whole text in URLs that cannot be extended. The path of a file may start with a drive,
which no dots lead out of.
-/

namespace Lightpath

/-- The path of a URL. A list of segments is set apart by a lone dot where it could otherwise be
taken for an authority.
-/
inductive UrlPath where
  | segments (isApart : Bool) (list : List String)
  | whole (text : String)
deriving DecidableEq, Repr

/-- The part of a URL that names a server, with what it is told of the user. -/
structure Authority where
  username : String := ""
  password : String := ""
  host : String
  port : Option Nat := none
deriving DecidableEq, Repr

namespace Authority

/-- The user's part of an authority, with its at sign. -/
def userText (a : Authority)
    : String :=
  if a.username = "" ∧ a.password = "" then ""
  else a.username ++ (if a.password = "" then "" else ":" ++ a.password) ++ "@"

/-- The text of an authority. -/
def text (a : Authority)
    : String :=
  a.userText ++ a.host ++ (match a.port with
    | some port => ":" ++ toString port
    | none => "")

end Authority

/-- A URL. -/
structure Url where
  scheme : String
  authority : Option Authority := none
  path : UrlPath
  query : Option String := none
  fragment : Option String := none
deriving DecidableEq, Repr

namespace Url

/-- The schemes whose URLs name a server or a file, with their usual ports. -/
def serverSchemes
    : List (String × Option Nat) :=
  [("http", some 80), ("https", some 443), ("ws", some 80), ("wss", some 443),
    ("ftp", some 21), ("file", none)]

/-- Whether URLs of a scheme always name a server or a file. -/
def isServerScheme (scheme : String)
    : Bool :=
  (serverSchemes.lookup scheme).isSome

/-- The text of a path. -/
def pathText
    : UrlPath → String
  | .whole text => text
  | .segments isApart list =>
      (if isApart then "/." else "") ++ String.join (list.map ("/" ++ ·))

/-- A part that may be missing, after its mark. -/
def markedText (mark : String)
    : Option String → String
  | some text => mark ++ text
  | none => ""

/-- The text of a URL. -/
def text (u : Url)
    : String :=
  u.scheme ++ ":" ++ markedText "//" (u.authority.map Authority.text) ++ pathText u.path
    ++ markedText "?" u.query ++ markedText "#" u.fragment

/-- Whether a segment, encoded or not, stands for the place that it is in. -/
def isDot (segment : List Char)
    : Bool :=
  [".", "%2e"].contains (String.ofList (segment.map Char.toLower))

/-- Whether a segment, encoded or not, stands for the place above. -/
def isDoubleDot (segment : List Char)
    : Bool :=
  ["..", ".%2e", "%2e.", "%2e%2e"].contains (String.ofList (segment.map Char.toLower))

/-- Whether a segment names a drive: a letter before a colon or a bar. -/
def isDrive
    : List Char → Bool
  | [letter, mark] => letter.isAlpha && (mark = ':' || mark = '|')
  | _ => false

/-- Whether a character is passed over wherever it stands in a URL. -/
def isPassedOver (c : Char)
    : Bool :=
  c = '\t' || c = '\n' || c = '\r'

/-- The characters of a text that are not passed over. -/
def kept (cs : List Char)
    : List Char :=
  cs.filter fun c => !isPassedOver c

/-- The drive at the head of a segment that goes on behind a character passed over, and how it
goes on.
-/
def cutDrive? (segment : List Char)
    : Option (List Char × List Char) :=
  match Text.splitFirst (· = ':') segment with
  | (before, some (c :: after)) =>
      let drive := kept before ++ [':']
      if isDrive drive && isPassedOver c && kept after ≠ [] then some (drive, kept after)
      else none
  | _ => none

/-- A path as far as it has been read: its segments, and whether the first is a drive, beside which
no host can stand.
-/
structure OpenPath where
  segments : List String := []
  hasDrive : Bool := false

/-- How the segments of a path are read: whether they lead to a file, and which characters of
theirs are encoded.
-/
structure SegmentRules where
  isFile : Bool
  special : List Char

namespace OpenPath

/-- The segments without the last, which stays if it is a drive. -/
def parent (path : OpenPath)
    : List String :=
  if path.segments.getLast?.any fun segment => isDrive segment.toList then path.segments
  else path.segments.dropLast

/-- A path with one segment more, given by its text. One dot leads nowhere and two lead up; where
either is the last segment the path ends in a slash. A drive at the head of a file's path is
written with a colon; what is cut off from it is taken as it stands.
-/
def step (rules : SegmentRules) (isLast : Bool) (path : OpenPath) (segment : List Char)
    : OpenPath :=
  let encoded (cs : List Char) := PercentEncoding.encode rules.special cs
  let ending := if isLast then [""] else []
  let mayBeDrive := rules.isFile && path.segments.isEmpty
  match if mayBeDrive then cutDrive? segment else none with
  | some (drive, rest) =>
      { path with segments := [String.ofList drive, String.ofList (encoded rest)] }
  | none =>
      let segment := encoded (kept segment)
      if isDoubleDot segment then { path with segments := path.parent ++ ending }
      else if isDot segment then { path with segments := path.segments ++ ending }
      else if mayBeDrive && isDrive segment then
        ⟨[String.ofList (segment.take 1 ++ [':'])], true⟩
      else { path with segments := path.segments ++ [String.ofList segment] }

/-- The segments that a path ends up with: a file's path does not start with empty ones, unless
there are no others.
-/
def close (isFile : Bool) (path : OpenPath)
    : List String :=
  if isFile then
    match path.segments.dropWhile (· = "") with
    | [] => [""]
    | segments => segments
  else path.segments

end OpenPath

/-- Whether a scheme is that of files. -/
def isFileScheme (scheme : String)
    : Bool :=
  scheme = "file"

/-- How a segment is read that is added to the path. -/
def addingRules (u : Url)
    : SegmentRules where
  isFile := isFileScheme u.scheme
  special :=
    if isServerScheme u.scheme then PercentEncoding.serverSegmentSet
    else PercentEncoding.segmentSet

/-- The list of segments with one more, given by its text; a lone dot or two are left out. -/
def pushOnto (u : Url) (list : List String) (segment : String)
    : List String :=
  if segment = "." ∨ segment = ".." then list
  else
    let path : OpenPath := ⟨if list = [""] then [] else list, false⟩
    (path.step u.addingRules true segment.toList).close u.addingRules.isFile

/-- The list of segments without an empty one at the end, unless it is the only one. -/
def withoutEnding (list : List String)
    : List String :=
  if 1 < list.length && list.getLast? = some "" then list.dropLast else list

/-- The URL with segments added to its path, each given by its text. -/
def extend (u : Url) (segments : List String)
    : Url :=
  match u.path with
  | .whole _ => u
  | .segments isApart list =>
      { u with path := .segments isApart (segments.foldl (pushOnto u) (withoutEnding list)) }

/-- Whether the path can be extended. -/
def isExtensible (u : Url)
    : Bool :=
  match u.path with
  | .segments _ _ => true
  | .whole _ => false

/-- The URL with a parameter at the end of its query; name and value need no encoding. -/
def withParameter (u : Url) (name value : String)
    : Url :=
  let parameter := name ++ "=" ++ value
  let query := match u.query with
    | none => parameter
    | some "" => parameter
    | some query => query ++ "&" ++ parameter
  { u with query := some query }

/-- The URL as a server sees it: without user and fragment. -/
def asRequested (u : Url)
    : Url :=
  { u with
    authority := u.authority.map fun a => { a with username := "", password := "" }
    fragment := none }

end Url

end Lightpath
