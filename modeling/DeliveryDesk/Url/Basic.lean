import DeliveryDesk.Url.Host

/-!
# URLs

A URL names a scheme and, behind it, a path with an optional query and fragment. Most URLs
also have an authority, the host with its port and credentials. A path is a list of segments,
unless the scheme takes it as plain text; then nothing can be appended to it.

`Url.extend` appends segments to a path. A segment is encoded so that it stays one segment,
whatever its characters are; only the segments that stand for "here" and "one level up" are
left out.
-/

namespace DeliveryDesk

namespace Url

/-- Where a URL's resource lives. -/
structure Authority where
  username : String := ""
  password : String := ""
  host : Host
  port : Option Nat := none
deriving DecidableEq, Repr

/-- The path of a URL. -/
inductive Path where
  | plain (text : String)
  | segments (list : List String)
deriving DecidableEq, Repr

/-- The text of a path. -/
def Path.text : Path → String
  | .plain t => t
  | .segments list => String.join (list.map fun s => "/" ++ s)

end Url

/-- A URL in its normal form. -/
structure Url where
  scheme : String
  authority : Option Url.Authority
  path : Url.Path
  query : Option String := none
  fragment : Option String := none
deriving DecidableEq, Repr

namespace Url

open Text

/-- The well-known schemes with an authority, and their default ports. -/
def defaultPorts : List (String × Nat) :=
  [("http", 80), ("https", 443), ("ws", 80), ("wss", 443), ("ftp", 21)]

/-- The scheme of local files. -/
def fileScheme : String := "file"

/-- Whether a scheme is well known. -/
def isWellKnown (scheme : String) : Bool :=
  (defaultPorts.lookup scheme).isSome || scheme == fileScheme

/-- The text of the credentials, with the sign behind them. -/
def Authority.credentials (a : Authority) : String :=
  if a.username.isEmpty && a.password.isEmpty then ""
  else a.username ++ (if a.password.isEmpty then "" else ":" ++ a.password) ++ "@"

/-- The text of an authority. -/
def Authority.text (a : Authority) : String :=
  a.credentials ++ a.host.text ++
    match a.port with
    | some p => ":" ++ decimalText p
    | none => ""

/-- A part that is optional, behind its mark. -/
def marked (mark : String) : Option String → String
  | none => ""
  | some s => mark ++ s

/-- What stands between the scheme and the path. Without an authority, a path that starts with
an empty segment is set off, so that the segment is not taken for an authority. -/
def authorityText (u : Url) : String :=
  match u.authority, u.path with
  | some a, _ => "//" ++ a.text
  | none, .segments ("" :: _ :: _) => "/."
  | none, _ => ""

/-- The text of a URL. -/
def text (u : Url) : String :=
  u.scheme ++ ":" ++ u.authorityText ++ u.path.text ++ marked "?" u.query ++
    marked "#" u.fragment

/-- What a request line names: the path and the query. -/
def target (u : Url) : String := u.path.text ++ marked "?" u.query

/-! ## Appending to a path -/

/-- Whether a segment stands for the level it is on. -/
def isHere (s : List Char) : Bool :=
  let s := s.map Char.toLower
  s == ['.'] || s == "%2e".toList

/-- Whether a segment stands for the level above. -/
def isUp (s : List Char) : Bool :=
  let s := s.map Char.toLower
  [['.', '.'], "%2e.".toList, ".%2e".toList, "%2e%2e".toList].contains s

/-- Whether a character is dropped wherever it stands. -/
def isDropped (c : Char) : Bool := c == '\t' || c == '\n' || c == '\r'

/-- A path without one empty segment at its end, unless that is its only one. -/
def dropEmptyLast (list : List String) : List String :=
  if 2 ≤ list.length ∧ list.getLast? = some "" then list.dropLast else list

/-- The path below which a segment is appended. A path that is only a slash has none yet. -/
def below (list : List String) : List String := if list = [""] then [] else list

/-- Whether characters name a drive: a letter and a colon or bar. -/
def isDrive : List Char → Bool
  | [letter, mark] => letter.isAlpha && (mark == ':' || mark == '|')
  | _ => false

/-- A path one level up. There is no way up from a drive. -/
def shorten (list : List String) : List String :=
  if list.getLast?.any fun s => isDrive s.toList then list else list.dropLast

/-- Appends one segment. The segments for "here" and "one level up" are left out, except that
one which only shows as such when tabs and line breaks are dropped takes effect. -/
def push (wellKnown : Bool) (list : List String) (segment : String) : List String :=
  if segment = "." ∨ segment = ".." then list
  else
    let kept := segment.toList.filter fun c => !isDropped c
    if kept = ['.', '.'] then shorten (below list) ++ [""]
    else if kept = ['.'] then below list ++ [""]
    else below list ++ [String.ofList (encode (escapedInSegment wellKnown) kept)]

/-- The URL below this one whose path goes on with some segments. There is none below a plain
path. -/
def extend (u : Url) (segments : List String) : Option Url :=
  match u.path with
  | .plain _ => none
  | .segments list =>
    let list := segments.foldl (push (isWellKnown u.scheme)) (dropEmptyLast list)
    some { u with path := .segments list }

/-- Appends a pair to the query. Neither part may need encoding. -/
def appendPair (u : Url) (name value : String) : Url :=
  let pair := name ++ "=" ++ value
  match u.query with
  | none => { u with query := some pair }
  | some q => { u with query := some (if q.isEmpty then pair else q ++ "&" ++ pair) }

end Url

end DeliveryDesk
