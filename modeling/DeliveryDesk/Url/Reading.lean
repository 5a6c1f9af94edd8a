import DeliveryDesk.Url.Basic

/-!
# Reading URLs

`Url.read` takes what operators type: blanks and control characters around the text are
ignored, tabs and line breaks are dropped wherever they stand, backslashes work as slashes
under the well-known schemes, and every part is brought into its normal form.
-/

namespace DeliveryDesk.Url

open Text

/-- What is left to read behind the authority, split into its three parts. -/
structure Tail where
  path : List Char
  query : Option (List Char)
  fragment : Option (List Char)

/-- Splits behind the first occurrence of a mark. -/
def splitMark (mark : Char) (cs : List Char) : List Char × Option (List Char) :=
  match cs.dropWhile (· != mark) with
  | [] => (cs, none)
  | _ :: rest => (cs.takeWhile (· != mark), some rest)

/-- Splits off the fragment, then the query. -/
def Tail.of (cs : List Char) : Tail :=
  let (front, fragment) := splitMark '#' cs
  let (path, query) := splitMark '?' front
  { path, query, fragment }

/-- The URL with the query and fragment of a tail. -/
def withTail (u : Url) (t : Tail) : Url :=
  { u with
    query := t.query.map fun q =>
      String.ofList (encode (escapedInQuery (isWellKnown u.scheme)) q)
    fragment := t.fragment.map fun f => String.ofList (encode escapedInFragment f) }

/-! ## Scheme -/

/-- The scheme in lower case, and what follows its colon. -/
def scheme? (cs : List Char) : Option (String × List Char) :=
  let isSchemeChar (c : Char) := c.isAlphanum || c == '+' || c == '-' || c == '.'
  let name := cs.takeWhile isSchemeChar
  match name, cs.drop name.length with
  | first :: _, ':' :: rest =>
    if first.isAlpha then some (String.ofList (name.map Char.toLower), rest) else none
  | _, _ => none

/-! ## Path -/

/-- Cuts a path into its pieces. Backslashes work as slashes under the well-known schemes. -/
def pieces (wellKnown : Bool) (cs : List Char) : List (List Char) :=
  splitAt '/' (if wellKnown then cs.map fun c => if c = '\\' then '/' else c else cs)

/-- A path while its pieces are read, and whether it turned out to be on a drive. -/
structure Walk where
  segments : List String := []
  onDrive : Bool := false

/-- A piece as a segment. -/
def segmentOf (piece : List Char) : String := String.ofList (encode escapedInPath piece)

/-- Goes on into a piece of a local file's path that stands first. A drive gets a colon, and
what follows the colon is a segment of its own. -/
def Walk.start (piece : List Char) : Walk :=
  match piece with
  | letter :: mark :: rest =>
    if isDrive piece then { segments := [String.ofList [letter, ':']], onDrive := true }
    else if mark = ':' ∧ isDrive [letter, mark] then
      { segments := [String.ofList [letter, ':'], segmentOf rest] }
    else { segments := [segmentOf piece] }
  | _ => { segments := [segmentOf piece] }

/-- Goes on into a piece that stands for no level. -/
def Walk.enter (file : Bool) (w : Walk) (piece : List Char) : Walk :=
  if file && w.segments.isEmpty then
    let first := Walk.start piece
    { first with onDrive := w.onDrive || first.onDrive }
  else { w with segments := w.segments ++ [segmentOf piece] }

/-- Goes through the pieces of a path. At its end the pieces for "here" and "one level up" leave
an empty segment. -/
def Walk.through (file : Bool) (w : Walk) : List (List Char) → Walk
  | [] => w
  | [last] =>
    if isUp last then { w with segments := shorten w.segments ++ [""] }
    else if isHere last then { w with segments := w.segments ++ [""] }
    else w.enter file last
  | piece :: rest =>
    if isUp piece then { w with segments := shorten w.segments }.through file rest
    else if isHere piece then w.through file rest
    else (w.enter file piece).through file rest

/-- A path without the empty segments it starts with, one segment being left. -/
def dropEmptyFirst : List String → List String
  | "" :: s :: rest => dropEmptyFirst (s :: rest)
  | list => list

/-- Whether a character separates the pieces of a path. -/
def isSeparator (wellKnown : Bool) (c : Char) : Bool := c == '/' || (wellKnown && c == '\\')

/-- The pieces of a path behind its first separator. -/
def piecesBehind (wellKnown : Bool) (cs : List Char) : List (List Char) :=
  match cs with
  | c :: rest => pieces wellKnown (if isSeparator wellKnown c then rest else cs)
  | [] => pieces wellKnown []

/-- The path that is written behind an authority. Under the well-known schemes it is never
empty. -/
def pathAfterAuthority (wellKnown : Bool) (cs : List Char) : Path :=
  if cs.isEmpty && !wellKnown then .segments []
  else .segments (Walk.through false {} (piecesBehind wellKnown cs)).segments

/-! ## Authority -/

/-- Where an authority ends. -/
def endsAuthority (wellKnown : Bool) (c : Char) : Bool :=
  c == '/' || c == '?' || c == '#' || (wellKnown && c == '\\')

/-- Splits behind the last occurrence of a mark. -/
def splitLast (mark : Char) (cs : List Char) : Option (List Char × List Char) :=
  match cs.reverse.dropWhile (· != mark) with
  | [] => none
  | _ :: front => some (front.reverse, (cs.reverse.takeWhile (· != mark)).reverse)

/-- Splits the host from what follows it: a colon outside of brackets ends it. -/
def splitHost (bracketed : Bool) : List Char → List Char × List Char
  | [] => ([], [])
  | c :: rest =>
    if c = ':' ∧ bracketed = false then ([], c :: rest)
    else
      let bracketed := if c = '[' then true else if c = ']' then false else bracketed
      let (host, after) := splitHost bracketed rest
      (c :: host, after)

/-- The port that digits name. The default port of the scheme is left out. -/
def port (scheme : String) (cs : List Char) : Except UrlFault (Option Nat) :=
  match numberIn? 10 cs with
  | none => .error .port
  | some n =>
    if 65535 < n then .error .port
    else if cs.isEmpty ∨ defaultPorts.lookup scheme = some n then .ok none
    else .ok (some n)

/-- Reads the host and the port. The port of a scheme that is not well known also ends at a
backslash, with which the path starts then; the path's part comes last in the result. -/
def readHostAndPort (scheme : String) (cs : List Char) :
    Except UrlFault (Host × Option Nat × List Char) := do
  let wellKnown := isWellKnown scheme
  let (hostChars, after) := splitHost false cs
  if hostChars.isEmpty ∧ (wellKnown ∨ !after.isEmpty) then .error .emptyHost
  else
    let host ← if wellKnown then Host.read hostChars else Host.readOpaque hostChars
    match after with
    | [] => return (host, none, [])
    | _ :: rest =>
      let digits := rest.takeWhile (· != '\\')
      return (host, ← port scheme digits, rest.drop digits.length)

/-- The user name and password in front of a host. -/
def readCredentials (cs : List Char) : String × String :=
  let (name, password) := splitMark ':' cs
  let encoded (cs : List Char) := String.ofList (encode escapedInUserinfo cs)
  (encoded name, encoded (password.getD []))

/-- Reads an authority, and the start of the path that may stand behind it. Without a host there
may be no credentials, and the sign behind them may not stand alone in front of `more`. -/
def readAuthority (scheme : String) (cs : List Char) (more : Bool) :
    Except UrlFault (Authority × List Char) := do
  let (credentials, rest) := (splitLast '@' cs).getD ([], cs)
  if credentials.isEmpty ∧ rest.isEmpty ∧ !cs.isEmpty ∧ more then .error .emptyHost
  else
    let (username, password) := readCredentials credentials
    let (host, port, path) ← readHostAndPort scheme rest
    let authority := { username, password, host, port }
    if host = .domain "" ∧ authority.credentials ≠ "" then .error .emptyHost
    else return (authority, path)

/-- Reads what follows the two slashes behind a scheme. -/
def readAfterSlashes (scheme : String) (cs : List Char) : Except UrlFault Url := do
  let wellKnown := isWellKnown scheme
  let authorityChars := cs.takeWhile fun c => !endsAuthority wellKnown c
  let behind := cs.drop authorityChars.length
  let tail := Tail.of behind
  let (authority, path) ← readAuthority scheme authorityChars (!behind.isEmpty)
  let path := pathAfterAuthority wellKnown (path ++ tail.path)
  return withTail { scheme, authority := some authority, path } tail

/-! ## Local files -/

/-- The host of a local file, where this machine needs no name. -/
def fileHost (cs : List Char) : Except UrlFault Host := do
  if cs.isEmpty then return .domain ""
  match ← Host.read cs with
  | .domain "localhost" => return .domain ""
  | host => return host

/-- A URL of a local file. A path on a drive leaves no host. -/
def fileUrl (host : Host) (tail : Tail) : Url :=
  let walk := Walk.through true {} (piecesBehind true tail.path)
  let host := if walk.onDrive then .domain "" else host
  withTail
    { scheme := fileScheme, authority := some { host }
      path := .segments (dropEmptyFirst walk.segments) } tail

/-- Reads what follows the scheme of local files. -/
def readFile (cs : List Char) : Except UrlFault Url := do
  match cs with
  | a :: b :: rest =>
    if isSeparator true a && isSeparator true b then
      let hostChars := rest.takeWhile fun c => !endsAuthority true c
      if isDrive hostChars then return fileUrl (.domain "") (Tail.of rest)
      else return fileUrl (← fileHost hostChars) (Tail.of (rest.drop hostChars.length))
    else return fileUrl (.domain "") (Tail.of cs)
  | _ => return fileUrl (.domain "") (Tail.of cs)

/-! ## The whole text -/

/-- Reads what follows a scheme that is not well known. -/
def readOther (scheme : String) (cs : List Char) : Except UrlFault Url :=
  match cs with
  | '/' :: '/' :: rest => readAfterSlashes scheme rest
  | '/' :: rest =>
    let tail := Tail.of rest
    .ok (withTail { scheme, authority := none,
                    path := .segments (Walk.through false {} (pieces false tail.path)).segments }
      tail)
  | _ =>
    let tail := Tail.of cs
    .ok (withTail { scheme, authority := none,
                    path := .plain (String.ofList (encode isControl tail.path)) } tail)

/-- Whether a character is ignored at either end. -/
def isMargin (c : Char) : Bool := c.toNat ≤ 0x20

/-- The characters that count. -/
def significant (s : String) : List Char :=
  ((s.toList.dropWhile isMargin).reverse.dropWhile isMargin).reverse.filter fun c => !isDropped c

/-- Reads a URL. -/
def read (s : String) : Except UrlFault Url :=
  match scheme? (significant s) with
  | none => .error .relative
  | some (scheme, rest) =>
    if scheme = fileScheme then readFile rest
    else if isWellKnown scheme then
      readAfterSlashes scheme (rest.dropWhile (isSeparator true))
    else readOther scheme rest

end DeliveryDesk.Url
