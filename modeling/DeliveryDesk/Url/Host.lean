import DeliveryDesk.Decimal.Shortest
import DeliveryDesk.Text.Blank
import DeliveryDesk.Url.Domain

/-!
# Hosts

A host is a domain name, an IPv4 address or an IPv6 address. Under the well-known schemes a
host whose last label looks like a number must be an IPv4 address, and a domain name is
written in ASCII once its percent-encoded bytes are decoded. Other schemes take any host without
reserved characters.
-/

namespace DeliveryDesk

/-- Why a text is no URL. -/
inductive UrlFault where
  | relative
  | emptyHost
  | port
  | ipv4
  | ipv6
  | domainName
  | domainCharacter
deriving DecidableEq, Repr

/-- The text of a fault. -/
def UrlFault.message : UrlFault → String
  | .relative => "relative URL without a base"
  | .emptyHost => "empty host"
  | .port => "invalid port number"
  | .ipv4 => "invalid IPv4 address"
  | .ipv6 => "invalid IPv6 address"
  | .domainName => "invalid international domain name"
  | .domainCharacter => "invalid domain character"

namespace Url

open Text

/-- The host of a URL. -/
inductive Host where
  | domain (name : String)
  | ipv4 (address : Nat)
  /-- Eight pieces of sixteen bits. -/
  | ipv6 (pieces : List Nat)
deriving DecidableEq, Repr

/-! ## IPv4 -/

/-- A number of an IPv4 address: hexadecimal behind a zero and an x, octal behind a zero,
decimal otherwise. -/
def ipv4Number? (cs : List Char) : Option Nat :=
  match cs with
  | [] => none
  | '0' :: 'x' :: rest => numberIn? 16 rest
  | '0' :: 'X' :: rest => numberIn? 16 rest
  | ['0'] => some 0
  | '0' :: rest => numberIn? 8 rest
  | _ => numberIn? 10 cs

/-- The labels of a name, without an empty one at the end. -/
def labelsOf (cs : List Char) : List (List Char) :=
  let labels := splitAt '.' cs
  if labels.getLast? = some [] then labels.dropLast else labels

/-- Whether the last label of a name is a number. -/
def endsInNumber (cs : List Char) : Bool :=
  match (labelsOf cs).getLast? with
  | none => false
  | some last => (!last.isEmpty && last.all Char.isDigit) || (ipv4Number? last).isSome

/-- An IPv4 address of up to four numbers. The last one fills the places of those that are
missing. -/
def ipv4? (cs : List Char) : Option Nat := do
  let numbers ← (labelsOf cs).mapM ipv4Number?
  let last ← numbers.getLast?
  let front := numbers.dropLast
  let room := 4 - front.length
  guard (front.length ≤ 3 ∧ front.all (· ≤ 255) ∧ last < Nat.pow 256 room)
  return front.foldl (fun n d => 256 * n + d) 0 * Nat.pow 256 room + last

/-- An IPv4 address with points between its four bytes. -/
def ipv4Text (n : Nat) : String :=
  join "." <| [n / Nat.pow 256 3, n / Nat.pow 256 2 % 256, n / 256 % 256, n % 256].map decimalText

/-! ## IPv6 -/

/-- One to four hexadecimal digits. -/
def ipv6Piece? (cs : List Char) : Option Nat :=
  if cs.isEmpty ∨ 4 < cs.length then none else numberIn? 16 cs

/-- A byte in decimal digits without leading zeros. -/
def byte? (cs : List Char) : Option Nat :=
  match cs with
  | [] => none
  | ['0'] => some 0
  | '0' :: _ => none
  | _ => (numberIn? 10 cs).bind fun n => if n ≤ 255 then some n else none

/-- The two pieces that an IPv4 address at the end of an IPv6 address stands for. -/
def embedded? (cs : List Char) : Option (List Nat) := do
  match ← (splitAt '.' cs).mapM byte? with
  | [a, b, c, d] => return [256 * a + b, 256 * c + d]
  | _ => none

/-- The pieces between colons. The last one may be an IPv4 address if `tail` is set. -/
def ipv6Pieces? (tail : Bool) : List (List Char) → Option (List Nat)
  | [] => some []
  | [last] =>
    match ipv6Piece? last with
    | some p => some [p]
    | none => if tail then embedded? last else none
  | piece :: rest => do
    let p ← ipv6Piece? piece
    let ps ← ipv6Pieces? tail rest
    return p :: ps

/-- The pieces of one side of a doubled colon, of which there may be none. -/
def ipv6Side? (tail : Bool) (cs : List Char) : Option (List Nat) :=
  if cs.isEmpty then some [] else ipv6Pieces? tail (splitAt ':' cs)

/-- The two sides of the first doubled colon. -/
def splitDoubled : List Char → Option (List Char × List Char)
  | ':' :: ':' :: rest => some ([], rest)
  | c :: rest => (splitDoubled rest).map fun (a, b) => (c :: a, b)
  | [] => none

/-- An IPv6 address: eight pieces, or fewer with a doubled colon in place of at least one
zero. -/
def ipv6? (cs : List Char) : Option (List Nat) :=
  match splitDoubled cs with
  | none => do
    let pieces ← ipv6Pieces? true (splitAt ':' cs)
    if pieces.length = 8 then some pieces else none
  | some (left, right) => do
    let left ← ipv6Side? false left
    let right ← ipv6Side? true right
    if left.length + right.length ≤ 7 then
      some (left ++ List.replicate (8 - left.length - right.length) 0 ++ right)
    else none

/-- The number of zeros at the start. -/
def leadingZeros (pieces : List Nat) : Nat := (pieces.takeWhile (· == 0)).length

/-- The first of the longest runs of zeros: where it starts and how long it is. `index` is the
place of the first piece. -/
def longestZeros (index : Nat) : List Nat → Nat × Nat
  | [] => (index, 0)
  | p :: rest =>
    let here := leadingZeros (p :: rest)
    let later := longestZeros (index + 1) rest
    if later.2 ≤ here then (index, here) else later

/-- A piece in hexadecimal digits without leading zeros. -/
def pieceText (p : Nat) : String :=
  lowerAscii (String.ofList (match (upperHex 4 p).dropWhile (· == '0') with
    | [] => ['0']
    | ds => ds))

/-- An IPv6 address; its longest run of at least two zeros becomes a doubled colon. -/
def ipv6Text (pieces : List Nat) : String :=
  let text (ps : List Nat) := join ":" (ps.map pieceText)
  let (start, length) := longestZeros 0 pieces
  if length < 2 then text pieces
  else text (pieces.take start) ++ "::" ++ text (pieces.drop (start + length))

namespace Host

/-- The host between brackets. -/
def ofBrackets (cs : List Char) : Except UrlFault Host :=
  match cs.getLast? with
  | some ']' =>
    match ipv6? cs.dropLast with
    | some pieces => .ok (.ipv6 pieces)
    | none => .error .ipv6
  | _ => .error .ipv6

/-- The host of a well-known scheme. -/
def read (cs : List Char) : Except UrlFault Host :=
  match cs with
  | '[' :: rest => ofBrackets rest
  | _ =>
    match asciiDomain? (decode cs) with
    | none => .error .domainName
    | some [] => .error .emptyHost
    | some name =>
      if endsInNumber name then
        match ipv4? name with
        | some address => .ok (.ipv4 address)
        | none => .error .ipv4
      else .ok (.domain (String.ofList name))

/-- Whether the host of another scheme may not hold a character. -/
def isReserved (c : Char) : Bool :=
  ['\x00', '\t', '\n', '\r', ' ', '#', '/', ':', '<', '>', '?', '@', '[', '\\', ']', '^',
    '|'].contains c

/-- The host of another scheme. -/
def readOpaque (cs : List Char) : Except UrlFault Host :=
  match cs with
  | '[' :: rest => ofBrackets rest
  | _ =>
    if cs.any isReserved then .error .domainCharacter
    else .ok (.domain (String.ofList (encode isControl cs)))

/-- The text of a host. -/
def text : Host → String
  | .domain name => name
  | .ipv4 address => ipv4Text address
  | .ipv6 pieces => "[" ++ ipv6Text pieces ++ "]"

end Host

end Url

end DeliveryDesk
