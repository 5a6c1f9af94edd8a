import DeliveryDesk.Text.Digit
import DeliveryDesk.Text.Utf8

/-!
# Percent encoding

A character that may not stand in some part of a URL is written as its UTF-8 bytes, each as a
percent sign and two hexadecimal digits. Which characters these are differs between the parts;
each part has a predicate here.
-/

namespace DeliveryDesk.Url

open Text

/-- Control characters, and everything beyond ASCII. -/
def isControl (c : Char) : Bool := c.toNat < 0x20 || 0x7E < c.toNat

/-- What is encoded in a fragment. -/
def escapedInFragment (c : Char) : Bool :=
  isControl c || [' ', '"', '<', '>', '\x60'].contains c

/-- What is encoded in a query. Well-known schemes also encode the apostrophe. -/
def escapedInQuery (wellKnown : Bool) (c : Char) : Bool :=
  isControl c || [' ', '"', '#', '<', '>'].contains c || (wellKnown && c == '\x27')

/-- What is encoded in a path. -/
def escapedInPath (c : Char) : Bool :=
  escapedInFragment c || ['#', '?', '\x7b', '\x7d'].contains c

/-- What is encoded in a segment that is appended to a path, so that it stays one segment. -/
def escapedInSegment (wellKnown : Bool) (c : Char) : Bool :=
  escapedInPath c || c == '/' || c == '%' || (wellKnown && c == '\\')

/-- What is encoded in a user name or password. -/
def escapedInUserinfo (c : Char) : Bool :=
  escapedInPath c || ['/', ':', ';', '=', '@', '[', '\\', ']', '^', '|'].contains c

/-- A byte as a percent sign and two digits. -/
def encodeByte (b : UInt8) : List Char :=
  ['%', upperHexDigit (b.toNat / 16), upperHexDigit (b.toNat % 16)]

/-- Encodes the characters that `escaped` holds of. -/
def encode (escaped : Char → Bool) (cs : List Char) : List Char :=
  cs.flatMap fun c => if escaped c then (encodeChar c).flatMap encodeByte else [c]

/-- The bytes that a percent-encoded text stands for. A percent sign without two digits
behind it stands for itself. -/
def decode : List Char → List UInt8
  | [] => []
  | '%' :: a :: b :: rest =>
    match digitIn? 16 a, digitIn? 16 b with
    | some x, some y => UInt8.ofNat (16 * x + y) :: decode rest
    | _, _ => encodeChar '%' ++ decode (a :: b :: rest)
  | c :: rest => encodeChar c ++ decode rest

end DeliveryDesk.Url
