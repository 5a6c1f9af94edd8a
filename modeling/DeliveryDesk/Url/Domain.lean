import DeliveryDesk.Unicode.Normalization
import DeliveryDesk.Url.DomainTable
import DeliveryDesk.Url.Percent
import DeliveryDesk.Url.Punycode

/-!
# International domain names

A domain name is written in ASCII. Its characters are mapped first: letters become lower case,
compatibility forms become what they stand for, some characters are left out and others are not
allowed at all. Labels in other characters than ASCII are then encoded behind a mark. A label
that bears the mark already must be the encoded form of a label in its mapped form.

A label may not start with a combining mark, joiners may only stand where a script needs them,
and in a name with letters that are written from right to left every label keeps to one
direction.
-/

namespace DeliveryDesk.Url

open Text Unicode

/-- Whether a code point is an ASCII character. -/
def isAscii (n : Nat) : Bool := n < 0x80

/-! ## Mapping -/

/-- What a code point becomes, if it is allowed. -/
def mapPoint (n : Nat) : Option (List Nat) :=
  if isAscii n then some [(Char.ofNat n).toLower.toNat]
  else if domainDisallowed.contains n then none
  else if domainIgnored.contains n then some []
  else some ((domainMapping.get? n).getD [n])

/-- The mapped form of a text, if all its characters are allowed. -/
def mapName (cs : List Char) : Option (List Char) :=
  (((decompose (cs.map Char.toNat)).mapM mapPoint).map fun images =>
    (normalize images.flatten).map Char.ofNat)

/-- Whether a character is reserved in URLs, so that no domain name may hold it. -/
def isForbidden (c : Char) : Bool :=
  c.toNat ≤ 0x20 || c.toNat == 0x7F ||
    ['#', '/', ':', '<', '>', '?', '@', '[', '\\', ']', '^', '|', '%'].contains c

/-! ## Joiners -/

/-- The character that keeps two letters apart. -/
def nonJoiner : Nat := 0x200C

/-- The character that joins two letters. -/
def joiner : Nat := 0x200D

/-- Whether a code point is a sign that takes the vowel from a letter. -/
def killsVowel (n : Nat) : Bool := combiningClass n == 9

/-- Whether cursive joining passes over a code point. -/
def isPassedOver (n : Nat) : Bool := n == 0x1E94B || nonspacingMarks.contains n

/-- Whether the first code point that counts for joining is in a set. -/
def meets (letters : CodePoints) (ns : List Nat) : Bool :=
  (ns.dropWhile isPassedOver).head?.any letters.contains

/-- Whether the joiners of a label stand where they may. The code points in front are given from
the last one on. -/
def joinersFit (before : List Nat) : List Nat → Bool
  | [] => true
  | n :: rest =>
    let fits :=
      if n == nonJoiner then
        before.head?.any killsVowel || (meets joinsNext before && meets joinsPrevious rest)
      else if n == joiner then before.head?.any killsVowel
      else true
    fits && joinersFit (n :: before) rest

/-! ## Direction -/

/-- In which direction a character is written. -/
inductive Direction where
  | leftToRight
  | rightToLeft
  | arabicNumber
  | europeanNumber
  /-- As the character it stands above or below. -/
  | mark
  | neutral
deriving DecidableEq, Repr

/-- The marks that are written from left to right. -/
def leftToRightMarks : CodePoints := .ofTable "CBF CC6 11A07-11A08 11C3F"

/-- The direction of a code point. -/
def directionOf (n : Nat) : Direction :=
  if isAscii n then
    let c := Char.ofNat n
    if c.isAlpha then .leftToRight else if c.isDigit then .europeanNumber else .neutral
  else if leftToRightMarks.contains n then .leftToRight
  else if nonspacingMarks.contains n then .mark
  else if rightToLeftLetters.contains n then .rightToLeft
  else if arabicNumbers.contains n then .arabicNumber
  else if europeanNumbers.contains n then .europeanNumber
  else if neutralSigns.contains n then .neutral
  else .leftToRight

/-- Whether a name with this direction in it must keep to the rules on directions. -/
def Direction.isRightward (d : Direction) : Bool := d == .rightToLeft || d == .arabicNumber

/-- Whether a label keeps to one direction. Its first letter tells which; a label from right to
left has Arabic or European numbers, not both, and nothing but marks stands behind the last
letter or number. -/
def keepsDirection (ds : List Direction) : Bool :=
  let last := (ds.reverse.dropWhile (· == .mark)).head?
  match ds with
  | [] => true
  | .rightToLeft :: _ =>
    !ds.contains .leftToRight && !(ds.contains .europeanNumber && ds.contains .arabicNumber) &&
      last.any [.rightToLeft, .europeanNumber, .arabicNumber].contains
  | .leftToRight :: _ =>
    !ds.any Direction.isRightward && last.any [.leftToRight, .europeanNumber].contains
  | _ => false

/-- Whether the labels of a name fit together: if one has letters from right to left, each keeps
to one direction. -/
def directionsFit (labels : List (List Nat)) : Bool :=
  let labels := labels.map (·.map directionOf)
  !labels.any (·.any Direction.isRightward) || labels.all keepsDirection

/-! ## Labels -/

/-- The mark of a label that is encoded. -/
def encodedMark : List Char := "xn--".toList

/-- The longest encoded form that is read. -/
def maxEncoded : Nat := 2000

/-- The longest label that is encoded. -/
def maxPlain : Nat := 1000

/-- Whether a label is written in ASCII. -/
def isAsciiLabel (label : List Char) : Bool := label.all fun c => isAscii c.toNat

/-- The label that an encoded form stands for. It must have needed encoding, and be in its
mapped form. -/
def decodedLabel? (encoded : List Char) : Option (List Char) := do
  guard (isAsciiLabel encoded ∧ encoded.length ≤ maxEncoded)
  let label ← Punycode.decode? encoded
  guard (!isAsciiLabel label ∧ mapName label = some label)
  return label

/-- A label in readable form. -/
def plainLabel? (label : List Char) : Option (List Char) :=
  match label with
  | 'x' :: 'n' :: '-' :: '-' :: encoded => decodedLabel? encoded
  | _ => some label

/-- Whether a code point combines with the one in front of it. -/
def isMark (n : Nat) : Bool :=
  firstMark ≤ n && (nonspacingMarks.contains n || spacingMarks.contains n)

/-- Whether a label starts with no mark, and its joiners stand where they may. -/
def isWellPlaced (label : List Nat) : Bool := !label.head?.any isMark && joinersFit [] label

/-- A readable label in ASCII. -/
def asciiLabel? (label : List Char) : Option (List Char) :=
  if isAsciiLabel label then some label
  else if maxPlain < label.length then none
  else some (encodedMark ++ Punycode.encode label)

/-- A domain name in ASCII. -/
def asciiDomain? (bytes : List UInt8) : Option (List Char) := do
  let name ← mapName (← (decodeUtf8 bytes).mapM id)
  guard (!name.any isForbidden)
  let labels ← (splitAt '.' name).mapM plainLabel?
  let points := labels.map (·.map Char.toNat)
  guard (points.all isWellPlaced ∧ directionsFit points)
  return ['.'].intercalate (← labels.mapM asciiLabel?)

end DeliveryDesk.Url
