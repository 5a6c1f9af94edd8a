import DeliveryDesk.Unicode.WidthTable

/-!
# Display width

Tables are drawn in terminal columns. Ideographs, kana, full-width forms and emoji take two
columns, marks and other invisible characters none, and every other character one, control
characters too.

Some characters change their width with what stands behind them: a selector makes an emoji of
a sign, emoji that are joined are drawn as one, and in some scripts two letters run together.
`columns` therefore takes a character together with what follows it, and `lineWidth` goes
through a line from its end.
-/

namespace DeliveryDesk.Unicode

/-- What stands behind a character, as far as the character's width depends on it. Those that
tell whether they are `joined` have a joiner in front. -/
inductive Trailer where
  | other
  /-- An Arabic alef. -/
  | alef
  /-- A Hebrew lamed. -/
  | lamed (joined : Bool)
  /-- A Khmer letter that can be written below another one. -/
  | khmerLetter
  /-- A Buginese ya. -/
  | ya (joined : Bool)
  /-- A Buginese vowel sign in front of a joined ya. -/
  | vowelYa
  /-- A Tifinagh consonant. -/
  | tifinagh (joined : Bool)
  /-- The Tifinagh joiner in front of a consonant. -/
  | joinerTifinagh
  /-- A tone letter of Lisu that can end a pair. -/
  | lisuTone
  /-- An Old Turkic letter. -/
  | orkhonI (joined : Bool)
  /-- The vowel signs of Kirat Rai that are written in parts. -/
  | kiratE
  | kiratAi
  /-- A skin tone. -/
  | modifier
  /-- One letter of a flag. -/
  | indicator
  /-- Several letters of flags. -/
  | indicators
  | emoji
  | joinedEmoji
  /-- A joined key cap. -/
  | joinedKeycap
  /-- One, an even and an odd number of letters of flags in front of a joined emoji. -/
  | joinedIndicator
  | evenIndicators
  | oddIndicators
  /-- The end of a flag's tags in front of a joined emoji, and the letters and digits in front
  of that end. -/
  | tagEnd
  | tagLetters (count : Nat)
  | tagDigits (count : Nat)
deriving DecidableEq, Repr

/-- A trailer, and the selectors in front of it. -/
structure Following where
  trailer : Trailer := .other
  emojiStyle : Bool := false
  textStyle : Bool := false
deriving DecidableEq, Repr

namespace Trailer

/-- Whether letters run together with a trailer when a joiner or selector stands between. -/
def isLigature : Trailer → Bool
  | lamed _ | khmerLetter | ya _ | vowelYa | tifinagh _ | joinerTifinagh | lisuTone | orkhonI _
  | kiratE | kiratAi => true
  | _ => false

/-- Whether a trailer outlives selectors in front of it. -/
def outlivesSelector (t : Trailer) : Bool := t == alef || t.isLigature

/-- Whether a trailer is an emoji with a joiner in front of it. -/
def isJoinedEmoji (t : Trailer) : Bool := t == joinedEmoji || t == joinedKeycap

/-- A trailer with a joiner in front. -/
def join : Trailer → Trailer
  | lamed _ => lamed true
  | ya _ => ya true
  | tifinagh _ => tifinagh true
  | orkhonI _ => orkhonI true
  | t => t

end Trailer

namespace Following

/-- What follows when a selector for emoji stands in front. -/
def withEmojiStyle (f : Following) : Following :=
  if f.trailer.outlivesSelector || f.trailer.isJoinedEmoji then { f with emojiStyle := true }
  else { emojiStyle := true }

/-- What follows when a selector for text stands in front. -/
def withTextStyle (f : Following) : Following :=
  if f.trailer.outlivesSelector then { f with textStyle := true } else { textStyle := true }

/-- What follows once a selector for emoji was without effect. -/
def withoutEmojiStyle (f : Following) : Following :=
  if f.emojiStyle then
    if f.trailer.outlivesSelector then { f with emojiStyle := false } else {}
  else f

end Following

/-- Whether a number lies in a closed range. -/
def within (low high n : Nat) : Bool := low ≤ n && n ≤ high

/-- The Arabic letters that begin with an alef. -/
def alefs : CodePoints :=
  .ofTable "622-623 625 627 671-673 675 773-774 870-882"

/-- The Arabic letters that begin with a lam. -/
def lams : CodePoints := .ofTable "644 6B5-6B8 76A 8A6 8C7"

/-- The Khmer letters that can be written below another one. -/
def khmerLetters : CodePoints :=
  .ofTable "1780-1782 1784-1787 1789-178C 178E-1793 1795-1798 179B-179D 17A0 17A2 17A7 17AB-17AC
    17AF"

/-- The consonants of Tifinagh. -/
def tifinaghConsonants : CodePoints := .ofTable "2D31-2D65 2D6F"

/-- The invisible characters that do not separate letters which run together. -/
def ligatureTransparent : CodePoints :=
  .ofTable "34F 17B4-17B5 180B-180D 180F 200D FE00-FE0F E0100-E01EF"

/-- The joiner. -/
def joinerPoint : Nat := 0x200D

/-- Whether a code point is a letter of a flag. -/
def isIndicator (n : Nat) : Bool := within 0x1F1E6 0x1F1FF n

/-- Whether a code point is a skin tone. -/
def isModifier (n : Nat) : Bool := within 0x1F3FB 0x1F3FF n

/-- Whether a selector makes text of an emoji. It does not for the ideographs among them. -/
def isTextSelectable (n : Nat) : Bool :=
  !within 0x1F200 0x1F2FF n && pictures.contains n && selectable.contains n

/-- The columns of a character on its own. -/
def ownColumns (n : Nat) : Nat :=
  if n ≤ 0xA0 then 1
  else if n == 0x17A4 then 2
  else if n == 0x17D8 then 3
  else if zeroWidth.contains n then 0
  else if doubleWidth.contains n then 2
  else 1

/-- What a character is for the one in front of it. -/
def trailerOf (n : Nat) : Trailer :=
  if n ≤ 0xA0 then .other
  else if n == 0x5DC then .lamed false
  else if alefs.contains n then .alef
  else if khmerLetters.contains n then .khmerLetter
  else if n == 0x1A10 then .ya false
  else if tifinaghConsonants.contains n then .tifinagh false
  else if within 0xA4FC 0xA4FD n then .lisuTone
  else if n == 0x10C03 then .orkhonI false
  else if n == 0x16D67 then .kiratE
  else if n == 0x16D68 then .kiratAi
  else if isIndicator n then .indicator
  else if isModifier n then .modifier
  else if pictures.contains n then .emoji
  else .other

/-- The columns that a letter adds when it runs together with what follows it, and what the
whole is for the character in front. -/
def ligature? (t : Trailer) (n : Nat) : Option (Int × Trailer) :=
  match t with
  | .alef =>
    if lams.contains n then some (0, .other)
    else if zeroWidth.contains n && !cursiveBreak.contains n then some (0, .alef)
    else none
  | .lamed true => if n == 0x5D0 then some (0, .other) else none
  | .khmerLetter => if n == 0x17D2 then some (-1, .other) else none
  | .ya true => if n == 0x1A17 then some (0, .vowelYa) else none
  | .vowelYa => if n == 0x1A15 then some (0, .other) else none
  | .tifinagh joined =>
    if n == 0x2D7F then some (1, .joinerTifinagh)
    else if joined && tifinaghConsonants.contains n then some (0, .other)
    else none
  | .joinerTifinagh => if tifinaghConsonants.contains n then some (-1, .other) else none
  | .lisuTone => if within 0xA4F8 0xA4FB n then some (0, .other) else none
  | .orkhonI true => if n == 0x10C32 then some (0, .other) else none
  | .kiratE =>
    if n == 0x16D63 then some (0, .other)
    else if n == 0x16D67 then some (0, .kiratAi)
    else if n == 0x16D68 then some (1, .kiratE)
    else if n == 0x16D69 then some (0, .other)
    else none
  | .kiratAi => if n == 0x16D63 then some (0, .other) else none
  | _ => none

/-- The tag letter or digit in front of the tags at the end of a flag. Up to six letters may
stand there, or three digits in front of up to four letters. -/
def tag? (t : Trailer) (n : Nat) : Option Trailer :=
  if within 0xE0061 0xE007A n then
    match t with
    | .tagEnd => some (.tagLetters 1)
    | .tagLetters k => if k < 6 then some (.tagLetters (k + 1)) else none
    | _ => none
  else if within 0xE0030 0xE0039 n then
    match t with
    | .tagEnd => some (.tagDigits 1)
    | .tagLetters k => if k ≤ 4 then some (.tagDigits 1) else none
    | .tagDigits k => if k < 3 then some (.tagDigits (k + 1)) else none
    | _ => none
  else none

/-- Whether the tags are all there, so that the flag itself may stand in front of them. -/
def Trailer.isWholeTag : Trailer → Bool
  | tagLetters k => 3 ≤ k
  | tagDigits k => k == 3
  | _ => false

/-- The columns that a character adds to the emoji behind it when both are drawn as one, and
what the whole is for the character in front. -/
def cluster? (t : Trailer) (n : Nat) : Option (Int × Trailer) :=
  match t with
  | .modifier =>
    if skinToned.contains n then some (0, .emoji)
    else if n == joinerPoint then some (0, .joinedEmoji)
    else none
  | .emoji => if n == joinerPoint then some (0, .joinedEmoji) else none
  | .indicator => if isIndicator n then some (1, .indicators) else none
  | .indicators =>
    if isIndicator n then some (1, .indicators)
    else if n == joinerPoint then some (0, .joinedEmoji)
    else none
  | .joinedEmoji =>
    if n == 0x20E3 then some (0, .joinedKeycap)
    else if isIndicator n then some (1, .joinedIndicator)
    else if isModifier n then some (0, .modifier)
    else if n == 0xE007F then some (0, .tagEnd)
    else if trailerOf n = .emoji then some (0, .emoji)
    else none
  | .joinedIndicator => if isIndicator n then some (-1, .evenIndicators) else none
  | .evenIndicators =>
    if isIndicator n then some (3, .oddIndicators)
    else if n == joinerPoint then some (0, .joinedEmoji)
    else none
  | .oddIndicators =>
    if isIndicator n then some (-1, .evenIndicators)
    else if n == joinerPoint then some (0, .joinedEmoji)
    else none
  | t =>
    if t.isWholeTag && n == 0x1F3F4 then some (0, .emoji) else (tag? t n).map ((0, ·))

/-- The columns of a character in front of what follows it, no selector between. -/
def plainColumns (n : Nat) (t : Trailer) : Int × Following :=
  if t.isLigature && ligatureTransparent.contains n then
    (0, { trailer := if n == joinerPoint then t.join else t })
  else
    let joint := (ligature? t n).orElse fun _ => cluster? t n
    let (width, t) := joint.getD (ownColumns n, trailerOf n)
    (width, { trailer := t })

/-- The columns that a character adds to what follows it, and what both are for the character in
front of them. -/
def columns (n : Nat) (f : Following) : Int × Following :=
  if f.emojiStyle && selectable.contains n then
    (if f.trailer.isJoinedEmoji then 0 else 2, { trailer := .emoji })
  else
    let f := f.withoutEmojiStyle
    if n ≤ 0xA0 then (1, {})
    else if n == 0xFE0F then (0, f.withEmojiStyle)
    else if n == 0xFE0E then (0, f.withTextStyle)
    else if f.textStyle && isTextSelectable n then (1, {})
    else plainColumns n f.trailer

/-- The columns of a line, and what its start is for a character in front of it. A carriage
return counts like other control characters, as no line holds a line break. -/
def measure (line : List Char) : Int × Following :=
  line.foldr (fun c (total, following) =>
    let (width, following) := columns c.toNat following
    (total + width, following)) (0, {})

/-- The columns that a line takes. -/
def lineWidth (line : List Char) : Nat := (measure line).1.toNat

end DeliveryDesk.Unicode
