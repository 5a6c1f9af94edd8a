/-!
# Reading UTF-8

An HTTP body is a list of bytes that need not be text. `decodeUtf8` reads the characters
it holds and keeps a mark for every byte that belongs to no well-formed sequence, so that a
later reader can still accept malformed bytes where it does not look at the characters.
-/

namespace DeliveryDesk.Text

/-- A character of a body, or nothing for a byte outside every well-formed sequence. -/
abbrev Symbol := Option Char

/-- The characters of a text as symbols. -/
def symbols (s : String) : List Symbol := s.toList.map some

/-- Whether a byte continues a sequence. -/
def isContinuation (b : UInt8) : Bool := 0x80 ≤ b && b < 0xC0

/-- The low six bits of a continuation byte. -/
def continuationBits (b : UInt8) : Nat := b.toNat % 64

/-- The character that a well-formed sequence at the start of the bytes encodes, and how
many bytes follow its first one. Over-long forms, surrogates and code points beyond the last
one are not well formed. -/
def sequence? : List UInt8 → Option (Char × Nat)
  | [] => none
  | a :: rest =>
    if a < 0x80 then some (Char.ofNat a.toNat, 0)
    else if a < 0xC2 then none
    else if a < 0xE0 then
      match rest with
      | b :: _ =>
        if isContinuation b then
          some (Char.ofNat ((a.toNat - 0xC0) * 64 + continuationBits b), 1)
        else none
      | _ => none
    else if a < 0xF0 then
      match rest with
      | b :: c :: _ =>
        let n := (a.toNat - 0xE0) * 4096 + continuationBits b * 64 + continuationBits c
        if isContinuation b && isContinuation c && 0x800 ≤ n && !(0xD800 ≤ n && n < 0xE000)
        then some (Char.ofNat n, 2) else none
      | _ => none
    else
      match rest with
      | b :: c :: d :: _ =>
        let n := (a.toNat - 0xF0) * 262144 + continuationBits b * 4096 +
          continuationBits c * 64 + continuationBits d
        if isContinuation b && isContinuation c && isContinuation d &&
            0x10000 ≤ n && n < 0x110000
        then some (Char.ofNat n, 3) else none
      | _ => none

/-- Reads on behind `skip` bytes that belong to the last character. -/
def decodeFrom : (skip : Nat) → List UInt8 → List Symbol
  | _, [] => []
  | skip + 1, _ :: rest => decodeFrom skip rest
  | 0, b :: rest =>
    match sequence? (b :: rest) with
    | some (c, more) => some c :: decodeFrom more rest
    | none => none :: decodeFrom 0 rest

/-- The characters and the malformed bytes of a body, in order. -/
def decodeUtf8 (bytes : List UInt8) : List Symbol := decodeFrom 0 bytes

/-- The UTF-8 bytes of a character. -/
def encodeChar (c : Char) : List UInt8 := String.utf8EncodeChar c

end DeliveryDesk.Text
