import DeliveryDesk.Text.Digit

/-!
# Whole numbers that operators type

A whole number is written in decimal digits, with a plus sign in front if one likes. What is
wrong with a text that is none is told by the first place, from the left, at which it fails.
-/

namespace DeliveryDesk.Text

/-- Why a text is no whole number within a limit. -/
inductive WholeFault where
  | empty
  | invalidDigit
  | tooLarge
deriving DecidableEq, Repr

/-- The text of a fault. -/
def WholeFault.message : WholeFault → String
  | .empty => "cannot parse integer from empty string"
  | .invalidDigit => "invalid digit found in string"
  | .tooLarge => "number too large to fit in target type"

/-- Goes on with a number that is `n` so far. -/
def readDigits (limit n : Nat) : List Char → Except WholeFault Nat
  | [] => .ok n
  | c :: rest =>
    match digitIn? 10 c with
    | none => .error .invalidDigit
    | some d => if limit < 10 * n + d then .error .tooLarge else readDigits limit (10 * n + d) rest

/-- Reads a whole number that is at most `limit`. -/
def readWhole (limit : Nat) (cs : List Char) : Except WholeFault Nat :=
  match cs with
  | [] => .error .empty
  | ['+'] => .error .invalidDigit
  | '+' :: rest => readDigits limit 0 rest
  | _ => readDigits limit 0 cs

end DeliveryDesk.Text
