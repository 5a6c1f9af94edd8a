import DeliveryDesk.Text.Blank

/-!
# Coloured text

Terminal text is coloured by an escape sequence in front of it and a reset behind it. A
reset inside the text would end the colour early, so the opening sequence is repeated after
each one. With colours switched off a text is left as it is.
-/

namespace DeliveryDesk.Text

/-- The colours in use. -/
inductive Colour where
  | red
  | green
  | yellow
  | cyan
deriving DecidableEq, Repr

/-- The code of a colour. -/
def Colour.code : Colour → String
  | .red => "31"
  | .green => "32"
  | .yellow => "33"
  | .cyan => "36"

/-- How a text is set off. -/
structure Ink where
  bold : Bool := false
  dimmed : Bool := false
  underline : Bool := false
  colour : Option Colour := none
deriving DecidableEq, Repr

namespace Ink

/-- Ink of one colour. -/
def of (c : Colour) : Ink := { colour := some c }

/-- Bold ink of one colour. -/
def boldOf (c : Colour) : Ink := { bold := true, colour := some c }

/-- The codes of an ink in the order in which they are written. -/
def codes (ink : Ink) : List String :=
  (if ink.bold then ["1"] else []) ++ (if ink.dimmed then ["2"] else []) ++
    (if ink.underline then ["4"] else []) ++
    (match ink.colour with
      | some c => [c.code]
      | none => [])

end Ink

/-- The sequence that ends every colour. -/
def resetSequence : List Char := ['\x1b', '[', '0', 'm']

/-- Repeats `again` after every reset in a text. -/
def reopen (again : List Char) : List Char → List Char
  | '\x1b' :: '[' :: '0' :: 'm' :: rest => resetSequence ++ again ++ reopen again rest
  | c :: rest => c :: reopen again rest
  | [] => []

/-- A text in an ink, if colours are on. -/
def paint (colours : Bool) (ink : Ink) (s : String) : String :=
  if colours then
    let opening := ("\x1b[" ++ join ";" ink.codes ++ "m").toList
    String.ofList (opening ++ reopen opening s.toList ++ resetSequence)
  else s

end DeliveryDesk.Text
