import DeliveryDesk.Text.Digit

/-!
# Patterns

A log filter may compare a field's value with a pattern: characters, classes of them between
brackets, groups between parentheses, alternatives behind bars, and signs that repeat what
stands in front of them. `isPattern` tells whether a text is one. Commas and closing braces, and
with them counted repetition, cannot occur in a log filter's patterns.
-/

namespace DeliveryDesk.CommandLine

open Text

/-- What is being read of a pattern. -/
inductive PatternSpot where
  /-- The start of a branch, where there is nothing to repeat. -/
  | branch
  /-- Behind something that can be repeated. -/
  | item
  /-- Behind a backslash; within a class or not. -/
  | escape (inClass : Bool)
  /-- Behind an escape that so many hexadecimal digits must follow. -/
  | digits (count : Nat) (inClass : Bool)
  /-- Behind an escape that names a property with one letter. -/
  | property (inClass : Bool)
  /-- The start of a class, maybe behind the sign that negates it. -/
  | classStart (negated : Bool)
  | classItem
deriving DecidableEq, Repr

namespace PatternSpot

/-- Where reading goes on behind a character that stands for itself. -/
def behind (inClass : Bool) : PatternSpot := if inClass then classItem else item

/-- Goes on behind a backslash. Letters and digits have meanings of their own, or none. -/
def escaped? (inClass : Bool) (c : Char) : Option PatternSpot :=
  if c = 'x' then some (digits 2 inClass)
  else if c = 'u' then some (digits 4 inClass)
  else if c = 'U' then some (digits 8 inClass)
  else if c = 'p' ∨ c = 'P' then some (property inClass)
  else if "dswDSWaftnrv".contains c then some (behind inClass)
  else if "Az".contains c then if inClass then none else some item
  else if c.isAlphanum ∨ c = '<' ∨ c = '>' ∨ 0x80 ≤ c.toNat then none
  else some (behind inClass)

/-- Goes on within a class. -/
def inClass? (c : Char) : Option PatternSpot :=
  if c = ']' then some item
  else if c = '\\' then some (escape true)
  else some classItem

/-- Goes on behind a character; `none` if no pattern continues like this. Groups are counted
elsewhere. -/
def next? : PatternSpot → Char → Option PatternSpot
  | escape inClass, c => escaped? inClass c
  | digits count inClass, c =>
    if !isHexDigit c then none
    else if count ≤ 1 then some (behind inClass)
    else some (digits (count - 1) inClass)
  | property inClass, c => if "LNPSZCM".contains c then some (behind inClass) else none
  | classStart negated, c =>
    if c = '^' ∧ !negated then some (classStart true)
    else if c = ']' then some classItem
    else inClass? c
  | classItem, c => inClass? c
  | spot, c =>
    if c = '*' ∨ c = '+' ∨ c = '?' then if spot = branch then none else some item
    else if c = '|' ∨ c = '(' then some branch
    else if c = '[' then some (classStart false)
    else if c = '\\' then some (escape false)
    else if c = '\x7b' then none
    else some item

end PatternSpot

/-- Whether the rest of a pattern completes it, `depth` groups being open. A group may start with
signs that only name or set it. -/
def completesPattern (depth : Nat) (spot : PatternSpot) : List Char → Bool
  | [] => depth == 0 && (spot == .branch || spot == .item)
  | '(' :: '?' :: ':' :: rest =>
    if spot = .branch ∨ spot = .item then completesPattern (depth + 1) .branch rest
    else
      match spot.next? '(' with
      | some spot => completesPattern depth spot ('?' :: ':' :: rest)
      | none => false
  | c :: rest =>
    let outside := spot == .branch || spot == .item
    if outside && c == ')' then
      match depth with
      | 0 => false
      | depth + 1 => completesPattern depth .item rest
    else
      match spot.next? c with
      | none => false
      | some next => completesPattern (if outside && c == '(' then depth + 1 else depth) next rest

/-- Whether a text is a number with a sign in front. -/
def isSigned : List Char → Bool
  | '+' :: c :: rest => (c :: rest).all Char.isDigit
  | _ => false

/-- Whether a text is a pattern, or a number. -/
def isPattern (cs : List Char) : Bool := isSigned cs || completesPattern 0 .branch cs

end DeliveryDesk.CommandLine
