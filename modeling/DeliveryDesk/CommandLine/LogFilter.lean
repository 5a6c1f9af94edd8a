import DeliveryDesk.CommandLine.Pattern
import DeliveryDesk.Log
import DeliveryDesk.Text.Whole
import DeliveryDesk.Unicode.Alphanumeric

/-!
# Log filters

A log filter says how much is logged. It is a list of directives with commas between them. A
directive is a level, or a target with an optional level behind an equals sign; a span, with
conditions on its fields in braces, may stand in brackets behind the target or in its place.
`isLogFilter` tells whether a text is a log filter.

`isWithinLevel` is what a filter means that is a level and nothing more, as the default one is.
-/

namespace DeliveryDesk.CommandLine

open Text Unicode

/-- The names of the levels by their numbers, the quietest first. -/
def levelNames : List String := ["off", "error", "warn", "info", "debug", "trace"]

/-- The number of the most talkative level. -/
def maxLevel : Nat := 5

/-- The number of the level that no text names. -/
def unnamedLevel : Nat := 1

/-- The level that a text is: a name in either case, or a number. -/
def level? (cs : List Char) : Option Nat :=
  if cs.isEmpty then some unnamedLevel
  else
    match readWhole maxLevel cs with
    | .ok n => some n
    | .error _ => levelNames.idxOf? (lowerAscii (String.ofList cs))

/-- Whether a text is a level. -/
def isLevel (cs : List Char) : Bool := (level? cs).isSome

/-- Whether a text is a condition on a field: its name, and the pattern of its value behind an
equals sign. A second equals sign ends the pattern. -/
def isCondition (cs : List Char) : Bool :=
  !cs.isEmpty &&
    match splitAt '=' cs with
    | _ :: pattern :: _ => isPattern pattern
    | _ => true

/-- What is being read of a directive. -/
inductive DirectiveSpot where
  | start
  | levelOrTarget
  | span
  /-- A condition, of which some characters have been read. -/
  | field (read : List Char)
  | fields
  | target
  /-- The level behind so many characters. -/
  | level (position : Nat)
deriving DecidableEq, Repr

namespace DirectiveSpot

/-- Goes on behind the character at a position; `none` if no directive continues like this. -/
def next? (position : Nat) (c : Char) : DirectiveSpot → Option DirectiveSpot
  | start =>
    if c = '[' then some span
    else if c = '-' ∨ c = ':' ∨ c = '_' ∨ isAlphanumeric c then some levelOrTarget
    else none
  | levelOrTarget =>
    if c = '=' then some (level (position + 1))
    else if c = '[' then some span
    else some levelOrTarget
  | span =>
    if c = ']' then some target
    else if c = '\x7b' then some (field [])
    else some span
  | field read =>
    if c = '\x7d' then if isCondition read then some fields else none
    else some (field (read ++ [c]))
  | fields => if c = ']' then some target else none
  | target => if c = '=' then some (level (position + 1)) else none
  | level first => some (level first)

/-- Goes through the rest of a directive. -/
def through? (spot : DirectiveSpot) (position : Nat) : List Char → Option DirectiveSpot
  | [] => some spot
  | c :: rest => (spot.next? position c).bind fun spot => spot.through? (position + 1) rest

end DirectiveSpot

/-- Whether a text is a directive. Blanks around it do not matter where its structure is read,
but they are part of its level. -/
def isDirective (cs : List Char) : Bool :=
  match DirectiveSpot.start.through? 0 (trimChars cs) with
  | some .levelOrTarget => true
  | some .target => true
  | some (.level position) => isLevel (cs.drop position)
  | _ => false

/-- Whether a text is a log filter. Empty directives do not matter. -/
def isLogFilter (s : String) : Bool :=
  ((splitAt ',' s.toList).filter (· != [])).all isDirective

/-- Whether a log filter that is a level lets a record through. No other filter does. -/
def isWithinLevel (filter : String) (record : LogRecord) : Bool :=
  (level? (trimChars filter.toList)).any (record.level.number ≤ ·)

/-- The variable that holds the log filter before any other. -/
def logFilterVariable : String := "RUST_LOG"

/-- The variable that holds the log filter where the command line has none. -/
def logLevelVariable : String := "HOOKDESK_LOG_LEVEL"

/-- The log filter if none is given. -/
def defaultLogFilter : String := "warn"

end DeliveryDesk.CommandLine
