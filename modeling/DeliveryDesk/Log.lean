/-!
# Log records

Apart from what the operator is told, the desk notes in a log what it does. A `LogRecord` says how
much it matters, which part of the desk it comes from, and what happened, with the values that
belong to it as fields.

How a record is laid out on a line, with the time in front of it and the action during which it was
noted, is left to whoever writes the log. So is what the layers below the desk have to log.
-/

namespace DeliveryDesk

/-- How much a record matters. -/
inductive LogLevel where
  | warn
  | info
  | debug
deriving DecidableEq, Repr

/-- The number of a level. The more talkative a level is, the higher is its number. -/
def LogLevel.number : LogLevel → Nat
  | .warn => 2
  | .info => 3
  | .debug => 4

/-- The value of a field. -/
inductive LogValue where
  | text (s : String)
  | number (n : Nat)
  /-- A text that may be missing. -/
  | optional (s : Option String)
deriving DecidableEq, Repr

/-- One entry of the log. -/
structure LogRecord where
  level : LogLevel
  /-- The part of the desk that the record comes from. -/
  target : String
  message : String
  fields : List (String × LogValue) := []
deriving DecidableEq, Repr

end DeliveryDesk
