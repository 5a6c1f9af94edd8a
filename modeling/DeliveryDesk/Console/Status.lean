import DeliveryDesk.Text.Ink

/-!
# The tone of a status

Statuses are opaque texts of the service. A few of them are known to be good or bad, in any
mixture of ASCII cases; all others, pending ones among them, call for caution.
-/

namespace DeliveryDesk.Console

open Text

/-- How a status is to be taken. -/
inductive Tone where
  | success
  | danger
  | warning
deriving DecidableEq, Repr

/-- The tone of a status. -/
def toneOf (status : String) : Tone :=
  let s := lowerAscii status
  if ["success", "completed", "healthy"].contains s then .success
  else if ["failure", "failed", "unhealthy"].contains s then .danger
  else .warning

namespace Tone

/-- The colour of a tone. -/
def colour : Tone → Colour
  | .success => .green
  | .danger => .red
  | .warning => .yellow

/-- The sign of a tone in a table cell. -/
def marker : Tone → String
  | .success => "✓"
  | .danger => "✗"
  | .warning => "…"

end Tone

/-- A status in the colour of its tone. -/
def styledStatus (colours : Bool) (status : String) : String :=
  paint colours (Ink.of (toneOf status).colour) status

/-- A status behind the sign of its tone. -/
def markedStatus (status : String) : String :=
  (toneOf status).marker ++ " " ++ status

end DeliveryDesk.Console
