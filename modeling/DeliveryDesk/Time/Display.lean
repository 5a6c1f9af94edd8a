import DeliveryDesk.Time.Reading
import DeliveryDesk.Time.Zone
import DeliveryDesk.Decimal.Shortest

/-!
# Showing timestamps

Operators read timestamps in their own zone and on a twelve-hour clock. A timestamp with an
offset is converted to the zone; one without an offset is taken as local time and shown
unchanged, unless it falls into a gap of the zone. Whatever is no timestamp is shown as it
was received.
-/

namespace DeliveryDesk.Time

/-- The names of the months. -/
def monthNames : List String :=
  ["Jan", "Feb", "Mar", "Apr", "May", "Jun", "Jul", "Aug", "Sep", "Oct", "Nov", "Dec"]

/-- A number with at least `width` digits. -/
def padded (width n : Nat) : String :=
  let ds := decimalDigits n
  String.ofList (List.replicate (width - ds.length) '0' ++ ds)

/-- A year with at least four digits; outside the years 0 to 9999 it carries a sign. -/
def yearText (y : Int) : String :=
  if y < 0 then "-" ++ padded 4 y.natAbs
  else if 9999 < y then "+" ++ padded 4 y.natAbs
  else padded 4 y.natAbs

/-- The hour on a twelve-hour clock. -/
def twelveHour (h : Nat) : Nat := if h % 12 = 0 then 12 else h % 12

/-- The displayed form, such as `May 4, 2025, 08:00:00 AM`. -/
def CivilTime.display (t : CivilTime) : String :=
  (monthNames[t.date.month - 1]?).getD "" ++ " " ++ decimalText t.date.day ++ ", " ++
    yearText t.date.year ++ ", " ++ padded 2 (twelveHour t.hour) ++ ":" ++
    padded 2 t.minute ++ ":" ++ padded 2 t.second ++ (if t.hour < 12 then " AM" else " PM")

/-- Whether an instant lies within the years that can be named. -/
def isNameable (instant : Int) : Bool :=
  yearStart leastYear * 86400 ≤ instant && instant < yearStart (greatestYear + 1) * 86400

namespace Clocks

/-- A time with an offset as the clocks of a place show it. -/
def convert (clocks : Clocks) (t : CivilTime) (offset : Int) : CivilTime :=
  let instant := t.clock - offset
  CivilTime.ofClock (instant + clocks.offsetAt instant) t.isLeapSecond

/-- Whether a local time is the reading of an instant that can be named. -/
def hasTime (clocks : Clocks) (t : CivilTime) : Bool :=
  match clocks.offsetOf? t.clock with
  | some offset => isNameable (t.clock - offset)
  | none => false

/-- A timestamp as it is read off the clocks of a place. -/
def format (clocks : Clocks) (raw : String) : String :=
  match internetTime? raw.toList with
  | some (t, offset) => (clocks.convert t offset).display
  | none =>
    match localTime? raw.toList with
    | some t => if clocks.hasTime t then t.display else raw
    | none => raw

end Clocks

/-- A timestamp as operators see it. -/
def formatTimestamp (zone : Zone) (raw : String) : String := zone.clocks.format raw

/-- What stands in for a value that is absent. -/
def noneText : String := "None"

/-- A timestamp that may be absent. -/
def formatOptionalTimestamp (zone : Zone) : Option String → String
  | none => noneText
  | some raw => formatTimestamp zone raw

end DeliveryDesk.Time
