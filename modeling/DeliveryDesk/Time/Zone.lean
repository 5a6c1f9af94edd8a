import DeliveryDesk.Time.Calendar

/-!
# Time zones

A zone has a fixed offset from universal time, or a daylight rule that holds in every year:
one transition into daylight time and one out of it, each given by a month, a week, a
weekday and the time that clocks show when it happens.

When daylight time starts, the clock jumps over an hour, and no clock shows the local times of
that hour. They make up the gap (`Zone.inGap`), but for one: in the north the moment of the jump
itself counts as standard time.

Nothing that is shown depends on where offsets come from. `Clocks` is all that is asked of a
zone: an offset for every instant, and one for every local time that is shown at all.
-/

namespace DeliveryDesk.Time

/-- The moment of a year at which clocks change, as they show it beforehand. -/
structure Transition where
  month : Nat
  /-- Week 1 to 4 of the month; 5 is the last one. -/
  week : Nat
  /-- Counted from Sunday. -/
  weekday : Nat
  /-- Seconds after midnight. -/
  time : Nat
deriving DecidableEq, Repr

/-- The moment of a transition in a year, on the clock that shows it. -/
def Transition.clock (t : Transition) (year : Int) : Int :=
  let first := Date.dayNumber ⟨year, t.month, 1⟩
  let offset := (t.weekday + 7 - weekdayOf first) % 7
  let day := offset + 7 * (t.week - 1)
  let day := if day < daysInMonth year t.month then day else day - 7
  (first + day) * 86400 + t.time

/-- Standard and daylight time, as seconds east of universal time, and when they change. -/
structure DaylightRule where
  standard : Int
  daylight : Int
  starts : Transition
  ends : Transition
deriving DecidableEq, Repr

namespace DaylightRule

/-- When daylight time starts in a year, in standard time. -/
def startClock (r : DaylightRule) (year : Int) : Int := r.starts.clock year

/-- When daylight time ends in a year, in daylight time. -/
def endClock (r : DaylightRule) (year : Int) : Int := r.ends.clock year

/-- Whether daylight time lies within a year, as in the northern hemisphere, and not across
its end. -/
def isNorthern (r : DaylightRule) (year : Int) : Bool := r.startClock year < r.endClock year

/-- Whether daylight time holds at an instant. -/
def isDaylightAt (r : DaylightRule) (instant : Int) : Bool :=
  let year := yearOfDay (instant / 86400)
  let start := r.startClock year - r.standard
  let finish := r.endClock year - r.daylight
  if r.isNorthern year then start ≤ instant && instant < finish
  else instant < finish || start ≤ instant

/-- Whether a local time is skipped when daylight time starts. In the north the first second
of the skipped hour still counts as standard time. -/
def inGap (r : DaylightRule) (clock : Int) : Bool :=
  let year := yearOfDay (clock / 86400)
  let start := r.startClock year
  let finish := start + (r.daylight - r.standard)
  if r.isNorthern year then start < clock && clock < finish
  else start ≤ clock && clock < finish

/-- Whether a local time counts as daylight time. A local time that occurs twice when
daylight time ends is taken at its earlier occurrence. -/
def isDaylightClock (r : DaylightRule) (clock : Int) : Bool :=
  let year := yearOfDay (clock / 86400)
  if r.isNorthern year then r.startClock year < clock && clock ≤ r.endClock year
  else clock ≤ r.endClock year || r.startClock year < clock

end DaylightRule

/-- A time zone. -/
inductive Zone where
  | fixed (offset : Int)
  | daylight (rule : DaylightRule)
deriving DecidableEq, Repr

namespace Zone

/-- Universal time. -/
def utc : Zone := .fixed 0

/-- The seconds by which clocks are ahead of universal time at an instant. -/
def offsetAt : Zone → (instant : Int) → Int
  | .fixed offset, _ => offset
  | .daylight r, instant => if r.isDaylightAt instant then r.daylight else r.standard

/-- Whether a local time falls into a gap, so that there is no offset at which it is taken. -/
def inGap : Zone → (clock : Int) → Bool
  | .fixed _, _ => false
  | .daylight r, clock => r.inGap clock

/-- The offset that holds at a local time outside every gap. -/
def offsetOfClock : Zone → (clock : Int) → Int
  | .fixed offset, _ => offset
  | .daylight r, clock => if r.isDaylightClock clock then r.daylight else r.standard

end Zone

/-- How the clocks of a place go. -/
structure Clocks where
  /-- The seconds by which they are ahead of universal time at an instant. -/
  offsetAt : (instant : Int) → Int
  /-- The offset at which a local time is taken; there is none in a gap. -/
  offsetOf? : (clock : Int) → Option Int

/-- The clocks of a zone. -/
def Zone.clocks (zone : Zone) : Clocks where
  offsetAt := zone.offsetAt
  offsetOf? clock := if zone.inGap clock then none else some (zone.offsetOfClock clock)

end DeliveryDesk.Time
