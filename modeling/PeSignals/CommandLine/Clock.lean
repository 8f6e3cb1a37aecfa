import PeSignals.Decimal.Fixed
import PeSignals.Time.Moment

/-!
# Clock

A moment in microseconds since the start of 1970, and its text in universal time.
-/
namespace PeSignals.CommandLine

open Decimal (padZeros)

/-- When a run takes place. -/
structure Clock where
  /-- The time in microseconds. -/
  now : Nat
  deriving Repr, DecidableEq

namespace Clock

/-- Two digits of a number. -/
def two (n : Nat) : String := padZeros 2 (toString n)

def dateText (c : Clock) : String :=
  let date := Time.Date.ofDays (c.now / 86400000000)
  "-".intercalate [padZeros 4 (toString date.year), two date.month, two date.day]

def timeText (c : Clock) : String :=
  let second := c.now / 1000000 % 86400
  ":".intercalate [two (second / 3600), two (second / 60 % 60), two (second % 60)]

/-- The fraction of a second of a clock, unless it is zero. -/
def fractionText (c : Clock) : String :=
  let fraction := c.now % 1000000
  if fraction = 0 then "" else "." ++ padZeros 6 (toString fraction)

def moment (c : Clock) : Time.Moment := { microseconds := c.now }

/-- The text of a clock in reports. -/
def text (c : Clock) : String := c.dateText ++ "T" ++ c.timeText ++ c.fractionText ++ "+00:00"

/-- The text of a clock in front of a log line. -/
def lineText (c : Clock) : String := c.dateText ++ "T" ++ c.timeText ++ "+0000"

end Clock

end PeSignals.CommandLine
