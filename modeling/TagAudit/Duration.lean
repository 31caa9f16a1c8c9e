import TagAudit.Data

/-!
# Durations

A duration is a number of seconds: a whole one if it lies between two whole readings of a clock, and
otherwise a binary64 number. Whole ones are shown as they are, and others in thousandths.
-/

namespace TagAudit

/-- A duration in seconds. -/
inductive Duration where
  | whole (seconds : Int)
  | measured (seconds : Binary64)

namespace Duration

/-- No time at all. -/
def zero : Duration := measured (.zero false)

/-- The seconds as a binary64 number. -/
def seconds : Duration → Binary64
  | whole n => .ofInt n
  | measured x => x

/-- The duration between two readings of a clock. -/
def between : (start stop : Duration) → Duration
  | whole start, whole stop => whole (stop - start)
  | start, stop => measured (stop.seconds.sub start.seconds)

/-- A duration as it is shown. -/
def toData : Duration → Data
  | whole n => .int n
  | measured x => .real (x.roundPlaces 3)

end Duration

end TagAudit
