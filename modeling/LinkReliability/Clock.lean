import LinkReliability.Duration
import LinkReliability.Timestamp

/-!
# Clocks

A clock has a monotonic scale for intervals and a wall time for the stamps that operators see. The
manual clock stands still until it is advanced.
-/

namespace LinkReliability

/-- Nanoseconds on the monotonic scale. -/
abbrev Instant := Nat

/-- The time from `earlier` to `now`, or nothing if that lies ahead. -/
def Instant.since (now earlier : Instant) : Duration := ⟨now - earlier⟩

/-- Both times of a clock, read together. -/
structure Reading where
  now : Instant
  wall : Timestamp
deriving DecidableEq, Repr

structure ManualClock where
  origin : Timestamp
  elapsed : Duration
deriving DecidableEq, Repr

namespace ManualClock

def startingAt (origin : Timestamp) : ManualClock := ⟨origin, Duration.zero⟩

def advance (c : ManualClock) (d : Duration) : ManualClock :=
  { c with elapsed := c.elapsed + d }

def now (c : ManualClock) : Instant := c.elapsed.nanos

def wall (c : ManualClock) : Timestamp :=
  Timestamp.ofEpochNanos (c.origin.epochNanos + c.elapsed.nanos)

def read (c : ManualClock) : Reading := ⟨c.now, c.wall⟩

end ManualClock

end LinkReliability
