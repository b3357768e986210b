import Gatehouse.Nanoseconds

namespace Gatehouse

/-!
# The ticker

Paces the services: a tick is due once a whole interval has gone by. After a
stall at most one tick is caught up; the others are lost. The ticker never
reads a clock itself: readings are passed in, in nanoseconds.
-/

/-- How long ticks took, in microseconds. -/
structure TickSummary where
  shortest : Nat
  longest : Nat
  /-- A rolling average, to which every tick contributes a sixteenth. -/
  average : Nat
  /-- Ticks that took longer than the interval. -/
  late : Nat
  total : Nat
deriving DecidableEq, Repr

/-- A ticker. -/
structure Ticker where
  interval : Nat
  /-- The reading up to which time was counted. -/
  lastReading : Nat
  /-- Time that went by and was not yet spent on a tick. -/
  owed : Nat
  /-- Ticks begun so far. -/
  count : Nat
  summary : TickSummary
deriving DecidableEq, Repr

namespace TickSummary

/-- A duration in microseconds, at most the largest size. -/
def shown (duration : Nat) : Nat :=
  min (Nanoseconds.toMicroseconds duration) Size.max

/-- The summary of no ticks; the average starts at the interval. -/
def ofInterval (interval : Nat) : TickSummary where
  shortest := Size.max
  longest := 0
  average := shown interval
  late := 0
  total := 0

/-- The summary with one more tick. -/
def record (summary : TickSummary) (interval duration : Nat) : Checked TickSummary := do
  let weighted ← Size.mul summary.average 15
  let sum ← Size.add weighted (shown duration)
  return {
    shortest := min summary.shortest (shown duration)
    longest := max summary.longest (shown duration)
    average := sum / 16
    late := if interval < duration then summary.late + 1 else summary.late
    total := summary.total + 1
  }

end TickSummary

namespace Ticker

/-- A ticker that starts counting at a reading. -/
def ofInterval (interval now : Nat) : Ticker where
  interval := interval
  lastReading := now
  owed := 0
  count := 0
  summary := .ofInterval interval

/-- Count the time up to a reading. -/
def advance (ticker : Ticker) (now : Nat) : Ticker :=
  { ticker with lastReading := now, owed := ticker.owed + (now - ticker.lastReading) }

def isDue (ticker : Ticker) : Bool :=
  ticker.interval ≤ ticker.owed

/-- Begin a tick. What is owed beyond one more tick is forgotten. -/
def begin (ticker : Ticker) : Ticker :=
  { ticker with
    owed := min (ticker.owed - ticker.interval) ticker.interval
    count := ticker.count + 1 }

/-- End a tick that took a duration. -/
def finish (ticker : Ticker) (duration : Nat) : Checked Ticker := do
  let summary ← ticker.summary.record ticker.interval duration
  return { ticker with summary := summary }

/-- How long nothing will be due at a reading; zero if something is. -/
def timeToNext (ticker : Ticker) (now : Nat) : Nat :=
  ticker.interval - ((now - ticker.lastReading) + ticker.owed)

/-- Forget how long the ticks took. -/
def restartSummary (ticker : Ticker) : Ticker :=
  { ticker with summary := .ofInterval ticker.interval }

end Ticker

end Gatehouse
