import Gatehouse.Fault

namespace Gatehouse

/-!
# Time in nanoseconds

Clock readings and durations are natural numbers of nanoseconds.
-/

namespace Nanoseconds

/-- A duration of some seconds. -/
def ofSeconds (seconds : Nat) : Nat :=
  1000000000 * seconds

/-- A duration of some milliseconds. -/
def ofMilliseconds (milliseconds : Nat) : Nat :=
  1000000 * milliseconds

/-- A duration of some microseconds. -/
def ofMicroseconds (microseconds : Nat) : Nat :=
  1000 * microseconds

/-- The whole microseconds in a duration. -/
def toMicroseconds (duration : Nat) : Nat :=
  duration / 1000

/-- Clock readings end before this many seconds. -/
def lastSecond : Nat := 9223372036854775808

/-- The reading some seconds after another one. -/
def later (reading seconds : Nat) : Checked Nat :=
  if reading + ofSeconds seconds < ofSeconds lastSecond then
    .ok (reading + ofSeconds seconds)
  else
    .error .overflow

@[simp]
theorem toMicroseconds_ofMicroseconds (microseconds : Nat) :
    toMicroseconds (ofMicroseconds microseconds) = microseconds := by
  simp [toMicroseconds, ofMicroseconds]

end Nanoseconds

end Gatehouse
