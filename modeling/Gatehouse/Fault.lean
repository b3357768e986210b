namespace Gatehouse

/-!
# Faults and sizes

A fault stops the whole program instead of answering its caller: a size that
leaves the 64-bit range, an index or slice outside its buffer, a table too large
to be addressed, an exhausted reservation. Faults are kept apart from the errors
that a caller handles, so that "this never stops the program" can be stated
about a function's result.

Sizes are natural numbers. The operations of `Size` are exact below
`Size.limit` and fault at and above it, in place of wrapping around.
-/

/-- A reason why the program stops. -/
inductive Fault where
  /-- Arithmetic on sizes left the 64-bit range. -/
  | overflow
  /-- An index or a slice bound lies outside the buffer or table it is used on. -/
  | outOfRange
  /-- A table was asked to hold nothing at all. -/
  | emptyTable
  /-- A table was asked to hold more than can be addressed. -/
  | unaddressable
  /-- A buffer that has to be obtained does not fit what is left of the reservation. -/
  | exhausted
  /-- The provisioned key produces integers wider than the block they were read from. -/
  | brokenKey
  /-- A connection that has to be made was refused. -/
  | refused
deriving DecidableEq, Repr

/-- A computation that answers or stops the program. -/
abbrev Checked (α : Type) := Except Fault α

/-- A sequence answers if its first part does and what follows answers too. -/
theorem Checked.bind_eq_ok
    {first : Checked α}
    {next : α → Checked β}
    {result : β} :
    (first >>= next) = .ok result ↔ ∃ value, first = .ok value ∧ next value = .ok result := by
  cases first with
  | error fault => simp [bind, Except.bind]
  | ok value => simp [bind, Except.bind]

namespace Size

/-- One more than the largest size. -/
def limit : Nat := 18446744073709551616

/-- The largest size. -/
def max : Nat := limit - 1

/-- The most bytes that one piece of memory can have. -/
def maxPiece : Nat := 9223372036854775807

/-- The given size, or an overflow if it is out of range. -/
def check (size : Nat) : Checked Nat :=
  if size < limit then .ok size else .error .overflow

/-- The sum of two sizes. -/
def add (left right : Nat) : Checked Nat :=
  check (left + right)

/-- The product of two sizes. -/
def mul (left right : Nat) : Checked Nat :=
  check (left * right)

/-- The difference of two sizes; a larger subtrahend is an overflow too. -/
def sub (left right : Nat) : Checked Nat :=
  if right ≤ left then .ok (left - right) else .error .overflow

/-- The least multiple of `unit` that is not below `size`. -/
def roundUp (size unit : Nat) : Checked Nat :=
  if size % unit = 0 then check size else check (size + (unit - size % unit))

/-- Check that a table of `count` entries can be addressed. -/
def checkTable (count entrySize : Nat) : Checked Unit :=
  if count * entrySize ≤ maxPiece then .ok () else .error .unaddressable

theorem check_eq_ok {size result : Nat} :
    check size = .ok result ↔ size < limit ∧ result = size := by
  unfold check
  split
  next inside => simp [inside, eq_comm]
  next outside => simp [outside]

theorem sub_eq_ok {left right result : Nat} :
    sub left right = .ok result ↔ right ≤ left ∧ result = left - right := by
  unfold sub
  split
  next inside => simp [inside, eq_comm]
  next outside => simp [outside]

theorem checkTable_eq_ok {count entrySize : Nat} :
    checkTable count entrySize = .ok () ↔ count * entrySize ≤ maxPiece := by
  simp [checkTable]

end Size

end Gatehouse
