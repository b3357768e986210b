import Gatehouse.Bytes

namespace Gatehouse

/-!
# Memory

What is stored at every address. A window shows some bytes in a row; storing
bytes changes the window that they fill and no window apart from it.
-/

/-- What is stored at every address. -/
def Memory := Nat → UInt8

namespace Memory

variable {memory : Memory} {address start stop length : Nat} {bytes : Bytes}

/-- The bytes from an address on. -/
def window (memory : Memory) (address length : Nat) : Bytes :=
  (List.range length).map fun index => memory (address + index)

/-- Store bytes from an address on. -/
def store (memory : Memory) (address : Nat) (bytes : Bytes) : Memory := fun place =>
  if address ≤ place then bytes.getD (place - address) (memory place) else memory place

/-- Whether all bytes from one address up to another are zero. -/
def IsZero (memory : Memory) (start stop : Nat) : Prop :=
  ∀ place, start ≤ place → place < stop → memory place = 0

@[simp]
theorem length_window (memory : Memory) (address length : Nat) :
    (memory.window address length).length = length := by
  simp [window]

theorem window_congr
    {other : Memory}
    (same : ∀ place, address ≤ place → place < address + length → memory place = other place) :
    memory.window address length = other.window address length := by
  apply List.map_congr_left
  intro index inside
  have below := List.mem_range.mp inside
  exact same (address + index) (by omega) (by omega)

theorem store_of_outside
    {place : Nat}
    (outside : place < address ∨ address + bytes.length ≤ place) :
    memory.store address bytes place = memory place := by
  unfold store
  split
  next behind =>
    rw [List.getD_eq_getElem?_getD, List.getElem?_eq_none (by omega)]
    rfl
  next before =>
    rfl

/-- Storing bytes leaves a window apart from them as it was. -/
theorem window_store_of_apart
    (apart : start + length ≤ address ∨ address + bytes.length ≤ start) :
    (memory.store address bytes).window start length = memory.window start length :=
  window_congr fun _ _ _ => store_of_outside (by omega)

/-- Bytes that were stored are shown. -/
theorem window_store (memory : Memory) (address : Nat) (bytes : Bytes) :
    (memory.store address bytes).window address bytes.length = bytes := by
  apply List.ext_getElem
  · rw [length_window]
  · intro index inside below
    simp [window, store, below]

namespace IsZero

theorem window
    (zero : memory.IsZero start stop)
    (behind : start ≤ address)
    (inside : address + length ≤ stop) :
    memory.window address length = Bytes.zeros length := by
  rw [Memory.window, Bytes.zeros, List.eq_replicate_iff]
  refine ⟨by simp, ?_⟩
  intro byte member
  obtain ⟨index, below, rfl⟩ := List.mem_map.mp member
  have within := List.mem_range.mp below
  exact zero (address + index) (by omega) (by omega)

theorem mono
    {later earlier : Nat}
    (zero : memory.IsZero start stop)
    (behind : start ≤ later)
    (inside : earlier ≤ stop) :
    memory.IsZero later earlier :=
  fun place fromLater toEarlier => zero place (by omega) (by omega)

/-- What is stored before the zeros leaves them alone. -/
theorem store_before
    (zero : memory.IsZero start stop)
    (before : address + bytes.length ≤ start) :
    (memory.store address bytes).IsZero start stop := by
  intro place behind inside
  rw [store_of_outside (by omega)]
  exact zero place behind inside

/-- Zeros that are stored behind zeros continue them. -/
theorem store_zeros
    (zero : memory.IsZero start stop)
    (count : Nat) :
    (memory.store stop (Bytes.zeros count)).IsZero start (stop + count) := by
  intro place behind inside
  by_cases before : place < stop
  · rw [store_of_outside (.inl before)]
    exact zero place behind before
  · have below : place - stop < count := by
      omega
    simp [store, Nat.not_lt.mp before, Bytes.zeros, below]

end IsZero

end Memory

end Gatehouse
