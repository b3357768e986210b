import Gatehouse.Bytes

namespace Gatehouse.Bytes

/-!
# Pieces of byte strings

What a buffer holds after something was written over part of it, and what
slices of it show.
-/

/-- Bytes that fit replace the same number of bytes. -/
theorem overwrite_of_fits
    {buffer bytes : Bytes}
    {start : Nat}
    (fits : start + bytes.length ≤ buffer.length) :
    buffer.overwrite start bytes =
      buffer.take start ++ (bytes ++ buffer.drop (start + bytes.length)) := by
  have whole : bytes.take (buffer.length - start) = bytes := by
    rw [List.take_of_length_le]
    omega
  rw [overwrite, whole, List.append_assoc]

theorem overwrite_front
    {buffer bytes : Bytes}
    (fits : bytes.length ≤ buffer.length) :
    buffer.overwrite 0 bytes = bytes ++ buffer.drop bytes.length := by
  rw [overwrite_of_fits (by omega)]
  simp

theorem slice_overwrite
    {buffer bytes : Bytes}
    {start : Nat}
    (fits : start + bytes.length ≤ buffer.length) :
    (buffer.overwrite start bytes).slice start (start + bytes.length) = .ok bytes := by
  have front : (buffer.take start).length = start := by
    rw [List.length_take]
    omega
  rw [slice_eq_ok, length_overwrite]
  refine ⟨⟨by omega, fits⟩, ?_⟩
  rw [overwrite_of_fits fits, List.drop_left' front, Nat.add_sub_cancel_left]
  exact (List.take_left' rfl).symm

theorem take_overwrite
    {buffer bytes : Bytes}
    {start : Nat}
    (fits : start + bytes.length ≤ buffer.length) :
    (buffer.overwrite start bytes).take (start + bytes.length) = buffer.take start ++ bytes := by
  have front : (buffer.take start ++ bytes).length = start + bytes.length := by
    rw [List.length_append, List.length_take]
    omega
  rw [overwrite_of_fits fits, ← List.append_assoc, List.take_left' front]

theorem drop_overwrite
    {buffer bytes : Bytes}
    {start : Nat}
    (fits : start + bytes.length ≤ buffer.length) :
    (buffer.overwrite start bytes).drop (start + bytes.length) =
      buffer.drop (start + bytes.length) := by
  have front : (buffer.take start ++ bytes).length = start + bytes.length := by
    rw [List.length_append, List.length_take]
    omega
  rw [overwrite_of_fits fits, ← List.append_assoc, List.drop_left' front]

end Gatehouse.Bytes
