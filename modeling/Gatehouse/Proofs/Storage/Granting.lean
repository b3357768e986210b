import Gatehouse.Proofs.Storage.Committing

namespace Gatehouse

/-!
# What an arena grants

A request is granted if and only if its alignment is a power of two and the
block fits behind the padding; then the block starts at the next multiple of the
alignment and is zero in memory, whatever was stored elsewhere. A request that
is refused leaves the reservation as it was.
-/

/-- What is asked of an arena: one block, or an array of elements. -/
inductive ArenaRequest where
  | block (size alignment : Nat)
  | array (count elementSize alignment : Nat)
deriving DecidableEq, Repr

namespace ArenaRequest

/-- Bytes of the block that is asked for. -/
def size : ArenaRequest → Nat
  | .block size _ => size
  | .array count elementSize _ => count * elementSize

/-- The alignment in effect: an array of several elements is aligned to words at least. -/
def alignment : ArenaRequest → Nat
  | .block _ alignment => alignment
  | .array count _ alignment => if 1 < count then max alignment 8 else alignment

/-- Ask an arena. -/
def carve? (request : ArenaRequest) (arena : Arena) :
    Checked (Except ArenaError (Block × Arena)) :=
  match request with
  | .block size alignment => arena.carve? size alignment
  | .array count elementSize alignment => arena.carveArray? count elementSize alignment

/-- Ask a reservation at work. -/
def carveFrom? (request : ArenaRequest) (reservation : Reservation) :
    Checked (Except ArenaError Block × Reservation) :=
  match request with
  | .block size alignment => reservation.carve? size alignment
  | .array count elementSize alignment => reservation.carveArray? count elementSize alignment

end ArenaRequest

namespace Arena

variable {arena : Arena} {memory : Memory} {size alignment : Nat}

/-- Bytes from the first that is not carved to the next multiple of an alignment. -/
def paddingTo (arena : Arena) (alignment : Nat) : Nat :=
  alignment * ((arena.base + arena.used) ⌈/⌉ alignment) - (arena.base + arena.used)

/-- Whether an arena has a block of the given size and alignment left. -/
def Admits (arena : Arena) (size alignment : Nat) : Prop :=
  (∃ exponent, alignment = 2 ^ exponent) ∧
    arena.paddingTo alignment + size ≤ arena.reserved - arena.used

/-- The next block of the given size and alignment. -/
def nextBlock (arena : Arena) (size alignment : Nat) : Block where
  address := arena.base + arena.used + arena.paddingTo alignment
  bytes := Bytes.zeros size

/-- Padding ends at a multiple of the alignment. -/
theorem dvd_paddingTo
    (arena : Arena)
    (positive : 0 < alignment) :
    alignment ∣ arena.base + arena.used + arena.paddingTo alignment := by
  have reached := le_mul_ceilDiv positive (arena.base + arena.used)
  rw [paddingTo, Nat.add_sub_cancel' reached]
  exact Nat.dvd_mul_right _ _

/-- In the lower half of all addresses, aligning the cursor to a power of two is padding. -/
theorem IsInOrder.maskUp_cursor
    (inOrder : arena.IsInOrder)
    (isPower : ∃ exponent, alignment = 2 ^ exponent)
    (sized : alignment < Size.limit) :
    maskUp (arena.base + arena.used) alignment =
      .ok (arena.base + arena.used + arena.paddingTo alignment) := by
  obtain ⟨exponent, rfl⟩ := isPower
  have reached := le_mul_ceilDiv (Nat.two_pow_pos exponent) (arena.base + arena.used)
  have bounded : 2 ^ exponent ≤ 2 ^ 63 := by
    have below : exponent < 64 :=
      (Nat.pow_lt_pow_iff_right (by decide)).mp sized
    exact Nat.pow_le_pow_right (by decide) (Nat.le_of_lt_succ below)
  have inside := Nat.le_trans inOrder.used_le inOrder.committed_le
  have low := inOrder.low
  have small : arena.base + arena.used + 2 ^ exponent < Size.limit := by
    rw [Size.limit]
    omega
  rw [maskUp_two_pow exponent small, ← Nat.ceilDiv_eq_add_pred_div, paddingTo,
    Nat.add_sub_cancel' reached]

theorem IsInOrder.carve?_of_admits
    (inOrder : arena.IsInOrder)
    (sized : alignment < Size.limit)
    (admits : arena.Admits size alignment) :
    arena.carve? size alignment =
      .ok (.ok (arena.nextBlock size alignment,
        arena.advancedBy (arena.paddingTo alignment + size))) := by
  have cursor := inOrder.maskUp_cursor admits.1 sized
  have left : ¬arena.reserved - arena.used < arena.paddingTo alignment + size :=
    Nat.not_lt.mpr admits.2
  simp only [carve?, place?, remaining, isPowerOfTwo_iff.mpr admits.1, cursor,
    Nat.add_sub_cancel_left, left, bind, Except.bind]
  rfl

theorem carve?_of_not_power
    (arena : Arena)
    (size : Nat)
    (noPower : ¬∃ exponent, alignment = 2 ^ exponent) :
    arena.carve? size alignment = .ok (.error (.invalidAlignment alignment)) := by
  have invalid : isPowerOfTwo alignment = false :=
    Bool.eq_false_iff.mpr fun is => noPower (isPowerOfTwo_iff.mp is)
  simp only [carve?, place?, invalid]
  rfl

theorem IsInOrder.carve?_of_full
    (inOrder : arena.IsInOrder)
    (sized : alignment < Size.limit)
    (isPower : ∃ exponent, alignment = 2 ^ exponent)
    (full : arena.remaining < arena.paddingTo alignment + size) :
    arena.carve? size alignment =
      .ok (.error (.exhausted (min (arena.paddingTo alignment + size) Size.max)
        arena.remaining)) := by
  have cursor := inOrder.maskUp_cursor isPower sized
  simp only [remaining] at full
  simp only [carve?, place?, remaining, isPowerOfTwo_iff.mpr isPower, cursor,
    Nat.add_sub_cancel_left, full, bind, Except.bind]
  rfl

end Arena

namespace Reservation

open Arena

variable {arena : Arena} {memory : Memory} {size alignment : Nat}

/-- Taking bytes off the front of the tail is counting them as carved. -/
theorem advance_tail_ofArena (arena : Arena) (memory : Memory) (padding size : Nat) :
    ((ofArena arena memory).tail.advance padding).advance size =
      (ofArena { arena with used := arena.used + (padding + size) } memory).tail := by
  simp only [ofArena, Tail.advance, Tail.mk.injEq]
  omega

/-- A block that is admitted is carved and found to be zero. -/
theorem carve?_of_admits
    (inOrder : arena.IsInOrder)
    (sized : alignment < Size.limit)
    (admits : arena.Admits size alignment)
    (zero : memory.IsZero (arena.base + arena.used) (arena.base + arena.committed)) :
    ∃ after,
      (ofArena arena memory).carve? size alignment =
          .ok (.ok (arena.nextBlock size alignment),
            ofArena (arena.advancedBy (arena.paddingTo alignment + size)) after) ∧
        Commits arena (arena.commit (arena.paddingTo alignment + size)) memory after := by
  have cursor := inOrder.maskUp_cursor admits.1 sized
  have fits := admits.2
  have used_le := inOrder.used_le
  have committed_le := inOrder.committed_le
  have inside : arena.used + (arena.paddingTo alignment + size) ≤ arena.reserved := by
    omega
  obtain ⟨after, grown, commits⟩ :=
    commitTo_ofArena memory inOrder.granule_pos used_le committed_le inside
  have reached := (inOrder.advancedBy inside).used_le
  have shown :
      after.window (arena.base + arena.used + arena.paddingTo alignment) size =
        Bytes.zeros size := by
    apply (commits.zero zero).window (by omega)
    simp only [Arena.advancedBy] at reached
    omega
  have left :
      ¬(ofArena arena memory).tail.capacity < arena.paddingTo alignment + size :=
    Nat.not_lt.mpr fits
  refine ⟨after, ?_, commits⟩
  have start_eq : (ofArena arena memory).tail.start = arena.base + arena.used := rfl
  simp only [carve?, isPowerOfTwo_iff.mpr admits.1, start_eq, cursor, Nat.add_sub_cancel_left,
    left, grown, advance_tail_ofArena, bind, Except.bind]
  rw [nextBlock, ← shown]
  rfl

/-- A block that is not admitted is refused, and the reservation is left as it was. -/
theorem carve?_of_refuses
    (inOrder : arena.IsInOrder)
    (sized : alignment < Size.limit)
    (refuses : ¬arena.Admits size alignment) :
    ∃ error,
      arena.carve? size alignment = .ok (.error error) ∧
        ∀ memory,
          (ofArena arena memory).carve? size alignment =
            .ok (.error error, ofArena arena memory) := by
  by_cases isPower : ∃ exponent, alignment = 2 ^ exponent
  · have cursor := inOrder.maskUp_cursor isPower sized
    have full : arena.reserved - arena.used < arena.paddingTo alignment + size :=
      Nat.lt_of_not_le fun fits => refuses ⟨isPower, fits⟩
    refine ⟨_, inOrder.carve?_of_full sized isPower full, fun memory => ?_⟩
    have start_eq : (ofArena arena memory).tail.start = arena.base + arena.used := rfl
    have capacity_eq : (ofArena arena memory).tail.capacity = arena.reserved - arena.used := rfl
    simp only [carve?, isPowerOfTwo_iff.mpr isPower, start_eq, capacity_eq, cursor,
      Nat.add_sub_cancel_left, full, bind, Except.bind]
    rfl
  · have noPower : Arena.isPowerOfTwo alignment = false :=
      Bool.eq_false_iff.mpr fun is => isPower (isPowerOfTwo_iff.mp is)
    refine ⟨_, arena.carve?_of_not_power size isPower, fun memory => ?_⟩
    simp only [carve?, noPower]
    rfl

end Reservation

namespace ArenaRequest

variable {request : ArenaRequest} {arena : Arena} {memory : Memory}

/-- The arena once a request was granted. -/
def advance (request : ArenaRequest) (arena : Arena) : Arena :=
  arena.advancedBy (arena.paddingTo request.alignment + request.size)

/-- The block that a request is granted. -/
def nextBlock (request : ArenaRequest) (arena : Arena) : Block :=
  arena.nextBlock request.size request.alignment

@[simp]
theorem length_nextBlock (request : ArenaRequest) (arena : Arena) :
    (request.nextBlock arena).length = request.size :=
  Bytes.length_zeros _

/-- An array whose size is a size is asked for as one block. -/
theorem array_eq
    {count elementSize alignment : Nat}
    (small : count * elementSize < Size.limit) :
    arena.carveArray? count elementSize alignment =
        arena.carve? (count * elementSize) (array count elementSize alignment).alignment ∧
      ∀ memory,
        (Reservation.ofArena arena memory).carveArray? count elementSize alignment =
          (Reservation.ofArena arena memory).carve? (count * elementSize)
            (array count elementSize alignment).alignment := by
  have within : ¬Size.limit ≤ count * elementSize := Nat.not_le.mpr small
  refine ⟨?_, fun memory => ?_⟩
  · rw [Arena.carveArray?, if_neg within]
    rfl
  · rw [Reservation.carveArray?, if_neg within]
    rfl

/-- A request that is admitted is granted the next block, which is found to be zero. -/
theorem carve?_of_admits
    (inOrder : arena.IsInOrder)
    (sized : request.alignment < Size.limit)
    (admits : arena.Admits request.size request.alignment)
    (zero : memory.IsZero (arena.base + arena.used) (arena.base + arena.committed)) :
    request.carve? arena = .ok (.ok (request.nextBlock arena, request.advance arena)) ∧
      ∃ after,
        request.carveFrom? (.ofArena arena memory) =
            .ok (.ok (request.nextBlock arena), .ofArena (request.advance arena) after) ∧
          Reservation.Commits arena (request.advance arena).committed memory after := by
  have carved := inOrder.carve?_of_admits sized admits
  have shown := Reservation.carve?_of_admits inOrder sized admits zero
  cases request with
  | block size alignment =>
      exact ⟨carved, shown⟩
  | array count elementSize alignment =>
      have small : count * elementSize < Size.limit := by
        have fits := admits.2
        have low := inOrder.low
        simp only [size] at fits
        rw [Size.limit]
        omega
      obtain ⟨asBlock, asBlockFrom⟩ := @array_eq arena count elementSize alignment small
      simp only [carve?, carveFrom?, asBlock, asBlockFrom]
      exact ⟨carved, shown⟩

/-- A request that is not admitted is refused, and the reservation is left as it was. -/
theorem carve?_of_refuses
    (inOrder : arena.IsInOrder)
    (sized : request.alignment < Size.limit)
    (refuses : ¬arena.Admits request.size request.alignment) :
    ∃ error,
      request.carve? arena = .ok (.error error) ∧
        ∀ memory,
          request.carveFrom? (.ofArena arena memory) =
            .ok (.error error, .ofArena arena memory) := by
  have refused := Reservation.carve?_of_refuses inOrder sized refuses
  cases request with
  | block size alignment =>
      exact refused
  | array count elementSize alignment =>
      by_cases small : count * elementSize < Size.limit
      · obtain ⟨asBlock, asBlockFrom⟩ := @array_eq arena count elementSize alignment small
        simp only [carve?, carveFrom?, asBlock, asBlockFrom]
        exact refused
      · have large : Size.limit ≤ count * elementSize := Nat.le_of_not_lt small
        refine ⟨.exhausted Size.max arena.remaining, ?_, fun memory => ?_⟩
        · simp only [carve?, Arena.carveArray?, if_pos large]
        · simp only [carveFrom?, Reservation.carveArray?, if_pos large]
          rfl

end ArenaRequest

end Gatehouse
