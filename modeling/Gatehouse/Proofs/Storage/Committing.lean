import Mathlib.Algebra.Order.Floor.Div
import Gatehouse.Proofs.Storage.Carving
import Gatehouse.Proofs.Storage.Memory

namespace Gatehouse

/-!
# Committing granule by granule

An arena works on a tail: the part of its reservation that was not carved yet,
the front of which is committed. To carve, it fills one granule after another
with zeros until enough of the tail is committed, and then takes the bytes off
the front. How much ends up committed is known beforehand: as many whole
granules as reach what was carved, or all that there is.
-/

/-- As many units fewer are needed as were taken off. -/
theorem ceilDiv_sub_mul
    {unit : Nat}
    (positive : 0 < unit)
    (size count : Nat) :
    (size - unit * count) ⌈/⌉ unit = size ⌈/⌉ unit - count := by
  apply eq_of_forall_ge_iff
  intro bound
  rw [ceilDiv_le_iff_le_mul positive, Nat.sub_le_iff_le_add, Nat.sub_le_iff_le_add,
    ceilDiv_le_iff_le_mul positive, Nat.mul_add]

theorem le_mul_ceilDiv
    {unit : Nat}
    (positive : 0 < unit)
    (size : Nat) :
    size ≤ unit * (size ⌈/⌉ unit) :=
  (ceilDiv_le_iff_le_mul positive).mp (Nat.le_refl _)

namespace Arena

variable {arena : Arena} {needed : Nat}

/-- An arena whose counters are in order, in the lower half of all addresses. -/
structure IsInOrder (arena : Arena) : Prop where
  granule_pos : 0 < arena.granule
  used_le : arena.used ≤ arena.committed
  committed_le : arena.committed ≤ arena.reserved
  /-- Whole granules are committed as far as was carved, or all that there is. -/
  committed_eq :
    arena.committed = min arena.reserved (arena.granule * (arena.used ⌈/⌉ arena.granule))
  low : arena.base + arena.reserved < 2 ^ 63

/-- What committing comes to, with rounding up spelled out. -/
theorem commit_eq (arena : Arena) (needed : Nat) :
    arena.commit needed =
      min arena.reserved
        (arena.committed +
          arena.granule * ((needed - (arena.committed - arena.used)) ⌈/⌉ arena.granule)) := by
  rw [Nat.ceilDiv_eq_add_pred_div]
  rfl

theorem commit_of_enough
    (inside : arena.committed ≤ arena.reserved)
    (enough : needed ≤ arena.committed - arena.used) :
    arena.commit needed = arena.committed := by
  rw [commit_eq, Nat.sub_eq_zero_of_le enough, zero_ceilDiv, Nat.mul_zero, Nat.add_zero]
  exact Nat.min_eq_right inside

/-- The arena once one more granule is committed, or what is left. -/
def withGranule (arena : Arena) : Arena :=
  { arena with committed := min arena.reserved (arena.committed + arena.granule) }

/-- Where more is needed, committing a granule first makes no difference to the outcome. -/
theorem commit_withGranule
    (positive : 0 < arena.granule)
    (used_le : arena.used ≤ arena.committed)
    (short : arena.committed - arena.used < needed) :
    arena.withGranule.commit needed = arena.commit needed := by
  have some : 0 < (needed - (arena.committed - arena.used)) ⌈/⌉ arena.granule := by
    by_contra none
    have covered := (ceilDiv_le_iff_le_mul positive).mp (Nat.le_of_not_lt none)
    omega
  have fewer := ceilDiv_sub_mul positive (needed - (arena.committed - arena.used)) 1
  rw [commit_eq, commit_eq]
  simp only [withGranule]
  rw [Nat.mul_one] at fewer
  by_cases whole : arena.committed + arena.granule ≤ arena.reserved
  · have missing :
        needed - (arena.committed + arena.granule - arena.used) =
          needed - (arena.committed - arena.used) - arena.granule := by
      omega
    rw [Nat.min_eq_right whole, missing, fewer, Nat.add_assoc, Nat.add_comm arena.granule,
      ← Nat.mul_succ, Nat.succ_eq_add_one, Nat.sub_add_cancel some]
  · have most :
        arena.granule ≤
          arena.granule * ((needed - (arena.committed - arena.used)) ⌈/⌉ arena.granule) :=
      Nat.le_mul_of_pos_right _ some
    omega

/-- A reservation that is made is in order, for nothing of it is committed or carved. -/
theorem isInOrder_of_ofSizes
    {base reserveBytes granuleBytes : Nat}
    (made : ofSizes base reserveBytes granuleBytes = .ok (.ok arena))
    (low : base + arena.reserved < 2 ^ 63) :
    arena.IsInOrder := by
  obtain ⟨rfl, uncarved, _, _, uncommitted, positive⟩ := of_ofSizes_eq_ok made
  refine ⟨positive, by omega, by omega, ?_, low⟩
  rw [uncarved, uncommitted, zero_ceilDiv, Nat.mul_zero, Nat.min_zero]

namespace IsInOrder

variable (inOrder : arena.IsInOrder)

include inOrder

/-- Committing reaches what will be carved with whole granules, or takes all that there is. -/
theorem commit_eq_min (inside : arena.used + needed ≤ arena.reserved) :
    arena.commit needed =
      min arena.reserved (arena.granule * ((arena.used + needed) ⌈/⌉ arena.granule)) := by
  have positive := inOrder.granule_pos
  have further : arena.used ⌈/⌉ arena.granule ≤ (arena.used + needed) ⌈/⌉ arena.granule := by
    rw [ceilDiv_le_iff_le_mul positive]
    have reached := le_mul_ceilDiv positive (arena.used + needed)
    omega
  have ordered := Nat.mul_le_mul_left arena.granule further
  have behind := inOrder.used_le
  have committed_eq := inOrder.committed_eq
  by_cases enough : needed ≤ arena.committed - arena.used
  · rw [commit_of_enough inOrder.committed_le enough]
    by_cases all : arena.committed = arena.reserved
    · omega
    · have whole : arena.committed = arena.granule * (arena.used ⌈/⌉ arena.granule) := by
        omega
      have noFurther : (arena.used + needed) ⌈/⌉ arena.granule ≤ arena.used ⌈/⌉ arena.granule := by
        rw [ceilDiv_le_iff_le_mul positive]
        omega
      rw [Nat.le_antisymm noFurther further]
      exact committed_eq
  · have whole : arena.committed = arena.granule * (arena.used ⌈/⌉ arena.granule) := by
      omega
    have missing :
        needed - (arena.committed - arena.used) =
          arena.used + needed - arena.granule * (arena.used ⌈/⌉ arena.granule) := by
      omega
    rw [commit_eq, missing, ceilDiv_sub_mul positive, Nat.mul_sub, ← whole]
    congr 1
    omega

theorem advancedBy (inside : arena.used + needed ≤ arena.reserved) :
    (arena.advancedBy needed).IsInOrder := by
  have committed_eq := inOrder.commit_eq_min inside
  have reached := le_mul_ceilDiv inOrder.granule_pos (arena.used + needed)
  refine ⟨inOrder.granule_pos, ?_, ?_, committed_eq, inOrder.low⟩
  · rw [Arena.advancedBy, committed_eq]
    exact Nat.le_min.mpr ⟨inside, reached⟩
  · rw [Arena.advancedBy, committed_eq]
    exact Nat.min_le_left _ _

end IsInOrder

end Arena

/-- The part of a reservation that is not carved: its start, what of it is committed, and all. -/
structure Tail where
  start : Nat
  length : Nat
  capacity : Nat

/-- Take bytes off the front of a tail. -/
def Tail.advance (tail : Tail) (count : Nat) : Tail where
  start := tail.start + count
  length := tail.length - count
  capacity := tail.capacity - count

/-- A reservation at work: the memory, the tail, and the counters of the arena. -/
structure Reservation where
  memory : Memory
  tail : Tail
  reserved : Nat
  granule : Nat
  committed : Nat
  used : Nat

namespace Reservation

variable {arena : Arena} {memory : Memory} {needed : Nat}

/-- The reservation of an arena. -/
def ofArena (arena : Arena) (memory : Memory) : Reservation where
  memory := memory
  tail :=
    { start := arena.base + arena.used
      length := arena.committed - arena.used
      capacity := arena.reserved - arena.used }
  reserved := arena.reserved
  granule := arena.granule
  committed := arena.committed
  used := arena.used

/-- Fill some bytes behind the committed ones with zeros; they are committed from then on. -/
def grow (reservation : Reservation) (step : Nat) : Reservation :=
  { reservation with
    memory :=
      reservation.memory.store (reservation.tail.start + reservation.tail.length)
        (Bytes.zeros step)
    tail := { reservation.tail with length := reservation.tail.length + step }
    committed := reservation.committed + step }

/-- The bytes that are committed at a time: a granule, or what is left. -/
def step (reservation : Reservation) : Nat :=
  min reservation.granule (reservation.tail.capacity - reservation.tail.length)

/-- Commit granule after granule until the tail has the bytes needed, or nothing is left. -/
def commitTo (reservation : Reservation) (needed : Nat) : Reservation :=
  if reservation.tail.length < needed ∧ 0 < reservation.step then
    (reservation.grow reservation.step).commitTo needed
  else
    reservation
termination_by needed - reservation.tail.length
decreasing_by
  simp only [grow]
  omega

/-- Carve a block, and show what it holds; a refusal comes before anything is committed. -/
def carve?
    (reservation : Reservation)
    (size alignment : Nat) :
    Checked (Except ArenaError Block × Reservation) := do
  if !Arena.isPowerOfTwo alignment then
    return (.error (.invalidAlignment alignment), reservation)
  let aligned ← Arena.maskUp reservation.tail.start alignment
  let padding := aligned - reservation.tail.start
  let needed := padding + size
  if reservation.tail.capacity < needed then
    return (.error (.exhausted (min needed Size.max) reservation.tail.capacity), reservation)
  let grown := reservation.commitTo needed
  let front := grown.tail.advance padding
  return (.ok { address := front.start, bytes := grown.memory.window front.start size },
    { grown with tail := front.advance size, used := grown.used + needed })

/-- Carve an array; several elements are aligned to words at least. -/
def carveArray?
    (reservation : Reservation)
    (count elementSize alignment : Nat) :
    Checked (Except ArenaError Block × Reservation) :=
  if Size.limit ≤ count * elementSize then
    .ok (.error (.exhausted Size.max (reservation.reserved - reservation.used)), reservation)
  else
    let alignment := if 1 < count then max alignment Arena.wordAlignment else alignment
    reservation.carve? (count * elementSize) alignment

/-- Memory in which more of a reservation was committed than before, and nothing else changed. -/
structure Commits (arena : Arena) (committed : Nat) (before after : Memory) : Prop where
  zero :
    before.IsZero (arena.base + arena.used) (arena.base + arena.committed) →
    after.IsZero (arena.base + arena.used) (arena.base + committed)
  elsewhere :
    ∀ place,
      place < arena.base + arena.committed ∨ arena.base + arena.reserved ≤ place →
      after place = before place

/-- Nothing is committed where nothing changes. -/
theorem Commits.refl (arena : Arena) (memory : Memory) :
    Commits arena arena.committed memory memory :=
  ⟨id, fun _ _ => rfl⟩

/-- Committing goes on where a granule was committed. -/
theorem Commits.trans
    {committed : Nat}
    {before middle after : Memory}
    (further : arena.committed ≤ arena.withGranule.committed)
    (first : Commits arena arena.withGranule.committed before middle)
    (second : Commits arena.withGranule committed middle after) :
    Commits arena committed before after := by
  refine ⟨fun zero => second.zero (first.zero zero), ?_⟩
  intro place outside
  have beyond :
      place < arena.withGranule.base + arena.withGranule.committed ∨
        arena.withGranule.base + arena.withGranule.reserved ≤ place := by
    rcases outside with before | behind
    · exact .inl (Nat.lt_of_lt_of_le before (Nat.add_le_add_left further _))
    · exact .inr behind
  exact (second.elsewhere place beyond).trans (first.elsewhere place outside)

/-- Growing by a step is committing a granule. -/
theorem grow_ofArena
    (memory : Memory)
    (used_le : arena.used ≤ arena.committed)
    (committed_le : arena.committed ≤ arena.reserved) :
    ∃ after,
      (ofArena arena memory).grow (ofArena arena memory).step = ofArena arena.withGranule after ∧
        Commits arena arena.withGranule.committed memory after := by
  have step_eq :
      arena.committed + (ofArena arena memory).step =
        min arena.reserved (arena.committed + arena.granule) := by
    simp only [step, ofArena]
    omega
  have start_eq :
      arena.base + arena.used + (arena.committed - arena.used) =
        arena.base + arena.committed := by
    omega
  refine ⟨memory.store (arena.base + arena.committed)
    (Bytes.zeros (ofArena arena memory).step), ?_, ?_, ?_⟩
  · have length_eq :
        arena.committed - arena.used + (ofArena arena memory).step =
          min arena.reserved (arena.committed + arena.granule) - arena.used := by
      omega
    unfold grow
    simp only [ofArena, Arena.withGranule] at step_eq length_eq ⊢
    rw [start_eq, step_eq, length_eq]
  · intro zero
    rw [Arena.withGranule, ← step_eq, ← Nat.add_assoc]
    exact zero.store_zeros _
  · intro place outside
    apply Memory.store_of_outside
    rw [Bytes.length_zeros]
    omega

/-- Committing granule by granule ends with as much committed as was foreseen. -/
theorem commitTo_ofArena
    (memory : Memory)
    (positive : 0 < arena.granule)
    (used_le : arena.used ≤ arena.committed)
    (committed_le : arena.committed ≤ arena.reserved)
    (inside : arena.used + needed ≤ arena.reserved) :
    ∃ after,
      (ofArena arena memory).commitTo needed =
          ofArena { arena with committed := arena.commit needed } after ∧
        Commits arena (arena.commit needed) memory after := by
  induction missing : needed - (arena.committed - arena.used) using Nat.strong_induction_on
    generalizing arena memory with
  | _ count inductionHypothesis =>
      rw [commitTo]
      split
      next short =>
        have stillShort : arena.committed - arena.used < needed := short.1
        obtain ⟨middle, grown, first⟩ := grow_ofArena memory used_le committed_le
        have further : arena.committed < arena.withGranule.committed := by
          simp only [Arena.withGranule]
          omega
        have closer : needed - (arena.withGranule.committed - arena.used) < count := by
          omega
        have used_le_next := Nat.le_trans used_le (Nat.le_of_lt further)
        obtain ⟨after, committed, rest⟩ :=
          @inductionHypothesis _ closer arena.withGranule middle positive used_le_next
            (Nat.min_le_left _ _) inside rfl
        rw [Arena.commit_withGranule positive used_le stillShort] at committed rest
        rw [grown]
        exact ⟨after, committed, first.trans (Nat.le_of_lt further) rest⟩
      next done =>
        -- Where nothing is left to commit, all that is needed is committed.
        have enough : needed ≤ arena.committed - arena.used := by
          simp only [ofArena, step] at done
          omega
        rw [Arena.commit_of_enough committed_le enough]
        exact ⟨memory, rfl, .refl arena memory⟩

end Reservation

end Gatehouse
