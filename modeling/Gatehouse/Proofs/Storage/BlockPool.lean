import Gatehouse.Storage.BlockPool
import Gatehouse.Proofs.Outcomes
import Gatehouse.Proofs.Storage.Carving

namespace Gatehouse

/-!
# Books of a block pool

Every block that was carved is either free and wiped, or held by somebody. What
is known of the arena decides for which reasons an acquisition may fail: for
none at all, if the largest number of blocks that are held at once fits the
reservation.
-/

namespace Arena

/-- A block that is carved is zero. -/
theorem bytes_of_carve_eq_ok
    {arena after : Arena}
    {size alignment : Nat}
    {block : Block}
    (carved : arena.carve size alignment = .ok (block, after)) :
    block.bytes = Bytes.zeros size := by
  simp only [carve, carve?, Checked.bind_eq_ok] at carved
  rcases carved with ⟨answer, ⟨placed, _, answered⟩, granted⟩
  cases placed with
  | error error =>
      cases answered
      cases granted
  | ok place =>
      cases answered
      cases granted
      rfl

/-- The arena once some blocks of one size were carved from it, one after another. -/
def afterCarving (arena : Arena) (size : Nat) : (count : Nat) → Checked Arena
  | 0 => .ok arena
  | count + 1 => do
      let carved ← arena.afterCarving size count
      return (← carved.carve size wordAlignment).2

/-- Where many blocks can be carved, fewer can. -/
theorem exists_afterCarving_of_le
    {arena last : Arena}
    {size few many : Nat}
    (fewer : few ≤ many)
    (carved : arena.afterCarving size many = .ok last) :
    ∃ middle, arena.afterCarving size few = .ok middle := by
  induction fewer generalizing last with
  | refl =>
      exact ⟨last, carved⟩
  | step _ inductionHypothesis =>
      obtain ⟨before, carvedBefore, _⟩ := Checked.bind_eq_ok.mp carved
      exact inductionHypothesis carvedBefore

end Arena

namespace BlockPool

/-- The books of a pool of which some blocks are held. -/
structure Balanced (size held : Nat) (pool : BlockPool) : Prop where
  blockSize_eq : pool.blockSize = size
  free_wiped : ∀ block ∈ pool.free, block.bytes = Bytes.zeros size
  allocated_eq : pool.allocated = pool.free.length + held

/-- Balanced books, and an arena that is carved further only by running out. -/
structure BalancedAndPlaced (size held : Nat) (pool : BlockPool) : Prop where
  balanced : pool.Balanced size held
  placed : pool.arena.IsPlaced

/-- Balanced books, and an arena in which the given number of blocks has its place. -/
structure BalancedAndReserved (size most : Nat) (start : Arena) (held : Nat) (pool : BlockPool) :
    Prop where
  balanced : pool.Balanced size held
  placed : start.IsPlaced
  fits : Arena.cursorAfter size most start.used ≤ start.reserved
  carved : start.IsCarvedTo (Arena.cursorAfter size pool.allocated start.used) pool.arena
  allocated_le : pool.allocated ≤ most

/-- Balanced books, and an arena from which nothing but the blocks of the pool was carved. -/
structure BalancedAndTraced (size : Nat) (start : Arena) (held : Nat) (pool : BlockPool) :
    Prop where
  balanced : pool.Balanced size held
  traced : start.afterCarving size pool.allocated = .ok pool.arena

/--
What those who hold blocks rely on: as long as fewer than the most blocks are
held one more is acquired, wiped, unless that stops for an allowed reason; and a
wiped block can be given back.
-/
structure Contract
    (allowed : Fault → Prop)
    (size most : Nat)
    (books : Nat → BlockPool → Prop) : Prop where
  acquire :
    ∀ {held : Nat} {pool : BlockPool},
      books held pool →
      held < most →
      pool.acquire.Meets allowed fun answer =>
        answer.1.bytes = Bytes.zeros size ∧ books (held + 1) answer.2
  release :
    ∀ {held : Nat} {pool : BlockPool} {block : Block},
      books (held + 1) pool →
      block.bytes = Bytes.zeros size →
      books held (pool.release block)

theorem Contract.allow
    {allowed more : Fault → Prop}
    {size most : Nat}
    {books : Nat → BlockPool → Prop}
    (contract : Contract allowed size most books)
    (implies : ∀ fault, allowed fault → more fault) :
    Contract more size most books where
  acquire := fun balanced few => (contract.acquire balanced few).allow implies
  release := contract.release

namespace Balanced

variable {size held : Nat} {pool : BlockPool}

theorem ofArena (arena : Arena) (size : Nat) : (BlockPool.ofArena arena size).Balanced size 0 :=
  ⟨rfl, by simp [BlockPool.ofArena], rfl⟩

theorem of_free
    {block : Block}
    {free : List Block}
    (balanced : pool.Balanced size held)
    (isFree : pool.free = block :: free) :
    block.bytes = Bytes.zeros size ∧ { pool with free := free }.Balanced size (held + 1) := by
  have wiped := balanced.free_wiped
  have count := balanced.allocated_eq
  rw [isFree] at wiped count
  refine ⟨wiped block (by simp), balanced.blockSize_eq, ?_, ?_⟩
  · intro other member
    exact wiped other (List.mem_cons_of_mem block member)
  · simp only [List.length_cons] at count ⊢
    omega

theorem of_carved
    (balanced : pool.Balanced size held)
    (noneFree : pool.free = [])
    (after : Arena) :
    { pool with arena := after, allocated := pool.allocated + 1 }.Balanced size (held + 1) := by
  have count := balanced.allocated_eq
  refine ⟨balanced.blockSize_eq, balanced.free_wiped, ?_⟩
  simp only [noneFree, List.length_nil] at count ⊢
  omega

theorem release
    {block : Block}
    (balanced : pool.Balanced size (held + 1))
    (wiped : block.bytes = Bytes.zeros size) :
    (pool.release block).Balanced size held := by
  have count := balanced.allocated_eq
  refine ⟨balanced.blockSize_eq, ?_, ?_⟩
  · intro other member
    rcases List.mem_cons.mp member with isBlock | wasFree
    · rw [isBlock]
      exact wiped
    · exact balanced.free_wiped other wasFree
  · simp only [BlockPool.release, List.length_cons]
    omega

end Balanced

/-- Balanced books alone allow every reason to stop. -/
theorem balanced_contract (size most : Nat) :
    Contract (fun _ => True) size most (Balanced size) where
  acquire := by
    intro held pool balanced _
    unfold acquire
    split
    next block free isFree =>
      exact balanced.of_free isFree
    next noneFree =>
      cases carved : pool.arena.carve pool.blockSize Arena.wordAlignment with
      | error fault =>
          trivial
      | ok granted =>
          rcases granted with ⟨block, after⟩
          have zero := Arena.bytes_of_carve_eq_ok carved
          rw [balanced.blockSize_eq] at zero
          exact ⟨zero, balanced.of_carved noneFree after⟩
  release := Balanced.release

/-- A pool with balanced books acquires blocks of its own size. -/
theorem Balanced.length_of_acquire
    {size held : Nat}
    {pool left : BlockPool}
    {block : Block}
    (balanced : pool.Balanced size held)
    (acquired : pool.acquire = .ok (block, left)) :
    block.length = size := by
  have meets := (balanced_contract size (held + 1)).acquire balanced (Nat.lt_succ_self held)
  rw [Block.length, (meets.of_eq_ok acquired).1, Bytes.length_zeros]

/-- On an arena that is placed, an acquisition fails only when the reservation is exhausted. -/
theorem placed_contract (size most : Nat) :
    Contract (· = .exhausted) size most (BalancedAndPlaced size) where
  acquire := by
    intro held pool ⟨balanced, placed⟩ _
    unfold acquire
    split
    next block free isFree =>
      obtain ⟨wiped, kept⟩ := balanced.of_free isFree
      exact ⟨wiped, kept, placed⟩
    next noneFree =>
      by_cases fits : Arena.wordUp pool.arena.used + size ≤ pool.arena.reserved
      · obtain ⟨block, after, granted, zero, carved⟩ := Arena.carve_of_fits placed fits
        rw [← balanced.blockSize_eq] at granted
        simp only [granted, bind, Except.bind]
        exact ⟨zero, balanced.of_carved noneFree after, carved.isPlaced placed fits⟩
      · rw [balanced.blockSize_eq, Arena.carve_of_exceeds placed (Nat.not_le.mp fits)]
        exact rfl
  release := by
    intro held pool block books wiped
    exact ⟨books.balanced.release wiped, books.placed⟩

/-- When the most blocks have their place, no acquisition fails. -/
theorem reserved_contract (size most : Nat) (start : Arena) :
    Contract (fun _ => False) size most (BalancedAndReserved size most start) where
  acquire := by
    intro held pool books few
    have balanced := books.balanced
    unfold acquire
    split
    next block free isFree =>
      obtain ⟨wiped, kept⟩ := balanced.of_free isFree
      exact ⟨wiped, kept, books.placed, books.fits, books.carved, books.allocated_le⟩
    next noneFree =>
      have carvedAll : pool.allocated = held := by
        have count := balanced.allocated_eq
        rw [noneFree, List.length_nil, Nat.zero_add] at count
        exact count
      -- One block more is still among the most, so it ends where those end at the latest.
      have next :
          Arena.wordUp pool.arena.used + size =
            Arena.cursorAfter size (pool.allocated + 1) start.used := by
        rw [books.carved.used_eq, Arena.cursorAfter_add]
        rfl
      have inside : Arena.cursorAfter size (pool.allocated + 1) start.used ≤ start.reserved :=
        Nat.le_trans (Arena.cursorAfter_mono (by omega)) books.fits
      have before : Arena.cursorAfter size pool.allocated start.used ≤ start.reserved :=
        Nat.le_trans (Arena.cursorAfter_mono (by omega)) inside
      have placed := books.carved.isPlaced books.placed before
      have fits : Arena.wordUp pool.arena.used + size ≤ pool.arena.reserved := by
        rw [next, books.carved.reserved_eq]
        exact inside
      obtain ⟨block, after, granted, zero, reached⟩ := Arena.carve_of_fits placed fits
      rw [next] at reached
      rw [← balanced.blockSize_eq] at granted
      simp only [granted, bind, Except.bind]
      exact ⟨zero, balanced.of_carved noneFree after, books.placed, books.fits,
        books.carved.trans reached, by simp only; omega⟩
  release := by
    intro held pool block books wiped
    exact ⟨books.balanced.release wiped, books.placed, books.fits, books.carved,
      books.allocated_le⟩

/-- Traced books allow every reason to stop. -/
theorem traced_contract (size most : Nat) (start : Arena) :
    Contract (fun _ => True) size most (BalancedAndTraced size start) where
  acquire := by
    intro held pool books _
    have balanced := books.balanced
    unfold acquire
    split
    next block free isFree =>
      obtain ⟨wiped, kept⟩ := balanced.of_free isFree
      exact ⟨wiped, kept, books.traced⟩
    next noneFree =>
      cases carved : pool.arena.carve pool.blockSize Arena.wordAlignment with
      | error fault =>
          trivial
      | ok granted =>
          rcases granted with ⟨block, after⟩
          have zero := Arena.bytes_of_carve_eq_ok carved
          rw [balanced.blockSize_eq] at zero carved
          refine ⟨zero, balanced.of_carved noneFree after, ?_⟩
          simp only [Arena.afterCarving, books.traced, carved, bind, Except.bind]
          rfl
  release := by
    intro held pool block books wiped
    exact ⟨books.balanced.release wiped, books.traced⟩

/-- Where more blocks are held from an arena alike, one more is granted. -/
theorem BalancedAndTraced.exists_acquire
    {size held moreHeld : Nat}
    {start : Arena}
    {pool more : BlockPool}
    (books : BalancedAndTraced size start held pool)
    (moreBooks : BalancedAndTraced size start moreHeld more)
    (fewer : held < moreHeld) :
    ∃ granted, pool.acquire = .ok granted := by
  have count := books.balanced.allocated_eq
  have moreCount := moreBooks.balanced.allocated_eq
  unfold acquire
  split
  next block free isFree =>
    exact ⟨_, rfl⟩
  next noneFree =>
    rw [noneFree, List.length_nil, Nat.zero_add] at count
    obtain ⟨middle, carvedOne⟩ :=
      Arena.exists_afterCarving_of_le (by omega : pool.allocated + 1 ≤ more.allocated)
        moreBooks.traced
    simp only [Arena.afterCarving, books.traced, bind, Except.bind] at carvedOne
    rw [books.balanced.blockSize_eq]
    cases carved : pool.arena.carve size Arena.wordAlignment with
    | error fault =>
        rw [carved] at carvedOne
        cases carvedOne
    | ok granted =>
        exact ⟨_, rfl⟩

end BlockPool

end Gatehouse
