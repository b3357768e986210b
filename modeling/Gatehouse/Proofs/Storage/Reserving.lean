import Mathlib.Order.Bounds.Basic
import Gatehouse.Proofs.Storage.Tenancy

namespace Gatehouse

/-!
# What a reservation is rounded to

The granule is the least whole number of pages, for a page is a power of two.
The reservation is rounded by the mask of the granule, which may be any number
of pages: the result is never below what was asked for and less than a granule
above it, but a whole number of granules for every reservation only if the
granule is a power of two. What is committed is a whole number of granules, or
all that there is; so it is the size of the reservation that decides.
-/

/-- The least multiple of a unit that is not below a size. -/
def IsRoundedUp (value unit rounded : Nat) : Prop :=
  IsLeast {multiple | unit ∣ multiple ∧ value ≤ multiple} rounded

theorem isRoundedUp_mul_ceilDiv
    {unit : Nat}
    (positive : 0 < unit)
    (value : Nat) :
    IsRoundedUp value unit (unit * (value ⌈/⌉ unit)) := by
  refine ⟨⟨Nat.dvd_mul_right _ _, le_mul_ceilDiv positive value⟩, ?_⟩
  rintro multiple ⟨⟨factor, rfl⟩, above⟩
  exact Nat.mul_le_mul_left unit ((ceilDiv_le_iff_le_mul positive).mpr above)

/-- Of the sizes less than a unit above a value, only the least multiple is a multiple. -/
theorem isRoundedUp_iff_dvd
    {value unit rounded : Nat}
    (above : value ≤ rounded)
    (below : rounded < value + unit) :
    IsRoundedUp value unit rounded ↔ unit ∣ rounded := by
  constructor
  · intro least
    exact least.1.1
  · intro whole
    refine ⟨⟨whole, above⟩, ?_⟩
    rintro multiple ⟨⟨factor, rfl⟩, large⟩
    obtain ⟨count, rfl⟩ := whole
    have next : count < factor + 1 := by
      apply Nat.lt_of_mul_lt_mul_left (a := unit)
      rw [Nat.mul_succ]
      omega
    exact Nat.mul_le_mul_left unit (Nat.le_of_lt_succ next)

namespace Arena

/-! ## Rounding by the mask of any unit -/

/-- The mask of a whole number of pages clears all bits below a page. -/
theorem pageSize_dvd_of_maskUp
    {value unit rounded : Nat}
    (positive : 0 < unit)
    (wholePages : pageSize ∣ unit)
    (masked : maskUp value unit = .ok rounded) :
    pageSize ∣ rounded := by
  obtain ⟨small, rfl⟩ := maskUp_eq_ok.mp masked
  have cleared : (Size.max - (unit - 1)) % 2 ^ 12 = 0 := by
    obtain ⟨pages, rfl⟩ := wholePages
    simp only [pageSize, Size.max, Size.limit] at positive small ⊢
    omega
  apply Nat.dvd_of_mod_eq_zero
  rw [show pageSize = 2 ^ 12 from rfl, Nat.and_mod_two_pow, cleared, Nat.and_zero]

/-- A single byte is rounded up to the lowest bit of the unit. -/
theorem maskUp_one
    {unit rounded : Nat}
    (positive : 0 < unit)
    (masked : maskUp 1 unit = .ok rounded) :
    rounded + (unit &&& (unit - 1)) = unit := by
  have balance := maskUp_add_cleared positive masked
  rw [Nat.add_sub_cancel_left] at balance
  exact balance

/-- The granule of a reservation: the least whole number of pages. -/
def granuleOf (granuleBytes : Nat) : Nat :=
  pageSize * (granuleBytes ⌈/⌉ pageSize)

theorem maskUp_pageSize
    {granuleBytes : Nat}
    (small : granuleBytes + pageSize < Size.limit) :
    maskUp granuleBytes pageSize = .ok (granuleOf granuleBytes) := by
  rw [granuleOf, Nat.ceilDiv_eq_add_pred_div]
  exact maskUp_two_pow 12 small

theorem granuleOf_pos
    {granuleBytes : Nat}
    (positive : 0 < granuleBytes) :
    0 < granuleOf granuleBytes :=
  Nat.lt_of_lt_of_le positive (le_mul_ceilDiv (by decide) granuleBytes)

/-- The size that a reservation has once it is masked. -/
def reservedOf (reserveBytes granule : Nat) : Nat :=
  (reserveBytes + granule - 1) &&& (Size.max - (granule - 1))

theorem maskUp_granule
    {reserveBytes granule : Nat}
    (small : reserveBytes + granule < Size.limit) :
    maskUp reserveBytes granule = .ok (reservedOf reserveBytes granule) :=
  maskUp_eq_ok.mpr ⟨small, rfl⟩

/-- The arena of a reservation that was just made. -/
def reservation (base reserveBytes granuleBytes : Nat) : Arena where
  base := base
  reserved := reservedOf reserveBytes (granuleOf granuleBytes)
  granule := granuleOf granuleBytes
  committed := 0
  used := 0

theorem ofSizes_of_addressable
    {base reserveBytes granuleBytes : Nat}
    (nonempty : 0 < reserveBytes ∧ 0 < granuleBytes)
    (small : granuleBytes + pageSize < Size.limit)
    (smallGranule : reserveBytes + granuleOf granuleBytes < Size.limit)
    (addressable : reservedOf reserveBytes (granuleOf granuleBytes) ≤ Size.maxPiece) :
    ofSizes base reserveBytes granuleBytes =
      .ok (.ok (reservation base reserveBytes granuleBytes)) := by
  have admitted : ¬(reserveBytes = 0 ∨ granuleBytes = 0) := by
    omega
  have table := Size.checkTable_eq_ok.mpr ((Nat.mul_one _).le.trans addressable)
  simp only [ofSizes, if_neg admitted, maskUp_pageSize small, maskUp_granule smallGranule, table,
    bind, Except.bind]
  rfl

theorem ofSizes_of_unaddressable
    {base reserveBytes granuleBytes : Nat}
    (nonempty : 0 < reserveBytes ∧ 0 < granuleBytes)
    (small : granuleBytes + pageSize < Size.limit)
    (smallGranule : reserveBytes + granuleOf granuleBytes < Size.limit)
    (tooLarge : Size.maxPiece < reservedOf reserveBytes (granuleOf granuleBytes)) :
    ofSizes base reserveBytes granuleBytes = .error .unaddressable := by
  have admitted : ¬(reserveBytes = 0 ∨ granuleBytes = 0) := by
    omega
  have table :
      Size.checkTable (reservedOf reserveBytes (granuleOf granuleBytes)) 1 =
        .error .unaddressable := by
    rw [Size.checkTable, Nat.mul_one, if_neg (Nat.not_le.mpr tooLarge)]
  simp only [ofSizes, if_neg admitted, maskUp_pageSize small, maskUp_granule smallGranule, table,
    bind, Except.bind]

/-- A reservation that is made is the one that the masks come to. -/
theorem eq_reservation_of_ofSizes
    {base reserveBytes granuleBytes : Nat}
    {arena : Arena}
    (made : ofSizes base reserveBytes granuleBytes = .ok (.ok arena)) :
    arena = reservation base reserveBytes granuleBytes ∧
      0 < granuleBytes ∧
      reserveBytes + granuleOf granuleBytes < Size.limit ∧
      arena.reserved ≤ Size.maxPiece := by
  obtain ⟨_, _, _, addressable, _, _⟩ := of_ofSizes_eq_ok made
  unfold ofSizes at made
  split at made
  next empty =>
    cases made
  next nonempty =>
    simp only [Checked.bind_eq_ok] at made
    rcases made with ⟨granule, granuleMasked, reserved, masked, _, _, same⟩
    have small := (maskUp_eq_ok.mp granuleMasked).1
    rw [maskUp_pageSize small] at granuleMasked
    cases granuleMasked
    obtain ⟨smallGranule, rfl⟩ := maskUp_eq_ok.mp masked
    cases same
    exact ⟨rfl, by omega, smallGranule, addressable⟩

/-! ## What is committed over a run -/

/-- What is carved from an arena was left in it. -/
theorem advancedBy_of_place?_eq_ok
    {arena after : Arena}
    {size alignment address : Nat}
    (placed : arena.place? size alignment = .ok (.ok (address, after))) :
    ∃ needed, needed ≤ arena.remaining ∧ after = arena.advancedBy needed := by
  unfold place? at placed
  split at placed
  next noPower =>
    cases placed
  next isPower =>
    simp only [Checked.bind_eq_ok] at placed
    obtain ⟨aligned, _, placed⟩ := placed
    split at placed
    next full =>
      cases placed
    next fits =>
      cases placed
      exact ⟨_, Nat.le_of_not_lt fits, rfl⟩

theorem advancedBy_of_carve?_eq_ok
    {arena after : Arena}
    {size alignment : Nat}
    {block : Block}
    (carved : arena.carve? size alignment = .ok (.ok (block, after))) :
    ∃ needed, needed ≤ arena.remaining ∧ after = arena.advancedBy needed := by
  simp only [carve?, Checked.bind_eq_ok] at carved
  obtain ⟨outcome, placed, same⟩ := carved
  cases outcome with
  | error error =>
      cases same
  | ok granted =>
      cases same
      exact advancedBy_of_place?_eq_ok placed

end Arena

theorem ArenaRequest.advancedBy_of_carve?_eq_ok
    {request : ArenaRequest}
    {arena after : Arena}
    {block : Block}
    (carved : request.carve? arena = .ok (.ok (block, after))) :
    ∃ needed, needed ≤ arena.remaining ∧ after = arena.advancedBy needed := by
  cases request with
  | block size alignment =>
      exact Arena.advancedBy_of_carve?_eq_ok carved
  | array count elementSize alignment =>
      simp only [carve?, Arena.carveArray?] at carved
      split at carved
      next large =>
        cases carved
      next small =>
        exact Arena.advancedBy_of_carve?_eq_ok carved

namespace Arena

/-- An arena whose counters are in order, wherever it lies: none of them depends on its base. -/
def IsCounted (arena : Arena) : Prop :=
  IsInOrder { arena with base := 0 }

namespace IsCounted

variable {arena : Arena}

theorem reservation
    {base reserveBytes granuleBytes : Nat}
    (positive : 0 < granuleBytes)
    (addressable : reservedOf reserveBytes (granuleOf granuleBytes) ≤ Size.maxPiece) :
    (Arena.reservation base reserveBytes granuleBytes).IsCounted := by
  refine ⟨granuleOf_pos positive, Nat.le_refl _, Nat.zero_le _, ?_, ?_⟩
  · simp [Arena.reservation]
  · simp only [Arena.reservation, Size.maxPiece] at addressable ⊢
    omega

theorem advancedBy
    {needed : Nat}
    (counted : arena.IsCounted)
    (inside : needed ≤ arena.remaining) :
    (arena.advancedBy needed).IsCounted := by
  have used_le := Nat.le_trans counted.used_le counted.committed_le
  apply IsInOrder.advancedBy counted
  simp only [remaining] at inside used_le ⊢
  omega

theorem dvd_committed_or
    (counted : arena.IsCounted) :
    arena.committed = arena.reserved ∨ arena.granule ∣ arena.committed := by
  have committed_eq := counted.committed_eq
  simp only at committed_eq
  rcases Nat.le_total arena.reserved
      (arena.granule * (arena.used ⌈/⌉ arena.granule)) with all | whole
  · left
    rw [committed_eq, Nat.min_eq_left all]
  · right
    rw [committed_eq, Nat.min_eq_right whole]
    exact Nat.dvd_mul_right _ _

end IsCounted

end Arena

/-- Holdings of an arena whose counters are in order and whose sizes are still the first ones. -/
structure Holdings.IsCounted (start : Arena) (holdings : Holdings) : Prop where
  reserved_eq : holdings.arena.reserved = start.reserved
  granule_eq : holdings.arena.granule = start.granule
  counted : holdings.arena.IsCounted

theorem Holdings.IsCounted.perform
    {start : Arena}
    {holdings after : Holdings}
    {call : ArenaCall}
    {answer : ArenaAnswer}
    (counted : holdings.IsCounted start)
    (performed : holdings.perform call = .ok (answer, after)) :
    after.IsCounted start := by
  cases call with
  | request request =>
      simp only [Holdings.perform, Checked.bind_eq_ok] at performed
      obtain ⟨outcome, carved, same⟩ := performed
      cases outcome with
      | error error =>
          cases same
          exact counted
      | ok granted =>
          cases same
          obtain ⟨needed, inside, advanced⟩ := ArenaRequest.advancedBy_of_carve?_eq_ok carved
          refine ⟨?_, ?_, ?_⟩ <;> rw [advanced]
          · exact counted.reserved_eq
          · exact counted.granule_eq
          · exact counted.counted.advancedBy inside
  | overwrite number offset bytes =>
      cases performed
      exact ⟨counted.reserved_eq, counted.granule_eq, counted.counted⟩
  | wipe number =>
      cases performed
      exact ⟨counted.reserved_eq, counted.granule_eq, counted.counted⟩

theorem Holdings.IsCounted.run
    {start : Arena}
    {holdings after : Holdings}
    {calls : List ArenaCall}
    {answers : List ArenaAnswer}
    (counted : holdings.IsCounted start)
    (ran : holdings.run calls = .ok (answers, after)) :
    after.IsCounted start := by
  induction calls generalizing holdings answers with
  | nil =>
      cases ran
      exact counted
  | cons call rest inductionHypothesis =>
      simp only [Holdings.run, ArenaCall.runAll, Checked.bind_eq_ok] at ran
      rcases ran with ⟨⟨answer, next⟩, performed, ⟨later, last⟩, ranLater, same⟩
      cases same
      exact inductionHypothesis (counted.perform performed) ranLater

/-- Up to all of a reservation that was not carved yet can be carved as one block. -/
theorem Holdings.run_block
    (arena : Arena)
    {size : Nat}
    (uncarved : arena.used = 0)
    (inside : arena.base + 1 < Size.limit)
    (fits : size ≤ arena.reserved) :
    ∃ block,
      Holdings.run { arena := arena, blocks := [] } [.request (.block size 1)] =
        .ok ([.granted block], { arena := arena.advancedBy size, blocks := [block] }) := by
  have cursor : Arena.maskUp (arena.base + arena.used) 1 = .ok (arena.base + arena.used) := by
    have masked := Arena.maskUp_two_pow 0 inside
    rw [Nat.pow_zero, Nat.one_mul, Nat.div_one, Nat.add_sub_cancel] at masked
    rw [uncarved]
    exact masked
  have isPower : Arena.isPowerOfTwo 1 = true := by
    decide
  have left : ¬arena.remaining < size := by
    rw [Arena.remaining, uncarved]
    exact Nat.not_lt.mpr fits
  refine ⟨{ address := arena.base + arena.used, bytes := Bytes.zeros size }, ?_⟩
  simp only [Holdings.run, ArenaCall.runAll, Holdings.perform, ArenaRequest.carve?, Arena.carve?,
    Arena.place?, isPower, cursor, Nat.sub_self, Nat.zero_add, left, bind, Except.bind]
  rfl

namespace Arena

/-! ## When reservations are whole numbers of granules -/

/-- Two numbers with the same highest bit share it. -/
theorem two_pow_le_and
    {exponent left right : Nat}
    (leftLarge : 2 ^ exponent ≤ left)
    (leftSmall : left < 2 ^ (exponent + 1))
    (rightLarge : 2 ^ exponent ≤ right)
    (rightSmall : right < 2 ^ (exponent + 1)) :
    2 ^ exponent ≤ left &&& right := by
  apply Nat.ge_two_pow_of_testBit
  rw [Nat.testBit_and, Nat.testBit_of_two_pow_le_and_two_pow_add_one_gt leftLarge leftSmall,
    Nat.testBit_of_two_pow_le_and_two_pow_add_one_gt rightLarge rightSmall]
  rfl

/-- A single byte of any granule but a power of two can be reserved, whatever its size. -/
theorem reservedOf_one_le
    {granule : Nat}
    (positive : 0 < granule)
    (small : 1 + granule < Size.limit)
    (noPower : ¬∃ exponent, granule = 2 ^ exponent) :
    reservedOf 1 granule ≤ Size.maxPiece := by
  have lowest := maskUp_one positive (maskUp_granule small)
  have different : granule ≠ 2 ^ 63 := by
    intro isPower
    exact noPower ⟨63, isPower⟩
  simp only [Size.limit, Size.maxPiece] at small ⊢
  by_cases large : 2 ^ 63 ≤ granule
  · have shared : 2 ^ 63 ≤ granule &&& (granule - 1) :=
      two_pow_le_and large (by omega) (by omega) (by omega)
    omega
  · omega

/-- Every reservation is a whole number of granules exactly if the granule is a power of two. -/
theorem rounds_all_iff
    (base : Nat)
    {granuleBytes : Nat}
    (positive : 0 < granuleBytes)
    (small : granuleBytes + pageSize < Size.limit)
    (smallGranule : 1 + granuleOf granuleBytes < Size.limit) :
    (∀ reserveBytes arena,
        ofSizes base reserveBytes granuleBytes = .ok (.ok arena) →
          IsRoundedUp reserveBytes (granuleOf granuleBytes) arena.reserved) ↔
      ∃ exponent, granuleOf granuleBytes = 2 ^ exponent := by
  have granulePositive := granuleOf_pos positive
  constructor
  · intro rounded
    by_contra noPower
    have lowest := maskUp_one granulePositive (maskUp_granule smallGranule)
    have made : ofSizes base 1 granuleBytes = .ok (.ok (reservation base 1 granuleBytes)) :=
      ofSizes_of_addressable ⟨Nat.one_pos, positive⟩ small smallGranule
        (reservedOf_one_le granulePositive smallGranule noPower)
    obtain ⟨whole, above⟩ := (rounded 1 _ made).1
    have large : granuleOf granuleBytes ≤ reservedOf 1 (granuleOf granuleBytes) :=
      Nat.le_of_dvd above whole
    have cleared : granuleOf granuleBytes &&& (granuleOf granuleBytes - 1) = 0 := by
      omega
    exact noPower ((Nat.and_sub_one_eq_zero_iff_isPowerOfTwo granulePositive.ne').mp cleared)
  · rintro ⟨exponent, isPower⟩ reserveBytes arena made
    obtain ⟨rfl, _, smallReserve, _⟩ := eq_reservation_of_ofSizes made
    have masked := maskUp_granule smallReserve
    rw [isPower] at smallReserve masked ⊢
    rw [maskUp_two_pow exponent smallReserve, ← Nat.ceilDiv_eq_add_pred_div] at masked
    simp only [reservation, isPower]
    rw [← Except.ok.inj masked]
    exact isRoundedUp_mul_ceilDiv (Nat.two_pow_pos exponent) reserveBytes

theorem isCounted_of_ofSizes
    {base reserveBytes granuleBytes : Nat}
    {arena : Arena}
    (made : ofSizes base reserveBytes granuleBytes = .ok (.ok arena)) :
    Holdings.IsCounted arena { arena := arena, blocks := [] } := by
  obtain ⟨rfl, positive, _, addressable⟩ := eq_reservation_of_ofSizes made
  exact ⟨rfl, rfl, .reservation positive addressable⟩

/-- Whole granules are committed in every state exactly if the reservation has no other bytes. -/
theorem commits_whole_granules_iff
    {base reserveBytes granuleBytes : Nat}
    {arena : Arena}
    (made : ofSizes base reserveBytes granuleBytes = .ok (.ok arena))
    (inside : base + 1 < Size.limit) :
    (∀ calls answers holdings,
        Holdings.run { arena := arena, blocks := [] } calls = .ok (answers, holdings) →
          arena.granule ∣ holdings.arena.committed) ↔
      arena.granule ∣ arena.reserved := by
  have counted := isCounted_of_ofSizes made
  constructor
  · intro whole
    obtain ⟨base_eq, uncarved, _⟩ := of_ofSizes_eq_ok made
    rw [← base_eq] at inside
    obtain ⟨block, ran⟩ := Holdings.run_block arena uncarved inside (Nat.le_refl _)
    have after := (counted.run ran).counted
    have used_le : arena.used + arena.reserved ≤ (arena.advancedBy arena.reserved).committed :=
      after.used_le
    have committed_le : (arena.advancedBy arena.reserved).committed ≤ arena.reserved :=
      after.committed_le
    have all : (arena.advancedBy arena.reserved).committed = arena.reserved := by
      omega
    have divides : arena.granule ∣ (arena.advancedBy arena.reserved).committed :=
      whole _ _ _ ran
    rw [all] at divides
    exact divides
  · intro whole calls answers holdings ran
    have after := counted.run ran
    rw [← after.granule_eq]
    rcases after.counted.dvd_committed_or with all | some
    · rw [all, after.reserved_eq, after.granule_eq]
      exact whole
    · exact some

/-- Whole pages are committed in every state: whole granules, or all that there is. -/
theorem committed_of_run
    {base reserveBytes granuleBytes : Nat}
    {arena : Arena}
    {calls : List ArenaCall}
    {answers : List ArenaAnswer}
    {holdings : Holdings}
    (made : ofSizes base reserveBytes granuleBytes = .ok (.ok arena))
    (ran : Holdings.run { arena := arena, blocks := [] } calls = .ok (answers, holdings)) :
    pageSize ∣ holdings.arena.committed ∧
      (holdings.arena.committed = arena.reserved ∨ arena.granule ∣ holdings.arena.committed) := by
  have after := (isCounted_of_ofSizes made).run ran
  have parts := after.counted.dvd_committed_or
  rw [after.reserved_eq, after.granule_eq] at parts
  obtain ⟨rfl, positive, smallGranule, _⟩ := eq_reservation_of_ofSizes made
  have granulePages : pageSize ∣ granuleOf granuleBytes :=
    Nat.dvd_mul_right _ _
  have reservedPages : pageSize ∣ reservedOf reserveBytes (granuleOf granuleBytes) :=
    pageSize_dvd_of_maskUp (granuleOf_pos positive) granulePages (maskUp_granule smallGranule)
  refine ⟨?_, parts⟩
  rcases parts with all | whole
  · rw [all]
    exact reservedPages
  · exact granulePages.trans whole

/--
Where rounding two positive sizes does not overflow, the granule is the least
whole number of pages that is not below what was asked for, and the reservation
is a whole number of pages that is not below what was asked for and less than a
granule above it: what the mask leaves of the sum. A reservation of more than
one piece of memory can hold stops the program. In every state of every run,
whole granules are committed, or all that there is. The reservation is the least
whole number of granules exactly if the granule divides it, and exactly then
whole granules are committed in every state; and it is so for every reservation
exactly if the granule is a power of two.
-/
theorem reservation_rounded_iff
    {base reserveBytes granuleBytes granule : Nat}
    (nonempty : 0 < reserveBytes ∧ 0 < granuleBytes)
    (small : granuleBytes + pageSize < Size.limit)
    (isGranule : IsRoundedUp granuleBytes pageSize granule)
    (smallGranule : reserveBytes + granule < Size.limit)
    (inside : base + 1 < Size.limit) :
    ∃ arena : Arena,
      arena.granule = granule ∧
        reserveBytes ≤ arena.reserved ∧
        arena.reserved < reserveBytes + granule ∧
        arena.reserved + ((reserveBytes + granule - 1) &&& (granule - 1)) =
          reserveBytes + granule - 1 ∧
        pageSize ∣ arena.reserved ∧
        (arena.reserved ≤ Size.maxPiece →
          ofSizes base reserveBytes granuleBytes = .ok (.ok arena)) ∧
        (Size.maxPiece < arena.reserved →
          ofSizes base reserveBytes granuleBytes = .error .unaddressable) ∧
        (∀ calls answers holdings,
          arena.reserved ≤ Size.maxPiece →
            Holdings.run { arena := arena, blocks := [] } calls = .ok (answers, holdings) →
              pageSize ∣ holdings.arena.committed ∧
                (holdings.arena.committed = arena.reserved ∨
                  granule ∣ holdings.arena.committed)) ∧
        (IsRoundedUp reserveBytes granule arena.reserved ↔ granule ∣ arena.reserved) ∧
        (arena.reserved ≤ Size.maxPiece →
          ((∀ calls answers holdings,
            Holdings.run { arena := arena, blocks := [] } calls = .ok (answers, holdings) →
              granule ∣ holdings.arena.committed) ↔
            IsRoundedUp reserveBytes granule arena.reserved)) ∧
        ((∀ otherBytes other,
          ofSizes base otherBytes granuleBytes = .ok (.ok other) →
            IsRoundedUp otherBytes granule other.reserved) ↔
          ∃ exponent, granule = 2 ^ exponent) := by
  have granule_eq : granule = granuleOf granuleBytes :=
    isGranule.unique (isRoundedUp_mul_ceilDiv (by decide) granuleBytes)
  subst granule_eq
  have positive := granuleOf_pos nonempty.2
  have masked := maskUp_granule smallGranule
  have above := le_of_maskUp positive masked
  have below := lt_add_of_maskUp positive masked
  have balance := maskUp_add_cleared positive masked
  have wholePages := pageSize_dvd_of_maskUp positive (Nat.dvd_mul_right _ _) masked
  have least_iff := isRoundedUp_iff_dvd above below
  refine ⟨reservation base reserveBytes granuleBytes, rfl, above, below, balance, wholePages,
    ofSizes_of_addressable nonempty small smallGranule,
    ofSizes_of_unaddressable nonempty small smallGranule, ?_, least_iff, ?_, ?_⟩
  · intro calls answers holdings addressable ran
    exact committed_of_run
      (ofSizes_of_addressable nonempty small smallGranule addressable) ran
  · intro addressable
    have committed_iff :=
      commits_whole_granules_iff
        (ofSizes_of_addressable nonempty small smallGranule addressable) inside
    exact committed_iff.trans least_iff.symm
  · exact rounds_all_iff base nonempty.2 small (by omega)

/-- A granule of two pages: every state of a reservation of some megabytes has whole granules. -/
theorem two_page_granule_rounds :
    ∃ arena,
      ofSizes 65536 5000000 5000 = .ok (.ok arena) ∧
        arena.granule = 8192 ∧
        IsRoundedUp 5000000 8192 arena.reserved ∧
        ∀ calls answers holdings,
          Holdings.run { arena := arena, blocks := [] } calls = .ok (answers, holdings) →
            8192 ∣ holdings.arena.committed := by
  have isGranule : IsRoundedUp 5000 pageSize 8192 :=
    (isRoundedUp_iff_dvd (by decide) (by decide)).mpr (by decide)
  obtain ⟨arena, granule_eq, _, below, _, _, made, _, _, _, committed_iff, rounds_iff⟩ :=
    @reservation_rounded_iff 65536 5000000 5000 8192 (by decide) (by decide) isGranule (by decide)
      (by decide)
  have addressable : arena.reserved ≤ Size.maxPiece := by
    simp only [Size.maxPiece]
    omega
  have rounded := rounds_iff.mpr ⟨13, rfl⟩ _ _ (made addressable)
  exact ⟨arena, made addressable, granule_eq, rounded, (committed_iff addressable).mpr rounded⟩

/-- With a granule of three pages, six granules are needed, but neither reserved nor committed. -/
theorem three_page_granule_misrounds :
    ∃ arena answers holdings,
      ofSizes 4096 65536 12288 = .ok (.ok arena) ∧
        IsRoundedUp 12288 pageSize arena.granule ∧
        arena.reserved = 65536 ∧
        IsRoundedUp 65536 arena.granule 73728 ∧
        ¬IsRoundedUp 65536 arena.granule arena.reserved ∧
        Holdings.run { arena := arena, blocks := [] } [.request (.block 61441 1)] =
          .ok (answers, holdings) ∧
        holdings.arena.committed = 65536 ∧
        ¬arena.granule ∣ holdings.arena.committed := by
  let arena : Arena :=
    { base := 4096, reserved := 65536, granule := 12288, committed := 0, used := 0 }
  obtain ⟨block, ran⟩ := @Holdings.run_block arena 61441 rfl (by decide) (by decide)
  have committed_eq : (arena.advancedBy 61441).committed = 65536 := by
    decide
  have notWhole : ¬arena.granule ∣ (arena.advancedBy 61441).committed := by
    decide
  refine ⟨arena, _, _, by decide, ?_, rfl, ?_, ?_, ran, committed_eq, notWhole⟩
  · exact (isRoundedUp_iff_dvd (by decide) (by decide)).mpr (by decide)
  · exact (isRoundedUp_iff_dvd (by decide) (by decide)).mpr (by decide)
  · intro rounded
    exact absurd rounded.1.1 (by decide)

end Arena

end Gatehouse
