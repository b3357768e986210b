import Gatehouse.Proofs.Storage.Rounding

namespace Gatehouse.Arena

/-!
# Carving at word alignment

A block carved at word alignment starts at the next word behind what was carved
before, and is granted exactly if it ends inside the reservation. How far some
blocks of one size advance the arena is a sum that does not depend on how they
were asked for.
-/

/-- The next word that is not below a position. -/
def wordUp (position : Nat) : Nat :=
  8 * ((position + 7) / 8)

/-- Where carving ends once some blocks of one size were carved from a position on. -/
def cursorAfter (size : Nat) : (count position : Nat) → Nat
  | 0, position => position
  | count + 1, position => cursorAfter size count (wordUp position + size)

/-- Where carving ends once several runs of blocks were carved, each of one size and count. -/
def cursorAfterRuns : (runs : List (Nat × Nat)) → (position : Nat) → Nat
  | [], position => position
  | (size, count) :: rest, position => cursorAfterRuns rest (cursorAfter size count position)

/-- Carve several runs of blocks, each of one size and count. -/
def carveRuns (arena : Arena) : (runs : List (Nat × Nat)) → Checked Arena
  | [] => .ok arena
  | (size, count) :: rest => do
      let (_, arena) ← arena.carveMany size count
      arena.carveRuns rest

/-- The arena once some more bytes were carved, padding included. -/
def advancedBy (arena : Arena) (needed : Nat) : Arena :=
  { arena with committed := arena.commit needed, used := arena.used + needed }

/-- A reservation that starts at a word and whose addresses stay sizes when they are aligned. -/
structure IsPlaced (arena : Arena) : Prop where
  base_aligned : arena.base % 8 = 0
  addressable : arena.base + arena.reserved + wordAlignment < Size.limit
  used_le : arena.used ≤ arena.reserved

/-- The same reservation, carved up to a position. -/
structure IsCarvedTo (arena : Arena) (position : Nat) (after : Arena) : Prop where
  base_eq : after.base = arena.base
  reserved_eq : after.reserved = arena.reserved
  used_eq : after.used = position

theorem wordUp_wordUp_add (position size : Nat) :
    wordUp (wordUp position + size) = wordUp position + wordUp size := by
  simp only [wordUp]
  omega

theorem le_wordUp (position : Nat) : position ≤ wordUp position := by
  simp only [wordUp]
  omega

theorem le_cursorAfter (size count position : Nat) :
    position ≤ cursorAfter size count position := by
  induction count generalizing position with
  | zero =>
      exact Nat.le_refl position
  | succ count inductionHypothesis =>
      have first := le_wordUp position
      have rest := inductionHypothesis (wordUp position + size)
      simp only [cursorAfter]
      omega

/-- Carving some blocks and then more is carving them all. -/
theorem cursorAfter_add (size first second position : Nat) :
    cursorAfter size (first + second) position =
      cursorAfter size second (cursorAfter size first position) := by
  induction first generalizing position with
  | zero =>
      rw [Nat.zero_add]
      rfl
  | succ first inductionHypothesis =>
      rw [Nat.succ_add]
      exact inductionHypothesis (wordUp position + size)

theorem cursorAfter_mono
    {size fewer more position : Nat}
    (ordered : fewer ≤ more) :
    cursorAfter size fewer position ≤ cursorAfter size more position := by
  obtain ⟨extra, rfl⟩ := Nat.exists_eq_add_of_le ordered
  rw [cursorAfter_add]
  exact le_cursorAfter size extra _

/-- Where the next block after some blocks starts: each took whole words. -/
theorem wordUp_cursorAfter (size count position : Nat) :
    wordUp (cursorAfter size count position) = wordUp position + count * wordUp size := by
  induction count generalizing position with
  | zero =>
      simp [cursorAfter]
  | succ count inductionHypothesis =>
      rw [cursorAfter, inductionHypothesis, wordUp_wordUp_add, Nat.succ_mul]
      omega

/-- Where carving ends: every block but the last took whole words. -/
theorem cursorAfter_succ (size count position : Nat) :
    cursorAfter size (count + 1) position = wordUp position + count * wordUp size + size := by
  rw [cursorAfter_add, cursorAfter, cursorAfter, wordUp_cursorAfter]

namespace IsCarvedTo

theorem refl (arena : Arena) : arena.IsCarvedTo arena.used arena :=
  ⟨rfl, rfl, rfl⟩

theorem trans
    {arena middle after : Arena}
    {position later : Nat}
    (first : arena.IsCarvedTo position middle)
    (second : middle.IsCarvedTo later after) :
    arena.IsCarvedTo later after :=
  ⟨second.base_eq.trans first.base_eq, second.reserved_eq.trans first.reserved_eq,
    second.used_eq⟩

/-- Carving inside the reservation keeps it placed. -/
theorem isPlaced
    {arena after : Arena}
    {position : Nat}
    (carved : arena.IsCarvedTo position after)
    (placed : arena.IsPlaced)
    (inside : position ≤ arena.reserved) :
    after.IsPlaced := by
  refine ⟨?_, ?_, ?_⟩
  · rw [carved.base_eq]
    exact placed.base_aligned
  · rw [carved.base_eq, carved.reserved_eq]
    exact placed.addressable
  · rw [carved.used_eq, carved.reserved_eq]
    exact inside

end IsCarvedTo

/-- The next word behind what was carved is where a block is placed. -/
theorem maskUp_cursor
    {arena : Arena}
    (placed : arena.IsPlaced) :
    maskUp (arena.base + arena.used) wordAlignment = .ok (arena.base + wordUp arena.used) := by
  have aligned := placed.base_aligned
  have addressable := placed.addressable
  have inside := placed.used_le
  rw [maskUp_wordAlignment (by omega)]
  simp only [wordUp]
  congr 1
  omega

theorem place?_of_fits
    {arena : Arena}
    {size : Nat}
    (placed : arena.IsPlaced)
    (fits : wordUp arena.used + size ≤ arena.reserved) :
    ∃ after,
      arena.place? size wordAlignment = .ok (.ok (arena.base + wordUp arena.used, after)) ∧
        arena.IsCarvedTo (wordUp arena.used + size) after := by
  have behind := le_wordUp arena.used
  have needed :
      arena.base + wordUp arena.used - (arena.base + arena.used) =
        wordUp arena.used - arena.used := by
    omega
  have admitted : ¬arena.remaining < wordUp arena.used - arena.used + size := by
    simp only [remaining]
    omega
  refine ⟨arena.advancedBy (wordUp arena.used - arena.used + size), ?_, rfl, rfl, ?_⟩
  · simp only [place?, isPowerOfTwo_wordAlignment, maskUp_cursor placed, needed, admitted, bind,
      Except.bind]
    rfl
  · simp only [advancedBy]
    omega

theorem place?_of_exceeds
    {arena : Arena}
    {size : Nat}
    (placed : arena.IsPlaced)
    (exceeds : arena.reserved < wordUp arena.used + size) :
    ∃ requested,
      arena.place? size wordAlignment =
        .ok (.error (.exhausted requested arena.remaining)) := by
  have behind := le_wordUp arena.used
  have inside := placed.used_le
  have needed :
      arena.base + wordUp arena.used - (arena.base + arena.used) =
        wordUp arena.used - arena.used := by
    omega
  have refused : arena.remaining < wordUp arena.used - arena.used + size := by
    simp only [remaining]
    omega
  refine ⟨min (wordUp arena.used - arena.used + size) Size.max, ?_⟩
  simp only [place?, isPowerOfTwo_wordAlignment, maskUp_cursor placed, needed, refused, bind,
    Except.bind]
  rfl

theorem placeMany_of_fits
    {arena : Arena}
    {size count : Nat}
    (placed : arena.IsPlaced)
    (fits : cursorAfter size count arena.used ≤ arena.reserved) :
    ∃ addresses after,
      arena.placeMany size count = .ok (addresses, after) ∧
        arena.IsCarvedTo (cursorAfter size count arena.used) after := by
  induction count generalizing arena with
  | zero =>
      exact ⟨[], arena, rfl, .refl arena⟩
  | succ count inductionHypothesis =>
      have first : wordUp arena.used + size ≤ arena.reserved :=
        Nat.le_trans (le_cursorAfter size count _) fits
      obtain ⟨middle, granted, carved⟩ := place?_of_fits placed first
      have later : cursorAfter size count middle.used ≤ middle.reserved := by
        rw [carved.used_eq, carved.reserved_eq]
        exact fits
      obtain ⟨addresses, after, rest, reached⟩ :=
        inductionHypothesis (carved.isPlaced placed first) later
      rw [carved.used_eq] at reached
      refine ⟨(arena.base + wordUp arena.used) :: addresses, after, ?_, carved.trans reached⟩
      simp [placeMany, granted, obtained, rest, bind, Except.bind, pure, Except.pure]

theorem placeMany_of_exceeds
    {arena : Arena}
    {size count : Nat}
    (placed : arena.IsPlaced)
    (exceeds : arena.reserved < cursorAfter size count arena.used) :
    arena.placeMany size count = .error .exhausted := by
  induction count generalizing arena with
  | zero =>
      exact absurd exceeds (Nat.not_lt.mpr placed.used_le)
  | succ count inductionHypothesis =>
      by_cases first : wordUp arena.used + size ≤ arena.reserved
      · obtain ⟨middle, granted, carved⟩ := place?_of_fits placed first
        have later : middle.reserved < cursorAfter size count middle.used := by
          rw [carved.used_eq, carved.reserved_eq]
          exact exceeds
        have rest := inductionHypothesis (carved.isPlaced placed first) later
        simp [placeMany, granted, obtained, rest, bind, Except.bind]
      · obtain ⟨requested, refused⟩ := place?_of_exceeds placed (Nat.not_le.mp first)
        simp [placeMany, refused, obtained, bind, Except.bind]

theorem carveMany_of_fits
    {arena : Arena}
    {size count : Nat}
    (placed : arena.IsPlaced)
    (fits : cursorAfter size count arena.used ≤ arena.reserved) :
    ∃ blocks after,
      arena.carveMany size count = .ok (blocks, after) ∧
        arena.IsCarvedTo (cursorAfter size count arena.used) after := by
  obtain ⟨addresses, after, granted, carved⟩ := placeMany_of_fits placed fits
  refine ⟨addresses.map fun address => { address := address, bytes := Bytes.zeros size }, after,
    ?_, carved⟩
  simp only [carveMany, granted, bind, Except.bind]
  rfl

theorem carveMany_of_exceeds
    {arena : Arena}
    {size count : Nat}
    (placed : arena.IsPlaced)
    (exceeds : arena.reserved < cursorAfter size count arena.used) :
    arena.carveMany size count = .error .exhausted := by
  simp only [carveMany, placeMany_of_exceeds placed exceeds, bind, Except.bind]

theorem length_of_placeMany_eq_ok
    {arena after : Arena}
    {size count : Nat}
    {addresses : List Nat}
    (granted : arena.placeMany size count = .ok (addresses, after)) :
    addresses.length = count := by
  induction count generalizing arena addresses with
  | zero =>
      cases granted
      rfl
  | succ count inductionHypothesis =>
      simp only [placeMany, Checked.bind_eq_ok] at granted
      rcases granted with ⟨answer, _, ⟨address, middle⟩, _, ⟨later, last⟩, rest, same⟩
      cases same
      rw [List.length_cons, inductionHypothesis rest]

/-- As many blocks are carved as were asked for, and all are zero. -/
theorem blocks_of_carveMany_eq_ok
    {arena after : Arena}
    {size count : Nat}
    {blocks : List Block}
    (carved : arena.carveMany size count = .ok (blocks, after)) :
    blocks.length = count ∧ ∀ block ∈ blocks, block.bytes = Bytes.zeros size := by
  simp only [carveMany, Checked.bind_eq_ok] at carved
  rcases carved with ⟨⟨addresses, last⟩, granted, same⟩
  cases same
  constructor
  · rw [List.length_map]
    exact length_of_placeMany_eq_ok granted
  · intro block member
    obtain ⟨address, _, rfl⟩ := List.mem_map.mp member
    rfl

theorem le_cursorAfterRuns (runs : List (Nat × Nat)) (position : Nat) :
    position ≤ cursorAfterRuns runs position := by
  induction runs generalizing position with
  | nil =>
      exact Nat.le_refl position
  | cons run rest inductionHypothesis =>
      exact Nat.le_trans (le_cursorAfter run.1 run.2 position) (inductionHypothesis _)

theorem carveRuns_of_fits
    {arena : Arena}
    {runs : List (Nat × Nat)}
    (placed : arena.IsPlaced)
    (fits : cursorAfterRuns runs arena.used ≤ arena.reserved) :
    ∃ after,
      arena.carveRuns runs = .ok after ∧
        arena.IsCarvedTo (cursorAfterRuns runs arena.used) after := by
  induction runs generalizing arena with
  | nil =>
      exact ⟨arena, rfl, .refl arena⟩
  | cons run rest inductionHypothesis =>
      rcases run with ⟨size, count⟩
      have first : cursorAfter size count arena.used ≤ arena.reserved :=
        Nat.le_trans (le_cursorAfterRuns rest _) fits
      obtain ⟨blocks, middle, granted, carved⟩ := carveMany_of_fits placed first
      have later : cursorAfterRuns rest middle.used ≤ middle.reserved := by
        rw [carved.used_eq, carved.reserved_eq]
        exact fits
      obtain ⟨after, answered, reached⟩ :=
        inductionHypothesis (carved.isPlaced placed first) later
      rw [carved.used_eq] at reached
      refine ⟨after, ?_, carved.trans reached⟩
      simp only [carveRuns, granted, bind, Except.bind]
      exact answered

/-- Runs of blocks that do not all end inside the reservation exhaust it. -/
theorem carveRuns_of_exceeds
    {arena : Arena}
    {runs : List (Nat × Nat)}
    (placed : arena.IsPlaced)
    (exceeds : arena.reserved < cursorAfterRuns runs arena.used) :
    arena.carveRuns runs = .error .exhausted := by
  induction runs generalizing arena with
  | nil =>
      exact absurd exceeds (Nat.not_lt.mpr placed.used_le)
  | cons run rest inductionHypothesis =>
      rcases run with ⟨size, count⟩
      by_cases first : cursorAfter size count arena.used ≤ arena.reserved
      · obtain ⟨blocks, middle, granted, carved⟩ := carveMany_of_fits placed first
        have later : middle.reserved < cursorAfterRuns rest middle.used := by
          rw [carved.used_eq, carved.reserved_eq]
          exact exceeds
        simp only [carveRuns, granted, bind, Except.bind]
        exact inductionHypothesis (carved.isPlaced placed first) later
      · have refused := carveMany_of_exceeds placed (Nat.not_le.mp first)
        simp only [carveRuns, refused, bind, Except.bind]

theorem carve_of_fits
    {arena : Arena}
    {size : Nat}
    (placed : arena.IsPlaced)
    (fits : wordUp arena.used + size ≤ arena.reserved) :
    ∃ block after,
      arena.carve size wordAlignment = .ok (block, after) ∧
        block.bytes = Bytes.zeros size ∧
        arena.IsCarvedTo (wordUp arena.used + size) after := by
  obtain ⟨after, granted, carved⟩ := place?_of_fits placed fits
  refine ⟨{ address := arena.base + wordUp arena.used, bytes := Bytes.zeros size }, after, ?_,
    rfl, carved⟩
  simp only [carve, carve?, granted, obtained, bind, Except.bind]
  rfl

theorem carve_of_exceeds
    {arena : Arena}
    {size : Nat}
    (placed : arena.IsPlaced)
    (exceeds : arena.reserved < wordUp arena.used + size) :
    arena.carve size wordAlignment = .error .exhausted := by
  obtain ⟨requested, refused⟩ := place?_of_exceeds placed exceeds
  simp only [carve, carve?, refused, obtained, bind, Except.bind]
  rfl

end Gatehouse.Arena
