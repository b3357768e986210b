import Gatehouse.Proofs.Storage.Tenancy

namespace Gatehouse

/-!
# Arrays from an arena

An array is answered as one block of its size is: a size that is none, an
alignment that is no power of two and a block that does not fit are refused, in
this order, and nothing else is. But several elements have their alignment
raised to that of words before it is looked at, and a small one that is no power
of two is then never found out.
-/

/--
What an array is to be answered: what one block of its size is. Several elements
lie at words, which the padding takes into account.
-/
inductive AnswersAsBlock (arena : Arena) (count elementSize alignment : Nat) : ArenaAnswer → Prop
  | overflow
      (large : Size.limit ≤ count * elementSize) :
      AnswersAsBlock arena count elementSize alignment
        (.refused (.exhausted Size.max arena.remaining))
  | invalid
      (small : count * elementSize < Size.limit)
      (noPower : ¬∃ exponent, alignment = 2 ^ exponent) :
      AnswersAsBlock arena count elementSize alignment
        (.refused (.invalidAlignment alignment))
  | full
      (small : count * elementSize < Size.limit)
      (isPower : ∃ exponent, alignment = 2 ^ exponent)
      (needed : Nat)
      (needed_eq :
        needed =
          arena.paddingTo (ArenaRequest.array count elementSize alignment).alignment +
            count * elementSize)
      (tooLarge : arena.remaining < needed) :
      AnswersAsBlock arena count elementSize alignment
        (.refused (.exhausted (min needed Size.max) arena.remaining))
  | granted
      (small : count * elementSize < Size.limit)
      (isPower : ∃ exponent, alignment = 2 ^ exponent)
      (fits :
        arena.paddingTo (ArenaRequest.array count elementSize alignment).alignment +
            count * elementSize ≤
          arena.remaining)
      (block : Block)
      (length_eq : block.length = count * elementSize)
      (aligned : alignment ∣ block.address)
      (atWord : 1 < count → 8 ∣ block.address) :
      AnswersAsBlock arena count elementSize alignment (.granted block)

/-- Whether an alignment that is no power of two is raised before it is looked at. -/
def RaisesInvalidAlignment (count elementSize alignment : Nat) : Prop :=
  count * elementSize < Size.limit ∧
    1 < count ∧
    alignment < 8 ∧
    ¬∃ exponent, alignment = 2 ^ exponent

namespace ArenaRequest

variable {arena : Arena} {count elementSize alignment : Nat}

theorem carve?_array
    (arena : Arena)
    (alignment : Nat)
    (small : count * elementSize < Size.limit) :
    (array count elementSize alignment).carve? arena =
      arena.carve? (count * elementSize) (array count elementSize alignment).alignment :=
  (array_eq small).1

/-- The larger of two powers of two is a multiple of both. -/
theorem exists_alignment_eq
    (isPower : ∃ exponent, alignment = 2 ^ exponent) :
    (∃ exponent, (array count elementSize alignment).alignment = 2 ^ exponent) ∧
      alignment ∣ (array count elementSize alignment).alignment ∧
      (1 < count → 8 ∣ (array count elementSize alignment).alignment) := by
  obtain ⟨exponent, rfl⟩ := isPower
  simp only [ArenaRequest.alignment]
  split
  next several =>
    rcases Nat.le_total exponent 3 with small | large
    · have raised : 2 ^ exponent ≤ 8 := Nat.pow_le_pow_right Nat.two_pos small
      rw [Nat.max_eq_right raised]
      exact ⟨⟨3, rfl⟩, Nat.pow_dvd_pow 2 small, fun _ => Nat.dvd_refl 8⟩
    · have kept : 8 ≤ 2 ^ exponent := Nat.pow_le_pow_right Nat.two_pos large
      rw [Nat.max_eq_left kept]
      exact ⟨⟨exponent, rfl⟩, Nat.dvd_refl _, fun _ => Nat.pow_dvd_pow 2 large⟩
  next single =>
    exact ⟨⟨exponent, rfl⟩, Nat.dvd_refl _, fun several => absurd several single⟩

theorem alignment_eq_of_raises
    (raises : RaisesInvalidAlignment count elementSize alignment) :
    (array count elementSize alignment).alignment = 8 := by
  obtain ⟨_, several, small, _⟩ := raises
  rw [ArenaRequest.alignment, if_pos several]
  omega

theorem alignment_eq_of_not_raises
    (small : count * elementSize < Size.limit)
    (noPower : ¬∃ exponent, alignment = 2 ^ exponent)
    (kept : ¬RaisesInvalidAlignment count elementSize alignment) :
    (array count elementSize alignment).alignment = alignment := by
  rw [ArenaRequest.alignment]
  split
  next several =>
    have large : 8 ≤ alignment := by
      by_contra below
      exact kept ⟨small, several, Nat.lt_of_not_le below, noPower⟩
    exact Nat.max_eq_left large
  next single =>
    rfl

theorem alignment_lt_limit
    (count elementSize : Nat)
    (sized : alignment < Size.limit) :
    (array count elementSize alignment).alignment < Size.limit := by
  simp only [ArenaRequest.alignment, Size.limit] at sized ⊢
  split <;> omega

/-- Raised, an invalid alignment and that of words are one. -/
theorem max_eq_of_raises
    (raises : RaisesInvalidAlignment count elementSize alignment) :
    max alignment Arena.wordAlignment = max 8 Arena.wordAlignment := by
  have ⟨_, _, small, _⟩ := raises
  rw [Arena.wordAlignment]
  omega

end ArenaRequest

namespace Holdings

variable {holdings after : Holdings} {request : ArenaRequest} {answer : ArenaAnswer}

theorem answer_of_refused
    {error : ArenaError}
    (refused : request.carve? holdings.arena = .ok (.error error))
    (performed : holdings.perform (.request request) = .ok (answer, after)) :
    answer = .refused error := by
  simp only [perform, refused, bind, Except.bind] at performed
  cases performed
  rfl

theorem answer_of_granted
    {block : Block}
    {arena : Arena}
    (granted : request.carve? holdings.arena = .ok (.ok (block, arena)))
    (performed : holdings.perform (.request request) = .ok (answer, after)) :
    answer = .granted block := by
  simp only [perform, granted, bind, Except.bind] at performed
  cases performed
  rfl

/-- An invalid alignment that is raised is answered as the alignment of words. -/
theorem perform_array_of_raises
    {count elementSize alignment : Nat}
    (holdings : Holdings)
    (raises : RaisesInvalidAlignment count elementSize alignment) :
    holdings.perform (.request (.array count elementSize alignment)) =
      holdings.perform (.request (.array count elementSize 8)) := by
  simp only [perform, ArenaRequest.carve?, Arena.carveArray?, if_pos raises.2.1,
    ArenaRequest.max_eq_of_raises raises]

section Answering

variable {count elementSize alignment : Nat} (inOrder : holdings.arena.IsInOrder)
  (sized : alignment < Size.limit)
  (performed :
    holdings.perform (.request (.array count elementSize alignment)) = .ok (answer, after))

include inOrder sized performed

/-- With an alignment that is a power of two once it was raised, it is the room that decides. -/
theorem answer_of_power
    (small : count * elementSize < Size.limit)
    (isPower :
      ∃ exponent, (ArenaRequest.array count elementSize alignment).alignment = 2 ^ exponent)
    {needed : Nat}
    (needed_eq :
      needed =
        holdings.arena.paddingTo (ArenaRequest.array count elementSize alignment).alignment +
          count * elementSize) :
    (needed ≤ holdings.arena.remaining ∧
        answer =
          .granted ((ArenaRequest.array count elementSize alignment).nextBlock holdings.arena)) ∨
      (holdings.arena.remaining < needed ∧
        answer = .refused (.exhausted (min needed Size.max) holdings.arena.remaining)) := by
  subst needed_eq
  have asBlock := ArenaRequest.carve?_array holdings.arena alignment small
  have sizedToo := ArenaRequest.alignment_lt_limit count elementSize sized
  rcases Nat.lt_or_ge holdings.arena.remaining
      (holdings.arena.paddingTo (ArenaRequest.array count elementSize alignment).alignment +
        count * elementSize) with full | fits
  · right
    have refused := inOrder.carve?_of_full sizedToo isPower full
    exact ⟨full, answer_of_refused (asBlock.trans refused) performed⟩
  · left
    have granted := inOrder.carve?_of_admits sizedToo ⟨isPower, fits⟩
    exact ⟨fits, answer_of_granted (asBlock.trans granted) performed⟩

theorem answersAsBlock_of_power
    (small : count * elementSize < Size.limit)
    (isPower : ∃ exponent, alignment = 2 ^ exponent) :
    AnswersAsBlock holdings.arena count elementSize alignment answer := by
  obtain ⟨isPowerToo, divides, dividesWords⟩ :=
    @ArenaRequest.exists_alignment_eq count elementSize alignment isPower
  rcases answer_of_power inOrder sized performed small isPowerToo rfl with
    ⟨fits, rfl⟩ | ⟨full, rfl⟩
  · have positive : 0 < (ArenaRequest.array count elementSize alignment).alignment := by
      obtain ⟨exponent, power_eq⟩ := isPowerToo
      rw [power_eq]
      exact Nat.two_pow_pos exponent
    have aligned := holdings.arena.dvd_paddingTo positive
    exact .granted small isPower fits _ (ArenaRequest.length_nextBlock _ _)
      (divides.trans aligned) fun several => (dividesWords several).trans aligned
  · exact .full small isPower _ rfl full

theorem answersAsBlock_of_not_raises
    (kept : ¬RaisesInvalidAlignment count elementSize alignment) :
    AnswersAsBlock holdings.arena count elementSize alignment answer := by
  rcases Nat.lt_or_ge (count * elementSize) Size.limit with small | large
  · by_cases isPower : ∃ exponent, alignment = 2 ^ exponent
    · exact answersAsBlock_of_power inOrder sized performed small isPower
    · have asBlock := ArenaRequest.carve?_array holdings.arena alignment small
      rw [ArenaRequest.alignment_eq_of_not_raises small isPower kept] at asBlock
      have refused := asBlock.trans (holdings.arena.carve?_of_not_power _ isPower)
      obtain rfl := answer_of_refused refused performed
      exact .invalid small isPower
  · have refused :
        (ArenaRequest.array count elementSize alignment).carve? holdings.arena =
          .ok (.error (.exhausted Size.max holdings.arena.remaining)) := by
      rw [ArenaRequest.carve?, Arena.carveArray?, if_pos large]
    obtain rfl := answer_of_refused refused performed
    exact .overflow large

/-- A raised alignment is never found invalid. -/
theorem not_answersAsBlock_of_raises
    (raises : RaisesInvalidAlignment count elementSize alignment) :
    ¬AnswersAsBlock holdings.arena count elementSize alignment answer := by
  have ⟨small, _, _, noPower⟩ := raises
  have isPower :
      ∃ exponent, (ArenaRequest.array count elementSize alignment).alignment = 2 ^ exponent :=
    ⟨3, ArenaRequest.alignment_eq_of_raises raises⟩
  have answered := answer_of_power inOrder sized performed small isPower rfl
  intro answers
  cases answers with
  | overflow large => exact absurd small (Nat.not_lt.mpr large)
  | invalid => simp at answered
  | full _ isPowerToo => exact noPower isPowerToo
  | granted _ isPowerToo => exact noPower isPowerToo

end Answering

end Holdings

/-- An invalid alignment that is raised is answered as the alignment of words. -/
theorem Tenancy.perform_array_of_raises
    {count elementSize alignment : Nat}
    (tenancy : Tenancy)
    (raises : RaisesInvalidAlignment count elementSize alignment) :
    tenancy.perform (.request (.array count elementSize alignment)) =
      tenancy.perform (.request (.array count elementSize 8)) := by
  simp only [perform, ArenaRequest.carveFrom?, Reservation.carveArray?, if_pos raises.2.1,
    ArenaRequest.max_eq_of_raises raises]

/-- A call is answered alike in both tellings, and one that is refused changes nothing. -/
theorem Tenancy.Backs.answered
    {start : Arena}
    {initial : Memory}
    {holdings : Holdings}
    {tenancy : Tenancy}
    {request : ArenaRequest}
    (backs : tenancy.Backs start initial holdings)
    (safe : holdings.IsSafe start)
    (sized : request.alignment < Size.limit) :
    ∃ answer after later,
      holdings.perform (.request request) = .ok (answer, after) ∧
        tenancy.perform (.request request) = .ok (answer, later) ∧
        ∀ error, answer = .refused error → after = holdings ∧ later = tenancy := by
  by_cases admits : holdings.arena.Admits request.size request.alignment
  · obtain ⟨later, performed, performedToo, _⟩ := backs.granted safe sized admits
    exact ⟨_, _, later, performed, performedToo, fun _ isRefused => nomatch isRefused⟩
  · obtain ⟨error, performed, performedToo⟩ := backs.refused safe sized admits
    exact ⟨_, _, _, performed, performedToo, fun _ _ => ⟨rfl, rfl⟩⟩

/--
After any run of an arena that was made in the lower half of all addresses, an
array is answered, in both tellings alike, and leaves everything as it was if it
is refused. The answer is that of one block of its size if and only if its
alignment is not an invalid one that is raised: with several elements, one below
that of words that is no power of two. An array with such an alignment is
answered as if the alignment of words had been asked for.
-/
theorem array_answered_as_block_iff
    {base reserveBytes granuleBytes : Nat}
    {arena : Arena}
    (made : Arena.ofSizes base reserveBytes granuleBytes = .ok (.ok arena))
    (low : base + arena.reserved < 2 ^ 63)
    (memory : Memory)
    (calls : List ArenaCall)
    (sized : ∀ call ∈ calls, call.IsSized)
    (count elementSize : Nat)
    {alignment : Nat}
    (alignmentSized : alignment < Size.limit) :
    ∃ answers holdings tenancy answer after later,
      Holdings.run { arena := arena, blocks := [] } calls = .ok (answers, holdings) ∧
        Tenancy.run { reservation := .ofArena arena memory, windows := [] } calls =
          .ok (answers, tenancy) ∧
        holdings.perform (.request (.array count elementSize alignment)) = .ok (answer, after) ∧
        tenancy.perform (.request (.array count elementSize alignment)) = .ok (answer, later) ∧
        (∀ error, answer = .refused error → after = holdings ∧ later = tenancy) ∧
        (AnswersAsBlock holdings.arena count elementSize alignment answer ↔
          ¬RaisesInvalidAlignment count elementSize alignment) ∧
        (RaisesInvalidAlignment count elementSize alignment →
          holdings.perform (.request (.array count elementSize 8)) = .ok (answer, after) ∧
            tenancy.perform (.request (.array count elementSize 8)) = .ok (answer, later)) := by
  obtain ⟨startSafe, startBacks⟩ := Tenancy.backs_of_ofSizes made low memory
  obtain ⟨answers, holdings, tenancy, ran, ranToo, safe, backs⟩ := startBacks.run startSafe sized
  have requestSized := ArenaRequest.alignment_lt_limit count elementSize alignmentSized
  obtain ⟨answer, after, later, performed, performedToo, unchanged⟩ :=
    backs.answered safe requestSized
  refine ⟨answers, holdings, tenancy, answer, after, later, ran, ranToo, performed, performedToo,
    unchanged, ⟨?_, ?_⟩, ?_⟩
  · intro answers raises
    exact Holdings.not_answersAsBlock_of_raises safe.inOrder alignmentSized performed raises answers
  · exact Holdings.answersAsBlock_of_not_raises safe.inOrder alignmentSized performed
  · intro raises
    rw [← Holdings.perform_array_of_raises holdings raises,
      ← Tenancy.perform_array_of_raises tenancy raises]
    exact ⟨performed, performedToo⟩

/-- Behind ten bytes, an array of three numbers is granted as a block is, at a word. -/
theorem numbers_granted_behind_text :
    ∃ arena answers holdings tenancy answer after later,
      Arena.ofSizes 4096 65536 4096 = .ok (.ok arena) ∧
        Holdings.run { arena := arena, blocks := [] } [.request (.block 10 1)] =
          .ok (answers, holdings) ∧
        Tenancy.run { reservation := .ofArena arena fun _ => 0xFF, windows := [] }
            [.request (.block 10 1)] =
          .ok (answers, tenancy) ∧
        holdings.perform (.request (.array 3 4 4)) = .ok (answer, after) ∧
        tenancy.perform (.request (.array 3 4 4)) = .ok (answer, later) ∧
        AnswersAsBlock holdings.arena 3 4 4 answer := by
  have made :
      Arena.ofSizes 4096 65536 4096 =
        .ok (.ok { base := 4096, reserved := 65536, granule := 4096, committed := 0, used := 0 }) := by
    decide +kernel
  obtain ⟨answers, holdings, tenancy, answer, after, later, ran, ranToo, performed, performedToo,
      _, answersAsBlock_iff, _⟩ :=
    array_answered_as_block_iff made (by decide) (fun _ => 0xFF) [.request (.block 10 1)]
      (by simp [ArenaCall.IsSized, ArenaRequest.alignment, Size.limit]) 3 4
      (show 4 < Size.limit by decide)
  have kept : ¬RaisesInvalidAlignment 3 4 4 :=
    fun raises => raises.2.2.2 ⟨2, rfl⟩
  exact ⟨_, answers, holdings, tenancy, answer, after, later, made, ran, ranToo, performed,
    performedToo, answersAsBlock_iff.mpr kept⟩

/-- Two numbers are granted, although three is no power of two to align them to. -/
theorem array_granted_with_invalid_alignment :
    ∃ arena after,
      Arena.ofSizes 4096 4096 4096 = .ok (.ok arena) ∧
        Holdings.perform { arena := arena, blocks := [] } (.request (.array 2 4 3)) =
          .ok (.granted { address := 4096, bytes := Bytes.zeros 8 }, after) ∧
        2 * 4 < Size.limit ∧
        (¬∃ exponent, 3 = 2 ^ exponent) ∧
        ¬AnswersAsBlock arena 2 4 3
          (.granted { address := 4096, bytes := Bytes.zeros 8 }) := by
  have noPower : ¬∃ exponent, 3 = 2 ^ exponent :=
    fun isPower => absurd (Arena.isPowerOfTwo_iff.mpr isPower) (by decide)
  refine ⟨{ base := 4096, reserved := 4096, granule := 4096, committed := 0, used := 0 },
    { arena := { base := 4096, reserved := 4096, granule := 4096, committed := 4096, used := 8 }
      blocks := [{ address := 4096, bytes := Bytes.zeros 8 }] },
    by decide +kernel, by decide +kernel, by decide, noPower, ?_⟩
  intro answers
  cases answers with
  | granted _ isPower => exact noPower isPower

end Gatehouse
