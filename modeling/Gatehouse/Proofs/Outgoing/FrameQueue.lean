import Gatehouse.Outgoing.FrameQueue
import Gatehouse.Proofs.Outgoing.FrameDraft
import Gatehouse.Proofs.Storage.BlockPool

namespace Gatehouse.FrameQueue

/-!
# Collecting packets in a queue

A packet for which room was made goes into the newest draft, which it leaves
sound: either behind the packets that are there, or into a draft of its own.
Either way the payloads of the queue in order are what they were with the bytes
of the packet behind them.
-/

/-- A queue once the bytes of a packet were collected, and how many new drafts that took. -/
inductive Collected (size : Nat) (bytes : Bytes) (queue : FrameQueue) : FrameQueue → Nat → Prop
  | joined
      {older : List FrameDraft}
      {newest longer : FrameDraft}
      (drafts_eq : queue.drafts = older ++ [newest])
      (sound : longer.IsSound size)
      (payload_eq : longer.payload = newest.payload ++ bytes) :
      Collected size bytes queue { queue with drafts := older ++ [longer] } 0
  | opened
      {draft : FrameDraft}
      (few : queue.length < queue.limit)
      (sound : draft.IsSound size)
      (payload_eq : draft.payload = bytes) :
      Collected size bytes queue { queue with drafts := queue.drafts ++ [draft] } 1

@[simp]
theorem changeLast_append
    (change : FrameDraft → FrameDraft)
    (older : List FrameDraft)
    (newest : FrameDraft) :
    changeLast change (older ++ [newest]) = older ++ [change newest] := by
  induction older with
  | nil =>
      rfl
  | cons oldest rest inductionHypothesis =>
      cases rest with
      | nil =>
          rfl
      | cons next rest =>
          exact congrArg (oldest :: ·) inductionHypothesis

/-- A queue with drafts has a newest one, which is the one that collects a packet. -/
theorem append_of_drafts
    {queue : FrameQueue}
    {older : List FrameDraft}
    {newest : FrameDraft}
    (drafts_eq : queue.drafts = older ++ [newest])
    (packet : Packet) :
    queue.append packet = { queue with drafts := older ++ [newest.append packet] } := by
  rw [append, drafts_eq, changeLast_append]

theorem length_append (queue : FrameQueue) (packet : Packet) :
    (queue.append packet).length = queue.length := by
  rcases List.eq_nil_or_concat queue.drafts with empty | ⟨older, newest, drafts_eq⟩
  · simp only [append, length, empty, changeLast]
  · rw [List.concat_eq_append] at drafts_eq
    simp only [append_of_drafts drafts_eq, length, drafts_eq, List.length_append,
      List.length_singleton]

/-- Collecting a packet, whether it fits or not, leaves all blocks as long as they are. -/
theorem length_block_append
    {queue : FrameQueue}
    {size : Nat}
    (long : ∀ draft ∈ queue.drafts, draft.block.length = size)
    (packet : Packet) :
    ∀ draft ∈ (queue.append packet).drafts, draft.block.length = size := by
  intro draft member
  rcases List.eq_nil_or_concat queue.drafts with empty | ⟨older, newest, drafts_eq⟩
  · simp [append, empty, changeLast] at member
  · rw [List.concat_eq_append] at drafts_eq
    rw [append_of_drafts drafts_eq] at member
    rcases List.mem_append.mp member with isOlder | isNewest
    · exact long draft (by simp [drafts_eq, isOlder])
    · rw [List.mem_singleton.mp isNewest, FrameDraft.length_block_append]
      exact long newest (by simp [drafts_eq])

/--
Making room answers nothing, or leaves the queue as it is, or opens one new
draft if the queue is not full.
-/
theorem ensureRoom_eq_ok
    {queue : FrameQueue}
    {pool : BlockPool}
    {size : Nat}
    {answer : Option (FrameQueue × BlockPool)}
    (made : queue.ensureRoom pool size = .ok answer) :
    answer = none ∨
      (queue.drafts ≠ [] ∧ answer = some (queue, pool)) ∨
        ∃ block left,
          queue.length < queue.limit ∧
            pool.acquire = .ok (block, left) ∧
            answer = some ({ queue with drafts := queue.drafts ++ [.ofBlock block] }, left) := by
  simp only [ensureRoom, Checked.bind_eq_ok] at made
  rcases made with ⟨takes, answered, made⟩
  cases takes with
  | true =>
      cases made
      right
      left
      refine ⟨?_, rfl⟩
      intro empty
      simp [newestTakes, empty] at answered
  | false =>
      simp only [Bool.false_eq_true, if_false] at made
      split at made
      next full =>
        cases made
        exact .inl rfl
      next room =>
        obtain ⟨⟨block, left⟩, acquired, granted⟩ := Checked.bind_eq_ok.mp made
        cases granted
        exact .inr (.inr ⟨block, left, Nat.not_le.mp room, acquired, rfl⟩)

/-- A queue in which room was made has a draft. -/
theorem drafts_of_ensureRoom
    {queue after : FrameQueue}
    {pool left : BlockPool}
    {size : Nat}
    (made : queue.ensureRoom pool size = .ok (some (after, left))) :
    after.drafts ≠ [] := by
  rcases ensureRoom_eq_ok made with refused | ⟨waiting, same⟩ | ⟨block, _, _, _, opened⟩
  · cases refused
  · cases same
    exact waiting
  · cases opened
    simp

/-- Collecting a packet takes no draft away. -/
theorem drafts_append
    {queue : FrameQueue}
    (waiting : queue.drafts ≠ [])
    (packet : Packet) :
    (queue.append packet).drafts ≠ [] := by
  rw [← List.length_pos_iff] at waiting ⊢
  exact Nat.lt_of_lt_of_eq waiting (queue.length_append packet).symm

/-- Whether a packet of some bytes goes into the newest draft, in blocks of some size. -/
def Reuses (queue : FrameQueue) (size wanted : Nat) : Prop :=
  wanted ≠ 0 ∧
    ∃ older newest,
      queue.drafts = older ++ [newest] ∧
        newest.length + wanted + FrameDraft.maxPadding ≤ size

theorem newestTakes_eq
    {queue : FrameQueue}
    {size wanted : Nat}
    (sound : ∀ draft ∈ queue.drafts, draft.IsSound size)
    (isSize : wanted + FrameDraft.maxPadding < Size.limit) :
    ∃ takes, queue.newestTakes wanted = .ok takes ∧ (takes = true ↔ queue.Reuses size wanted) := by
  unfold newestTakes
  split
  next none =>
    have empty := List.getLast?_eq_none_iff.mp none
    exact ⟨false, rfl, by simp [Reuses, empty]⟩
  next newest isNewest =>
    split
    next zero =>
      exact ⟨false, rfl, by simp [Reuses, zero]⟩
    next asked =>
      obtain ⟨older, drafts_eq⟩ := List.getLast?_eq_some_iff.mp isNewest
      have newestSound := sound newest (by simp [drafts_eq])
      refine ⟨_, newestSound.takes_eq isSize, ?_⟩
      rw [decide_eq_true_eq]
      constructor
      · intro enough
        exact ⟨asked, older, newest, drafts_eq, enough⟩
      · rintro ⟨_, others, last, same, enough⟩
        rw [drafts_eq] at same
        obtain ⟨_, lasts⟩ := List.append_inj' same rfl
        rw [List.singleton_inj.mp lasts]
        exact enough

theorem ensureRoom_of_reuses
    {queue : FrameQueue}
    {size wanted : Nat}
    (sound : ∀ draft ∈ queue.drafts, draft.IsSound size)
    (isSize : wanted + FrameDraft.maxPadding < Size.limit)
    (reuses : queue.Reuses size wanted)
    (pool : BlockPool) :
    queue.ensureRoom pool wanted = .ok (some (queue, pool)) := by
  obtain ⟨takes, answered, takes_iff⟩ := newestTakes_eq sound isSize
  rw [takes_iff.mpr reuses] at answered
  simp only [ensureRoom, answered, bind, Except.bind]
  rfl

/-- Where the newest draft does not take a packet, it takes a new one, if the queue is not full. -/
theorem ensureRoom_of_not_reuses
    {queue : FrameQueue}
    {size wanted : Nat}
    (sound : ∀ draft ∈ queue.drafts, draft.IsSound size)
    (isSize : wanted + FrameDraft.maxPadding < Size.limit)
    (opens : ¬queue.Reuses size wanted)
    (pool : BlockPool) :
    queue.ensureRoom pool wanted =
      if queue.limit ≤ queue.length then
        .ok none
      else do
        let (block, left) ← pool.acquire
        return some ({ queue with drafts := queue.drafts ++ [.ofBlock block] }, left) := by
  obtain ⟨takes, answered, takes_iff⟩ := newestTakes_eq sound isSize
  have notTaken : takes = false := Bool.eq_false_iff.mpr fun taken => opens (takes_iff.mp taken)
  rw [notTaken] at answered
  simp only [ensureRoom, answered, bind, Except.bind]
  rfl

/-- Where room is made though the newest draft does not take a packet, a new draft was opened. -/
theorem exists_acquire_of_ensureRoom
    {queue after : FrameQueue}
    {size wanted : Nat}
    {pool left : BlockPool}
    (sound : ∀ draft ∈ queue.drafts, draft.IsSound size)
    (isSize : wanted + FrameDraft.maxPadding < Size.limit)
    (opens : ¬queue.Reuses size wanted)
    (made : queue.ensureRoom pool wanted = .ok (some (after, left))) :
    ∃ block,
      pool.acquire = .ok (block, left) ∧
        after = { queue with drafts := queue.drafts ++ [.ofBlock block] } := by
  rw [ensureRoom_of_not_reuses sound isSize opens] at made
  split at made
  next full =>
    cases made
  next few =>
    obtain ⟨⟨block, remaining⟩, acquired, same⟩ := Checked.bind_eq_ok.mp made
    cases same
    exact ⟨block, acquired, rfl⟩

/-- No room is made exactly if the queue is full and the newest draft does not take the packet. -/
theorem ensureRoom_eq_none_iff
    {queue : FrameQueue}
    {size wanted : Nat}
    (sound : ∀ draft ∈ queue.drafts, draft.IsSound size)
    (isSize : wanted + FrameDraft.maxPadding < Size.limit)
    (pool : BlockPool) :
    queue.ensureRoom pool wanted = .ok none ↔
      queue.limit ≤ queue.length ∧ ¬queue.Reuses size wanted := by
  constructor
  · intro refused
    have opens : ¬queue.Reuses size wanted := by
      intro reuses
      rw [ensureRoom_of_reuses sound isSize reuses] at refused
      cases refused
    rw [ensureRoom_of_not_reuses sound isSize opens] at refused
    split at refused
    next full =>
      exact ⟨full, opens⟩
    next few =>
      obtain ⟨_, _, granted⟩ := Checked.bind_eq_ok.mp refused
      cases granted
  · rintro ⟨full, opens⟩
    rw [ensureRoom_of_not_reuses sound isSize opens, if_pos full]

/--
Making room answers nothing only when the queue is full; otherwise the packet
that room was made for is collected.
-/
theorem ensureRoom_meets
    {allowed : Fault → Prop}
    {size most : Nat}
    {books : Nat → BlockPool → Prop}
    (contract : BlockPool.Contract allowed size most books)
    {queue : FrameQueue}
    {pool : BlockPool}
    {held wanted : Nat}
    {packet : Packet}
    {bytes : Bytes}
    (sound : ∀ draft ∈ queue.drafts, draft.IsSound size)
    (balanced : books held pool)
    (spare : queue.length < queue.limit → held < most)
    (isSize : wanted + FrameDraft.maxPadding < Size.limit)
    (encoded : packet.encoding? = some bytes)
    (within : wanted ≠ 0 → bytes.length ≤ wanted)
    (fits : Frame.headerLength + bytes.length + FrameDraft.maxPadding ≤ size) :
    (queue.ensureRoom pool wanted).Meets allowed fun
      | none => queue.limit ≤ queue.length
      | some (after, pool) =>
          ∃ added,
            Collected size bytes queue (after.append packet) added ∧ books (held + added) pool := by
  by_cases reuses : queue.Reuses size wanted
  · rw [ensureRoom_of_reuses sound isSize reuses]
    obtain ⟨asked, older, newest, drafts_eq, long⟩ := reuses
    have newestSound := sound newest (by simp [drafts_eq])
    have enough := within asked
    obtain ⟨longerSound, payload_eq⟩ := newestSound.append encoded (by omega)
    have collected : Collected size bytes queue (queue.append packet) 0 := by
      rw [append_of_drafts drafts_eq]
      exact .joined drafts_eq longerSound payload_eq
    exact ⟨0, collected, balanced⟩
  · rw [ensureRoom_of_not_reuses sound isSize reuses]
    by_cases full : queue.limit ≤ queue.length
    · rw [if_pos full]
      exact full
    · rw [if_neg full]
      have few : queue.length < queue.limit := Nat.not_le.mp full
      refine Checked.Meets.bind (contract.acquire balanced (spare few)) ?_
      intro granted acquired
      rcases granted with ⟨block, pool⟩
      rcases acquired with ⟨zero, kept⟩
      have block_length : block.length = size := by
        rw [Block.length, zero, Bytes.length_zeros]
      have blockSound := FrameDraft.isSound_ofBlock block_length (by omega)
      have length_eq := blockSound.length_eq
      rw [FrameDraft.payload_ofBlock, List.length_nil] at length_eq
      obtain ⟨longerSound, payload_eq⟩ := blockSound.append encoded (by omega)
      rw [FrameDraft.payload_ofBlock, List.nil_append] at payload_eq
      have collected :
          Collected size bytes queue
            (append { queue with drafts := queue.drafts ++ [.ofBlock block] } packet) 1 := by
        rw [append, changeLast_append]
        exact .opened few longerSound payload_eq
      exact ⟨1, collected, kept⟩

/-- Giving back leaves no drafts and returns the block of each. -/
theorem giveBack_books
    {allowed : Fault → Prop}
    {size most : Nat}
    {books : Nat → BlockPool → Prop}
    (contract : BlockPool.Contract allowed size most books)
    {drafts : List FrameDraft}
    {pool : BlockPool}
    {rest : Nat}
    (sound : ∀ draft ∈ drafts, draft.block.length = size)
    (balanced : books (rest + drafts.length) pool) :
    books rest (drafts.foldl (fun pool draft => pool.release draft.reclaimed) pool) := by
  induction drafts generalizing pool with
  | nil =>
      exact balanced
  | cons draft later inductionHypothesis =>
      have wiped := FrameDraft.bytes_reclaimed (sound draft (by simp))
      exact inductionHypothesis
        (fun other member => sound other (List.mem_cons_of_mem draft member))
        (contract.release balanced wiped)

end Gatehouse.FrameQueue
