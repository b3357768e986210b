import Gatehouse.Proofs.Configuration.Reservation
import Gatehouse.Proofs.Frame.RoundTrip
import Gatehouse.Proofs.Outgoing.FrameQueue

namespace Gatehouse

/-!
# Packets through an outbox

An outbox is used in any order: a packet is collected in its queue if there is
room, the oldest frame is taken and sealed, and the block of a frame that was
taken goes back to the pool. Over every run, what is collected comes out in
order: the payloads of the frames that were taken, and behind them the payloads
that still wait, are the collected packets cut into groups, one group a frame.
-/

/-- What is done with an outbox. -/
inductive OutboxStep where
  /-- Make room for some bytes and, if that is granted, collect a packet. -/
  | collect (wanted : Nat) (packet : Packet)
  /-- Take the oldest draft and seal it. -/
  | dispatch
  /-- Give back the block of a frame that was taken, by its number among those that were kept. -/
  | reclaim (number : Nat)
deriving DecidableEq, Repr

/--
Whether a packet that is collected has as many bytes as room is made for, at
least one, and leaves room for the header and the padding of a frame.
-/
def OutboxStep.IsSized (blockSize : Nat) : OutboxStep → Prop
  | .collect wanted packet =>
      Frame.headerLength + wanted + FrameDraft.maxPadding ≤ blockSize ∧
        ∃ bytes,
          packet.encoding? = some bytes ∧
            bytes ≠ [] ∧
            (wanted ≠ 0 → bytes.length ≤ wanted) ∧
            Frame.headerLength + bytes.length + FrameDraft.maxPadding ≤ blockSize
  | .dispatch | .reclaim _ => True

/-- What an outbox answers. -/
inductive OutboxAnswer where
  | refused
  | collected (packet : Packet)
  /-- A frame was taken: what became of sealing it, and the frame that it shows. -/
  | dispatched (outcome : Except FrameError Nat) (frame : Bytes)
  | reclaimed
  /-- There was no frame to take or to give back. -/
  | idle

/-- A frame queue, the pool of its blocks, and the frames that were taken and not given back. -/
structure Outbox where
  queue : FrameQueue
  pool : BlockPool
  kept : List FrameDraft

namespace Outbox

/-- An outbox that holds nothing, with blocks of some size from an arena. -/
def ofArena (arena : Arena) (blockSize limit : Nat) : Outbox where
  queue := { drafts := [], limit := limit }
  pool := .ofArena arena blockSize
  kept := []

def perform (outbox : Outbox) (key : CipherKey) : OutboxStep → Checked (OutboxAnswer × Outbox)
  | .collect wanted packet => do
      match ← outbox.queue.ensureRoom outbox.pool wanted with
      | none => return (.refused, outbox)
      | some (queue, pool) =>
          return (.collected packet, { outbox with queue := queue.append packet, pool := pool })
  | .dispatch =>
      match outbox.queue.pop? with
      | none => .ok (.idle, outbox)
      | some (draft, queue) => do
          let (outcome, draft) ← draft.sealWith key
          let frame ← draft.frame
          return (.dispatched outcome frame,
            { outbox with queue := queue, kept := outbox.kept ++ [draft] })
  | .reclaim number =>
      match outbox.kept[number]? with
      | none => .ok (.idle, outbox)
      | some draft =>
          .ok (.reclaimed,
            { outbox with
              pool := outbox.pool.release draft.reclaimed
              kept := outbox.kept.eraseIdx number })

/-- Perform steps in turn, and collect the answers. -/
def run (outbox : Outbox) (key : CipherKey) : List OutboxStep → Checked (List OutboxAnswer × Outbox)
  | [] => .ok ([], outbox)
  | step :: rest => do
      let (answer, next) ← outbox.perform key step
      let (answers, last) ← next.run key rest
      return (answer :: answers, last)

/-- Blocks that are held: one for each draft that waits and each frame that was kept. -/
def held (outbox : Outbox) : Nat :=
  outbox.queue.length + outbox.kept.length

/-- The bytes of the packets that were collected, in order. -/
def collected (answers : List OutboxAnswer) : List Bytes :=
  answers.filterMap fun
    | .collected packet => packet.encoding?
    | _ => none

/-- The frames that were taken, in order. -/
def dispatched (answers : List OutboxAnswer) : List Bytes :=
  answers.filterMap fun
    | .dispatched _ frame => some frame
    | _ => none

theorem collected_append (earlier later : List OutboxAnswer) :
    collected (earlier ++ later) = collected earlier ++ collected later :=
  List.filterMap_append

theorem dispatched_append (earlier later : List OutboxAnswer) :
    dispatched (earlier ++ later) = dispatched earlier ++ dispatched later :=
  List.filterMap_append

/--
What was collected, in groups of packets: one group for each frame that was
taken, which opens to the bytes of its group, and behind them one for each draft
that waits, which has the bytes of its group as its payload. Every frame that
was taken was sealed, and fits its block.
-/
structure Carries
    (key : CipherKey)
    (blockSize : Nat)
    (answers : List OutboxAnswer)
    (queue : FrameQueue)
    (sent waiting : List (List Bytes)) :
    Prop where
  collected_eq : collected answers = sent.flatten ++ waiting.flatten
  sent_eq :
    (dispatched answers).map (Frame.opened? key) = sent.map fun group => some group.flatten
  waiting_eq : queue.drafts.map FrameDraft.payload = waiting.map List.flatten
  isSealed :
    ∀ outcome frame,
      .dispatched outcome frame ∈ answers →
        outcome = .ok frame.length ∧ frame.length ≤ blockSize

/-- An outbox at any time: a queue within its limit, of drafts that can be sealed. -/
structure IsSound (blockSize limit : Nat) (outbox : Outbox) : Prop where
  limit_eq : outbox.queue.limit = limit
  length_le : outbox.queue.length ≤ limit
  drafts : ∀ draft ∈ outbox.queue.drafts, draft.IsSound blockSize ∧ draft.payload ≠ []
  kept : ∀ draft ∈ outbox.kept, draft.block.length = blockSize

/-- A sound outbox with balanced books that carries what was collected. -/
structure Tells
    (key : CipherKey)
    (blockSize limit : Nat)
    (books : Nat → BlockPool → Prop)
    (answers : List OutboxAnswer)
    (outbox : Outbox) :
    Prop where
  sound : outbox.IsSound blockSize limit
  balanced : books outbox.held outbox.pool
  carries : ∃ sent waiting, Carries key blockSize answers outbox.queue sent waiting

variable {key : CipherKey} {blockSize limit most : Nat} {answers : List OutboxAnswer}
  {outbox : Outbox} {allowed : Fault → Prop} {books : Nat → BlockPool → Prop}

/-! ## What is carried -/

namespace Carries

variable {queue : FrameQueue} {sent waiting : List (List Bytes)}

/-- An answer that neither collects a packet nor takes a frame changes nothing that is carried. -/
theorem snoc
    (carries : Carries key blockSize answers queue sent waiting)
    {answer : OutboxAnswer}
    (collectsNone : collected [answer] = [])
    (takesNone : dispatched [answer] = []) :
    Carries key blockSize (answers ++ [answer]) queue sent waiting := by
  refine ⟨?_, ?_, carries.waiting_eq, ?_⟩
  · rw [collected_append, collectsNone, List.append_nil]
    exact carries.collected_eq
  · rw [dispatched_append, takesNone, List.append_nil]
    exact carries.sent_eq
  · intro outcome frame member
    rcases List.mem_append.mp member with earlier | now
    · exact carries.isSealed outcome frame earlier
    · rw [← List.mem_singleton.mp now] at takesNone
      cases takesNone

/-- A packet that is collected joins the group of the newest draft, or opens a group of its own. -/
theorem collect
    (carries : Carries key blockSize answers queue sent waiting)
    {after : FrameQueue}
    {packet : Packet}
    {bytes : Bytes}
    {added : Nat}
    (encoded : packet.encoding? = some bytes)
    (taken : FrameQueue.Collected blockSize bytes queue after added) :
    ∃ later, Carries key blockSize (answers ++ [.collected packet]) after sent later := by
  have collected_eq :
      collected (answers ++ [.collected packet]) =
        sent.flatten ++ (waiting.flatten ++ [bytes]) := by
    rw [collected_append, carries.collected_eq, List.append_assoc]
    simp [collected, encoded]
  have sent_eq :
      (dispatched (answers ++ [.collected packet])).map (Frame.opened? key) =
        sent.map fun group => some group.flatten := by
    rw [dispatched_append, ← carries.sent_eq]
    simp [dispatched]
  have isSealed :
      ∀ outcome frame,
        .dispatched outcome frame ∈ answers ++ [.collected packet] →
          outcome = .ok frame.length ∧ frame.length ≤ blockSize := by
    intro outcome frame member
    apply carries.isSealed outcome frame
    simpa using member
  have waiting_eq := carries.waiting_eq
  cases taken with
  | @joined older newest longer drafts_eq sound payload_eq =>
      rw [drafts_eq, List.map_append] at waiting_eq
      obtain ⟨earlier, last, rfl, earlier_eq, last_eq⟩ := List.map_eq_append_iff.mp waiting_eq.symm
      obtain ⟨group, none, rfl, group_eq, none_eq⟩ := List.map_eq_cons_iff.mp last_eq
      rw [List.map_nil, List.map_eq_nil_iff] at none_eq
      subst none_eq
      refine ⟨earlier ++ [group ++ [bytes]], ?_, sent_eq, ?_, isSealed⟩
      · rw [collected_eq]
        simp
      · simp [earlier_eq, payload_eq, ← group_eq]
  | @opened draft few sound payload_eq =>
      refine ⟨waiting ++ [[bytes]], ?_, sent_eq, ?_, isSealed⟩
      · rw [collected_eq]
        simp
      · simp [waiting_eq, payload_eq]

/-- The oldest draft leaves the queue as a frame that opens to its group. -/
theorem dispatch
    {oldest : FrameDraft}
    {rest : List FrameDraft}
    {frame : Bytes}
    (carries : Carries key blockSize answers { queue with drafts := oldest :: rest } sent waiting)
    (opened : Frame.opened? key frame = some oldest.payload)
    (fits : frame.length ≤ blockSize) :
    ∃ group later,
      Carries key blockSize (answers ++ [.dispatched (.ok frame.length) frame])
        { queue with drafts := rest } (sent ++ [group]) later := by
  obtain ⟨group, later, rfl, group_eq, later_eq⟩ := List.map_eq_cons_iff.mp carries.waiting_eq.symm
  refine ⟨group, later, ?_, ?_, later_eq.symm, ?_⟩
  · rw [collected_append, carries.collected_eq]
    simp [collected]
  · rw [dispatched_append, List.map_append, carries.sent_eq]
    simp [dispatched, opened, group_eq]
  · intro outcome other member
    rcases List.mem_append.mp member with earlier | now
    · exact carries.isSealed outcome other earlier
    · cases List.mem_singleton.mp now
      exact ⟨rfl, fits⟩

end Carries

/-! ## One step -/

section Steps

variable (contract : BlockPool.Contract allowed blockSize most books)

/-- Collecting a packet takes no draft away and opens at most one, within the limit. -/
theorem IsSound.collect
    (sound : outbox.IsSound blockSize limit)
    {after : FrameQueue}
    {bytes : Bytes}
    {added : Nat}
    (something : bytes ≠ [])
    (taken : FrameQueue.Collected blockSize bytes outbox.queue after added)
    (pool : BlockPool) :
    IsSound blockSize limit { outbox with queue := after, pool := pool } ∧
      after.length = outbox.queue.length + added ∧ added ≤ 1 := by
  have length_le := sound.length_le
  have drafts := sound.drafts
  cases taken with
  | @joined older newest longer drafts_eq longerSound payload_eq =>
      rw [drafts_eq] at drafts
      have longerNonempty : longer.payload ≠ [] := by
        rw [payload_eq]
        exact List.append_ne_nil_of_right_ne_nil _ something
      refine ⟨⟨sound.limit_eq, ?_, ?_, sound.kept⟩, ?_, by decide⟩
      · simpa [FrameQueue.length, drafts_eq] using length_le
      · exact List.forall_mem_append.mpr
          ⟨(List.forall_mem_append.mp drafts).1,
            List.forall_mem_singleton.mpr ⟨longerSound, longerNonempty⟩⟩
      · simp [FrameQueue.length, drafts_eq]
  | @opened draft few draftSound payload_eq =>
      have draftNonempty : draft.payload ≠ [] := by
        rw [payload_eq]
        exact something
      refine ⟨⟨sound.limit_eq, ?_, ?_, sound.kept⟩, ?_, Nat.le_refl 1⟩
      · rw [sound.limit_eq, FrameQueue.length] at few
        rw [FrameQueue.length, List.length_append]
        exact few
      · exact List.forall_mem_append.mpr
          ⟨drafts, List.forall_mem_singleton.mpr ⟨draftSound, draftNonempty⟩⟩
      · simp [FrameQueue.length]

/-- The oldest draft can be sealed, and shows a frame that opens to its payload. -/
theorem IsSound.exists_dispatch
    (sound : outbox.IsSound blockSize limit)
    {oldest : FrameDraft}
    {rest : List FrameDraft}
    (drafts_eq : outbox.queue.drafts = oldest :: rest)
    (key : CipherKey)
    (small : blockSize ≤ Frame.maxLength) :
    ∃ frame draft,
      outbox.perform key .dispatch =
          .ok (.dispatched (.ok frame.length) frame,
            { outbox with
              queue := { outbox.queue with drafts := rest }
              kept := outbox.kept ++ [draft] }) ∧
        Frame.opened? key frame = some oldest.payload ∧
        frame.length ≤ blockSize ∧
        draft.block.length = blockSize := by
  obtain ⟨oldestSound, something⟩ := sound.drafts oldest (by simp [drafts_eq])
  have fits := oldestSound.lengthAround_le
  obtain ⟨draft, isSealed, shows⟩ := oldestSound.sealWith_eq key small something
  refine ⟨Frame.frameAround key oldest.payload, draft, ?_, ?_, ?_, shows.block_length⟩
  · rw [← Frame.length_frameAround key oldest.payload] at isSealed
    simp only [perform, FrameQueue.pop?, drafts_eq, isSealed, shows.frame_eq, bind, Except.bind]
    rfl
  · exact Frame.opened?_frameAround key (Nat.le_trans fits small)
  · rw [Frame.length_frameAround]
    exact fits

/-- Where an answer neither collects a packet nor takes a frame, nothing changes. -/
theorem Tells.snoc
    (tells : outbox.Tells key blockSize limit books answers)
    {answer : OutboxAnswer}
    (collectsNone : collected [answer] = [])
    (takesNone : dispatched [answer] = []) :
    outbox.Tells key blockSize limit books (answers ++ [answer]) := by
  obtain ⟨sent, waiting, carries⟩ := tells.carries
  exact ⟨tells.sound, tells.balanced, sent, waiting, carries.snoc collectsNone takesNone⟩

theorem Tells.dispatch
    (tells : outbox.Tells key blockSize limit books answers)
    {oldest draft : FrameDraft}
    {rest : List FrameDraft}
    {frame : Bytes}
    (drafts_eq : outbox.queue.drafts = oldest :: rest)
    (opened : Frame.opened? key frame = some oldest.payload)
    (fits : frame.length ≤ blockSize)
    (block_length : draft.block.length = blockSize) :
    Tells key blockSize limit books (answers ++ [.dispatched (.ok frame.length) frame])
      { outbox with
        queue := { outbox.queue with drafts := rest }
        kept := outbox.kept ++ [draft] } := by
  have sound := tells.sound
  obtain ⟨sent, waiting, carries⟩ := tells.carries
  have queue_eq : outbox.queue = { outbox.queue with drafts := oldest :: rest } := by
    rw [← drafts_eq]
  rw [queue_eq] at carries
  obtain ⟨group, later, carried⟩ := carries.dispatch opened fits
  have length_eq : outbox.queue.length = rest.length + 1 := by
    simp [FrameQueue.length, drafts_eq]
  have drafts := sound.drafts
  rw [drafts_eq] at drafts
  refine ⟨⟨sound.limit_eq, ?_, ?_, ?_⟩, ?_, _, _, carried⟩
  · have length_le := sound.length_le
    simp only [FrameQueue.length] at length_eq length_le ⊢
    omega
  · exact (List.forall_mem_cons.mp drafts).2
  · exact List.forall_mem_append.mpr ⟨sound.kept, List.forall_mem_singleton.mpr block_length⟩
  · have balanced := tells.balanced
    rw [held, length_eq, Nat.add_right_comm] at balanced
    rw [held, List.length_append]
    exact balanced

include contract

theorem Tells.reclaim
    (tells : outbox.Tells key blockSize limit books answers)
    {number : Nat}
    {draft : FrameDraft}
    (found : outbox.kept[number]? = some draft) :
    Tells key blockSize limit books (answers ++ [.reclaimed])
      { outbox with
        pool := outbox.pool.release draft.reclaimed
        kept := outbox.kept.eraseIdx number } := by
  have sound := tells.sound
  obtain ⟨below, rfl⟩ := List.getElem?_eq_some_iff.mp found
  have wiped := FrameDraft.bytes_reclaimed (sound.kept _ (List.getElem_mem below))
  have held_eq :
      outbox.held = outbox.queue.length + (outbox.kept.eraseIdx number).length + 1 := by
    rw [List.length_eraseIdx_of_lt below, held]
    omega
  have balanced := tells.balanced
  rw [held_eq] at balanced
  refine ⟨⟨sound.limit_eq, sound.length_le, sound.drafts, ?_⟩,
    contract.release balanced wiped, (tells.snoc rfl rfl).carries⟩
  intro other member
  exact sound.kept other (List.mem_of_mem_eraseIdx member)

theorem Tells.collect
    (tells : outbox.Tells key blockSize limit books answers)
    {wanted : Nat}
    {packet : Packet}
    (sized : (OutboxStep.collect wanted packet).IsSized blockSize)
    (few : outbox.held < most)
    (small : blockSize ≤ Frame.maxLength) :
    (outbox.perform key (.collect wanted packet)).Meets allowed fun (answer, after) =>
      Tells key blockSize limit books (answers ++ [answer]) after ∧
        after.held ≤ outbox.held + 1 := by
  have sound := tells.sound
  obtain ⟨bounded, bytes, encoded, something, within, fits⟩ := sized
  obtain ⟨sent, waiting, carries⟩ := tells.carries
  have isSize : wanted + FrameDraft.maxPadding < Size.limit := by
    simp only [Frame.maxLength, Size.limit] at small ⊢
    omega
  have made :=
    FrameQueue.ensureRoom_meets contract (fun draft member => (sound.drafts draft member).1)
      tells.balanced (fun _ => few) isSize encoded within fits
  refine Checked.Meets.bind made ?_
  rintro (_ | ⟨queue, pool⟩) granted
  · exact ⟨tells.snoc rfl rfl, Nat.le_succ _⟩
  · obtain ⟨added, taken, balanced⟩ := granted
    obtain ⟨later, carried⟩ := carries.collect encoded taken
    obtain ⟨soundAfter, length_eq, atMostOne⟩ := sound.collect something taken pool
    have held_eq : (queue.append packet).length + outbox.kept.length = outbox.held + added := by
      rw [length_eq, held]
      omega
    rw [← held_eq] at balanced
    refine ⟨⟨soundAfter, balanced, sent, later, carried⟩, ?_⟩
    rw [held, held_eq]
    omega

/-- Every step keeps an outbox sound, and takes at most one block more. -/
theorem Tells.perform
    (tells : outbox.Tells key blockSize limit books answers)
    {step : OutboxStep}
    (sized : step.IsSized blockSize)
    (few : outbox.held < most)
    (small : blockSize ≤ Frame.maxLength) :
    (outbox.perform key step).Meets allowed fun (answer, after) =>
      Tells key blockSize limit books (answers ++ [answer]) after ∧
        after.held ≤ outbox.held + 1 := by
  cases step with
  | collect wanted packet =>
      exact tells.collect contract sized few small
  | dispatch =>
      cases drafts_eq : outbox.queue.drafts with
      | nil =>
          simp only [Outbox.perform, FrameQueue.pop?, drafts_eq]
          exact ⟨tells.snoc rfl rfl, Nat.le_succ _⟩
      | cons oldest rest =>
          obtain ⟨frame, draft, performed, opened, fits, block_length⟩ :=
            tells.sound.exists_dispatch drafts_eq key small
          rw [performed]
          refine ⟨tells.dispatch drafts_eq opened fits block_length, ?_⟩
          simp only [held, FrameQueue.length, drafts_eq, List.length_append, List.length_cons,
            List.length_nil]
          omega
  | reclaim number =>
      cases found : outbox.kept[number]? with
      | none =>
          simp only [Outbox.perform, found]
          exact ⟨tells.snoc rfl rfl, Nat.le_succ _⟩
      | some draft =>
          have fewer := List.length_eraseIdx_le outbox.kept number
          simp only [Outbox.perform, found]
          refine ⟨tells.reclaim contract found, ?_⟩
          simp only [held]
          omega

/-- Every run keeps an outbox sound, as long as there may be a block more for every step. -/
theorem Tells.run
    (tells : outbox.Tells key blockSize limit books answers)
    {steps : List OutboxStep}
    (sized : ∀ step ∈ steps, step.IsSized blockSize)
    (few : outbox.held + steps.length ≤ most)
    (small : blockSize ≤ Frame.maxLength) :
    (outbox.run key steps).Meets allowed fun (later, after) =>
      Tells key blockSize limit books (answers ++ later) after := by
  induction steps generalizing outbox answers with
  | nil =>
      have same := tells
      rw [← List.append_nil answers] at same
      exact same
  | cons step rest inductionHypothesis =>
      rw [List.length_cons] at few
      have first := tells.perform contract (sized step (by simp)) (by omega) small
      refine Checked.Meets.bind first ?_
      rintro ⟨answer, next⟩ ⟨nextTells, nextHeld⟩
      have others : ∀ other ∈ rest, other.IsSized blockSize :=
        fun other member => sized other (List.mem_cons_of_mem step member)
      refine Checked.Meets.bind (inductionHypothesis nextTells others (by omega)) ?_
      rintro ⟨later, last⟩ lastTells
      have inOrder : Tells key blockSize limit books (answers ++ [answer] ++ later) last :=
        lastTells
      rw [List.append_assoc] at inOrder
      exact inOrder

end Steps

/-! ## Whole runs -/

/--
How room is made in an outbox: in the newest draft if the packet fits there,
else in a new one, unless the queue is full; then nothing changes.
-/
structure MakesRoom (blockSize wanted : Nat) (outbox : Outbox) : Prop where
  reuses :
    outbox.queue.Reuses blockSize wanted →
      outbox.queue.ensureRoom outbox.pool wanted = .ok (some (outbox.queue, outbox.pool))
  opens :
    ¬outbox.queue.Reuses blockSize wanted →
      ∀ queue pool,
        outbox.queue.ensureRoom outbox.pool wanted = .ok (some (queue, pool)) →
          ∃ block,
            outbox.pool.acquire = .ok (block, pool) ∧
              queue = { outbox.queue with drafts := outbox.queue.drafts ++ [.ofBlock block] }
  refuses_iff :
    ∀ key packet after,
      outbox.perform key (.collect wanted packet) = .ok (.refused, after) ↔
        after = outbox ∧
          outbox.queue.limit ≤ outbox.queue.length ∧
          ¬outbox.queue.Reuses blockSize wanted

theorem perform_collect_eq_refused
    {wanted : Nat}
    {packet : Packet}
    {after : Outbox} :
    outbox.perform key (.collect wanted packet) = .ok (.refused, after) ↔
      after = outbox ∧ outbox.queue.ensureRoom outbox.pool wanted = .ok none := by
  simp only [perform, Checked.bind_eq_ok]
  constructor
  · rintro ⟨made, answered, same⟩
    cases made with
    | none =>
        cases same
        exact ⟨rfl, answered⟩
    | some granted =>
        cases same
  · rintro ⟨rfl, answered⟩
    exact ⟨none, answered, rfl⟩

theorem IsSound.makesRoom
    (sound : outbox.IsSound blockSize limit)
    (small : blockSize ≤ Frame.maxLength)
    {wanted : Nat}
    (bounded : Frame.headerLength + wanted + FrameDraft.maxPadding ≤ blockSize) :
    outbox.MakesRoom blockSize wanted := by
  have isSize : wanted + FrameDraft.maxPadding < Size.limit := by
    simp only [Frame.maxLength, Size.limit] at small ⊢
    omega
  have drafts : ∀ draft ∈ outbox.queue.drafts, draft.IsSound blockSize :=
    fun draft member => (sound.drafts draft member).1
  refine ⟨fun reuses => FrameQueue.ensureRoom_of_reuses drafts isSize reuses _, ?_, ?_⟩
  · intro opens queue pool made
    exact FrameQueue.exists_acquire_of_ensureRoom drafts isSize opens made
  · intro key packet after
    rw [perform_collect_eq_refused, FrameQueue.ensureRoom_eq_none_iff drafts isSize]

/--
Packets that fit are collected in an outbox with blocks of any size that the
length field of a frame can express, any limit and any key, and frames are taken
and given back, in any order. On an arena that is placed, this stops only when
the arena is exhausted, and not at all if the arena has room for a block for
every step. Whenever it answers, the queue is within its limit; every frame that
was taken was sealed and fits its block; and the packets that were collected, in
order, are groups of which one was sent in each frame, followed by one for each
draft that still waits. The next packet goes into the newest draft if that has
room behind it for the packet and for the longest padding, and room for a packet
of unknown size is made in a new draft; it is refused exactly if the queue is
full then, and that changes nothing. The next frame to be taken is the oldest
draft, which is sealed and opens to its payload.
-/
theorem packets_sent_in_order
    {blockSize : Nat}
    (small : blockSize ≤ 65535)
    (arena : Arena)
    (limit : Nat)
    (key : CipherKey)
    {steps : List OutboxStep}
    (sized : ∀ step ∈ steps, step.IsSized blockSize) :
    (arena.IsPlaced →
      ∀ fault, (ofArena arena blockSize limit).run key steps = .error fault → fault = .exhausted) ∧
      (arena.IsPlaced →
        Arena.cursorAfter blockSize steps.length arena.used ≤ arena.reserved →
          ∃ answers outbox,
            (ofArena arena blockSize limit).run key steps = .ok (answers, outbox)) ∧
      ∀ answers outbox,
        (ofArena arena blockSize limit).run key steps = .ok (answers, outbox) →
          outbox.queue.length ≤ limit ∧
            (∃ sent waiting, Carries key blockSize answers outbox.queue sent waiting) ∧
            (∀ wanted,
              Frame.headerLength + wanted + FrameDraft.maxPadding ≤ blockSize →
                outbox.MakesRoom blockSize wanted) ∧
            ∀ oldest rest,
              outbox.queue.drafts = oldest :: rest →
                ∃ frame after,
                  outbox.perform key .dispatch =
                      .ok (.dispatched (.ok frame.length) frame, after) ∧
                    Frame.opened? key frame = some oldest.payload ∧
                    after.queue = { outbox.queue with drafts := rest } := by
  have expressible : blockSize ≤ Frame.maxLength :=
    Nat.le_trans small (by decide)
  have few : (ofArena arena blockSize limit).held + steps.length ≤ steps.length :=
    Nat.le_of_eq (Nat.zero_add _)
  have sound : (ofArena arena blockSize limit).IsSound blockSize limit :=
    ⟨rfl, Nat.zero_le _, by simp [ofArena], by simp [ofArena]⟩
  have carries : Carries key blockSize [] (ofArena arena blockSize limit).queue [] [] :=
    ⟨rfl, rfl, rfl, by simp⟩
  have balanced := BlockPool.Balanced.ofArena arena blockSize
  refine ⟨?_, ?_, ?_⟩
  · intro placed fault stopped
    have tells :
        Tells key blockSize limit (BlockPool.BalancedAndPlaced blockSize) []
          (ofArena arena blockSize limit) :=
      ⟨sound, ⟨balanced, placed⟩, [], [], carries⟩
    exact (tells.run (BlockPool.placed_contract _ _) sized few expressible).of_eq_error stopped
  · intro placed fits
    have tells :
        Tells key blockSize limit
          (BlockPool.BalancedAndReserved blockSize steps.length arena) []
          (ofArena arena blockSize limit) :=
      ⟨sound, ⟨balanced, placed, fits, .refl arena, Nat.zero_le _⟩, [], [], carries⟩
    obtain ⟨⟨answers, outbox⟩, ran, _⟩ :=
      (tells.run (BlockPool.reserved_contract _ _ _) sized few expressible).exists_eq_ok
    exact ⟨answers, outbox, ran⟩
  · intro answers outbox ran
    have tells :
        Tells key blockSize limit (BlockPool.Balanced blockSize) []
          (ofArena arena blockSize limit) :=
      ⟨sound, balanced, [], [], carries⟩
    have after : Tells key blockSize limit (BlockPool.Balanced blockSize) ([] ++ answers) outbox :=
      (tells.run (BlockPool.balanced_contract _ _) sized few expressible).of_eq_ok ran
    refine ⟨after.sound.length_le, after.carries,
      fun wanted bounded => after.sound.makesRoom expressible bounded, ?_⟩
    intro oldest rest drafts_eq
    obtain ⟨frame, draft, performed, opened, _⟩ :=
      after.sound.exists_dispatch drafts_eq key expressible
    exact ⟨frame, _, performed, opened, rfl⟩

/-- Two packets that fit one frame, one that does not, the frame, and one that opens the next. -/
def sampleSteps : List OutboxStep :=
  [.collect 4 [.uint32 1], .collect 4 [.uint32 2], .collect 5 [.bytes [1, 2, 3, 4, 5]],
    .dispatch, .reclaim 0, .collect 0 [.uint8 9]]

/-- In a queue of one draft, the packet that does not fit the frame is left out. -/
theorem sample_packets_sent_in_order :
    ∃ answers outbox sent waiting,
      (ofArena Configuration.defaultArena 27 1).run .zero sampleSteps = .ok (answers, outbox) ∧
        collected answers = [[1, 0, 0, 0], [2, 0, 0, 0], [9]] ∧
        outbox.queue.length ≤ 1 ∧
        Carries .zero 27 answers outbox.queue sent waiting ∧
        outbox.MakesRoom 27 12 := by
  have sized : ∀ step ∈ sampleSteps, step.IsSized 27 := by
    simp only [sampleSteps, List.forall_mem_cons, List.not_mem_nil]
    refine ⟨⟨by decide, _, rfl, by decide, by decide, by decide⟩,
      ⟨by decide, _, rfl, by decide, by decide, by decide⟩,
      ⟨by decide, _, rfl, by decide, by decide, by decide⟩, trivial, trivial,
      ⟨by decide, _, rfl, by decide, by decide, by decide⟩, by simp⟩
  have computed :
      ((ofArena Configuration.defaultArena 27 1).run .zero sampleSteps).map
          (fun answered => collected answered.1) =
        .ok [[1, 0, 0, 0], [2, 0, 0, 0], [9]] := by
    decide +kernel
  obtain ⟨_, answering, answered⟩ :=
    packets_sent_in_order (by decide) Configuration.defaultArena 1 .zero sized
  obtain ⟨answers, outbox, ran⟩ := answering Configuration.isPlaced_defaultArena (by decide)
  obtain ⟨length_le, ⟨sent, waiting, carries⟩, makesRoom, _⟩ := answered answers outbox ran
  rw [ran] at computed
  exact ⟨answers, outbox, sent, waiting, ran, Except.ok.inj computed, length_le, carries,
    makesRoom 12 (by decide)⟩

end Outbox

end Gatehouse
