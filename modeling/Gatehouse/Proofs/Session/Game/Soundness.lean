import Gatehouse.Proofs.Configuration.Accepted
import Gatehouse.Proofs.Outgoing.FrameQueue
import Gatehouse.Proofs.Session.Game.Reaction

namespace Gatehouse

/-!
# Sound game sessions

Every draft that waits in a sound session can be sealed, and the session holds
one block for each of its drafts and one for the message that is staged. Each
operation of a session keeps it sound and accounts for the blocks: those that
are acquired, those that stay, and those that go back to the pool.
-/

namespace FrameQueue.Collected

variable {size added : Nat} {bytes : Bytes} {before after : FrameQueue}
  (collected : Collected size bytes before after added)

include collected

theorem limit_eq : after.limit = before.limit := by
  cases collected <;> rfl

theorem length_eq : after.length = before.length + added := by
  cases collected with
  | joined drafts_eq =>
      simp [length, drafts_eq]
  | opened =>
      simp [length]

theorem length_le
    (within : before.length ≤ before.limit) :
    after.length ≤ before.limit := by
  rw [collected.length_eq]
  cases collected with
  | joined =>
      exact within
  | opened few =>
      exact few

/-- Collecting keeps drafts sound and puts something into each. -/
theorem drafts_of
    (sound : ∀ draft ∈ before.drafts, draft.IsSound size ∧ draft.payload ≠ [])
    (nonempty : bytes ≠ []) :
    ∀ draft ∈ after.drafts, draft.IsSound size ∧ draft.payload ≠ [] := by
  cases collected with
  | joined drafts_eq longerSound payload_eq =>
      intro draft member
      rcases List.mem_append.mp member with isOlder | isLonger
      · exact sound draft (by simp [drafts_eq, isOlder])
      · rw [List.mem_singleton.mp isLonger, payload_eq]
        exact ⟨longerSound, by simp [nonempty]⟩
  | opened few newSound payload_eq =>
      intro draft member
      rcases List.mem_append.mp member with isOlder | isNew
      · exact sound draft isOlder
      · rw [List.mem_singleton.mp isNew, payload_eq]
        exact ⟨newSound, nonempty⟩

end FrameQueue.Collected

namespace GameSession

/-- Blocks that a session holds. -/
def held (session : GameSession) : Nat :=
  session.queue.length + session.staged?.toList.length

/-- A session whose drafts can all be sealed. -/
structure IsSound (game : GameSection) (session : GameSession) : Prop where
  limit_eq : session.queue.limit = game.maxQueuedMessages
  length_le : session.queue.length ≤ game.maxQueuedMessages
  drafts_sound :
    ∀ draft ∈ session.queue.drafts, draft.IsSound game.outputBufferSize ∧ draft.payload ≠ []
  staged_block :
    ∀ message, session.staged? = some message → message.block.length = game.outputBufferSize
  character_short : session.character.bytes.length ≤ Credential.maxLength
  greeting_empty : session.phase.isGreeting = true → session.queue.drafts = []

/-- A session once a reply was sent, and how many new drafts that took. -/
inductive Sent (size : Nat) (bytes : Bytes) (session : GameSession) : GameSession → Nat → Prop
  | refused (full : session.queue.limit ≤ session.queue.length) :
      Sent size bytes session session.hangUp 0
  | queued
      {queue : FrameQueue}
      {added : Nat}
      (collected : FrameQueue.Collected size bytes session.queue queue added) :
      Sent size bytes session { session with queue := queue } added

/-- A session of which nothing of a connection is left. -/
def cleared (session : GameSession) : GameSession where
  phase := .challenging
  peer? := none
  key := .zero
  account := session.account.clear
  character := session.character.clear
  password := session.password.clear
  queue := { session.queue with drafts := [] }
  staged? := none
  challengeStaged := false

/-- What a session holds are its drafts and at most one message more. -/
theorem held_le
    {game : GameSection}
    {session : GameSession}
    (sound : session.IsSound game) :
    session.held ≤ game.maxQueuedMessages + 1 := by
  have length_le := sound.length_le
  unfold held
  cases session.staged? <;> simp <;> omega

/-- A new session is sound. -/
theorem isSound_ofLimit
    {game : GameSection}
    {session : GameSession}
    (made : ofLimit game.maxQueuedMessages = .ok session) :
    session.IsSound game ∧ session.held = 0 := by
  simp only [ofLimit, FrameQueue.ofLimit, Checked.bind_eq_ok, pure, Except.pure,
    Except.ok.injEq] at made
  rcases made with ⟨queue, ⟨_, _, rfl⟩, rfl⟩
  exact ⟨⟨rfl, Nat.zero_le _, by simp, by simp, Nat.zero_le _, fun _ => rfl⟩, rfl⟩

/-- A session whose staged message goes back has none staged. -/
theorem fst_releaseStaged (session : GameSession) (pool : BlockPool) :
    (session.releaseStaged pool).1 = { session with staged? := none } := by
  unfold releaseStaged
  split
  next none =>
    rw [← none]
  next message staged =>
    rfl

theorem fst_clear (session : GameSession) (pool : BlockPool) :
    (session.clear pool).1 = session.cleared := by
  simp only [clear, fst_releaseStaged, FrameQueue.giveBack, cleared]

/-- Staging changes the phase only of a session whose last message is the reason for its end. -/
theorem phaseAfterStaging_eq (phase : GamePhase) (queue : FrameQueue) :
    phaseAfterStaging phase queue = phase ∨
      phase = .dismissing ∧ phaseAfterStaging phase queue = .dismissed := by
  unfold phaseAfterStaging
  split
  next last =>
    exact .inr ⟨last.1, rfl⟩
  next more =>
    exact .inl rfl

/-- Staging is sealing the oldest draft, once the message staged before went back. -/
theorem stageNext_eq (session : GameSession) (pool : BlockPool) :
    session.stageNext pool =
      match session.queue.drafts with
      | [] => .ok (0, { session with staged? := none }, (session.releaseStaged pool).2)
      | oldest :: later => do
          let (outcome, message) ← oldest.sealWith session.key
          let queue := { session.queue with drafts := later }
          match outcome with
          | .error _ =>
              return (0,
                { session with queue := queue, staged? := none, phase := .ended },
                (session.releaseStaged pool).2.release message.reclaimed)
          | .ok length =>
              return (length,
                { session with
                  queue := queue
                  staged? := some message
                  phase := phaseAfterStaging session.phase queue },
                (session.releaseStaged pool).2) := by
  simp only [stageNext, fst_releaseStaged, FrameQueue.pop?]
  cases session.queue.drafts with
  | nil =>
      rfl
  | cons oldest later =>
      simp only
      congr 1
      funext answer
      rcases answer with ⟨outcome, message⟩
      cases outcome <;> rfl

/-- The block of the message that was staged goes back. -/
theorem releaseStaged_books
    {allowed : Fault → Prop}
    {size most rest : Nat}
    {books : Nat → BlockPool → Prop}
    (contract : BlockPool.Contract allowed size most books)
    {session : GameSession}
    (staged_block : ∀ message, session.staged? = some message → message.block.length = size)
    {pool : BlockPool}
    (balanced : books (rest + session.held) pool) :
    books (rest + session.queue.length) (session.releaseStaged pool).2 := by
  cases staged : session.staged? with
  | none =>
      rw [held, staged] at balanced
      simp only [releaseStaged, staged]
      exact balanced
  | some message =>
      rw [held, staged] at balanced
      simp only [releaseStaged, staged]
      exact contract.release balanced (FrameDraft.bytes_reclaimed (staged_block message staged))

/-- All blocks of a session that is cleared go back. -/
theorem clear_books
    {allowed : Fault → Prop}
    {size most rest : Nat}
    {books : Nat → BlockPool → Prop}
    (contract : BlockPool.Contract allowed size most books)
    {session : GameSession}
    (drafts_block : ∀ draft ∈ session.queue.drafts, draft.block.length = size)
    (staged_block : ∀ message, session.staged? = some message → message.block.length = size)
    {pool : BlockPool}
    (balanced : books (rest + session.held) pool) :
    books rest (session.clear pool).2 := by
  simp only [clear, fst_releaseStaged, FrameQueue.giveBack]
  exact FrameQueue.giveBack_books contract drafts_block
    (releaseStaged_books contract staged_block balanced)

namespace IsSound

variable {game : GameSection} {session : GameSession} (sound : session.IsSound game)

include sound

theorem withPeer (peer? : Option SocketAddress) : { session with peer? := peer? }.IsSound game :=
  ⟨sound.limit_eq, sound.length_le, sound.drafts_sound, sound.staged_block,
    sound.character_short, sound.greeting_empty⟩

theorem hangUp : session.hangUp.IsSound game :=
  ⟨sound.limit_eq, sound.length_le, sound.drafts_sound, sound.staged_block,
    sound.character_short, fun greeting => Bool.noConfusion greeting⟩

/-- A cleared session has nothing to send. -/
theorem cleared : session.cleared.IsSound game :=
  ⟨sound.limit_eq, Nat.zero_le _, by simp [GameSession.cleared], by simp [GameSession.cleared],
    by simp [GameSession.cleared, FixedText.clear, FixedText.bytes], fun _ => rfl⟩

/-- A proper reaction keeps a session sound and its blocks as they are. -/
theorem of_reactsProperly
    {after : GameSession}
    {reply? : Option GameReply}
    (proper : session.ReactsProperly after reply?) :
    after.IsSound game ∧ after.held = session.held := by
  constructor
  · refine ⟨?_, ?_, ?_, ?_, proper.character_short, ?_⟩
    · rw [proper.queue_eq]
      exact sound.limit_eq
    · rw [proper.queue_eq]
      exact sound.length_le
    · rw [proper.queue_eq]
      exact sound.drafts_sound
    · rw [proper.staged_eq]
      exact sound.staged_block
    · intro greeting
      rw [proper.greeted] at greeting
      cases greeting
  · rw [held, held, proper.queue_eq, proper.staged_eq]

/-- A reply that was sent keeps a session sound and takes the new drafts' blocks. -/
theorem of_sent
    {bytes : Bytes}
    {after : GameSession}
    {added : Nat}
    (sent : Sent game.outputBufferSize bytes session after added)
    (nonempty : bytes ≠ [])
    (greeted : session.phase.isGreeting = false) :
    after.IsSound game ∧ after.held = session.held + added := by
  cases sent with
  | refused full =>
      exact ⟨sound.hangUp, rfl⟩
  | @queued queue _ collected =>
      constructor
      · refine ⟨?_, ?_, ?_, sound.staged_block, sound.character_short, ?_⟩
        · exact collected.limit_eq.trans sound.limit_eq
        · have within := sound.length_le
          rw [← sound.limit_eq] at within ⊢
          exact collected.length_le within
        · exact collected.drafts_of sound.drafts_sound nonempty
        · intro greeting
          rw [greeted] at greeting
          cases greeting
      · have length_eq := collected.length_eq
        simp only [held, length_eq]
        omega

/-- Sending a modest reply queues it, or ends the session when the queue is full. -/
theorem send_meets
    {allowed : Fault → Prop}
    {most rest : Nat}
    {books : Nat → BlockPool → Prop}
    (contract : BlockPool.Contract allowed game.outputBufferSize most books)
    (large : Protocol.minOutboundCapacity ≤ game.outputBufferSize)
    {pool : BlockPool}
    {reply : GameReply}
    {bytes : Bytes}
    (balanced : books (rest + session.held) pool)
    (spare : rest + (game.maxQueuedMessages + 1) ≤ most)
    (modest : reply.IsModest)
    (encoded : reply.packet.encoding? = some bytes) :
    (session.send pool reply).Meets allowed fun answer =>
      ∃ added,
        Sent game.outputBufferSize bytes session answer.1 added ∧
          books (rest + session.held + added) answer.2 := by
  obtain ⟨same, sameEncoded, nonempty, within, fits⟩ := GameReply.encoding?_of_isModest modest
  have unique : same = bytes := Option.some.inj (sameEncoded.symm.trans encoded)
  subst unique
  have little := reply.reservation_le
  have isSize : reply.reservation + FrameDraft.maxPadding < Size.limit :=
    Nat.lt_of_le_of_lt (Nat.add_le_add_right little _) (by decide)
  have framed :
      Frame.headerLength + same.length + FrameDraft.maxPadding ≤ game.outputBufferSize := by
    simp only [Frame.headerLength, FrameDraft.maxPadding]
    omega
  have room : session.queue.length < session.queue.limit → rest + session.held < most := by
    intro few
    rw [sound.limit_eq] at few
    have oneStaged : session.staged?.toList.length ≤ 1 := by
      cases session.staged? <;> simp
    unfold held
    omega
  refine Checked.Meets.bind
    (FrameQueue.ensureRoom_meets contract (fun draft member => (sound.drafts_sound draft member).1)
      balanced room isSize encoded within framed) ?_
  intro answer made
  cases answer with
  | none =>
      exact ⟨0, .refused made, balanced⟩
  | some granted =>
      rcases made with ⟨added, collected, kept⟩
      exact ⟨added, .queued collected, kept⟩

theorem releaseStaged_eq
    {allowed : Fault → Prop}
    {most rest : Nat}
    {books : Nat → BlockPool → Prop}
    (contract : BlockPool.Contract allowed game.outputBufferSize most books)
    {pool : BlockPool}
    (balanced : books (rest + session.held) pool) :
    ∃ after,
      session.releaseStaged pool = ({ session with staged? := none }, after) ∧
        books (rest + session.queue.length) after :=
  ⟨_, Prod.ext (fst_releaseStaged session pool) rfl,
    releaseStaged_books contract sound.staged_block balanced⟩

/-- All blocks of a session that is cleared go back to the pool. -/
theorem clear_eq
    {allowed : Fault → Prop}
    {most rest : Nat}
    {books : Nat → BlockPool → Prop}
    (contract : BlockPool.Contract allowed game.outputBufferSize most books)
    {pool : BlockPool}
    (balanced : books (rest + session.held) pool) :
    ∃ after, session.clear pool = (session.cleared, after) ∧ books rest after :=
  ⟨_, Prod.ext (fst_clear session pool) rfl,
    clear_books contract (fun draft member => (sound.drafts_sound draft member).1.block_length)
      sound.staged_block balanced⟩

end IsSound

end GameSession

end Gatehouse
