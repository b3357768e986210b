import Gatehouse.Proofs.Session.Game.Wholeness

namespace Gatehouse

/-!
# Where the blocks of a session lie

Nothing that a session does or shows depends on the addresses of its blocks. So
two sessions that agree apart from those respond alike to every call, as long
as both are granted the blocks that they ask for; only a session that is denied
one can fall behind.
-/

/-- The block without its address. -/
def Block.unplaced (block : Block) : Block :=
  { block with address := 0 }

namespace FrameDraft

/-- The draft without the address of its block. -/
def unplaced (draft : FrameDraft) : FrameDraft :=
  { draft with block := draft.block.unplaced }

theorem append_unplaced (draft : FrameDraft) (packet : Packet) :
    draft.unplaced.append packet = (draft.append packet).unplaced :=
  rfl

theorem sealWith_unplaced (draft : FrameDraft) (key : CipherKey) :
    draft.unplaced.sealWith key = do
      let (outcome, after) ← draft.sealWith key
      return (outcome, after.unplaced) := by
  unfold sealWith
  have spoiled_eq : draft.unplaced.spoiled = draft.spoiled := rfl
  have counted : draft.unplaced.payloadLength = draft.payloadLength := rfl
  have bytes_eq : draft.unplaced.block.bytes = draft.block.bytes := rfl
  rw [spoiled_eq, counted, bytes_eq]
  split
  next spoiled =>
    rfl
  next whole =>
    simp only [bind_assoc]
    congr 1
    funext payloadLength
    congr 1
    funext attempt
    cases attempt.outcome <;> rfl

/-- Drafts that agree apart from their addresses are sealed alike. -/
theorem sealWith_alike
    {draft other after : FrameDraft}
    {key : CipherKey}
    {outcome : Except FrameError Nat}
    (alike : other.unplaced = draft.unplaced)
    (done : draft.sealWith key = .ok (outcome, after)) :
    ∃ otherAfter,
      other.sealWith key = .ok (outcome, otherAfter) ∧ otherAfter.unplaced = after.unplaced := by
  have both := other.sealWith_unplaced key
  rw [alike, draft.sealWith_unplaced key, done] at both
  obtain ⟨⟨otherOutcome, otherAfter⟩, otherDone, same⟩ := Checked.bind_eq_ok.mp both.symm
  simp only [pure, Except.pure, Except.ok.injEq, Prod.mk.injEq] at same
  rcases same with ⟨rfl, same⟩
  exact ⟨otherAfter, otherDone, same⟩

end FrameDraft

namespace FrameQueue

/-- The queue without the addresses of its blocks. -/
def unplaced (queue : FrameQueue) : FrameQueue :=
  { queue with drafts := queue.drafts.map FrameDraft.unplaced }

theorem newestTakes_unplaced (queue : FrameQueue) (size : Nat) :
    queue.unplaced.newestTakes size = queue.newestTakes size := by
  unfold newestTakes unplaced
  rw [List.getLast?_map]
  cases queue.drafts.getLast? with
  | none =>
      rfl
  | some newest =>
      rfl

theorem append_unplaced (queue : FrameQueue) (packet : Packet) :
    queue.unplaced.append packet = (queue.append packet).unplaced := by
  rcases List.eq_nil_or_concat queue.drafts with empty | ⟨older, newest, drafts_eq⟩
  · simp only [append, unplaced, empty, List.map_nil, changeLast]
  · rw [List.concat_eq_append] at drafts_eq
    have unplaced_eq :
        queue.unplaced.drafts = older.map FrameDraft.unplaced ++ [newest.unplaced] := by
      simp [unplaced, drafts_eq]
    rw [append_of_drafts drafts_eq, append_of_drafts unplaced_eq, FrameDraft.append_unplaced]
    simp [unplaced]

section Alike

variable {queue other : FrameQueue} (alike : other.unplaced = queue.unplaced)

include alike

theorem length_alike : other.length = queue.length := by
  have drafts_eq := congrArg length alike
  simpa only [unplaced, length, List.length_map] using drafts_eq

theorem limit_alike : other.limit = queue.limit := by
  have limit_eq := congrArg limit alike
  exact limit_eq

theorem newestTakes_alike (size : Nat) : other.newestTakes size = queue.newestTakes size := by
  rw [← newestTakes_unplaced, alike, newestTakes_unplaced]

theorem append_alike (packet : Packet) :
    (other.append packet).unplaced = (queue.append packet).unplaced := by
  rw [← append_unplaced, alike, append_unplaced]

/-- Queues that agree apart from addresses do so with one more blank block each. -/
theorem ofBlock_alike {block otherBlock : Block} (same : otherBlock.bytes = block.bytes) :
    unplaced { other with drafts := other.drafts ++ [.ofBlock otherBlock] } =
      unplaced { queue with drafts := queue.drafts ++ [.ofBlock block] } := by
  have drafts_eq := congrArg drafts alike
  simp only [unplaced] at drafts_eq
  simp only [unplaced, List.map_append, drafts_eq, limit_alike alike, List.map_singleton,
    FrameDraft.unplaced, FrameDraft.ofBlock, Block.unplaced, same]

/-- Room is made alike, unless only the other queue is denied a new block. -/
theorem ensureRoom_alike
    {pool otherPool : BlockPool}
    {size : Nat}
    {answer : Option (FrameQueue × BlockPool)}
    (zero : ∀ block left, pool.acquire = .ok (block, left) →
      ∀ otherBlock otherLeft, otherPool.acquire = .ok (otherBlock, otherLeft) →
        otherBlock.bytes = block.bytes)
    (made : queue.ensureRoom pool size = .ok answer) :
    (other.ensureRoom otherPool size).Meets
      (fun fault =>
        otherPool.acquire = .error fault ∧
          ∃ after left, answer = some (after, left) ∧ after.length = queue.length + 1)
      fun otherAnswer =>
        otherAnswer.map (·.1.unplaced) = answer.map (·.1.unplaced) := by
  simp only [ensureRoom] at made ⊢
  rw [newestTakes_alike alike]
  have full_iff : other.limit ≤ other.length ↔ queue.limit ≤ queue.length := by
    rw [limit_alike alike, length_alike alike]
  obtain ⟨takes, answered, made⟩ := Checked.bind_eq_ok.mp made
  simp only [answered, bind, Except.bind]
  cases takes with
  | true =>
      cases made
      exact congrArg some alike
  | false =>
      simp only [Bool.false_eq_true, if_false] at made ⊢
      split at made
      next full =>
        cases made
        rw [if_pos (full_iff.mpr full)]
        rfl
      next room =>
        obtain ⟨⟨block, left⟩, acquired, granted⟩ := Checked.bind_eq_ok.mp made
        cases granted
        rw [if_neg (mt full_iff.mp room)]
        cases otherAcquired : otherPool.acquire with
        | error fault =>
            exact ⟨rfl, _, _, rfl, List.length_append⟩
        | ok otherGranted =>
            have same := zero block left acquired otherGranted.1 otherGranted.2 otherAcquired
            exact congrArg some (ofBlock_alike alike same)

end Alike

end FrameQueue

namespace GameSession

/-- The session without the addresses of its blocks. -/
def unplaced (session : GameSession) : GameSession :=
  session.withOutgoing session.queue.unplaced (session.staged?.map FrameDraft.unplaced)

/-- A session that agrees with another one apart from the addresses of its blocks. -/
inductive Alike (session : GameSession) : GameSession → Prop
  | intro
      {queue : FrameQueue}
      {staged? : Option FrameDraft}
      (queue_eq : queue.unplaced = session.queue.unplaced)
      (staged_eq : staged?.map FrameDraft.unplaced = session.staged?.map FrameDraft.unplaced) :
      Alike session (session.withOutgoing queue staged?)

namespace Alike

variable {session other : GameSession}

theorem refl (session : GameSession) : session.Alike session :=
  .intro rfl rfl

theorem unplaced_eq (alike : session.Alike other) : other.unplaced = session.unplaced := by
  cases alike with
  | intro queue_eq staged_eq =>
      simp only [unplaced, withOutgoing, queue_eq, staged_eq]

theorem length_eq (alike : session.Alike other) : other.queue.length = session.queue.length := by
  cases alike with
  | intro queue_eq staged_eq =>
      exact FrameQueue.length_alike queue_eq

theorem held_eq (alike : session.Alike other) : other.held = session.held := by
  have staged_eq := congrArg (fun session => session.staged?.toList.length) alike.unplaced_eq
  have same : other.staged?.toList.length = session.staged?.toList.length := by
    revert staged_eq
    simp only [unplaced, withOutgoing]
    cases other.staged? <;> cases session.staged? <;> simp
  rw [held, held, alike.length_eq, same]

theorem status_eq (alike : session.Alike other) : other.status = session.status := by
  cases alike with
  | intro queue_eq staged_eq =>
      rfl

/-- Sessions that agree apart from addresses show the same. -/
theorem staged_eq (alike : session.Alike other) : other.staged = session.staged := by
  have shown (session : GameSession) : session.unplaced.staged = session.staged := by
    unfold staged unplaced withOutgoing
    cases session.staged? <;> rfl
  rw [← shown other, alike.unplaced_eq, shown session]

/-- A packet is sent alike, unless only the other session is denied a block for it. -/
theorem send
    {pool left otherPool : BlockPool}
    {reply : GameReply}
    {after : GameSession}
    (alike : session.Alike other)
    (zero : ∀ block left, pool.acquire = .ok (block, left) →
      ∀ otherBlock otherLeft, otherPool.acquire = .ok (otherBlock, otherLeft) →
        otherBlock.bytes = block.bytes)
    (sent : session.send pool reply = .ok (after, left)) :
    (other.send otherPool reply).Meets
      (fun fault => otherPool.acquire = .error fault ∧ after.held = session.held + 1)
      fun answer => after.Alike answer.1 := by
  obtain ⟨made, ensured, sent⟩ := Checked.bind_eq_ok.mp sent
  cases alike with
  | @intro queue staged? queue_eq staged_eq =>
      have both := FrameQueue.ensureRoom_alike queue_eq zero ensured
      simp only [GameSession.send, withOutgoing]
      cases otherEnsured : queue.ensureRoom otherPool reply.reservation with
      | error fault =>
          obtain ⟨denied, opened, rest, rfl, length_eq⟩ := both.of_eq_error otherEnsured
          cases sent
          refine ⟨denied, ?_⟩
          simp only [held, FrameQueue.length_append, length_eq]
          omega
      | ok otherMade =>
          have same := both.of_eq_ok otherEnsured
          cases made with
          | none =>
              obtain rfl := Option.map_eq_none_iff.mp same
              cases sent
              exact .intro queue_eq staged_eq
          | some granted =>
              obtain ⟨otherGranted, rfl, opened_eq⟩ := Option.map_eq_some_iff.mp same
              cases sent
              exact .intro (FrameQueue.append_alike opened_eq _) staged_eq

/-- Sessions that agree apart from addresses react alike to a message. -/
theorem reactTo
    {config : Configuration}
    {service : KeyPair}
    {message : Bytes}
    {reaction : GameReaction}
    (alike : session.Alike other)
    (reacted : session.reactTo config service message = .ok reaction) :
    ∃ after,
      other.reactTo config service message = .ok { reaction with session := after } ∧
        reaction.session.Alike after := by
  obtain ⟨reactedQueue, reactedStaged⟩ := reactTo_keeps reacted
  cases alike with
  | @intro queue staged? queue_eq staged_eq =>
      refine ⟨reaction.session.withOutgoing queue staged?, ?_, .intro ?_ ?_⟩
      · rw [reactTo_withOutgoing, reacted]
        rfl
      · rw [reactedQueue, queue_eq]
      · rw [reactedStaged, staged_eq]

/-- Sessions that agree apart from addresses hand over the same output. -/
theorem stageNext
    {pool left : BlockPool}
    {length : Nat}
    {after : GameSession}
    (alike : session.Alike other)
    (staged : session.stageNext pool = .ok (length, after, left))
    (otherPool : BlockPool) :
    ∃ otherAfter otherLeft,
      other.stageNext otherPool = .ok (length, otherAfter, otherLeft) ∧ after.Alike otherAfter := by
  rw [stageNext_eq] at staged ⊢
  cases alike with
  | @intro queue staged? queue_eq staged_eq =>
      simp only [FrameQueue.unplaced, FrameQueue.mk.injEq] at queue_eq
      obtain ⟨drafts_eq, limit_eq⟩ := queue_eq
      cases drafts : session.queue.drafts with
      | nil =>
          rw [drafts, List.map_nil, List.map_eq_nil_iff] at drafts_eq
          simp only [drafts] at staged
          cases staged
          simp only [withOutgoing, drafts_eq]
          refine ⟨_, _, rfl, .intro ?_ rfl⟩
          simp only [FrameQueue.unplaced, drafts_eq, drafts, limit_eq]
      | cons oldest later =>
          rw [drafts, List.map_cons] at drafts_eq
          obtain ⟨otherOldest, otherLater, otherDrafts, oldest_eq, later_eq⟩ :=
            List.map_eq_cons_iff.mp drafts_eq
          simp only [drafts] at staged
          obtain ⟨⟨outcome, message⟩, done, answered⟩ := Checked.bind_eq_ok.mp staged
          obtain ⟨otherMessage, otherDone, message_eq⟩ :=
            FrameDraft.sealWith_alike oldest_eq done
          simp only [withOutgoing, otherDrafts, otherDone, bind, Except.bind]
          have later_unplaced :
              FrameQueue.unplaced { queue with drafts := otherLater } =
                FrameQueue.unplaced { session.queue with drafts := later } := by
            simp only [FrameQueue.unplaced, later_eq, limit_eq]
          cases outcome with
          | error error =>
              cases answered
              exact ⟨_, _, rfl, .intro later_unplaced rfl⟩
          | ok length =>
              cases answered
              have isEmpty_eq : otherLater.isEmpty = later.isEmpty := by
                have length_eq := congrArg List.length later_eq
                cases otherLater <;> cases later <;> simp at length_eq ⊢
              refine ⟨_, _, rfl, ?_⟩
              simp only [phaseAfterStaging, FrameQueue.isEmpty, isEmpty_eq]
              exact .intro later_unplaced (by simp [message_eq])

theorem produce
    {pool left : BlockPool}
    {length : Nat}
    {after : GameSession}
    (alike : session.Alike other)
    (produced : session.produce pool = .ok (length, after, left))
    (otherPool : BlockPool) :
    ∃ otherAfter otherLeft,
      other.produce otherPool = .ok (length, otherAfter, otherLeft) ∧ after.Alike otherAfter := by
  cases alike with
  | @intro queue staged? queue_eq staged_eq =>
      have plain (phase : GamePhase) :
          Alike { session with phase := phase, challengeStaged := false }
            (withOutgoing { session with phase := phase, challengeStaged := false } queue staged?) :=
        .intro queue_eq staged_eq
      unfold GameSession.produce at produced ⊢
      have phase_eq : (session.withOutgoing queue staged?).phase = session.phase := rfl
      simp only [phase_eq] at produced ⊢
      cases phase : session.phase with
      | challenging | challenged | awaitingHello | dismissed | ended =>
          simp only [phase] at produced ⊢
          cases produced
          exact ⟨_, _, rfl, .intro queue_eq staged_eq⟩
      | inWorld | dismissing =>
          simp only [phase] at produced ⊢
          exact (plain _).stageNext produced otherPool

end Alike

/--
Sessions that agree apart from addresses respond alike, unless only the other
one is denied a block that it asks for.
-/
theorem respond_alike
    {size limit : Nat}
    {config : Configuration}
    {service : KeyPair}
    {session other after : GameSession}
    {pool left otherPool : BlockPool}
    {call : ProtocolCall}
    {answer : ProtocolAnswer}
    (alike : session.Alike other)
    (whole : session.IsWhole size limit)
    (otherWhole : other.IsWhole size limit)
    (zero : ∀ block left, pool.acquire = .ok (block, left) →
      ∀ otherBlock otherLeft, otherPool.acquire = .ok (otherBlock, otherLeft) →
        otherBlock.bytes = block.bytes)
    (responded : session.respond config service pool call = .ok (answer, after, left)) :
    (other.respond config service otherPool call).Meets
      (fun fault => otherPool.acquire = .error fault ∧ after.held = session.held + 1)
      fun response => response.1 = answer ∧ after.Alike response.2.1 := by
  cases call with
  | accept slot peer | drop slot =>
      simp only [respond, fst_clear, whole.cleared_eq] at responded
      simp only [respond, fst_clear, otherWhole.cleared_eq]
      cases responded
      exact ⟨rfl, .refl _⟩
  | read slot message =>
      simp only [respond, read_eq_carryOut, bind_assoc] at responded ⊢
      obtain ⟨reaction, reacted, responded⟩ := Checked.bind_eq_ok.mp responded
      obtain ⟨reactedOther, otherReacted, reactedAlike⟩ := alike.reactTo reacted
      obtain ⟨queue_eq, staged_eq⟩ := reactTo_keeps reacted
      have held_eq : reaction.session.held = session.held := by
        rw [held, held, queue_eq, staged_eq]
      rw [otherReacted]
      simp only [bind, Except.bind] at responded ⊢
      cases replied : reaction.reply? with
      | none =>
          simp only [GameReaction.carryOut, replied] at responded ⊢
          cases responded
          exact ⟨rfl, reactedAlike⟩
      | some reply =>
          simp only [GameReaction.carryOut, replied, bind, Except.bind] at responded ⊢
          cases sent : reaction.session.send pool reply with
          | error fault =>
              simp only [sent] at responded
              cases responded
          | ok answered =>
              rcases answered with ⟨sender, rest⟩
              simp only [sent] at responded
              cases responded
              have both := reactedAlike.send zero sent
              rw [held_eq] at both
              cases otherSent : reactedOther.send otherPool reply with
              | error fault =>
                  exact both.of_eq_error otherSent
              | ok otherAnswered =>
                  exact ⟨rfl, both.of_eq_ok otherSent⟩
  | produce slot =>
      simp only [respond] at responded ⊢
      obtain ⟨⟨length, next, rest⟩, produced, same⟩ := Checked.bind_eq_ok.mp responded
      cases same
      obtain ⟨otherAfter, otherLeft, otherProduced, afterAlike⟩ := alike.produce produced otherPool
      rw [otherProduced]
      exact ⟨rfl, afterAlike⟩

end GameSession

end Gatehouse
