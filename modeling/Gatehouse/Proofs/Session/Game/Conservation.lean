import Gatehouse.Proofs.Session.Game.Admission
import Gatehouse.Proofs.Session.Game.Wholeness

namespace Gatehouse

/-!
# Blocks are conserved

Every block that was carved is free and wiped, or waits in a session, or is
staged there. A call moves blocks between the pool and one session. It carves
one only when none is free, and no session holds more than its queue admits and
the message that is staged; so no more blocks are ever carved than all sessions
can hold together.
-/

/-- A pool that carved nothing further, or that has no free block left. -/
def BlockPool.CarvesOnDemand (before after : BlockPool) : Prop :=
  after.allocated = before.allocated ∨ after.free = []

theorem BlockPool.carvesOnDemand_of_acquire
    {pool left : BlockPool}
    {block : Block}
    (acquired : pool.acquire = .ok (block, left)) :
    pool.CarvesOnDemand left := by
  unfold acquire at acquired
  split at acquired
  next free isFree =>
    cases acquired
    exact .inl rfl
  next noneFree =>
    obtain ⟨⟨carved, arena⟩, _, answered⟩ := Checked.bind_eq_ok.mp acquired
    cases answered
    exact .inr noneFree

theorem FrameQueue.allocated_giveBack (queue : FrameQueue) (pool : BlockPool) :
    (queue.giveBack pool).2.allocated = pool.allocated := by
  simp only [giveBack]
  induction queue.drafts generalizing pool with
  | nil =>
      rfl
  | cons draft later inductionHypothesis =>
      exact inductionHypothesis (pool.release draft.reclaimed)

namespace GameSession

variable {session : GameSession} {pool : BlockPool}

theorem allocated_releaseStaged (session : GameSession) (pool : BlockPool) :
    (session.releaseStaged pool).2.allocated = pool.allocated := by
  unfold releaseStaged
  split <;> rfl

theorem allocated_clear (session : GameSession) (pool : BlockPool) :
    (session.clear pool).2.allocated = pool.allocated := by
  simp only [clear, FrameQueue.allocated_giveBack, allocated_releaseStaged]

/-- A session whose queue keeps to its limit, and a pool that was carved further on demand. -/
structure TakesOnDemand (pool : BlockPool) (after : GameSession) (left : BlockPool) : Prop where
  within : after.queue.length ≤ after.queue.limit
  carved : pool.CarvesOnDemand left

section Calls

variable (within : session.queue.length ≤ session.queue.limit)

include within

/-- A reply takes a block only if the queue is not full. -/
theorem takesOnDemand_of_send
    {left : BlockPool}
    {reply : GameReply}
    {after : GameSession}
    (sent : session.send pool reply = .ok (after, left)) :
    TakesOnDemand pool after left := by
  obtain ⟨made, ensured, sent⟩ := Checked.bind_eq_ok.mp sent
  rcases FrameQueue.ensureRoom_eq_ok ensured with
    refused | ⟨_, same⟩ | ⟨block, rest, room, acquired, opened⟩
  · subst refused
    cases sent
    exact ⟨within, .inl rfl⟩
  · subst same
    cases sent
    refine ⟨?_, .inl rfl⟩
    rw [FrameQueue.length_append]
    exact within
  · subst opened
    cases sent
    refine ⟨?_, BlockPool.carvesOnDemand_of_acquire acquired⟩
    rw [FrameQueue.length_append]
    simpa [FrameQueue.length, FrameQueue.append] using room

theorem takesOnDemand_of_read
    {config : Configuration}
    {service : KeyPair}
    {message : Bytes}
    {after : AfterRead}
    (taken : session.read config service pool message = .ok after) :
    TakesOnDemand pool after.session after.pool := by
  rw [read_eq_carryOut] at taken
  obtain ⟨reaction, reacted, done⟩ := Checked.bind_eq_ok.mp taken
  have queue_eq := (reactTo_keeps reacted).1
  have reactedWithin : reaction.session.queue.length ≤ reaction.session.queue.limit := by
    rw [queue_eq]
    exact within
  unfold GameReaction.carryOut at done
  split at done
  next silent =>
    cases done
    exact ⟨reactedWithin, .inl rfl⟩
  next reply replied =>
    obtain ⟨⟨sender, left⟩, sent, answered⟩ := Checked.bind_eq_ok.mp done
    cases answered
    exact takesOnDemand_of_send reactedWithin sent

/-- Staging takes no block and leaves fewer waiting. -/
theorem takesOnDemand_of_stageNext
    {left : BlockPool}
    {length : Nat}
    {after : GameSession}
    (staged : session.stageNext pool = .ok (length, after, left)) :
    TakesOnDemand pool after left := by
  have released := session.allocated_releaseStaged pool
  rw [stageNext_eq] at staged
  split at staged
  next none =>
    cases staged
    exact ⟨within, .inl released⟩
  next oldest later drafts_eq =>
    have fewer : later.length ≤ session.queue.limit := by
      rw [FrameQueue.length, drafts_eq, List.length_cons] at within
      exact Nat.le_of_succ_le within
    obtain ⟨⟨outcome, message⟩, _, answered⟩ := Checked.bind_eq_ok.mp staged
    cases outcome with
    | error error =>
        cases answered
        exact ⟨fewer, .inl released⟩
    | ok length =>
        cases answered
        exact ⟨fewer, .inl released⟩

theorem takesOnDemand_of_produce
    {left : BlockPool}
    {length : Nat}
    {after : GameSession}
    (produced : session.produce pool = .ok (length, after, left)) :
    TakesOnDemand pool after left := by
  have plain :
      { session with challengeStaged := false }.queue.length ≤
        { session with challengeStaged := false }.queue.limit := within
  unfold produce at produced
  cases phase : session.phase with
  | inWorld | dismissing =>
      simp only [phase] at produced
      exact takesOnDemand_of_stageNext plain (by rw [phase]; exact produced)
  | challenging | challenged | awaitingHello | dismissed | ended =>
      simp only [phase] at produced
      cases produced
      exact ⟨within, .inl rfl⟩

/-- Every call takes blocks on demand. -/
theorem takesOnDemand_of_respond
    {config : Configuration}
    {service : KeyPair}
    {call : ProtocolCall}
    {answer : ProtocolAnswer}
    {after : GameSession}
    {left : BlockPool}
    (responded : session.respond config service pool call = .ok (answer, after, left)) :
    TakesOnDemand pool after left := by
  cases call with
  | accept slot peer | drop slot =>
      simp only [respond, Except.ok.injEq, Prod.mk.injEq] at responded
      obtain ⟨_, rfl, rfl⟩ := responded
      rw [fst_clear]
      exact ⟨Nat.zero_le _, .inl (session.allocated_clear pool)⟩
  | read slot message =>
      obtain ⟨last, taken, responded⟩ := Checked.bind_eq_ok.mp responded
      cases responded
      exact takesOnDemand_of_read within taken
  | produce slot =>
      obtain ⟨⟨length, last, rest⟩, produced, responded⟩ := Checked.bind_eq_ok.mp responded
      cases responded
      exact takesOnDemand_of_produce within produced

/-- A session holds what its queue admits and the staged message, at most. -/
theorem held_le_of_within : session.held ≤ session.queue.limit + 1 := by
  have oneStaged : session.staged?.toList.length ≤ 1 := by
    cases session.staged? <;> simp
  exact Nat.add_le_add within oneStaged

end Calls

end GameSession

namespace GameService

/-- A whole service whose queues keep to their limits, and that carved what they can hold at most. -/
structure IsFrugal (config : Configuration) (key : KeyPair) (service : GameService) : Prop where
  whole : service.IsWhole config key (BlockPool.Balanced config.game.outputBufferSize)
  queues_within :
    ∀ session ∈ service.sessions, session.queue.length ≤ session.queue.limit
  allocated_le : service.pool.allocated ≤ config.outboundCount

variable {config : Configuration} {key : KeyPair} {service : GameService}

theorem isFrugal_ofArena
    {arena : Arena}
    (started : ofArena arena key config = .ok service) :
    service.IsFrugal config key := by
  refine ⟨(isWhole_ofArena started (BlockPool.Balanced.ofArena arena _)).1, ?_, ?_⟩
  · rw [ofArena_eq_ok started]
    intro session member
    rw [List.eq_of_mem_replicate member]
    exact Nat.zero_le _
  · rw [ofArena_eq_ok started]
    exact Nat.zero_le _

/-- Sessions whose queues keep to their limits hold no more than the configuration provides for. -/
theorem held_le_of_within
    {books : Nat → BlockPool → Prop}
    (whole : service.IsWhole config key books)
    (within : ∀ session ∈ service.sessions, session.queue.length ≤ session.queue.limit) :
    service.held ≤ config.outboundCount := by
  have light :
      ∀ session ∈ service.sessions, session.held ≤ config.game.maxQueuedMessages + 1 := by
    intro session member
    rw [← (whole.sessions_whole session member).limit_eq]
    exact GameSession.held_le_of_within (within session member)
  have total := sum_weights_le light
  rw [whole.count_eq] at total
  exact total

namespace IsFrugal

variable (frugal : service.IsFrugal config key)

include frugal

/-- Every call keeps a service frugal. -/
theorem respond
    {call : ProtocolCall}
    {answer : ProtocolAnswer}
    {next : GameService}
    (responded : protocol.respond service call = .ok (answer, next)) :
    next.IsFrugal config key := by
  obtain ⟨session, after, pool, found, answered, rfl⟩ := respond_eq_ok.mp responded
  have within := frugal.queues_within session (List.mem_of_getElem? found)
  obtain ⟨afterWithin, carved⟩ := GameSession.takesOnDemand_of_respond within answered
  have whole :=
    (frugal.whole.respond (BlockPool.balanced_contract _) found answered).1
  have queues_within :
      ∀ other ∈ (service.withSession call.slot after pool).sessions,
        other.queue.length ≤ other.queue.limit := by
    intro other member
    rcases List.mem_or_eq_of_mem_set member with wasThere | isAfter
    · exact frugal.queues_within other wasThere
    · rw [isAfter]
      exact afterWithin
  refine ⟨whole, queues_within, ?_⟩
  rcases carved with same | noneFree
  · exact Nat.le_trans (Nat.le_of_eq same) frugal.allocated_le
  · -- Nothing is free, so all that was carved is held.
    have balance := whole.balanced.allocated_eq
    rw [withSession, noneFree, List.length_nil, Nat.zero_add] at balance
    exact Nat.le_trans (Nat.le_of_eq balance) (held_le_of_within whole queues_within)

theorem run
    {calls : List ProtocolCall}
    {after : GameService}
    (ran : protocol.run service calls = .ok after) :
    after.IsFrugal config key := by
  have kept : (protocol.run service calls).Meets (fun _ => True) (IsFrugal config key) := by
    apply ConnectionProtocol.run_meets _ frugal
    intro state call _ stateFrugal
    rw [ConnectionProtocol.perform_eq_respond]
    cases responded : protocol.respond state call with
    | error fault =>
        trivial
    | ok answer =>
        exact stateFrugal.respond responded
  exact kept.of_eq_ok ran

end IsFrugal

/--
In every state that a service reaches, whatever its configuration, the blocks
that were ever carved are the free ones, those that wait in the queues of the
sessions, and those of the messages that are staged. They are no more than the
configuration provides for, and every free block is zero throughout.
-/
theorem blocks_conserved_and_wiped
    {arena : Arena}
    {after : GameService}
    {calls : List ProtocolCall}
    (started : ofArena arena key config = .ok service)
    (ran : protocol.run service calls = .ok after) :
    after.pool.allocated =
        after.pool.available +
          (after.sessions.map fun session =>
            session.queue.length + session.staged?.toList.length).sum ∧
      after.pool.allocated ≤ config.game.maxConnections * (config.game.maxQueuedMessages + 1) ∧
      ∀ block ∈ after.pool.free, block.bytes = Bytes.zeros config.game.outputBufferSize := by
  have frugal := (isFrugal_ofArena started).run ran
  have balanced := frugal.whole.balanced
  exact ⟨balanced.allocated_eq, frugal.allocated_le, balanced.free_wiped⟩

/-- The block in which a stranger's dismissal waits is accounted for. -/
theorem default_stranger_holds_carved_block :
    ∃ key start calls after session,
      ofArena Configuration.defaultArena key {} = .ok start ∧
        protocol.run start calls = .ok after ∧
        after.sessions[0]? = some session ∧
        session.queue.drafts ≠ [] ∧
        after.pool.allocated =
          after.pool.available +
            (after.sessions.map fun session =>
              session.queue.length + session.staged?.toList.length).sum ∧
        after.pool.allocated ≤ 900 ∧
        ∀ block ∈ after.pool.free, block.bytes = Bytes.zeros 16384 := by
  obtain ⟨key, start, _, after, session, payload, _, started, ran, found, verdict⟩ :=
    @default_service_decides (Bytes.ofText "stranger") [] [] (by decide) (by decide)
  have waits : session.queue.drafts ≠ [] := by
    intro none
    have waiting := verdict.waiting_eq
    rw [none] at waiting
    cases waiting
  obtain ⟨balance, bounded, wiped⟩ := blocks_conserved_and_wiped started ran
  exact ⟨key, start, _, after, session, started, ran, found, waits, balance, bounded, wiped⟩

end GameService

end Gatehouse
