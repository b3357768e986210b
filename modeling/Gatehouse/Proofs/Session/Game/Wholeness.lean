import Gatehouse.Proofs.Session.Game.Response
import Gatehouse.Proofs.Session.Game.Service

namespace Gatehouse

/-!
# Whole game sessions

In a whole session every block has the size of the pool's blocks, and every
credential lies in storage of its full size. Unlike soundness this asks nothing
of the configuration: whatever a session is told, it stays whole, shows what is
staged, and is as good as new once it is cleared.
-/

namespace GameSession

/-- A session whose blocks have the given size and whose credentials are whole. -/
structure IsWhole (size limit : Nat) (session : GameSession) : Prop where
  limit_eq : session.queue.limit = limit
  drafts_block : ∀ draft ∈ session.queue.drafts, draft.block.length = size
  staged_block : ∀ message, session.staged? = some message → message.block.length = size
  staged_inside :
    ∀ message, session.staged? = some message → message.sealedLength ≤ message.block.length
  account_whole : session.account.IsWhole
  character_whole : session.character.IsWhole
  password_whole : session.password.IsWhole

theorem isWhole_unused (size limit : Nat) : (unused limit).IsWhole size limit :=
  ⟨rfl, by simp [unused], by simp [unused], by simp [unused], FixedText.isWhole_empty 32,
    FixedText.isWhole_empty 32, FixedText.isWhole_empty 32⟩

/-- The session of a connection that was just accepted. -/
def accepted (limit : Nat) (peer : SocketAddress) : GameSession :=
  { unused limit with peer? := some peer }

namespace IsWhole

variable {size limit : Nat} {session : GameSession} (whole : session.IsWhole size limit)

include whole

theorem withPhase (phase : GamePhase) : { session with phase := phase }.IsWhole size limit :=
  ⟨whole.limit_eq, whole.drafts_block, whole.staged_block, whole.staged_inside,
    whole.account_whole, whole.character_whole, whole.password_whole⟩

theorem withPeer (peer? : Option SocketAddress) :
    { session with peer? := peer? }.IsWhole size limit :=
  ⟨whole.limit_eq, whole.drafts_block, whole.staged_block, whole.staged_inside,
    whole.account_whole, whole.character_whole, whole.password_whole⟩

/-- A session that is cleared is as one that no connection has used. -/
theorem cleared_eq : session.cleared = unused limit := by
  simp only [cleared, unused, whole.account_whole.clear_eq, whole.character_whole.clear_eq,
    whole.password_whole.clear_eq, whole.limit_eq, Credential.empty]

/-- What is staged can be shown. -/
theorem exists_staged : ∃ bytes, session.staged = .ok bytes := by
  unfold staged
  split
  next isChallenge =>
    exact ⟨_, rfl⟩
  next other =>
    split
    next none =>
      exact ⟨_, rfl⟩
    next message staged =>
      exact ⟨_, Bytes.slice_eq_ok.mpr ⟨⟨Nat.zero_le _, whole.staged_inside message staged⟩, rfl⟩⟩

theorem reactToHandshake
    (config : Configuration)
    {handshake : GameHello}
    (accountWhole : handshake.account.IsWhole)
    (characterWhole : handshake.character.IsWhole)
    (passwordWhole : handshake.password.IsWhole) :
    (session.reactToHandshake config handshake).1.IsWhole size limit := by
  unfold GameSession.reactToHandshake
  split
  next accepted =>
    simp only
    split <;>
      exact ⟨whole.limit_eq, whole.drafts_block, whole.staged_block, whole.staged_inside,
        accountWhole, characterWhole, passwordWhole⟩
  next other =>
    exact ⟨whole.limit_eq, whole.drafts_block, whole.staged_block, whole.staged_inside,
      whole.account_whole, whole.character_whole, whole.password_whole⟩

theorem reactToCommand (command : GameCommand) :
    (session.reactToCommand command).1.IsWhole size limit := by
  cases command with
  | logout =>
      exact whole.withPhase .ended
  | unsupportedSpeech =>
      exact whole.withPhase .ended
  | ignored =>
      exact whole
  | say value =>
      simp only [GameSession.reactToCommand]
      split
      next high =>
        exact whole
      next low =>
        split
        next isDismissal =>
          exact whole.withPhase .dismissing
        next other =>
          split <;> exact whole

theorem reactToHello
    (config : Configuration)
    {attempt : Attempt HelloError GameHello}
    (handshake_whole :
      ∀ handshake,
        attempt.outcome = .ok handshake →
        handshake.account.IsWhole ∧ handshake.character.IsWhole ∧ handshake.password.IsWhole) :
    (session.reactToHello config attempt).session.IsWhole size limit := by
  unfold GameSession.reactToHello
  cases outcome : attempt.outcome with
  | error error =>
      exact whole.withPhase .ended
  | ok handshake =>
      obtain ⟨account, character, password⟩ := handshake_whole handshake outcome
      exact whole.reactToHandshake config account character password

/-- A reaction keeps a session whole. -/
theorem reactTo_meets
    (config : Configuration)
    (service : KeyPair)
    (message : Bytes) :
    (session.reactTo config service message).Meets (fun _ => True) fun reaction =>
      reaction.session.IsWhole size limit := by
  have ofHello
      (awaiting : session.phase = .challenged ∨ session.phase = .awaitingHello) :
      (session.reactTo config service message).Meets (fun _ => True) fun reaction =>
        reaction.session.IsWhole size limit := by
    rw [reactTo_of_awaiting awaiting]
    refine Checked.Meets.bind
      (Hello.readWith_meets (.inl trivial) rfl Hello.gamePlaintext_isWhole) ?_
    intro attempt wholeHandshake
    exact whole.reactToHello config wholeHandshake
  cases phase : session.phase with
  | challenged =>
      exact ofHello (.inl phase)
  | awaitingHello =>
      exact ofHello (.inr phase)
  | inWorld =>
      obtain ⟨attempt, extracted⟩ := Frame.exists_extract message session.key
      simp only [reactTo, phase, extracted, bind, Except.bind]
      cases attempt.outcome with
      | error error =>
          exact whole.withPhase .ended
      | ok payload =>
          exact whole.reactToCommand (.ofPayload payload)
  | dismissing | dismissed =>
      simp only [reactTo, phase]
      exact whole
  | challenging | ended =>
      simp only [reactTo, phase]
      exact whole.withPhase .ended

section Books

variable {rest : Nat} {books : Nat → BlockPool → Prop}
  (contract : ∀ most, BlockPool.Contract (fun _ => True) size most books) {pool : BlockPool}
  (balanced : books (rest + session.held) pool)

include contract balanced

theorem send_meets (reply : GameReply) :
    (session.send pool reply).Meets (fun _ => True) fun answer =>
      answer.1.IsWhole size limit ∧ books (rest + answer.1.held) answer.2 := by
  unfold send
  cases ensured : session.queue.ensureRoom pool reply.reservation with
  | error fault =>
      trivial
  | ok made =>
      rcases FrameQueue.ensureRoom_eq_ok ensured with
        refused | ⟨_, same⟩ | ⟨block, left, _, acquired, opened⟩
      · subst refused
        exact ⟨whole.withPhase .ended, balanced⟩
      · subst same
        refine ⟨⟨whole.limit_eq, FrameQueue.length_block_append whole.drafts_block _,
          whole.staged_block, whole.staged_inside, whole.account_whole, whole.character_whole,
          whole.password_whole⟩, ?_⟩
        simp only [held, FrameQueue.length_append]
        exact balanced
      · subst opened
        obtain ⟨zero, kept⟩ :=
          ((contract _).acquire balanced (Nat.lt_succ_self _)).of_eq_ok acquired
        have block_length : block.length = size := by
          rw [Block.length, zero, Bytes.length_zeros]
        refine ⟨⟨whole.limit_eq, FrameQueue.length_block_append ?_ _, whole.staged_block,
          whole.staged_inside, whole.account_whole, whole.character_whole,
          whole.password_whole⟩, ?_⟩
        · intro draft member
          rcases List.mem_append.mp member with wasThere | isNew
          · exact whole.drafts_block draft wasThere
          · rw [List.mem_singleton.mp isNew]
            exact block_length
        · simp only [held, FrameQueue.length_append]
          have longer :
              rest + session.held + 1 =
                rest +
                  (FrameQueue.length
                      { session.queue with drafts := session.queue.drafts ++ [.ofBlock block] } +
                    session.staged?.toList.length) := by
            simp only [held, FrameQueue.length, List.length_append, List.length_singleton]
            omega
          rw [← longer]
          exact kept

theorem stageNext_meets :
    (session.stageNext pool).Meets (fun _ => True) fun answer =>
      answer.2.1.IsWhole size limit ∧ books (rest + answer.2.1.held) answer.2.2 := by
  have released := releaseStaged_books (contract 0) whole.staged_block balanced
  rw [stageNext_eq]
  cases drafts_eq : session.queue.drafts with
  | nil =>
      refine ⟨⟨whole.limit_eq, by simp [drafts_eq], by simp, by simp, whole.account_whole,
        whole.character_whole, whole.password_whole⟩, ?_⟩
      simpa [held] using released
  | cons oldest later =>
      have oldest_block := whole.drafts_block oldest (by simp [drafts_eq])
      have later_block : ∀ draft ∈ later, draft.block.length = size := fun draft member =>
        whole.drafts_block draft (by simp [drafts_eq, member])
      cases done : oldest.sealWith session.key with
      | error fault =>
          simp only [done, bind, Except.bind]
          trivial
      | ok answer =>
          rcases answer with ⟨outcome, message⟩
          obtain ⟨kept, inside⟩ := FrameDraft.sealWith_keeps done
          rw [oldest_block] at kept
          have fewer : session.queue.length = later.length + 1 := by
            rw [FrameQueue.length, drafts_eq, List.length_cons]
          rw [fewer, ← Nat.add_assoc] at released
          cases outcome with
          | error error =>
              simp only [done, bind, Except.bind]
              refine ⟨⟨whole.limit_eq, later_block, by simp, by simp, whole.account_whole,
                whole.character_whole, whole.password_whole⟩, ?_⟩
              exact (contract 0).release released (FrameDraft.bytes_reclaimed kept)
          | ok length =>
              simp only [done, bind, Except.bind]
              refine ⟨⟨whole.limit_eq, later_block, ?_, ?_, whole.account_whole,
                whole.character_whole, whole.password_whole⟩, ?_⟩
              · intro other same
                cases same
                exact kept
              · intro other same
                cases same
                obtain ⟨length_eq, fits⟩ := inside length rfl
                rw [length_eq]
                exact fits
              · simpa only [held, FrameQueue.length, Option.toList_some, List.length_singleton,
                  ← Nat.add_assoc] using released

theorem produce_meets :
    (session.produce pool).Meets (fun _ => True) fun answer =>
      answer.2.1.IsWhole size limit ∧ books (rest + answer.2.1.held) answer.2.2 := by
  have plain (staged : Bool) : { session with challengeStaged := staged }.IsWhole size limit :=
    ⟨whole.limit_eq, whole.drafts_block, whole.staged_block, whole.staged_inside,
      whole.account_whole, whole.character_whole, whole.password_whole⟩
  unfold produce
  simp only
  split
  next phase =>
    exact ⟨(plain true).withPhase .challenged, balanced⟩
  next phase =>
    exact ⟨(plain false).withPhase .awaitingHello, balanced⟩
  next phase =>
    exact (plain false).stageNext_meets contract balanced
  next phase =>
    exact (plain false).stageNext_meets contract balanced
  next phase =>
    exact ⟨(plain false).withPhase .ended, balanced⟩
  next phase =>
    exact ⟨plain false, balanced⟩
  next phase =>
    exact ⟨plain false, balanced⟩

/-- Every response keeps a session whole and accounts for its blocks. -/
theorem respond_meets
    (config : Configuration)
    (service : KeyPair)
    (call : ProtocolCall) :
    (session.respond config service pool call).Meets (fun _ => True) fun answer =>
      answer.2.1.IsWhole size limit ∧ books (rest + answer.2.1.held) answer.2.2 := by
  have cleared :
      (session.clear pool).1.IsWhole size limit ∧
        books (rest + (session.clear pool).1.held) (session.clear pool).2 := by
    rw [fst_clear, whole.cleared_eq]
    exact ⟨isWhole_unused size limit,
      clear_books (contract 0) whole.drafts_block whole.staged_block balanced⟩
  cases call with
  | accept slot peer =>
      exact ⟨cleared.1.withPeer (some peer), cleared.2⟩
  | drop slot =>
      exact cleared
  | read slot message =>
      simp only [respond, session.read_eq_carryOut]
      rw [bind_assoc]
      refine Checked.Meets.bind (whole.reactTo_meets config service message).remember ?_
      intro reaction reacted
      rcases reacted with ⟨reacted, reactedWhole⟩
      have reactedBalanced : books (rest + reaction.session.held) pool := by
        obtain ⟨queue_eq, staged_eq⟩ := reactTo_keeps reacted
        rw [held, queue_eq, staged_eq]
        exact balanced
      cases replied : reaction.reply? with
      | none =>
          simp only [GameReaction.carryOut, replied]
          exact ⟨reactedWhole, reactedBalanced⟩
      | some reply =>
          simp only [GameReaction.carryOut, replied]
          rw [bind_assoc]
          refine Checked.Meets.bind (reactedWhole.send_meets contract reactedBalanced reply) ?_
          intro answer kept
          exact kept
  | produce slot =>
      refine Checked.Meets.bind (whole.produce_meets contract balanced) ?_
      intro answer kept
      exact kept

end Books

end IsWhole

end GameSession

namespace GameService

/-- A service of whole sessions for a configuration and a key, with balanced books. -/
structure IsWhole
    (config : Configuration)
    (key : KeyPair)
    (books : Nat → BlockPool → Prop)
    (service : GameService) : Prop where
  config_eq : service.config = config
  key_eq : service.key = key
  count_eq : service.sessions.length = config.game.maxConnections
  sessions_whole :
    ∀ session ∈ service.sessions,
      session.IsWhole config.game.outputBufferSize config.game.maxQueuedMessages
  balanced : books service.held service.pool

variable {config : Configuration} {key : KeyPair} {books : Nat → BlockPool → Prop}
  {service : GameService}

/-- A session holds no more than all sessions together. -/
theorem held_le_held
    {slot : Nat}
    {session : GameSession}
    (found : service.sessions[slot]? = some session) :
    session.held ≤ service.held := by
  obtain ⟨rest, total, _, _⟩ := exists_rest_of_weights GameSession.held found
  rw [held, total]
  exact Nat.le_add_left _ _

/-- A service that starts is whole, and holds no block. -/
theorem isWhole_ofArena
    {arena : Arena}
    (started : ofArena arena key config = .ok service)
    (balanced : books 0 (.ofArena arena config.game.outputBufferSize)) :
    service.IsWhole config key books ∧ service.held = 0 := by
  rw [ofArena_eq_ok started]
  have holdsNone :
      held
          { config := config
            key := key
            pool := .ofArena arena config.game.outputBufferSize
            sessions :=
              .replicate config.game.maxConnections (.unused config.game.maxQueuedMessages) } =
        0 := by
    simp [held, GameSession.held, GameSession.unused, FrameQueue.length]
  refine ⟨⟨rfl, rfl, List.length_replicate, ?_, ?_⟩, holdsNone⟩
  · intro session member
    rw [List.eq_of_mem_replicate member]
    exact GameSession.isWhole_unused _ _
  · rw [holdsNone]
    exact balanced

namespace IsWhole

variable (whole : service.IsWhole config key books)
  (contract :
    ∀ most, BlockPool.Contract (fun _ => True) config.game.outputBufferSize most books)

include whole contract

/-- Every call keeps a service whole; the blocks that other sessions hold stay held. -/
theorem respond
    {call : ProtocolCall}
    {session after : GameSession}
    {pool : BlockPool}
    {answer : ProtocolAnswer}
    (found : service.sessions[call.slot]? = some session)
    (responded :
      session.respond service.config service.key service.pool call = .ok (answer, after, pool)) :
    (service.withSession call.slot after pool).IsWhole config key books ∧
      (service.withSession call.slot after pool).held + session.held =
        service.held + after.held := by
  have sessionWhole := whole.sessions_whole session (List.mem_of_getElem? found)
  obtain ⟨rest, total, replaced, _⟩ := exists_rest_of_weights GameSession.held found
  have balanced := whole.balanced
  rw [held, total] at balanced
  obtain ⟨afterWhole, kept⟩ :=
    (sessionWhole.respond_meets contract balanced service.config service.key call).of_eq_ok
      responded
  refine ⟨⟨whole.config_eq, whole.key_eq, ?_, ?_, ?_⟩, ?_⟩
  · rw [withSession, List.length_set]
    exact whole.count_eq
  · intro other isOther
    rcases List.mem_or_eq_of_mem_set isOther with wasThere | isAfter
    · exact whole.sessions_whole other wasThere
    · rw [isAfter]
      exact afterWhole
  · rw [held, withSession, replaced after]
    exact kept
  · simp only [held, withSession, replaced after, total]
    omega

/-- Nothing is left in a slot that is taken over, and its blocks are given back. -/
theorem accept
    {slot : Nat}
    {session : GameSession}
    (found : service.sessions[slot]? = some session)
    (peer : SocketAddress) :
    ∃ next,
      protocol.respond service (.accept slot peer) = .ok (.done, next) ∧
        next.IsWhole config key books ∧
        next.sessions[slot]? = some (.accepted config.game.maxQueuedMessages peer) ∧
        next.held + session.held = service.held := by
  have sessionWhole := whole.sessions_whole session (List.mem_of_getElem? found)
  have answered :
      session.respond service.config service.key service.pool (.accept slot peer) =
        .ok (.done, .accepted config.game.maxQueuedMessages peer,
          (session.clear service.pool).2) := by
    simp only [GameSession.respond, GameSession.fst_clear, sessionWhole.cleared_eq]
    rfl
  have here : service.sessions[(ProtocolCall.accept slot peer).slot]? = some session := found
  obtain ⟨nextWhole, balance⟩ := whole.respond contract here answered
  exact ⟨_, respond_eq_ok.mpr ⟨session, _, _, found, answered, rfl⟩, nextWhole,
    getElem?_withSession found _ _, balance⟩

theorem run
    {calls : List ProtocolCall}
    {after : GameService}
    (ran : protocol.run service calls = .ok after) :
    after.IsWhole config key books := by
  have kept :
      (protocol.run service calls).Meets (fun _ => True) (IsWhole config key books) := by
    apply ConnectionProtocol.run_meets _ whole
    intro state call _ stateWhole
    rw [ConnectionProtocol.perform_eq_respond]
    cases responded : protocol.respond state call with
    | error fault =>
        trivial
    | ok answer =>
        rcases answer with ⟨answer, next⟩
        obtain ⟨session, after, pool, found, answered, rfl⟩ := respond_eq_ok.mp responded
        exact (stateWhole.respond contract found answered).1
  exact kept.of_eq_ok ran

end IsWhole

end GameService

end Gatehouse
