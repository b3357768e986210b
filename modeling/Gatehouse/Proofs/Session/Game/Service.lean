import Gatehouse.Session.Game.Service
import Gatehouse.Proofs.Configuration.Reservation
import Gatehouse.Proofs.Session.Game.Response
import Gatehouse.Proofs.Session.Game.Transcript

namespace Gatehouse

/-!
# Sound game services

In a sound service every session is sound and the books of the pool account
for the blocks that all sessions hold together, which are never more than the
configuration provides for. Every call keeps a service sound, and can be
observed: what it does for the transcript of its connection is known.
-/

namespace GameService

/-- Blocks that all sessions hold together. -/
def held (service : GameService) : Nat :=
  (service.sessions.map GameSession.held).sum

/-- A service of sound sessions for a configuration and a key, with balanced books. -/
structure IsSound
    (config : Configuration)
    (key : KeyPair)
    (books : Nat → BlockPool → Prop)
    (service : GameService) : Prop where
  config_eq : service.config = config
  key_eq : service.key = key
  count_eq : service.sessions.length = config.game.maxConnections
  sessions_sound : ∀ session ∈ service.sessions, session.IsSound config.game
  balanced : books service.held service.pool

/-- The transcript of the connection of every slot. -/
abbrev Ledger := Nat → Transcript

/-- The ledger before any connection. -/
def Ledger.empty : Ledger :=
  fun _ => .empty

/-- The ledger with one more event. -/
def Ledger.record (ledger : Ledger) (slot : Nat) (event : GameEvent) : Ledger :=
  fun other => if other = slot then (ledger slot).extend event else ledger other

/-- Perform a call and observe what it does for the transcript of its slot. -/
def observe (service : GameService) : ProtocolCall → Checked (GameService × GameEvent)
  | .accept slot peer => return (← service.accept slot peer, .restarted)
  | .drop slot => return (← service.drop slot, .restarted)
  | .read slot message => do
      let session ← Checked.lookUp service.sessions slot
      let reaction ← session.reactTo service.config service.key message
      return ((← service.read slot message).2, reaction.event)
  | .produce slot => do
      let (length, service) ← service.produce slot
      let session ← Checked.lookUp service.sessions slot
      return (service, ← session.eventOfOutput length)

/-- Perform a sequence of calls and keep the ledger. -/
def observeAll
    (service : GameService)
    (ledger : Ledger) :
    List ProtocolCall → Checked (GameService × Ledger)
  | [] => .ok (service, ledger)
  | call :: rest => do
      let (service, event) ← service.observe call
      service.observeAll (ledger.record call.slot event) rest

/-- A ledger that every session of a service lives up to. -/
def Follows (size : Nat) (service : GameService) (ledger : Ledger) : Prop :=
  ∀ (slot : Nat) (session : GameSession),
    service.sessions[slot]? = some session → session.Follows size (ledger slot)

/-- What a call leaves: a sound service, and an event that every ledger can record. -/
structure GoesOn
    (config : Configuration)
    (key : KeyPair)
    (books : Nat → BlockPool → Prop)
    (service : GameService)
    (call : ProtocolCall)
    (next : GameService) : Prop where
  isSound : next.IsSound config key books
  observed :
    ∃ event,
      service.observe call = .ok (next, event) ∧
        ∀ ledger,
          service.Follows config.game.outputBufferSize ledger →
          next.Follows config.game.outputBufferSize (ledger.record call.slot event)

/-- What holds of all sessions and transcripts still does once one session has an event more. -/
theorem Ledger.forall_record
    {holds : GameSession → Transcript → Prop}
    {service : GameService}
    {ledger : Ledger}
    {slot : Nat}
    {session : GameSession}
    {event : GameEvent}
    (all :
      ∀ (slot : Nat) (session : GameSession),
        service.sessions[slot]? = some session → holds session (ledger slot))
    (ofSlot : holds session ((ledger slot).extend event))
    (pool : BlockPool) :
    ∀ (other : Nat) (found : GameSession),
      (service.withSession slot session pool).sessions[other]? = some found →
      holds found (ledger.record slot event other) := by
  intro other found isThere
  simp only [GameService.withSession, List.getElem?_set] at isThere
  unfold Ledger.record
  by_cases same : other = slot
  · subst same
    rw [if_pos rfl]
    simp only [if_true] at isThere
    split at isThere
    next inside =>
      cases isThere
      exact ofSlot
    next outside =>
      cases isThere
  · rw [if_neg same]
    rw [if_neg (Ne.symm same)] at isThere
    exact all other found isThere

section Observation

variable {holds : GameSession → Transcript → Prop}
  (cleared :
    ∀ (session : GameSession) peer?, holds { session.cleared with peer? := peer? } .empty)
  (read :
    ∀ config key (session : GameSession) transcript message reaction pool after,
      holds session transcript →
      session.reactTo config key message = .ok reaction →
      reaction.carryOut pool = .ok after →
      holds after.session (transcript.extend reaction.event))
  (produce :
    ∀ (session : GameSession) transcript pool length after left event,
      holds session transcript →
      session.produce pool = .ok (length, after, left) →
      after.eventOfOutput length = .ok event →
      holds after (transcript.extend event))

include cleared read produce

/-- What holds of every session and its transcript holds after a call that keeps it. -/
theorem forall_of_observe
    {service next : GameService}
    {ledger : Ledger}
    {call : ProtocolCall}
    {event : GameEvent}
    (all :
      ∀ (slot : Nat) (session : GameSession),
        service.sessions[slot]? = some session → holds session (ledger slot))
    (observed : service.observe call = .ok (next, event)) :
    ∀ (slot : Nat) (session : GameSession),
      next.sessions[slot]? = some session → holds session (ledger.record call.slot event slot) := by
  cases call with
  | accept slot peer =>
      simp only [observe, accept, bind_assoc, pure_bind, Checked.bind_eq_ok,
        Checked.lookUp_eq_ok] at observed
      rcases observed with ⟨session, _, answered⟩
      cases answered
      rw [GameSession.fst_clear]
      exact Ledger.forall_record all (cleared session (some peer)) _
  | drop slot =>
      simp only [observe, drop, bind_assoc, pure_bind, Checked.bind_eq_ok,
        Checked.lookUp_eq_ok] at observed
      rcases observed with ⟨session, _, answered⟩
      cases answered
      rw [GameSession.fst_clear]
      exact Ledger.forall_record all (cleared session none) _
  | read slot message =>
      simp only [observe, GameService.read, GameSession.read_eq_carryOut, bind_assoc, pure_bind,
        Checked.bind_eq_ok, Checked.lookUp_eq_ok] at observed
      rcases observed with
        ⟨session, found, reaction, reacted, other, otherFound, again, reactedAgain, after, done,
          answered⟩
      rw [found] at otherFound
      cases otherFound
      rw [reacted] at reactedAgain
      cases reactedAgain
      cases answered
      exact Ledger.forall_record all
        (read _ _ session _ message reaction _ after (all slot session found) reacted done) _
  | produce slot =>
      simp only [observe, GameService.produce, bind_assoc, pure_bind, Checked.bind_eq_ok,
        Checked.lookUp_eq_ok] at observed
      rcases observed with
        ⟨session, found, ⟨length, after, pool⟩, produced, other, otherFound, seen, shown, answered⟩
      simp only [getElem?_withSession found] at otherFound
      cases otherFound
      cases answered
      exact Ledger.forall_record all
        (produce session _ _ length after pool _ (all slot session found) produced shown) _

/-- What every call keeps of sessions and their transcripts holds along every run. -/
theorem forall_of_observeAll
    {service after : GameService}
    {ledger later : Ledger}
    {calls : List ProtocolCall}
    (all :
      ∀ (slot : Nat) (session : GameSession),
        service.sessions[slot]? = some session → holds session (ledger slot))
    (observed : service.observeAll ledger calls = .ok (after, later)) :
    ∀ (slot : Nat) (session : GameSession),
      after.sessions[slot]? = some session → holds session (later slot) := by
  induction calls generalizing service ledger with
  | nil =>
      cases observed
      exact all
  | cons call rest inductionHypothesis =>
      obtain ⟨⟨next, event⟩, first, observedRest⟩ := Checked.bind_eq_ok.mp observed
      exact inductionHypothesis (forall_of_observe cleared read produce all first) observedRest

end Observation

/-- A session that was replaced lives up to its transcript with the event, the others to theirs. -/
theorem Follows.withSession
    {size : Nat}
    {service : GameService}
    {ledger : Ledger}
    {slot : Nat}
    {session : GameSession}
    {event : GameEvent}
    (follows : service.Follows size ledger)
    (ofSlot : session.Follows size ((ledger slot).extend event))
    (pool : BlockPool) :
    (service.withSession slot session pool).Follows size (ledger.record slot event) :=
  Ledger.forall_record follows ofSlot pool

namespace IsSound

variable {config : Configuration} {key : KeyPair} {books : Nat → BlockPool → Prop}
  {service : GameService} (sound : service.IsSound config key books)

include sound

/-- The session of a slot can be replaced by one that accounts for its blocks. -/
theorem find
    {allowed : Fault → Prop}
    {slot : Nat}
    (inside : allowed .outOfRange ∨ slot < config.game.maxConnections) :
    (Checked.lookUp service.sessions slot).Meets allowed fun session =>
      service.sessions[slot]? = some session ∧
        session.IsSound config.game ∧
        ∃ rest,
          books (rest + session.held) service.pool ∧
            rest + (config.game.maxQueuedMessages + 1) ≤ config.outboundCount ∧
            ∀ after pool,
              after.IsSound config.game →
              books (rest + after.held) pool →
              (service.withSession slot after pool).IsSound config key books := by
  rw [← sound.count_eq] at inside
  refine (Checked.lookUp_meets inside).weaken ?_
  intro session found
  have member : session ∈ service.sessions := List.mem_of_getElem? found
  obtain ⟨rest, total, replaced, bounded⟩ := exists_rest_of_weights GameSession.held found
  have balanced := sound.balanced
  rw [held, total] at balanced
  have spare := bounded (config.game.maxQueuedMessages + 1) fun other isOther =>
    GameSession.held_le (sound.sessions_sound other isOther)
  rw [sound.count_eq] at spare
  refine ⟨found, sound.sessions_sound session member, rest, balanced, spare, ?_⟩
  intro after pool afterSound kept
  refine ⟨sound.config_eq, sound.key_eq, ?_, ?_, ?_⟩
  · simp [withSession, sound.count_eq]
  · intro other isOther
    rcases List.mem_or_eq_of_mem_set isOther with wasThere | isAfter
    · exact sound.sessions_sound other wasThere
    · rw [isAfter]
      exact afterSound
  · rw [held, withSession, replaced after]
    exact kept

/-- A connection that is accepted takes its slot over. -/
theorem accept_meets
    {allowed : Fault → Prop}
    (contract :
      BlockPool.Contract allowed config.game.outputBufferSize config.outboundCount books)
    {slot : Nat}
    (peer : SocketAddress)
    (inside : allowed .outOfRange ∨ slot < config.game.maxConnections) :
    (protocol.perform service (.accept slot peer)).Meets allowed
      (service.GoesOn config key books (.accept slot peer)) := by
  refine Checked.Meets.bind (sound.find inside) ?_
  intro session looked
  rcases looked with ⟨found, isSound, rest, balanced, _, replace⟩
  obtain ⟨pool, clear_eq, kept⟩ := isSound.clear_eq contract balanced
  rw [clear_eq]
  refine ⟨replace _ _ (isSound.cleared.withPeer (some peer)) kept, .restarted, ?_, ?_⟩
  · simp only [observe, accept, Checked.lookUp_of_getElem? found, clear_eq, bind, Except.bind]
    rfl
  · intro ledger follows
    exact follows.withSession (GameSession.follows_empty rfl _) pool

/-- A connection that is dropped leaves its slot empty. -/
theorem drop_meets
    {allowed : Fault → Prop}
    (contract :
      BlockPool.Contract allowed config.game.outputBufferSize config.outboundCount books)
    {slot : Nat}
    (inside : allowed .outOfRange ∨ slot < config.game.maxConnections) :
    (protocol.perform service (.drop slot)).Meets allowed
      (service.GoesOn config key books (.drop slot)) := by
  refine Checked.Meets.bind (sound.find inside) ?_
  intro session looked
  rcases looked with ⟨found, isSound, rest, balanced, _, replace⟩
  obtain ⟨pool, clear_eq, kept⟩ := isSound.clear_eq contract balanced
  rw [clear_eq]
  refine ⟨replace _ _ isSound.cleared kept, .restarted, ?_, ?_⟩
  · simp only [observe, drop, Checked.lookUp_of_getElem? found, clear_eq, bind, Except.bind]
    rfl
  · intro ledger follows
    exact follows.withSession (GameSession.follows_empty rfl _) pool

/-- A message is reacted to, and the reply generated for it is recorded. -/
theorem read_meets
    {allowed : Fault → Prop}
    (accepted : config.Accepted)
    (contract :
      BlockPool.Contract allowed config.game.outputBufferSize config.outboundCount books)
    (keyed : allowed .brokenKey ∨ Hello.FitsBlock key)
    {slot : Nat}
    (message : Bytes)
    (inside : allowed .outOfRange ∨ slot < config.game.maxConnections) :
    (protocol.perform service (.read slot message)).Meets allowed
      (service.GoesOn config key books (.read slot message)) := by
  simp only [ConnectionProtocol.perform, protocol, read, bind_assoc, pure_bind]
  refine Checked.Meets.bind (sound.find inside) ?_
  intro session looked
  rcases looked with ⟨found, isSound, rest, balanced, spare, replace⟩
  rw [session.read_eq_carryOut, bind_assoc, sound.config_eq, sound.key_eq]
  have reacts : (session.reactTo config key message).Meets allowed _ :=
    GameSession.reactTo_meets keyed isSound.character_short message
  cases reacted : session.reactTo config key message with
  | error fault =>
      exact reacts.of_eq_error reacted
  | ok reaction =>
      have proper := reacts.of_eq_ok reacted
      have carried := isSound.carryOut_meets contract accepted.output_ge balanced spare proper
      cases done : reaction.carryOut service.pool with
      | error fault =>
          simp only [bind, Except.bind, done]
          exact carried.of_eq_error done
      | ok after =>
          obtain ⟨afterSound, kept, follows⟩ := carried.of_eq_ok done
          simp only [bind, Except.bind, done]
          refine ⟨replace _ _ afterSound kept, reaction.event, ?_, ?_⟩
          · simp only [observe, read, Checked.lookUp_of_getElem? found, session.read_eq_carryOut,
              sound.config_eq, sound.key_eq, reacted, done, bind, Except.bind]
            rfl
          · intro ledger before
            exact before.withSession (follows _ (before slot session found)) after.pool

/-- Output that is produced is the next frame, and is recorded. -/
theorem produce_meets
    {allowed : Fault → Prop}
    (accepted : config.Accepted)
    (contract :
      BlockPool.Contract allowed config.game.outputBufferSize config.outboundCount books)
    {slot : Nat}
    (inside : allowed .outOfRange ∨ slot < config.game.maxConnections) :
    (protocol.perform service (.produce slot)).Meets allowed
      (service.GoesOn config key books (.produce slot)) := by
  simp only [ConnectionProtocol.perform, protocol, produce, bind_assoc, pure_bind]
  refine Checked.Meets.bind (sound.find inside) ?_
  intro session looked
  rcases looked with ⟨found, isSound, rest, balanced, _, replace⟩
  have produced := isSound.produce_meets contract accepted.output_le balanced
  cases done : session.produce service.pool with
  | error fault =>
      exact produced.of_eq_error done
  | ok answer =>
      rcases answer with ⟨length, after, pool⟩
      obtain ⟨afterSound, kept, event, shown, follows⟩ := produced.of_eq_ok done
      refine ⟨replace _ _ afterSound kept, event, ?_, ?_⟩
      · have isThere : (service.withSession slot after pool).sessions[slot]? = some after := by
          have within := List.getElem?_eq_some_iff.mp found
          simp [withSession, within.1]
        simp only [observe, produce, Checked.lookUp_of_getElem? found, done, bind, Except.bind,
          pure, Except.pure, Checked.lookUp_of_getElem? isThere, shown]
      · intro ledger before
        exact before.withSession (follows _ (before slot session found)) pool

/-- Every call keeps a service sound and can be observed, unless it stops for an allowed reason. -/
theorem perform_meets
    {allowed : Fault → Prop}
    (accepted : config.Accepted)
    (contract :
      BlockPool.Contract allowed config.game.outputBufferSize config.outboundCount books)
    (keyed : allowed .brokenKey ∨ Hello.FitsBlock key)
    (call : ProtocolCall)
    (inside : allowed .outOfRange ∨ call.slot < config.game.maxConnections) :
    (protocol.perform service call).Meets allowed (service.GoesOn config key books call) := by
  cases call with
  | accept slot peer =>
      exact sound.accept_meets contract peer inside
  | drop slot =>
      exact sound.drop_meets contract inside
  | read slot message =>
      exact sound.read_meets accepted contract keyed message inside
  | produce slot =>
      exact sound.produce_meets accepted contract inside

/-- Every run keeps a service sound and can be observed, unless it stops for an allowed reason. -/
theorem run_meets
    {allowed : Fault → Prop}
    (accepted : config.Accepted)
    (contract :
      BlockPool.Contract allowed config.game.outputBufferSize config.outboundCount books)
    (keyed : allowed .brokenKey ∨ Hello.FitsBlock key)
    (calls : List ProtocolCall)
    (inside :
      allowed .outOfRange ∨ ∀ call ∈ calls, call.slot < config.game.maxConnections)
    {ledger : Ledger}
    (follows : service.Follows config.game.outputBufferSize ledger) :
    (protocol.run service calls).Meets allowed fun after =>
      after.IsSound config key books ∧
        ∃ later,
          service.observeAll ledger calls = .ok (after, later) ∧
            after.Follows config.game.outputBufferSize later := by
  induction calls generalizing service ledger with
  | nil =>
      exact ⟨sound, ledger, rfl, follows⟩
  | cons call rest inductionHypothesis =>
      have callInside : allowed .outOfRange ∨ call.slot < config.game.maxConnections :=
        inside.imp_right fun all => all call (by simp)
      refine Checked.Meets.bind (sound.perform_meets accepted contract keyed call callInside) ?_
      intro next performed
      rcases performed with ⟨nextSound, event, observed, kept⟩
      have restInside :=
        inside.imp_right fun all later member => all later (List.mem_cons_of_mem call member)
      refine (inductionHypothesis nextSound restInside (kept ledger follows)).weaken ?_
      intro after finished
      rcases finished with ⟨afterSound, later, ran, afterFollows⟩
      refine ⟨afterSound, later, ?_, afterFollows⟩
      simp only [observeAll, observed, bind, Except.bind]
      exact ran

/-- While the pool has all its blocks one is obtained for a session whose queue is not full. -/
theorem exists_acquire_of_few
    (contract :
      BlockPool.Contract (fun _ => False) config.game.outputBufferSize config.outboundCount books)
    {slot : Nat}
    {session : GameSession}
    (found : service.sessions[slot]? = some session)
    (few : session.queue.length < config.game.maxQueuedMessages) :
    ∃ granted, service.pool.acquire = .ok granted := by
  have within : slot < config.game.maxConnections := by
    rw [← sound.count_eq]
    exact (List.getElem?_eq_some_iff.mp found).1
  have lookedUp : (Checked.lookUp service.sessions slot).Meets (fun _ => False) _ :=
    sound.find (.inr within)
  obtain ⟨_, _, rest, balanced, spare, _⟩ :=
    lookedUp.of_eq_ok (Checked.lookUp_of_getElem? found)
  have spared : rest + session.held < config.outboundCount := by
    have oneStaged : session.staged?.toList.length ≤ 1 := by
      cases session.staged? <;> simp
    rw [GameSession.held]
    omega
  obtain ⟨granted, acquired, _⟩ := (contract.acquire balanced spared).exists_eq_ok
  exact ⟨granted, acquired⟩

/-- While the pool has all its blocks one is obtained for a session with nothing to send. -/
theorem exists_acquire
    (contract :
      BlockPool.Contract (fun _ => False) config.game.outputBufferSize config.outboundCount books)
    (accepted : config.Accepted)
    {slot : Nat}
    {session : GameSession}
    (found : service.sessions[slot]? = some session)
    (idle : session.queue.drafts = []) :
    ∃ granted, service.pool.acquire = .ok granted := by
  apply sound.exists_acquire_of_few contract found
  rw [FrameQueue.length, idle]
  exact accepted.queue_pos

end IsSound

/-- A service that starts is sound, and no connection has a transcript yet. -/
theorem isSound_ofArena
    {config : Configuration}
    {arena : Arena}
    {key : KeyPair}
    {service : GameService}
    {books : Nat → BlockPool → Prop}
    (started : ofArena arena key config = .ok service)
    (balanced : books 0 (.ofArena arena config.game.outputBufferSize)) :
    service.IsSound config key books ∧
      service.Follows config.game.outputBufferSize .empty := by
  simp only [ofArena, Checked.bind_eq_ok, pure, Except.pure, Except.ok.injEq] at started
  rcases started with ⟨sessions, made, rfl⟩
  have fresh :
      sessions.length = config.game.maxConnections ∧
        ∀ session ∈ sessions,
          session.IsSound config.game ∧ session.held = 0 ∧ session.queue.drafts = [] := by
    simp only [newSessions, Checked.bind_eq_ok] at made
    rcases made with ⟨_, _, made⟩
    split at made
    next none =>
      cases made
      exact ⟨none.symm, by simp⟩
    next some =>
      obtain ⟨session, ofLimit, same⟩ := Checked.bind_eq_ok.mp made
      cases same
      obtain ⟨isSound, holdsNone⟩ := GameSession.isSound_ofLimit ofLimit
      refine ⟨List.length_replicate, ?_⟩
      intro other member
      rw [List.eq_of_mem_replicate member]
      have idle : session.queue.drafts.length = 0 := by
        simp only [GameSession.held, FrameQueue.length] at holdsNone
        omega
      exact ⟨isSound, holdsNone, List.length_eq_zero_iff.mp idle⟩
  have heldNone : (sessions.map GameSession.held).sum = 0 := by
    have light : (sessions.map GameSession.held).sum ≤ sessions.length * 0 :=
      sum_weights_le fun session member => Nat.le_of_eq (fresh.2 session member).2.1
    omega
  refine ⟨⟨rfl, rfl, fresh.1, fun session member => (fresh.2 session member).1, ?_⟩, ?_⟩
  · rw [held, heldNone]
    exact balanced
  · intro slot session found
    exact GameSession.follows_empty
      (fresh.2 session (List.mem_of_getElem? found)).2.2 _

section Started

variable {config : Configuration} {arena : Arena} {key : KeyPair} {start after : GameService}
  {calls : List ProtocolCall} (accepted : config.Accepted)
  (started : ofArena arena key config = .ok start)
  (ran : protocol.run start calls = .ok after)

include accepted started ran

theorem isSound_of_run :
    after.IsSound config key (BlockPool.Balanced config.game.outputBufferSize) := by
  obtain ⟨sound, follows⟩ := isSound_ofArena started (BlockPool.Balanced.ofArena arena _)
  have kept :=
    sound.run_meets accepted (BlockPool.balanced_contract _ config.outboundCount) (.inl trivial)
      calls (.inl trivial) follows
  exact (kept.of_eq_ok ran).1

/-- While the arena has a place for every outbound buffer, a queue that is not full obtains one. -/
theorem exists_acquire_of_run
    (placed : arena.IsPlaced)
    (roomy :
      Arena.cursorAfter config.game.outputBufferSize config.outboundCount arena.used ≤
        arena.reserved)
    {slot : Nat}
    {session : GameSession}
    (found : after.sessions[slot]? = some session)
    (few : session.queue.length < config.game.maxQueuedMessages) :
    ∃ granted, after.pool.acquire = .ok granted := by
  have books :
      BlockPool.BalancedAndReserved config.game.outputBufferSize config.outboundCount arena 0
        (.ofArena arena config.game.outputBufferSize) :=
    ⟨BlockPool.Balanced.ofArena arena _, placed, roomy, .refl arena, Nat.zero_le _⟩
  have contract :=
    BlockPool.reserved_contract config.game.outputBufferSize config.outboundCount arena
  obtain ⟨sound, follows⟩ := isSound_ofArena started books
  have kept :=
    sound.run_meets accepted (contract.allow fun _ _ => trivial) (.inl trivial) calls
      (.inl trivial) follows
  exact (kept.of_eq_ok ran).1.exists_acquire_of_few contract found few

end Started

end GameService

end Gatehouse
