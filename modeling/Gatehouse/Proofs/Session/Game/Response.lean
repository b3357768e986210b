import Gatehouse.Session.Game.Service
import Gatehouse.Proofs.Session.Game.Reaction
import Gatehouse.Proofs.Session.Watching

namespace Gatehouse

/-!
# Responses of one session

Every call of the game service is a response of the session in the slot of the
call, which takes what it needs from the pool and leaves the other sessions
alone. What a session makes of a message depends neither on the frames that
wait in it nor on the one that is staged.
-/

namespace GameSession

/-- The response of a session to a call for its slot. -/
def respond
    (config : Configuration)
    (service : KeyPair)
    (session : GameSession)
    (pool : BlockPool) :
    ProtocolCall → Checked (ProtocolAnswer × GameSession × BlockPool)
  | .accept _ peer =>
      let (session, pool) := session.clear pool
      .ok (.done, { session with peer? := some peer }, pool)
  | .drop _ =>
      let (session, pool) := session.clear pool
      .ok (.done, session, pool)
  | .read _ message => do
      let after ← session.read config service pool message
      return (.message after.message, after.session, after.pool)
  | .produce _ => do
      let (length, session, pool) ← session.produce pool
      return (.output length, session, pool)

/-- A session that no connection has used yet. -/
def unused (maxQueued : Nat) : GameSession where
  phase := .challenging
  peer? := none
  key := .zero
  account := .empty
  character := .empty
  password := .empty
  queue := { drafts := [], limit := maxQueued }
  staged? := none
  challengeStaged := false

/-- A session with other frames that wait and another one that is staged. -/
def withOutgoing
    (session : GameSession)
    (queue : FrameQueue)
    (staged? : Option FrameDraft) :
    GameSession :=
  { session with queue := queue, staged? := staged? }

variable {config : Configuration} {service : KeyPair} {session : GameSession}
  {queue : FrameQueue} {staged? : Option FrameDraft}

theorem reactToHandshake_withOutgoing (handshake : GameHello) :
    (session.withOutgoing queue staged?).reactToHandshake config handshake =
      ((session.reactToHandshake config handshake).1.withOutgoing queue staged?,
        (session.reactToHandshake config handshake).2) := by
  unfold reactToHandshake
  split
  next accepted =>
    simp only [withOutgoing, loginRefusal?, openedAccount?]
    split <;> rfl
  next other =>
    rfl

theorem reactToCommand_withOutgoing (command : GameCommand) :
    (session.withOutgoing queue staged?).reactToCommand command =
      ((session.reactToCommand command).1.withOutgoing queue staged?,
        (session.reactToCommand command).2) := by
  cases command with
  | logout =>
      rfl
  | unsupportedSpeech =>
      rfl
  | ignored =>
      rfl
  | say value =>
      simp only [reactToCommand]
      split
      next high =>
        rfl
      next low =>
        split
        next isDismissal =>
          rfl
        next other =>
          split <;> rfl

/-- A reaction is the same whatever waits in the session and is staged. -/
theorem reactTo_withOutgoing (message : Bytes) :
    (session.withOutgoing queue staged?).reactTo config service message =
      session.reactTo config service message >>= fun reaction =>
        pure { reaction with session := reaction.session.withOutgoing queue staged? } := by
  have phase_eq : (session.withOutgoing queue staged?).phase = session.phase := rfl
  have key_eq : (session.withOutgoing queue staged?).key = session.key := rfl
  unfold reactTo
  rw [phase_eq, key_eq]
  cases session.phase with
  | challenging | dismissing | dismissed | ended =>
      rfl
  | challenged | awaitingHello =>
      simp only [bind_assoc]
      congr 1
      funext attempt
      cases attempt.outcome with
      | error error =>
          rfl
      | ok handshake =>
          simp only [reactToHandshake_withOutgoing, pure_bind]
  | inWorld =>
      simp only [bind_assoc]
      congr 1
      funext attempt
      cases attempt.outcome with
      | error error =>
          rfl
      | ok payload =>
          simp only [reactToCommand_withOutgoing, pure_bind]

/-- A reaction leaves what waits in the session and what is staged. -/
theorem reactTo_keeps
    {message : Bytes}
    {reaction : GameReaction}
    (reacted : session.reactTo config service message = .ok reaction) :
    reaction.session.queue = session.queue ∧ reaction.session.staged? = session.staged? := by
  have same : session.withOutgoing session.queue session.staged? = session := rfl
  have kept := @reactTo_withOutgoing config service session session.queue session.staged? message
  simp only [same, reacted, bind, Except.bind, pure, Except.pure, Except.ok.injEq] at kept
  rw [kept]
  exact ⟨rfl, rfl⟩

end GameSession

namespace GameService

variable {service next : GameService} {call : ProtocolCall} {answer : ProtocolAnswer}

/-- A service starts with sessions that no connection has used. -/
theorem ofArena_eq_ok
    {config : Configuration}
    {arena : Arena}
    {key : KeyPair}
    (started : ofArena arena key config = .ok service) :
    service =
      { config := config
        key := key
        pool := .ofArena arena config.game.outputBufferSize
        sessions :=
          .replicate config.game.maxConnections (.unused config.game.maxQueuedMessages) } := by
  simp only [ofArena, newSessions, Checked.bind_eq_ok, pure, Except.pure, Except.ok.injEq]
    at started
  rcases started with ⟨sessions, ⟨_, _, made⟩, rfl⟩
  split at made
  next none =>
    cases made
    rw [none]
    rfl
  next some =>
    simp only [GameSession.ofLimit, FrameQueue.ofLimit, Checked.bind_eq_ok, pure, Except.pure,
      Except.ok.injEq] at made
    rcases made with ⟨_, ⟨_, ⟨_, _, rfl⟩, rfl⟩, rfl⟩
    rfl

/-- A call is answered by the session of its slot. -/
theorem respond_eq (service : GameService) (call : ProtocolCall) :
    protocol.respond service call = do
      let session ← Checked.lookUp service.sessions call.slot
      let (answer, after, pool) ← session.respond service.config service.key service.pool call
      return (answer, service.withSession call.slot after pool) := by
  cases call with
  | accept slot peer =>
      simp only [ConnectionProtocol.respond, protocol, accept, bind_assoc, pure_bind]
      rfl
  | drop slot =>
      simp only [ConnectionProtocol.respond, protocol, drop, bind_assoc, pure_bind]
      rfl
  | read slot message =>
      simp only [ConnectionProtocol.respond, protocol, read, GameSession.respond, bind_assoc,
        pure_bind, ProtocolCall.slot]
  | produce slot =>
      simp only [ConnectionProtocol.respond, protocol, produce, GameSession.respond, bind_assoc,
        pure_bind, ProtocolCall.slot]

theorem respond_eq_ok :
    protocol.respond service call = .ok (answer, next) ↔
      ∃ session after pool,
        service.sessions[call.slot]? = some session ∧
          session.respond service.config service.key service.pool call =
            .ok (answer, after, pool) ∧
          next = service.withSession call.slot after pool := by
  simp only [respond_eq, Checked.bind_eq_ok, pure, Except.pure, Except.ok.injEq, Prod.mk.injEq,
    Prod.exists, Checked.lookUp_eq_ok]
  constructor
  · intro answered
    rcases answered with ⟨session, found, _, after, pool, responded, rfl, rfl⟩
    exact ⟨session, after, pool, found, responded, rfl⟩
  · intro answered
    rcases answered with ⟨session, after, pool, found, responded, rfl⟩
    exact ⟨session, found, _, after, pool, responded, rfl, rfl⟩

/-- A slot for which the call is not keeps its session. -/
theorem getElem?_withSession_of_ne
    {slot other : Nat}
    (elsewhere : other ≠ slot)
    (session : GameSession)
    (pool : BlockPool) :
    (service.withSession other session pool).sessions[slot]? = service.sessions[slot]? := by
  simp only [withSession, List.getElem?_set, if_neg elsewhere]

theorem getElem?_withSession
    {slot : Nat}
    {before : GameSession}
    (found : service.sessions[slot]? = some before)
    (session : GameSession)
    (pool : BlockPool) :
    (service.withSession slot session pool).sessions[slot]? = some session := by
  have inside := (List.getElem?_eq_some_iff.mp found).1
  simp [withSession, inside]

theorem withSession_self
    {slot : Nat}
    {session : GameSession}
    (found : service.sessions[slot]? = some session) :
    service.withSession slot session service.pool = service := by
  obtain ⟨inside, rfl⟩ := List.getElem?_eq_some_iff.mp found
  simp [withSession]

/-- The outlet of a slot is that of its session. -/
theorem outlet_eq
    {slot : Nat}
    {session : GameSession}
    (found : service.sessions[slot]? = some session) :
    protocol.outlet slot service = { staged := session.staged, status := .ok session.status } := by
  simp only [ConnectionProtocol.outlet, protocol, staged, status,
    Checked.lookUp_of_getElem? found, bind, Except.bind, pure, Except.pure]

/-- What some calls preserve of a session holds of the session of a slot that gets no others. -/
theorem exists_session_of_run
    {after : GameService}
    {slot : Nat}
    {session : GameSession}
    {later : List ProtocolCall}
    {holds : GameSession → Prop}
    {admits : ProtocolCall → Prop}
    (found : service.sessions[slot]? = some session)
    (step :
      ∀ session pool call answer next left,
        holds session →
        admits call →
        session.respond service.config service.key pool call = .ok (answer, next, left) →
        holds next)
    (start : holds session)
    (only : ∀ call ∈ later, call.slot = slot → admits call)
    (ran : protocol.run service later = .ok after) :
    ∃ final, after.sessions[slot]? = some final ∧ holds final := by
  induction later generalizing service session with
  | nil =>
      cases ran
      exact ⟨session, found, start⟩
  | cons call rest inductionHypothesis =>
      have restOnly := fun other member => only other (List.mem_cons_of_mem call member)
      simp only [ConnectionProtocol.run, ConnectionProtocol.perform_eq_respond, bind_assoc,
        pure_bind] at ran
      obtain ⟨⟨answer, next⟩, responded, continued⟩ := Checked.bind_eq_ok.mp ran
      obtain ⟨before, last, pool, isThere, answered, rfl⟩ := respond_eq_ok.mp responded
      by_cases here : call.slot = slot
      · subst here
        rw [found] at isThere
        cases isThere
        exact inductionHypothesis (getElem?_withSession found last pool) step
          (step _ _ _ _ _ _ start (only call (by simp) rfl) answered) restOnly continued
      · have foundNext :
            (service.withSession call.slot last pool).sessions[slot]? = some session := by
          rw [getElem?_withSession_of_ne here, found]
        exact inductionHypothesis foundNext step start restOnly continued

end GameService

end Gatehouse
