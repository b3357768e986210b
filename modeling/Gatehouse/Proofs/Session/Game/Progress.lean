import Gatehouse.Proofs.Session.Game.Response
import Gatehouse.Proofs.Session.Game.Soundness

namespace Gatehouse

/-!
# Progress of a game session

What a message and a request for output can make of a session, told case by
case. The phases lie on a line, and all traffic goes forward on it: only a
connection that comes or goes leads back.
-/

/-- How far a session is on its way from the challenge to the end. -/
def GamePhase.rank : GamePhase → Nat
  | .challenging => 0
  | .challenged => 1
  | .awaitingHello => 2
  | .inWorld => 3
  | .dismissing => 4
  | .dismissed => 5
  | .ended => 6

/-- Nothing lies behind the end. -/
theorem GamePhase.rank_le_ended (phase : GamePhase) : phase.rank ≤ rank .ended := by
  cases phase <;> decide

theorem GamePhase.eq_ended {phase : GamePhase} (last : rank .ended ≤ phase.rank) :
    phase = .ended := by
  cases phase <;> first | rfl | exact absurd last (by decide)

/-- Whether a reply is the answer to a command. -/
def GameReply.answersCommand : GameReply → Bool
  | .item _ _ | .reloginPrompt => true
  | .dismissal _ | .world _ => false

namespace GameSession

/-- Whether the handshake of the client may come. -/
def Greets (session : GameSession) : Prop :=
  session.phase = .challenged ∨ session.phase = .awaitingHello

/-- A session that has the key and the credentials in a handshake. -/
structure Presents (session : GameSession) (handshake : GameHello) : Prop where
  key_eq : session.key = handshake.key
  account_eq : session.account = handshake.account
  character_eq : session.character = handshake.character
  password_eq : session.password = handshake.password

/-- What a session may make of a message. -/
inductive Reacts
    (config : Configuration)
    (service : KeyPair)
    (session : GameSession)
    (message : Bytes) : GameReaction → Prop
  | hangsUp
      {left : Bytes} :
      Reacts config service session message
        { message := left, session := session.hangUp, reply? := none }
  | passesOver
      {left : Bytes}
      (greeted : session.phase.isGreeting = false) :
      Reacts config service session message
        { message := left, session := session, reply? := none }
  | serves
      {left : Bytes}
      {reply : GameReply}
      (inside : session.phase = .inWorld)
      (answers : reply.answersCommand = true) :
      Reacts config service session message
        { message := left, session := session, reply? := some reply }
  | dismisses
      {left : Bytes}
      {dismissed : GameSession}
      {reason : String}
      (before : session.Greets ∨ session.phase = .inWorld)
      (phase : dismissed.phase = .dismissing) :
      Reacts config service session message
        { message := left, session := dismissed, reply? := some (.dismissal reason) }
  | letsIn
      {left : Bytes}
      {handshake : GameHello}
      {admitted : GameSession}
      (greets : session.Greets)
      (readBack :
        Hello.readGame service message = .ok { outcome := .ok handshake, buffer := left })
      (accepted : handshake.version = Protocol.acceptedVersion)
      (presents : admitted.Presents handshake)
      (unrefused : admitted.loginRefusal? config = none)
      (phase : admitted.phase = .inWorld) :
      Reacts config service session message
        { message := left, session := admitted, reply? := some (.world admitted.character.bytes) }

variable {config : Configuration} {service : KeyPair} {session : GameSession}

/-- What a session makes of its handshake is to let the client in, or to say why not. -/
theorem reacts_handshake
    {message left : Bytes}
    {handshake : GameHello}
    (greets : session.Greets)
    (readBack :
      Hello.readGame service message = .ok { outcome := .ok handshake, buffer := left }) :
    Reacts config service session message
      { message := left
        session := (session.reactToHandshake config handshake).1
        reply? := (session.reactToHandshake config handshake).2 } := by
  unfold reactToHandshake
  by_cases accepted : Hello.acceptsVersion handshake.version = true
  · simp only [accepted, if_true]
    split
    next unrefused =>
      exact .letsIn greets readBack (by simpa [Hello.acceptsVersion] using accepted)
        ⟨rfl, rfl, rfl, rfl⟩ unrefused rfl
    next refusal refused =>
      exact .dismisses (.inl greets) rfl
  · simp only [accepted, Bool.false_eq_true, if_false]
    exact .dismisses (.inl greets) rfl

theorem reacts_command
    {message left : Bytes}
    (inside : session.phase = .inWorld)
    (command : GameCommand) :
    Reacts config service session message
      { message := left
        session := (session.reactToCommand command).1
        reply? := (session.reactToCommand command).2 } := by
  have greeted : session.phase.isGreeting = false := by
    rw [inside]
    rfl
  cases command with
  | logout | unsupportedSpeech =>
      exact .hangsUp
  | ignored =>
      exact .passesOver greeted
  | say value =>
      simp only [reactToCommand]
      split
      next high =>
        exact .serves inside rfl
      next low =>
        split
        next isDismissal =>
          exact .dismisses (.inr inside) rfl
        next other =>
          split
          next isRelogin =>
            exact .serves inside rfl
          next isNothing =>
            exact .passesOver greeted

/-- Every reaction is one of these. -/
theorem reacts_of_reactTo
    {message : Bytes}
    {reaction : GameReaction}
    (reacted : session.reactTo config service message = .ok reaction) :
    Reacts config service session message reaction := by
  have ofHello (greets : session.Greets) : Reacts config service session message reaction := by
    rw [reactTo_of_awaiting greets] at reacted
    obtain ⟨⟨outcome, left⟩, readBack, answered⟩ := Checked.bind_eq_ok.mp reacted
    cases answered
    cases outcome with
    | error error =>
        exact .hangsUp
    | ok handshake =>
        exact reacts_handshake greets readBack
  cases phase : session.phase with
  | challenged =>
      exact ofHello (.inl phase)
  | awaitingHello =>
      exact ofHello (.inr phase)
  | inWorld =>
      simp only [reactTo, phase] at reacted
      obtain ⟨⟨outcome, left⟩, _, answered⟩ := Checked.bind_eq_ok.mp reacted
      cases answered
      cases outcome with
      | error error =>
          exact .hangsUp
      | ok payload =>
          exact reacts_command phase (.ofPayload payload)
  | dismissing | dismissed =>
      simp only [reactTo, phase] at reacted
      cases reacted
      exact .passesOver (by rw [phase]; rfl)
  | challenging | ended =>
      simp only [reactTo, phase] at reacted
      cases reacted
      exact .hangsUp

/-- A session sends a reply behind what waits, or hangs up. -/
theorem send_eq_ok
    {pool left : BlockPool}
    {reply : GameReply}
    {after : GameSession}
    (sent : session.send pool reply = .ok (after, left)) :
    after = session.hangUp ∨
      ∃ queue, queue.drafts ≠ [] ∧ after = { session with queue := queue } := by
  simp only [send, Checked.bind_eq_ok] at sent
  rcases sent with ⟨made, ensured, sent⟩
  cases made with
  | none =>
      cases sent
      exact .inl rfl
  | some granted =>
      cases sent
      exact .inr ⟨_, FrameQueue.drafts_append (FrameQueue.drafts_of_ensureRoom ensured) _, rfl⟩

/-- Carrying a reaction out changes what waits, or ends the session. -/
theorem carryOut_eq_ok
    {reaction : GameReaction}
    {pool : BlockPool}
    {after : AfterRead}
    (done : reaction.carryOut pool = .ok after) :
    after.session.phase = .ended ∨
      ∃ queue, after.session = { reaction.session with queue := queue } := by
  unfold GameReaction.carryOut at done
  split at done
  next silent =>
    cases done
    exact .inr ⟨reaction.session.queue, rfl⟩
  next reply replied =>
    obtain ⟨⟨sender, left⟩, sent, answered⟩ := Checked.bind_eq_ok.mp done
    cases answered
    rcases send_eq_ok sent with hungUp | ⟨queue, _, queued⟩
    · exact .inl (by rw [hungUp, hangUp])
    · exact .inr ⟨queue, queued⟩

/-- What a request for output may make of a session. -/
inductive Produces (session : GameSession) : Nat → GameSession → Prop
  | challenge
      (phase : session.phase = .challenging) :
      Produces session challenge.length
        { session with phase := .challenged, challengeStaged := true }
  | settles
      (phase : session.phase = .challenged) :
      Produces session 0 { session with phase := .awaitingHello, challengeStaged := false }
  | rests
      {staged? : Option FrameDraft} :
      Produces session 0 { session with staged? := staged?, challengeStaged := false }
  | ends
      {queue : FrameQueue}
      {staged? : Option FrameDraft} :
      Produces session 0
        { session with
          queue := queue
          staged? := staged?
          phase := .ended
          challengeStaged := false }
  | stages
      {length : Nat}
      {queue : FrameQueue}
      {staged? : Option FrameDraft}
      {phase : GamePhase}
      (before : session.phase = .inWorld ∨ session.phase = .dismissing)
      (forward : phase = session.phase ∨ session.phase = .dismissing ∧ phase = .dismissed) :
      Produces session length
        { session with
          queue := queue
          staged? := staged?
          phase := phase
          challengeStaged := false }

theorem produces_of_stageNext
    {pool left : BlockPool}
    {length : Nat}
    {after : GameSession}
    (before : session.phase = .inWorld ∨ session.phase = .dismissing)
    (produced :
      { session with challengeStaged := false }.stageNext pool = .ok (length, after, left)) :
    session.Produces length after := by
  rw [stageNext_eq] at produced
  split at produced
  next none =>
    cases produced
    exact .rests
  next oldest later drafts_eq =>
    obtain ⟨⟨outcome, message⟩, _, answered⟩ := Checked.bind_eq_ok.mp produced
    cases outcome with
    | error error =>
        cases answered
        exact .ends
    | ok length =>
        cases answered
        exact .stages before (phaseAfterStaging_eq _ _)

/-- Every output is one of these. -/
theorem produces_of_produce
    {pool left : BlockPool}
    {length : Nat}
    {after : GameSession}
    (produced : session.produce pool = .ok (length, after, left)) :
    session.Produces length after := by
  unfold produce at produced
  simp only at produced
  split at produced
  next phase =>
    cases produced
    exact .challenge phase
  next phase =>
    cases produced
    exact .settles phase
  next phase =>
    exact produces_of_stageNext (.inl phase) produced
  next phase =>
    exact produces_of_stageNext (.inr phase) produced
  next phase =>
    cases produced
    exact .ends
  next phase =>
    cases produced
    exact .rests
  next phase =>
    cases produced
    exact .rests

/-- A message leads forward. -/
theorem rank_read
    {pool : BlockPool}
    {message : Bytes}
    {after : AfterRead}
    (taken : session.read config service pool message = .ok after) :
    session.phase.rank ≤ after.session.phase.rank := by
  rw [read_eq_carryOut] at taken
  obtain ⟨reaction, reacted, done⟩ := Checked.bind_eq_ok.mp taken
  rcases carryOut_eq_ok done with isOver | ⟨queue, queued⟩
  · rw [isOver]
    exact session.phase.rank_le_ended
  · rw [queued]
    cases reacts_of_reactTo reacted with
    | hangsUp =>
        exact session.phase.rank_le_ended
    | passesOver | serves =>
        exact Nat.le_refl _
    | dismisses before phase =>
        rw [phase]
        rcases before with (phase | phase) | phase <;> rw [phase] <;> decide
    | letsIn greets _ _ _ _ phase =>
        rw [phase]
        rcases greets with phase | phase <;> rw [phase] <;> decide

/-- An output leads forward. -/
theorem Produces.rank_le
    {length : Nat}
    {after : GameSession}
    (produces : session.Produces length after) :
    session.phase.rank ≤ after.phase.rank := by
  cases produces with
  | challenge phase | settles phase =>
      simp [phase, GamePhase.rank]
  | rests =>
      exact Nat.le_refl _
  | ends =>
      exact session.phase.rank_le_ended
  | stages before forward =>
      rcases forward with same | ⟨was, last⟩
      · rw [same]
      · simp [was, last, GamePhase.rank]

/-- All traffic leads forward. -/
theorem rank_respond
    {pool left : BlockPool}
    {call : ProtocolCall}
    {answer : ProtocolAnswer}
    {after : GameSession}
    (isTraffic : call.isTraffic = true)
    (responded : session.respond config service pool call = .ok (answer, after, left)) :
    session.phase.rank ≤ after.phase.rank := by
  cases call with
  | accept slot peer | drop slot =>
      cases isTraffic
  | read slot message =>
      obtain ⟨last, taken, responded⟩ := Checked.bind_eq_ok.mp responded
      cases responded
      exact rank_read taken
  | produce slot =>
      obtain ⟨⟨length, last, pool⟩, produced, responded⟩ := Checked.bind_eq_ok.mp responded
      cases responded
      exact (produces_of_produce produced).rank_le

end GameSession

end Gatehouse
