import Gatehouse.Session.Game.Basic
import Gatehouse.Proofs.Outcomes
import Gatehouse.Proofs.Frame.Opening
import Gatehouse.Proofs.Hello.Reading
import Gatehouse.Proofs.Session.Game.Reply

namespace Gatehouse

/-!
# Reactions of a game session

What a session makes of a message, told apart from what becomes of the reply:
the session as it is when the reply is sent, and the reply itself, if there is
one. Reading a message is reacting to it and then sending the reply.
-/

/-- What a session makes of a message, before the reply is put in the queue. -/
structure GameReaction where
  /-- The message as it was left. -/
  message : Bytes
  session : GameSession
  reply? : Option GameReply

/-- Whether a session has not taken the client's handshake yet. -/
def GamePhase.isGreeting : GamePhase → Bool
  | .challenging | .challenged | .awaitingHello => true
  | .inWorld | .dismissing | .dismissed | .ended => false

namespace GameReaction

/-- Send the reply, if there is one. -/
def carryOut (reaction : GameReaction) (pool : BlockPool) : Checked GameSession.AfterRead :=
  match reaction.reply? with
  | none => .ok { message := reaction.message, session := reaction.session, pool := pool }
  | some reply => do
      let (session, pool) ← reaction.session.send pool reply
      return { message := reaction.message, session := session, pool := pool }

end GameReaction

namespace GameSession

/-- The session that a reason ends, and the reason. -/
def dismissedFor (session : GameSession) (reason : String) : GameSession × Option GameReply :=
  ({ session with phase := .dismissing }, some (.dismissal reason))

/-- What a session makes of a handshake. -/
def reactToHandshake
    (config : Configuration)
    (session : GameSession)
    (handshake : GameHello) :
    GameSession × Option GameReply :=
  let session := { session with key := handshake.key }
  if Hello.acceptsVersion handshake.version then
    let session := { session with
      account := handshake.account
      character := handshake.character
      password := handshake.password }
    match session.loginRefusal? config with
    | none => ({ session with phase := .inWorld }, some (.world session.character.bytes))
    | some refusal => session.dismissedFor refusal.message
  else
    session.dismissedFor Protocol.wrongVersion

/-- What a session makes of a command. -/
def reactToCommand (session : GameSession) : GameCommand → GameSession × Option GameReply
  | .logout | .unsupportedSpeech => (session.hangUp, none)
  | .ignored => (session, none)
  | .say value =>
      if 100 ≤ value then (session, some (.item saidItemSlot value))
      else if value = 14 then session.dismissedFor "test"
      else if value = 15 then (session, some .reloginPrompt)
      else (session, none)

/-- What a session makes of a message. -/
def reactTo
    (config : Configuration)
    (service : KeyPair)
    (session : GameSession)
    (message : Bytes) :
    Checked GameReaction :=
  match session.phase with
  | .challenged | .awaitingHello => do
      let attempt ← Hello.readGame service message
      let (session, reply?) := match attempt.outcome with
        | .error _ => (session.hangUp, none)
        | .ok handshake => session.reactToHandshake config handshake
      return { message := attempt.buffer, session := session, reply? := reply? }
  | .inWorld => do
      let attempt ← Frame.extract message session.key
      let (session, reply?) := match attempt.outcome with
        | .error _ => (session.hangUp, none)
        | .ok payload => session.reactToCommand (.ofPayload payload)
      return { message := attempt.buffer, session := session, reply? := reply? }
  | .dismissing | .dismissed =>
      .ok { message := message, session := session, reply? := none }
  | .challenging | .ended =>
      .ok { message := message, session := session.hangUp, reply? := none }

/-- What a session makes of its handshake, which may be spoiled. -/
def reactToHello
    (config : Configuration)
    (session : GameSession)
    (attempt : Attempt HelloError GameHello) :
    GameReaction :=
  match attempt.outcome with
  | .error _ => { message := attempt.buffer, session := session.hangUp, reply? := none }
  | .ok handshake =>
      let (session, reply?) := session.reactToHandshake config handshake
      { message := attempt.buffer, session := session, reply? := reply? }

theorem reactTo_of_awaiting
    {session : GameSession}
    (awaiting : session.phase = .challenged ∨ session.phase = .awaitingHello)
    (config : Configuration)
    (service : KeyPair)
    (message : Bytes) :
    session.reactTo config service message =
      Hello.readGame service message >>= fun attempt =>
        .ok (session.reactToHello config attempt) := by
  unfold reactTo
  rcases awaiting with phase | phase
  all_goals
    rw [phase]
    refine bind_congr fun attempt => ?_
    rw [reactToHello]
    cases attempt.outcome <;> rfl

theorem answer_eq_send
    (config : Configuration)
    (session : GameSession)
    (pool : BlockPool)
    (handshake : GameHello) :
    ∃ reply,
      (session.reactToHandshake config handshake).2 = some reply ∧
        session.answer config pool handshake =
          (session.reactToHandshake config handshake).1.send pool reply := by
  unfold answer reactToHandshake
  by_cases accepted : Hello.acceptsVersion handshake.version = true
  · simp only [if_pos accepted]
    cases loginRefusal? config { session with
        key := handshake.key
        account := handshake.account
        character := handshake.character
        password := handshake.password } with
    | none =>
        exact ⟨_, rfl, rfl⟩
    | some refusal =>
        exact ⟨_, rfl, rfl⟩
  · simp only [if_neg accepted]
    exact ⟨_, rfl, rfl⟩

theorem serve_eq_send
    (session : GameSession)
    (pool : BlockPool)
    (command : GameCommand) :
    session.serve pool command =
      match (session.reactToCommand command).2 with
      | none => .ok ((session.reactToCommand command).1, pool)
      | some reply => (session.reactToCommand command).1.send pool reply := by
  cases command with
  | logout =>
      rfl
  | unsupportedSpeech =>
      rfl
  | ignored =>
      rfl
  | say value =>
      simp only [serve, reactToCommand]
      split
      next high =>
        rfl
      next low =>
        split
        next isDismissal =>
          rfl
        next other =>
          split <;> rfl

/-- Reading a message is reacting to it and carrying the reaction out. -/
theorem read_eq_carryOut
    (config : Configuration)
    (service : KeyPair)
    (session : GameSession)
    (pool : BlockPool)
    (message : Bytes) :
    session.read config service pool message =
      session.reactTo config service message >>= fun reaction => reaction.carryOut pool := by
  have handshake :
      session.readHandshake config service pool message =
        Hello.readGame service message >>= fun attempt =>
          let (session, reply?) := match attempt.outcome with
            | .error _ => (session.hangUp, none)
            | .ok handshake => session.reactToHandshake config handshake
          GameReaction.carryOut
            { message := attempt.buffer, session := session, reply? := reply? } pool := by
    unfold readHandshake
    congr 1
    funext attempt
    cases attempt.outcome with
    | error error =>
        rfl
    | ok handshake =>
        obtain ⟨reply, replied, answered⟩ := answer_eq_send config session pool handshake
        simp only [answered, GameReaction.carryOut, replied]
  have command :
      session.readCommand pool message =
        Frame.extract message session.key >>= fun attempt =>
          let (session, reply?) := match attempt.outcome with
            | .error _ => (session.hangUp, none)
            | .ok payload => session.reactToCommand (.ofPayload payload)
          GameReaction.carryOut
            { message := attempt.buffer, session := session, reply? := reply? } pool := by
    unfold readCommand
    congr 1
    funext attempt
    cases attempt.outcome with
    | error error =>
        rfl
    | ok payload =>
        simp only [serve_eq_send, GameReaction.carryOut]
        cases (session.reactToCommand (.ofPayload payload)).2 <;> rfl
  unfold read reactTo
  cases session.phase with
  | challenging =>
      rfl
  | challenged =>
      simp only [handshake, bind_assoc, pure_bind]
  | awaitingHello =>
      simp only [handshake, bind_assoc, pure_bind]
  | inWorld =>
      simp only [command, bind_assoc, pure_bind]
  | dismissing =>
      rfl
  | dismissed =>
      rfl
  | ended =>
      rfl

/--
What a session may make of a message: what waits and what is staged stay as
they are, a reply is modest, and a session that goes on is past its greeting
and keeps its key, unless the message was the client's handshake.
-/
structure ReactsProperly (before after : GameSession) (reply? : Option GameReply) : Prop where
  queue_eq : after.queue = before.queue
  staged_eq : after.staged? = before.staged?
  challengeStaged_eq : after.challengeStaged = before.challengeStaged
  character_short : after.character.bytes.length ≤ Credential.maxLength
  reply_modest : ∀ reply, reply? = some reply → reply.IsModest
  greeted : after.phase.isGreeting = false
  key_eq : after.phase = .ended ∨ before.phase.isGreeting = true ∨ after.key = before.key
  not_ended : after.phase ≠ .ended → before.phase ≠ .ended

theorem reactsProperly_hangUp
    {session : GameSession}
    (short : session.character.bytes.length ≤ Credential.maxLength) :
    session.ReactsProperly session.hangUp none :=
  ⟨rfl, rfl, rfl, short, by simp, rfl, .inl rfl, fun going => absurd rfl going⟩

theorem reactsProperly_handshake
    {config : Configuration}
    {session : GameSession}
    {handshake : GameHello}
    (greeting : session.phase.isGreeting = true)
    (short : session.character.bytes.length ≤ Credential.maxLength)
    (presented : handshake.character.bytes.length ≤ Credential.maxLength) :
    session.ReactsProperly (session.reactToHandshake config handshake).1
      (session.reactToHandshake config handshake).2 := by
  have going : session.phase ≠ .ended := by
    intro ended
    rw [ended] at greeting
    cases greeting
  unfold reactToHandshake
  split
  next accepted =>
    simp only
    split
    next admitted =>
      refine ⟨rfl, rfl, rfl, presented, ?_, rfl, .inr (.inl greeting), fun _ => going⟩
      intro reply same
      cases same
      exact presented
    next refusal refused =>
      refine ⟨rfl, rfl, rfl, presented, ?_, rfl, .inr (.inl greeting), fun _ => going⟩
      intro reply same
      cases same
      cases refusal <;> decide
  next other =>
    refine ⟨rfl, rfl, rfl, short, ?_, rfl, .inr (.inl greeting), fun _ => going⟩
    intro reply same
    cases same
    decide

theorem reactsProperly_command
    {session : GameSession}
    (inside : session.phase = .inWorld)
    (short : session.character.bytes.length ≤ Credential.maxLength)
    (command : GameCommand) :
    session.ReactsProperly (session.reactToCommand command).1
      (session.reactToCommand command).2 := by
  have going : session.phase ≠ .ended := by
    simp [inside]
  have greeted : session.phase.isGreeting = false := by
    rw [inside]
    rfl
  have quiet : session.ReactsProperly session none :=
    ⟨rfl, rfl, rfl, short, by simp, greeted, .inr (.inr rfl), fun _ => going⟩
  cases command with
  | logout =>
      exact reactsProperly_hangUp short
  | unsupportedSpeech =>
      exact reactsProperly_hangUp short
  | ignored =>
      exact quiet
  | say value =>
      simp only [reactToCommand]
      split
      next high =>
        refine ⟨rfl, rfl, rfl, short, ?_, greeted, .inr (.inr rfl), fun _ => going⟩
        intro reply same
        cases same
        trivial
      next low =>
        split
        next isDismissal =>
          refine ⟨rfl, rfl, rfl, short, ?_, rfl, .inr (.inr rfl), fun _ => going⟩
          intro reply same
          cases same
          decide
        next other =>
          split
          next isRelogin =>
            refine ⟨rfl, rfl, rfl, short, ?_, greeted, .inr (.inr rfl), fun _ => going⟩
            intro reply same
            cases same
            trivial
          next isNothing =>
            exact quiet

/-- Every message is reacted to properly, unless the key is too wide for a handshake. -/
theorem reactTo_meets
    {allowed : Fault → Prop}
    {config : Configuration}
    {service : KeyPair}
    {session : GameSession}
    (keyed : allowed .brokenKey ∨ Hello.FitsBlock service)
    (short : session.character.bytes.length ≤ Credential.maxLength)
    (message : Bytes) :
    (session.reactTo config service message).Meets allowed fun reaction =>
      session.ReactsProperly reaction.session reaction.reply? := by
  have ofHandshake
      (greeting : session.phase.isGreeting = true)
      (attempt : Attempt HelloError GameHello)
      (presented :
        ∀ handshake,
          attempt.outcome = .ok handshake →
          handshake.character.bytes.length ≤ Credential.maxLength) :
      let answer := match attempt.outcome with
        | .error _ => (session.hangUp, none)
        | .ok handshake => session.reactToHandshake config handshake
      session.ReactsProperly answer.1 answer.2 := by
    cases read : attempt.outcome with
    | error error =>
        exact reactsProperly_hangUp short
    | ok handshake =>
        exact reactsProperly_handshake greeting short (presented handshake read)
  unfold reactTo
  split
  next phase =>
    refine Checked.Meets.bind (Hello.readGame_meets keyed message) ?_
    exact ofHandshake (by rw [phase]; rfl)
  next phase =>
    refine Checked.Meets.bind (Hello.readGame_meets keyed message) ?_
    exact ofHandshake (by rw [phase]; rfl)
  next phase =>
    obtain ⟨attempt, extracted⟩ := Frame.exists_extract message session.key
    rw [extracted]
    change session.ReactsProperly _ _
    cases attempt.outcome with
    | error error =>
        exact reactsProperly_hangUp short
    | ok payload =>
        exact reactsProperly_command phase short (.ofPayload payload)
  next phase =>
    exact ⟨rfl, rfl, rfl, short, by simp, by rw [phase]; rfl, .inr (.inr rfl), id⟩
  next phase =>
    exact ⟨rfl, rfl, rfl, short, by simp, by rw [phase]; rfl, .inr (.inr rfl), id⟩
  next phase =>
    exact reactsProperly_hangUp short
  next phase =>
    exact reactsProperly_hangUp short

end GameSession

end Gatehouse
