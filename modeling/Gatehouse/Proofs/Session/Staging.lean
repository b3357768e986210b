import Gatehouse.Proofs.Configuration.Reservation
import Gatehouse.Proofs.Session.HandedOver
import Gatehouse.Proofs.Session.Game.Progress
import Gatehouse.Proofs.Session.Login.Admission
import Gatehouse.Proofs.Session.Login.Response

namespace Gatehouse

/-!
# Outputs that stay staged

Both services show an output in full once they said how long it is. No message
touches it, not even one that ends the connection, and neither does anything
that happens in other slots: it is shown unchanged until the slot is asked for
the next output or its connection comes or goes.
-/

namespace ConnectionProtocol

/--
Whenever a service that was called says that it staged something, that long an
output is shown, and stays so while the slot is only read from.
-/
def HoldsOutputs (protocol : ConnectionProtocol σ) (start : σ) : Prop :=
  ∀ (calls : List ProtocolCall) (before after : σ) (slot length : Nat),
    protocol.run start calls = .ok before →
    protocol.produce before slot = .ok (length, after) →
    length ≠ 0 →
    ∃ staged : Bytes,
      staged.length = length ∧
        ∀ (more : List ProtocolCall) (later : σ),
          OnlyReads slot more →
          protocol.run after more = .ok later →
          protocol.staged later slot = .ok staged

/-- A service that holds its outputs does so when it is called in turn. -/
theorem HoldsOutputs.stagesSteadily
    {protocol : ConnectionProtocol σ}
    {start : σ}
    (holds : protocol.HoldsOutputs start) :
    protocol.StagesSteadily start := by
  intro calls before after slot length ran _ produced something
  obtain ⟨staged, length_eq, shown⟩ := holds calls before after slot length ran produced something
  exact ⟨staged, length_eq, fun more later onlyReads _ => shown more later onlyReads⟩

end ConnectionProtocol

namespace LoginSession

variable {session : LoginSession} {staged : Bytes}

/-- A session past its handshake that shows an output. -/
structure Holds (staged : Bytes) (session : LoginSession) : Prop where
  answered : session.phase ≠ .awaitingHello
  staged_eq : session.staged = .ok staged

/-- What a session hands over is shown in full. -/
theorem IsWhole.exists_holds_produce
    (whole : session.IsWhole)
    (something : session.produce.1 ≠ 0) :
    ∃ staged, staged.length = session.produce.1 ∧ session.produce.2.Holds staged := by
  cases phase : session.phase with
  | replying =>
      obtain ⟨shown, staged_eq⟩ := whole.exists_staged
      obtain ⟨_, shown_eq⟩ := Bytes.slice_eq_ok.mp staged_eq
      have length_eq : shown.length = session.replyLength := by
        rw [shown_eq, List.drop_zero, Nat.sub_zero]
        exact List.length_take_of_le whole.reply_inside
      simp only [produce, phase]
      exact ⟨shown, length_eq, by simp, staged_eq⟩
  | awaitingHello | replied | ended =>
      simp only [produce, phase] at something
      exact absurd rfl something

/-- No message touches what a session past its handshake shows. -/
theorem Holds.respond
    {config : Configuration}
    {service : KeyPair}
    {call : ProtocolCall}
    {answer : ProtocolAnswer}
    {after : LoginSession}
    (holds : session.Holds staged)
    (reads : call.message?.isSome = true)
    (responded : session.respond config service call = .ok (answer, after)) :
    after.Holds staged := by
  cases call with
  | accept slot peer | drop slot | produce slot =>
      cases reads
  | read slot message =>
      obtain ⟨⟨left, last⟩, taken, responded⟩ := Checked.bind_eq_ok.mp responded
      cases responded
      rw [LoginSession.read, if_pos holds.answered] at taken
      cases taken
      exact ⟨by simp [hangUp], holds.staged_eq⟩

end LoginSession

namespace LoginService

variable {config : Configuration} {key : KeyPair} {start : LoginService}

/-- A login service that is started holds its outputs. -/
theorem holdsOutputs_ofArena
    {arena rest : Arena}
    (started : ofArena arena key config = .ok (start, rest)) :
    protocol.HoldsOutputs start := by
  intro calls before after slot length ran produced something
  have whole := (isWhole_ofArena started).run ran
  obtain ⟨session, found, answered⟩ := Checked.bind_eq_ok.mp produced
  have isThere := Checked.lookUp_eq_ok.mp found
  cases answered
  obtain ⟨staged, length_eq, holds⟩ :=
    (whole.sessions_whole session (List.mem_of_getElem? isThere)).exists_holds_produce something
  refine ⟨staged, length_eq, fun more later onlyReads ranMore => ?_⟩
  obtain ⟨final, isFinal, stillHolds⟩ :=
    exists_session_of_run (getElem?_withSession isThere session.produce.2)
      (fun _ _ _ _ holds reads responded => LoginSession.Holds.respond holds reads responded)
      holds onlyReads ranMore
  exact (congrArg Outlet.staged (outlet_eq isFinal)).trans stillHolds.staged_eq

/-- A login service that is started stages steadily, which the transport relies on. -/
theorem stagesSteadily_ofArena
    {arena rest : Arena}
    (started : ofArena arena key config = .ok (start, rest)) :
    protocol.StagesSteadily start :=
  (holdsOutputs_ofArena started).stagesSteadily

end LoginService

namespace GameSession

variable {config : Configuration} {service : KeyPair} {session : GameSession}

theorem challengeStaged_reactToHandshake (handshake : GameHello) :
    (session.reactToHandshake config handshake).1.challengeStaged = session.challengeStaged := by
  unfold reactToHandshake
  split
  next accepted =>
    simp only
    split <;> rfl
  next other =>
    rfl

theorem challengeStaged_reactToCommand (command : GameCommand) :
    (session.reactToCommand command).1.challengeStaged = session.challengeStaged := by
  cases command with
  | logout | unsupportedSpeech | ignored =>
      rfl
  | say value =>
      simp only [reactToCommand]
      split
      next high =>
        rfl
      next low =>
        split
        next isDismissal =>
          rfl
        next other =>
          split <;> rfl

/-- A reaction leaves a challenge staged that was. -/
theorem challengeStaged_of_reactTo
    {message : Bytes}
    {reaction : GameReaction}
    (reacted : session.reactTo config service message = .ok reaction) :
    reaction.session.challengeStaged = session.challengeStaged := by
  have ofHello
      (awaiting : session.phase = .challenged ∨ session.phase = .awaitingHello) :
      reaction.session.challengeStaged = session.challengeStaged := by
    rw [reactTo_of_awaiting awaiting] at reacted
    obtain ⟨attempt, _, answered⟩ := Checked.bind_eq_ok.mp reacted
    cases answered
    unfold reactToHello
    split
    next error refused =>
      rfl
    next handshake readBack =>
      exact challengeStaged_reactToHandshake handshake
  cases phase : session.phase with
  | challenged =>
      exact ofHello (.inl phase)
  | awaitingHello =>
      exact ofHello (.inr phase)
  | inWorld =>
      simp only [reactTo, phase] at reacted
      obtain ⟨⟨outcome, left⟩, _, answered⟩ := Checked.bind_eq_ok.mp reacted
      cases answered
      cases outcome with
      | error error =>
          rfl
      | ok payload =>
          exact challengeStaged_reactToCommand (.ofPayload payload)
  | dismissing | dismissed | challenging | ended =>
      simp only [reactTo, phase] at reacted
      cases reacted
      rfl

/-- What is sent waits behind what is staged. -/
theorem staged_of_send
    {pool left : BlockPool}
    {reply : GameReply}
    {after : GameSession}
    (sent : session.send pool reply = .ok (after, left)) :
    after.staged = session.staged := by
  rcases send_eq_ok sent with rfl | ⟨queue, _, rfl⟩ <;> rfl

/-- No message touches what a session shows. -/
theorem staged_of_read
    {pool : BlockPool}
    {message : Bytes}
    {after : AfterRead}
    (taken : session.read config service pool message = .ok after) :
    after.session.staged = session.staged := by
  rw [read_eq_carryOut] at taken
  obtain ⟨reaction, reacted, done⟩ := Checked.bind_eq_ok.mp taken
  have reacted_eq : reaction.session.staged = session.staged := by
    unfold staged
    rw [(reactTo_keeps reacted).2, challengeStaged_of_reactTo reacted]
  rw [← reacted_eq]
  unfold GameReaction.carryOut at done
  split at done
  next silent =>
    cases done
    rfl
  next reply replied =>
    obtain ⟨⟨sender, left⟩, sent, answered⟩ := Checked.bind_eq_ok.mp done
    cases answered
    exact staged_of_send sent

theorem exists_staged_of_stageNext
    {pool left : BlockPool}
    {length : Nat}
    {after : GameSession}
    (plain : session.challengeStaged = false)
    (produced : session.stageNext pool = .ok (length, after, left))
    (something : length ≠ 0) :
    ∃ staged, staged.length = length ∧ after.staged = .ok staged := by
  rw [stageNext_eq] at produced
  split at produced
  next none =>
    cases produced
    exact absurd rfl something
  next oldest later drafts_eq =>
    obtain ⟨⟨outcome, message⟩, done, answered⟩ := Checked.bind_eq_ok.mp produced
    cases outcome with
    | error error =>
        cases answered
        exact absurd rfl something
    | ok total =>
        cases answered
        obtain ⟨shown, frame_eq, length_eq⟩ := FrameDraft.exists_frame_of_sealWith done
        refine ⟨shown, length_eq, ?_⟩
        simp only [staged, plain, Bool.false_eq_true, if_false]
        exact frame_eq

/-- What a session hands over is shown in full. -/
theorem exists_staged_of_produce
    {pool left : BlockPool}
    {length : Nat}
    {after : GameSession}
    (produced : session.produce pool = .ok (length, after, left))
    (something : length ≠ 0) :
    ∃ staged, staged.length = length ∧ after.staged = .ok staged := by
  unfold produce at produced
  cases phase : session.phase with
  | challenging =>
      simp only [phase] at produced
      cases produced
      exact ⟨challenge, rfl, rfl⟩
  | inWorld | dismissing =>
      simp only [phase] at produced
      refine @exists_staged_of_stageNext { session with challengeStaged := false } pool left length
        after rfl ?_ something
      rw [phase]
      exact produced
  | challenged | awaitingHello | dismissed | ended =>
      simp only [phase] at produced
      cases produced
      exact absurd rfl something

end GameSession

namespace GameService

/-- A game service holds its outputs, whatever state it starts in. -/
theorem holdsOutputs (start : GameService) : protocol.HoldsOutputs start := by
  intro calls before after slot length _ produced something
  obtain ⟨session, found, produced⟩ := Checked.bind_eq_ok.mp produced
  have isThere := Checked.lookUp_eq_ok.mp found
  obtain ⟨⟨total, staging, pool⟩, answered, same⟩ := Checked.bind_eq_ok.mp produced
  cases same
  obtain ⟨staged, length_eq, staged_eq⟩ := GameSession.exists_staged_of_produce answered something
  refine ⟨staged, length_eq, fun more later onlyReads ranMore => ?_⟩
  have keeps
      (session : GameSession) (pool : BlockPool) (call : ProtocolCall) (answer : ProtocolAnswer)
      (next : GameSession) (left : BlockPool)
      (shows : session.staged = .ok staged)
      (reads : call.message?.isSome = true)
      (responded :
        session.respond (before.withSession slot staging pool).config
          (before.withSession slot staging pool).key pool call = .ok (answer, next, left)) :
      next.staged = .ok staged := by
    cases call with
    | accept slot peer | drop slot | produce slot =>
        cases reads
    | read slot message =>
        obtain ⟨last, taken, responded⟩ := Checked.bind_eq_ok.mp responded
        cases responded
        rw [GameSession.staged_of_read taken]
        exact shows
  obtain ⟨final, isFinal, stillShows⟩ :=
    exists_session_of_run (getElem?_withSession isThere staging pool) keeps staged_eq onlyReads
      ranMore
  exact (congrArg Outlet.staged (outlet_eq isFinal)).trans stillShows

/-- A game service stages steadily, which the transport relies on. -/
theorem stagesSteadily (start : GameService) : protocol.StagesSteadily start :=
  (holdsOutputs start).stagesSteadily

end GameService

/--
In every state that the login service or the game service reaches, whatever its
configuration, an output that a slot hands over is shown in full, and it is
shown unchanged after any messages for the slot and any calls for other slots.
-/
theorem staged_outputs_held (config : Configuration) (key : KeyPair) :
    (∀ arena start rest,
        LoginService.ofArena arena key config = .ok (start, rest) →
        LoginService.protocol.HoldsOutputs start) ∧
      ∀ arena start,
        GameService.ofArena arena key config = .ok start →
        GameService.protocol.HoldsOutputs start :=
  ⟨fun _ _ _ started => LoginService.holdsOutputs_ofArena started,
    fun _ start _ => GameService.holdsOutputs start⟩

/-- The default services hold the reply to the default account, and the challenge. -/
theorem default_outputs_held :
    ∃ key,
      (∃ start rest body before length after,
        LoginService.ofArena Configuration.defaultArena key {} = .ok (start, rest) ∧
          LoginService.protocol.run start [.accept 0 .loopback, .read 0 body] = .ok before ∧
          LoginService.protocol.produce before 0 = .ok (length, after) ∧
          length ≠ 0 ∧
          ∃ staged : Bytes,
            staged.length = length ∧
              ∀ message later,
                LoginService.protocol.run after [.read 0 message, .accept 1 .loopback] =
                  .ok later →
                LoginService.protocol.staged later 0 = .ok staged) ∧
      ∃ start before after,
        GameService.ofArena Configuration.defaultArena key {} = .ok start ∧
          GameService.protocol.run start [.accept 0 .loopback] = .ok before ∧
          GameService.protocol.produce before 0 = .ok (14, after) ∧
          ∃ staged : Bytes,
            staged.length = 14 ∧
              ∀ message later,
                GameService.protocol.run after [.read 0 message, .accept 1 .loopback] =
                  .ok later →
                GameService.protocol.staged later 0 = .ok staged := by
  obtain ⟨key, _, wide⟩ := Hello.exists_isWideKey
  obtain ⟨ofLogin, ofGame⟩ := staged_outputs_held {} key
  have onlyReads (message : Bytes) : OnlyReads 0 [.read 0 message, .accept 1 .loopback] := by
    simp [OnlyReads, ProtocolCall.slot, ProtocolCall.message?]
  refine ⟨key, ?_, ?_⟩
  · have starts :
        ∃ start rest accepted session,
          LoginService.ofArena Configuration.defaultArena key {} = .ok (start, rest) ∧
            LoginService.protocol.accept start 0 .loopback = .ok accepted ∧
            accepted.sessions[0]? = some session ∧
            session.phase = .awaitingHello :=
      ⟨_, _, _, _, rfl, rfl, rfl, rfl⟩
    obtain ⟨start, rest, accepted, session, started, taken, found, awaiting⟩ := starts
    have accepting :
        (LoginService.protocol.perform start (.accept 0 .loopback)).Meets (fun _ => True) _ :=
      (LoginService.isSound_ofArena started).1.perform_meets (.inl trivial) _ (.inl trivial)
    have byBook :
        accepted.DecidesByBook 0 {} key Hello.sampleKey (Bytes.ofText "account") [] :=
      LoginService.decidesByBook_of_awaiting
        (Configuration.accepted_of_problems (by decide +kernel)) wide (by decide) (by decide)
        (accepting.of_eq_ok taken) found awaiting
    obtain ⟨body, left, before, length, after, frame, _, readBack, produced, _, length_eq,
      verdict⟩ := byBook
    have ran :
        LoginService.protocol.run start [.accept 0 .loopback, .read 0 body] = .ok before := by
      have read : LoginService.protocol.read accepted 0 body = .ok (left, before) := readBack
      simp only [ConnectionProtocol.run, ConnectionProtocol.perform, taken, read, bind,
        Except.bind]
      rfl
    have something : length ≠ 0 := by
      rw [length_eq]
      exact fun none => verdict.frame_ne_nil (List.length_eq_zero_iff.mp none)
    obtain ⟨staged, staged_length, shown⟩ :=
      ofLogin _ _ _ started _ before after 0 length ran produced something
    exact ⟨start, rest, body, before, length, after, started, ran, produced, something, staged,
      staged_length, fun message later => shown _ later (onlyReads message)⟩
  · have starts :
        ∃ start before after,
          GameService.ofArena Configuration.defaultArena key {} = .ok start ∧
            GameService.protocol.run start [.accept 0 .loopback] = .ok before ∧
            GameService.protocol.produce before 0 = .ok (14, after) :=
      ⟨_, _, _, rfl, rfl, rfl⟩
    obtain ⟨start, before, after, started, ran, produced⟩ := starts
    obtain ⟨staged, staged_length, shown⟩ :=
      ofGame _ _ started _ before after 0 14 ran produced (by decide)
    exact ⟨start, before, after, started, ran, produced, staged, staged_length,
      fun message later => shown _ later (onlyReads message)⟩

end Gatehouse
