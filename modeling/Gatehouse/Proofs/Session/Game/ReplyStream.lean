import Gatehouse.Proofs.Frame.RoundTrip
import Gatehouse.Proofs.Hello.Block
import Gatehouse.Proofs.Session.Game.Admission

namespace Gatehouse

/-!
# No reply is lost, doubled, moved or split

Along every run of a game service the replies generated for a connection are,
in order, those in the frames handed over and those in the drafts that wait.
Every reply lies in one frame, and every draft can be sealed when its turn
comes.
-/

/-- Groups of replies that are spelled one by one are spelled in a row. -/
theorem GameReply.bytes?_flatten
    {groups : List (List GameReply)}
    {payloads : List Bytes}
    (spelled : groups.map bytes? = payloads.map some) :
    bytes? groups.flatten = some payloads.flatten := by
  induction groups generalizing payloads with
  | nil =>
      have none : payloads = [] := by
        simpa using spelled.symm
      rw [none]
      rfl
  | cons group rest inductionHypothesis =>
      obtain ⟨first, later, rfl, ofFirst, ofLater⟩ := List.map_eq_cons_iff.mp spelled.symm
      have tail := inductionHypothesis ofLater.symm
      rw [List.flatten_cons, List.flatten_cons, bytes?, List.flatMap_append]
      exact Packet.encoding?_append ofFirst.symm tail

namespace GameSession

/--
What a session that goes on has done with the replies generated for it: each
frame opens under the session's key to the bytes of one group of replies, each
waiting draft holds the bytes of one, and the groups in order are all replies.
-/
structure Streams
    (size : Nat)
    (session : GameSession)
    (transcript : Transcript)
    (sent waiting : List (List GameReply)) : Prop where
  replies_eq : transcript.replies = sent.flatten ++ waiting.flatten
  frames_short : ∀ frame ∈ transcript.frames, frame.length ≤ size
  sent_spelled :
    ∃ payloads : List Bytes,
      transcript.frames.map (Frame.opened? session.key) = payloads.map some ∧
        sent.map GameReply.bytes? = payloads.map some
  waiting_spelled :
    waiting.map GameReply.bytes? = (session.queue.drafts.map FrameDraft.payload).map some

/-- A session that follows its transcript streams its replies. -/
theorem Follows.streams
    {size : Nat}
    {session : GameSession}
    {transcript : Transcript}
    (follows : session.Follows size transcript)
    (small : size ≤ Frame.maxLength)
    (going : session.phase ≠ .ended) :
    ∃ sent waiting, session.Streams size transcript sent waiting := by
  obtain ⟨sent, waiting, split⟩ := follows.split going
  obtain ⟨payloads, sentSpelled, frames_eq, short⟩ := split.sent_spelled
  refine ⟨sent, waiting, split.replies_eq, ?_, ⟨payloads, ?_, sentSpelled⟩, ?_⟩
  · rw [frames_eq]
    intro frame member
    obtain ⟨payload, isPayload, rfl⟩ := List.mem_map.mp member
    rw [Frame.length_frameAround]
    exact short payload isPayload
  · rw [frames_eq, List.map_map]
    apply List.map_congr_left
    intro payload member
    exact Frame.opened?_frameAround session.key (Nat.le_trans (short payload member) small)
  · rw [List.map_map]
    exact split.waiting_spelled

/-- What was sent and what waits are together the bytes of all replies. -/
theorem Streams.bytes?_replies
    {size : Nat}
    {session : GameSession}
    {transcript : Transcript}
    {sent waiting : List (List GameReply)}
    (streams : session.Streams size transcript sent waiting) :
    ∃ payloads : List Bytes,
      transcript.frames.map (Frame.opened? session.key) = payloads.map some ∧
        GameReply.bytes? transcript.replies =
          some (payloads.flatten ++ (session.queue.drafts.map FrameDraft.payload).flatten) := by
  obtain ⟨payloads, opened, sentSpelled⟩ := streams.sent_spelled
  refine ⟨payloads, opened, ?_⟩
  rw [streams.replies_eq, ← List.flatten_append, ← List.flatten_append]
  apply GameReply.bytes?_flatten
  rw [List.map_append, List.map_append, sentSpelled, streams.waiting_spelled]

end GameSession

namespace GameService

/--
Along every run of a service that a validated configuration starts, every
waiting draft can be sealed, and for every session that goes on the frames it
handed over and the drafts that wait are together the bytes of all replies
generated for its connection, reply by reply and in order. With a key made from
primes, on an arena that is placed and for slots that exist, a run stops only
when the arena is exhausted.
-/
theorem run_streams_replies
    {config : Configuration}
    {arena : Arena}
    {key : KeyPair}
    {service : GameService}
    (valid : config.problems = .ok [])
    (started : ofArena arena key config = .ok service)
    (calls : List ProtocolCall) :
    (∀ after,
      protocol.run service calls = .ok after →
      ∃ ledger,
        service.observeAll .empty calls = .ok (after, ledger) ∧
          ∀ (slot : Nat) (session : GameSession),
            after.sessions[slot]? = some session →
            (∀ draft ∈ session.queue.drafts,
              ∃ length message, draft.sealWith session.key = .ok (.ok length, message)) ∧
              (session.phase ≠ .ended →
                (∃ sent waiting,
                  session.Streams config.game.outputBufferSize (ledger slot) sent waiting) ∧
                  ∃ payloads : List Bytes,
                    (ledger slot).frames.map (Frame.opened? session.key) = payloads.map some ∧
                      GameReply.bytes? (ledger slot).replies =
                        some (payloads.flatten ++
                          (session.queue.drafts.map FrameDraft.payload).flatten))) ∧
      ∀ firstPrime secondPrime exponent,
        KeyPair.ofPrimes firstPrime secondPrime exponent = .ok key →
        arena.IsPlaced →
        (∀ call ∈ calls, call.slot < config.game.maxConnections) →
        ∀ fault, protocol.run service calls = .error fault → fault = .exhausted := by
  have accepted := Configuration.accepted_of_problems valid
  have small : config.game.outputBufferSize ≤ Frame.maxLength :=
    Nat.le_trans accepted.output_le (by decide)
  constructor
  · intro after ran
    obtain ⟨sound, follows⟩ :=
      isSound_ofArena started (BlockPool.Balanced.ofArena arena _)
    have kept :=
      sound.run_meets accepted (BlockPool.balanced_contract _ _) (.inl trivial) calls
        (.inl trivial) follows
    obtain ⟨afterSound, ledger, observed, afterFollows⟩ := kept.of_eq_ok ran
    refine ⟨ledger, observed, ?_⟩
    intro slot session found
    have sessionSound := afterSound.sessions_sound session (List.mem_of_getElem? found)
    constructor
    · intro draft member
      obtain ⟨draftSound, filled⟩ := sessionSound.drafts_sound draft member
      obtain ⟨message, done, _⟩ := draftSound.sealWith_eq session.key small filled
      exact ⟨_, message, done⟩
    · intro going
      obtain ⟨sent, waiting, streams⟩ := (afterFollows slot session found).streams small going
      exact ⟨⟨sent, waiting, streams⟩, streams.bytes?_replies⟩
  · intro firstPrime secondPrime exponent made placed inside fault stopped
    have books : BlockPool.BalancedAndPlaced config.game.outputBufferSize 0
        (.ofArena arena config.game.outputBufferSize) :=
      ⟨BlockPool.Balanced.ofArena arena _, placed⟩
    have fitting := Hello.fitsBlock_of_isMade (KeyPair.isMade_of_ofPrimes made).1
    obtain ⟨sound, follows⟩ := isSound_ofArena started books
    have kept :=
      sound.run_meets accepted (BlockPool.placed_contract _ _) (.inr fitting) calls (.inr inside)
        follows
    exact kept.of_eq_error stopped

/-- The default player is let into the world, and the snapshot of it waits to be sent. -/
theorem default_player_streams_world :
    ∃ key service calls after ledger session,
      ofArena Configuration.defaultArena key {} = .ok service ∧
        protocol.run service calls = .ok after ∧
        service.observeAll .empty calls = .ok (after, ledger) ∧
        after.sessions[0]? = some session ∧
        session.phase = .inWorld ∧
        session.queue.drafts ≠ [] ∧
        (∃ sent waiting, session.Streams 16384 (ledger 0) sent waiting) ∧
        ∀ fault, protocol.run service calls = .error fault → fault = .exhausted := by
  have valid : Configuration.problems {} = .ok [] := by
    decide +kernel
  have accepted := Configuration.accepted_of_problems valid
  obtain ⟨key, made, wide⟩ := Hello.exists_isWideKey
  have greets :
      ∃ service before session,
        ofArena Configuration.defaultArena key {} = .ok service ∧
          protocol.run service [.accept 0 .loopback, .produce 0] = .ok before ∧
          before.sessions[0]? = some session ∧
          session.phase = .challenged ∧
          before.pool = .ofArena Configuration.defaultArena 16384 :=
    ⟨_, _, _, rfl, rfl, rfl, rfl, rfl⟩
  obtain ⟨service, before, session, started, greeted, found, challenged, pool_eq⟩ := greets
  have books :
      BlockPool.BalancedAndReserved 16384 1 Configuration.defaultArena 0
        (.ofArena Configuration.defaultArena 16384) :=
    ⟨BlockPool.Balanced.ofArena _ _, Configuration.isPlaced_defaultArena, by decide, .refl _,
      Nat.zero_le _⟩
  obtain ⟨granted, acquired, _⟩ :=
    ((BlockPool.reserved_contract _ _ _).acquire books Nat.zero_lt_one).exists_eq_ok
  rw [← pool_eq] at acquired
  obtain ⟨sound, follows⟩ := isSound_ofArena started (BlockPool.Balanced.ofArena _ _)
  have kept :=
    sound.run_meets accepted (BlockPool.balanced_contract _ _) (.inl trivial)
      [.accept 0 .loopback, .produce 0] (.inl trivial) follows
  have byBook :
      before.DecidesByBook 0 {} key Hello.sampleKey (Bytes.ofText "account")
        (Bytes.ofText "Player") [] :=
    decidesByBook_of_waiting accepted wide (by decide) (by decide) (by decide)
      (kept.of_eq_ok greeted).1 found (.inl challenged)
  obtain ⟨body, _, _, answers⟩ := byBook
  obtain ⟨message, after, answered, payload, readBack, isThere, verdict⟩ := answers _ acquired
  have admits : Configuration.Admits {} (Bytes.ofText "account") (Bytes.ofText "Player") [] := by
    refine ⟨{ name := "account", characters := ["Player"] }, ?_, ⟨rfl, .inl rfl⟩, "Player", ?_, rfl⟩
    · simp
    · simp
  have inWorld := verdict.inWorld_iff.mpr admits
  have waits : answered.queue.drafts ≠ [] := by
    intro none
    have waiting := verdict.waiting_eq
    rw [none] at waiting
    cases waiting
  have ran :
      protocol.run service ([.accept 0 .loopback, .produce 0] ++ [.read 0 body]) = .ok after := by
    rw [ConnectionProtocol.run_append, greeted]
    simp only [bind, Except.bind, ConnectionProtocol.run, ConnectionProtocol.perform, protocol,
      readBack]
    rfl
  obtain ⟨streams, stops⟩ :=
    run_streams_replies valid started ([.accept 0 .loopback, .produce 0] ++ [.read 0 body])
  obtain ⟨ledger, observed, ofSlots⟩ := streams _ ran
  obtain ⟨_, ofGoing⟩ := ofSlots 0 _ isThere
  obtain ⟨split, _⟩ := ofGoing (by rw [inWorld]; decide)
  exact ⟨key, service, _, after, ledger, answered, started, ran, observed, isThere, inWorld, waits,
    split, stops _ _ _ made Configuration.isPlaced_defaultArena (by simp [ProtocolCall.slot])⟩

end GameService

end Gatehouse
