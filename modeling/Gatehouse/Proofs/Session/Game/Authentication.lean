import Gatehouse.Proofs.Session.Game.Progress
import Gatehouse.Proofs.Session.Game.ReplyStream

namespace Gatehouse

/-!
# No command is served before authentication

A session is in the world only for a client whose handshake was read on the same
connection and is let in by the account book. It has sent one snapshot of the
world then, before all answers to commands, and before anything else it has
handed over the challenge.
-/

namespace GameSession

variable {config : Configuration} {service : KeyPair} {session after : GameSession}

/-- Two sessions of the same client. -/
structure SameClient (session after : GameSession) : Prop where
  key_eq : after.key = session.key
  account_eq : after.account = session.account
  character_eq : after.character = session.character
  password_eq : after.password = session.password

/--
A session with the key and the credentials in a handshake of the accepted
version, which is one of the messages, and by these credentials it is let in.
-/
structure IsAuthenticated
    (config : Configuration)
    (service : KeyPair)
    (session : GameSession)
    (messages : List Bytes) : Prop where
  presented :
    ∃ message ∈ messages,
      ∃ handshake left,
        Hello.readGame service message = .ok { outcome := .ok handshake, buffer := left } ∧
          handshake.version = Protocol.acceptedVersion ∧
          session.Presents handshake
  unrefused : session.loginRefusal? config = none

namespace IsAuthenticated

variable {messages : List Bytes}
  (authenticated : session.IsAuthenticated config service messages)

include authenticated

theorem of_sameClient (same : session.SameClient after) :
    after.IsAuthenticated config service messages := by
  obtain ⟨message, member, handshake, left, readBack, accepted, presents⟩ := authenticated.presented
  refine ⟨⟨message, member, handshake, left, readBack, accepted, ?_⟩, ?_⟩
  · exact ⟨same.key_eq.trans presents.key_eq, same.account_eq.trans presents.account_eq,
      same.character_eq.trans presents.character_eq, same.password_eq.trans presents.password_eq⟩
  · have unrefused := authenticated.unrefused
    unfold loginRefusal? openedAccount? at unrefused ⊢
    rw [same.account_eq, same.password_eq, same.character_eq]
    exact unrefused

theorem append (more : List Bytes) :
    session.IsAuthenticated config service (messages ++ more) := by
  obtain ⟨message, member, presented⟩ := authenticated.presented
  exact ⟨⟨message, List.mem_append_left more member, presented⟩, authenticated.unrefused⟩

end IsAuthenticated

/-- Where a session stands, by the messages that it read and the outputs that it gave. -/
structure Stands
    (config : Configuration)
    (service : KeyPair)
    (session : GameSession)
    (messages : List Bytes)
    (outputs : List Output) : Prop where
  authenticated : session.phase = .inWorld → session.IsAuthenticated config service messages
  unchallenged : session.phase = .challenging → handedOver outputs = []
  challenged : session.phase ≠ .challenging → session.phase ≠ .ended → handedOver outputs ≠ []

/-- A connection that comes or goes leaves a session that starts anew. -/
theorem phase_of_restart
    {pool left : BlockPool}
    {call : ProtocolCall}
    {answer : ProtocolAnswer}
    (restarts : call.isTraffic = false)
    (responded : session.respond config service pool call = .ok (answer, after, left)) :
    after.phase = .challenging := by
  cases call with
  | accept slot peer | drop slot =>
      cases responded
      rfl
  | read slot message | produce slot =>
      cases restarts

theorem stands_of_challenging (fresh : session.phase = .challenging) :
    session.Stands config service [] [] :=
  ⟨by simp [fresh], fun _ => rfl, fun other => absurd fresh other⟩

namespace Stands

variable {messages : List Bytes} {outputs : List Output}
  (stands : session.Stands config service messages outputs)

include stands

theorem read
    {pool : BlockPool}
    {message : Bytes}
    {after : AfterRead}
    (taken : session.read config service pool message = .ok after) :
    after.session.Stands config service (messages ++ [message]) outputs := by
  rw [read_eq_carryOut] at taken
  obtain ⟨reaction, reacted, done⟩ := Checked.bind_eq_ok.mp taken
  rcases carryOut_eq_ok done with isOver | ⟨queue, queued⟩
  · exact ⟨by simp [isOver], by simp [isOver], by simp [isOver]⟩
  · rw [queued]
    cases reacts_of_reactTo reacted with
    | hangsUp =>
        exact ⟨by simp [hangUp], by simp [hangUp], by simp [hangUp]⟩
    | passesOver | serves =>
        refine ⟨fun inside => ?_, stands.unchallenged, stands.challenged⟩
        exact ((stands.authenticated inside).append [message]).of_sameClient ⟨rfl, rfl, rfl, rfl⟩
    | dismisses before phase =>
        refine ⟨by simp [phase], by simp [phase], fun _ _ => ?_⟩
        rcases before with (was | was) | was
        all_goals exact stands.challenged (by simp [was]) (by simp [was])
    | letsIn greets readBack accepted presents unrefused phase =>
        refine ⟨fun _ => ?_, by simp [phase], fun _ _ => ?_⟩
        · refine ⟨⟨message, by simp, _, _, readBack, accepted, ?_⟩, unrefused⟩
          exact ⟨presents.key_eq, presents.account_eq, presents.character_eq, presents.password_eq⟩
        · rcases greets with was | was
          all_goals exact stands.challenged (by simp [was]) (by simp [was])

theorem produce
    {length : Nat}
    (produces : session.Produces length after)
    (staged : Checked Bytes) :
    after.Stands config service messages (outputs ++ [{ length := length, staged := staged }]) := by
  have further (told : handedOver outputs ≠ []) :
      handedOver (outputs ++ [{ length := length, staged := staged }]) ≠ [] := by
    rw [handedOver_append]
    exact List.append_ne_nil_of_left_ne_nil told _
  have silently :
      handedOver (outputs ++ [{ length := 0, staged := staged }]) = handedOver outputs := by
    simp [handedOver]
  cases produces with
  | challenge phase =>
      refine ⟨by simp, by simp, fun _ _ => ?_⟩
      simp [handedOver, GameSession.challenge]
  | settles phase =>
      refine ⟨by simp, by simp, fun _ _ => further ?_⟩
      exact stands.challenged (by simp [phase]) (by simp [phase])
  | rests =>
      refine ⟨fun inside => ?_, fun fresh => ?_, fun other going => ?_⟩
      · exact (stands.authenticated inside).of_sameClient ⟨rfl, rfl, rfl, rfl⟩
      · exact silently.trans (stands.unchallenged fresh)
      · exact further (stands.challenged other going)
  | ends =>
      exact ⟨by simp, by simp, by simp⟩
  | stages before forward =>
      have told : handedOver outputs ≠ [] := by
        rcases before with was | was
        all_goals exact stands.challenged (by simp [was]) (by simp [was])
      refine ⟨fun inside => ?_, fun fresh => ?_, fun _ _ => further told⟩
      · rcases forward with same | ⟨_, last⟩
        · exact (stands.authenticated (same.symm.trans inside)).of_sameClient ⟨rfl, rfl, rfl, rfl⟩
        · cases last.symm.trans inside
      · rcases forward with same | ⟨_, last⟩
        · rcases before with was | was <;> cases was.symm.trans (same.symm.trans fresh)
        · cases last.symm.trans fresh

/-- All traffic leaves a session that stands where its messages and outputs say. -/
theorem respond
    {pool left : BlockPool}
    {call : ProtocolCall}
    {answer : ProtocolAnswer}
    (isTraffic : call.isTraffic = true)
    (responded : session.respond config service pool call = .ok (answer, after, left))
    (shown : Outlet) :
    after.Stands config service (messages ++ call.message?.toList)
      (outputs ++ (Sight.output? { answer, shown }).toList) := by
  cases call with
  | accept slot peer | drop slot =>
      cases isTraffic
  | read slot message =>
      obtain ⟨last, taken, responded⟩ := Checked.bind_eq_ok.mp responded
      cases responded
      rw [Sight.output?, Option.toList_none, List.append_nil]
      exact stands.read taken
  | produce slot =>
      obtain ⟨⟨length, last, pool⟩, produced, responded⟩ := Checked.bind_eq_ok.mp responded
      cases responded
      rw [ProtocolCall.message?, Option.toList_none, List.append_nil]
      exact stands.produce (produces_of_produce produced) shown.staged

/-- What is handed over next is the challenge if it is the first, and no challenge otherwise. -/
theorem staging
    {length : Nat}
    (produces : session.Produces length after)
    (some : length ≠ 0) :
    (handedOver outputs = [] ∧ length = challenge.length ∧ after.staged = .ok challenge) ∨
      (handedOver outputs ≠ [] ∧ after.challengeStaged = false) := by
  cases produces with
  | challenge phase =>
      exact .inl ⟨stands.unchallenged phase, rfl, by simp [GameSession.staged]⟩
  | settles | rests | ends =>
      exact absurd rfl some
  | stages before =>
      refine .inr ⟨?_, rfl⟩
      rcases before with was | was
      all_goals exact stands.challenged (by simp [was]) (by simp [was])

end Stands

/--
The replies to a client: none before its handshake was read, and in the world
first the snapshot for its character and then answers to commands.
-/
structure Welcomes (session : GameSession) (transcript : Transcript) : Prop where
  greeting : session.phase.isGreeting = true → transcript.replies = []
  inside :
    session.phase = .inWorld →
    ∃ answers,
      transcript.replies = .world session.character.bytes :: answers ∧
        ∀ reply ∈ answers, reply.answersCommand = true

namespace Welcomes

variable {transcript : Transcript} (welcomes : session.Welcomes transcript)

include welcomes

theorem carryOut
    {message : Bytes}
    {reaction : GameReaction}
    {pool : BlockPool}
    {after : AfterRead}
    (reacted : session.reactTo config service message = .ok reaction)
    (done : reaction.carryOut pool = .ok after) :
    after.session.Welcomes (transcript.extend reaction.event) := by
  rcases carryOut_eq_ok done with isOver | ⟨queue, queued⟩
  · exact ⟨by simp [isOver, GamePhase.isGreeting], by simp [isOver]⟩
  · rw [queued]
    cases reacts_of_reactTo reacted with
    | hangsUp =>
        exact ⟨by simp [hangUp, GamePhase.isGreeting], by simp [hangUp]⟩
    | passesOver =>
        exact ⟨welcomes.greeting, welcomes.inside⟩
    | @serves _ answer inside answers =>
        refine ⟨by simp [inside, GamePhase.isGreeting], fun _ => ?_⟩
        obtain ⟨earlier, replies_eq, allAnswers⟩ := welcomes.inside inside
        refine ⟨earlier ++ [answer], ?_, ?_⟩
        · simp [GameReaction.event, Transcript.extend, replies_eq]
        · intro reply member
          rcases List.mem_append.mp member with wasThere | isNew
          · exact allAnswers reply wasThere
          · rw [List.mem_singleton.mp isNew]
            exact answers
    | dismisses _ phase =>
        exact ⟨by simp [phase, GamePhase.isGreeting], by simp [phase]⟩
    | letsIn greets _ _ _ _ phase =>
        refine ⟨by simp [phase, GamePhase.isGreeting], fun _ => ⟨[], ?_, by simp⟩⟩
        have none : transcript.replies = [] := by
          apply welcomes.greeting
          rcases greets with was | was <;> rw [was] <;> rfl
        simp [GameReaction.event, Transcript.extend, none]

theorem produce
    {length : Nat}
    {event : GameEvent}
    (produces : session.Produces length after)
    (shown : after.eventOfOutput length = .ok event) :
    after.Welcomes (transcript.extend event) := by
  have replies_eq := replies_extend_of_output shown transcript
  constructor
  · intro greeting
    rw [replies_eq]
    apply welcomes.greeting
    cases produces with
    | challenge was | settles was =>
        rw [was]
        rfl
    | rests =>
        exact greeting
    | ends =>
        cases greeting
    | stages before forward =>
        rcases forward with same | ⟨_, last⟩
        · exact same ▸ greeting
        · simp [last, GamePhase.isGreeting] at greeting
  · intro inside
    rw [replies_eq]
    cases produces with
    | challenge | settles | ends =>
        cases inside
    | rests =>
        exact welcomes.inside inside
    | stages before forward =>
        rcases forward with same | ⟨_, last⟩
        · exact welcomes.inside (same.symm.trans inside)
        · cases last.symm.trans inside

end Welcomes

end GameSession

namespace GameService

variable {config : Configuration} {key : KeyPair} {service after : GameService} {slot : Nat}
  {session : GameSession} {later : List ProtocolCall}

/-- The replies to the clients of all slots are those that welcome them. -/
theorem welcomes_of_observeAll
    {next : GameService}
    {ledger laterLedger : Ledger}
    {calls : List ProtocolCall}
    (welcome :
      ∀ (slot : Nat) (session : GameSession),
        service.sessions[slot]? = some session → session.Welcomes (ledger slot))
    (observed : service.observeAll ledger calls = .ok (next, laterLedger)) :
    ∀ (slot : Nat) (session : GameSession),
      next.sessions[slot]? = some session → session.Welcomes (laterLedger slot) := by
  refine forall_of_observeAll ?_ ?_ ?_ welcome observed
  · intro session peer?
    exact ⟨fun _ => rfl, by simp [GameSession.cleared]⟩
  · intro config key session transcript message reaction pool after welcomes reacted done
    exact welcomes.carryOut reacted done
  · intro session transcript pool length after left event welcomes produced shown
    exact welcomes.produce (GameSession.produces_of_produce produced) shown

/-- An answer to a command is generated only by a session in the world. -/
theorem inWorld_of_observe
    {next : GameService}
    {call : ProtocolCall}
    {reply : GameReply}
    (observed : service.observe call = .ok (next, .generated reply))
    (answers : reply.answersCommand = true) :
    ∃ session, service.sessions[call.slot]? = some session ∧ session.phase = .inWorld := by
  cases call with
  | accept slot peer | drop slot =>
      obtain ⟨_, _, impossible⟩ := Checked.bind_eq_ok.mp observed
      cases impossible
  | produce slot =>
      obtain ⟨⟨length, left⟩, _, observed⟩ := Checked.bind_eq_ok.mp observed
      obtain ⟨session, _, observed⟩ := Checked.bind_eq_ok.mp observed
      obtain ⟨event, shown, same⟩ := Checked.bind_eq_ok.mp observed
      cases same
      have silent := GameSession.replies_extend_of_output shown .empty
      cases silent
  | read slot message =>
      obtain ⟨session, found, observed⟩ := Checked.bind_eq_ok.mp observed
      obtain ⟨reaction, reacted, observed⟩ := Checked.bind_eq_ok.mp observed
      obtain ⟨_, _, same⟩ := Checked.bind_eq_ok.mp observed
      have event_eq : reaction.event = .generated reply :=
        congrArg Prod.snd (Except.ok.inj same)
      refine ⟨session, Checked.lookUp_eq_ok.mp found, ?_⟩
      cases GameSession.reacts_of_reactTo reacted with
      | serves inside =>
          exact inside
      | hangsUp | passesOver =>
          cases event_eq
      | dismisses | letsIn =>
          cases event_eq
          cases answers

/-- Whatever comes for a slot and for others, its session stands where its traffic says. -/
theorem watch_stands
    {messages : List Bytes}
    {outputs : List Output}
    {sights : List (Sight Outlet)}
    (config_eq : service.config = config)
    (key_eq : service.key = key)
    (found : service.sessions[slot]? = some session)
    (stands : session.Stands config key messages outputs)
    (traffic : ∀ call ∈ later, call.slot = slot → call.isTraffic = true)
    (watched : protocol.watch (protocol.outlet slot) slot service later = .ok (sights, after)) :
    ∃ final,
      after.sessions[slot]? = some final ∧
        final.Stands config key (messages ++ messagesFor slot later)
          (outputs ++ outputsOf sights) := by
  induction later generalizing service session messages outputs sights with
  | nil =>
      cases watched
      refine ⟨session, found, ?_⟩
      simpa [messagesFor, callsFor, outputsOf] using stands
  | cons call rest inductionHypothesis =>
      have restTraffic := fun other member => traffic other (List.mem_cons_of_mem call member)
      obtain ⟨answer, next, laterSights, responded, continued, sights_eq⟩ :=
        ConnectionProtocol.watch_cons_eq_ok.mp watched
      obtain ⟨before, last, pool, isThere, answered, rfl⟩ := respond_eq_ok.mp responded
      have sameConfig : (service.withSession call.slot last pool).config = config := config_eq
      by_cases here : call.slot = slot
      · subst here
        rw [found] at isThere
        cases isThere
        rw [config_eq, key_eq] at answered
        have foundNext := getElem?_withSession found last pool
        have further :=
          stands.respond (traffic call (by simp) rfl) answered
            { staged := last.staged, status := .ok last.status }
        rw [sights_eq, if_pos rfl, outlet_eq foundNext, messagesFor_cons_of_eq rfl, outputsOf_cons,
          ← List.append_assoc, ← List.append_assoc]
        exact inductionHypothesis sameConfig key_eq foundNext further restTraffic continued
      · have foundNext :
            (service.withSession call.slot last pool).sessions[slot]? = some session := by
          rw [getElem?_withSession_of_ne here, found]
        rw [sights_eq, if_neg here, messagesFor_cons_of_ne here]
        exact inductionHypothesis sameConfig key_eq foundNext stands restTraffic continued

/-- Along its traffic the session of a slot goes forward. -/
theorem rank_le_of_run
    (found : service.sessions[slot]? = some session)
    (traffic : ∀ call ∈ later, call.slot = slot → call.isTraffic = true)
    (ran : protocol.run service later = .ok after) :
    ∃ final, after.sessions[slot]? = some final ∧ session.phase.rank ≤ final.phase.rank :=
  exists_session_of_run found
    (fun _ _ _ _ _ _ reached isTraffic responded =>
      Nat.le_trans reached (GameSession.rank_respond isTraffic responded))
    (Nat.le_refl _) traffic ran

/-- A session whose connection has just come or gone starts anew. -/
theorem exists_challenging_of_restart
    {start fresh : GameService}
    {earlier : List ProtocolCall}
    {restart : ProtocolCall}
    (ran : protocol.run start (earlier ++ [restart]) = .ok fresh)
    (restarts : restart.isTraffic = false) :
    ∃ newest, fresh.sessions[restart.slot]? = some newest ∧ newest.phase = .challenging := by
  rw [ConnectionProtocol.run_append] at ran
  obtain ⟨before, _, ranRestart⟩ := Checked.bind_eq_ok.mp ran
  simp only [ConnectionProtocol.run, ConnectionProtocol.perform_eq_respond, bind_assoc, pure_bind]
    at ranRestart
  obtain ⟨⟨answer, next⟩, responded, same⟩ := Checked.bind_eq_ok.mp ranRestart
  cases same
  obtain ⟨old, newest, pool, isThere, answered, rfl⟩ := respond_eq_ok.mp responded
  exact ⟨newest, getElem?_withSession isThere newest pool,
    GameSession.phase_of_restart restarts answered⟩

/-- What is staged next is the challenge if nothing was handed over yet, and never otherwise. -/
theorem challenge_of_produce
    {next : GameService}
    {messages : List Bytes}
    {outputs : List Output}
    {length : Nat}
    (stands : session.Stands config key messages outputs)
    (found : service.sessions[slot]? = some session)
    (produced : protocol.produce service slot = .ok (length, next))
    (something : length ≠ 0) :
    (handedOver outputs = [] ∧
        length = GameSession.challenge.length ∧
        protocol.staged next slot = .ok GameSession.challenge) ∨
      (handedOver outputs ≠ [] ∧
        ∃ last, next.sessions[slot]? = some last ∧ last.challengeStaged = false) := by
  simp only [protocol, produce, Checked.bind_eq_ok, Checked.lookUp_eq_ok] at produced
  rcases produced with ⟨_, isThere, ⟨_, last, pool⟩, answered, same⟩
  rw [found] at isThere
  cases isThere
  cases same
  have isLast := getElem?_withSession found last pool
  have outlet := outlet_eq isLast
  rcases stands.staging (GameSession.produces_of_produce answered) something with
    ⟨none, length_eq, staged⟩ | ⟨told, plain⟩
  · exact .inl ⟨none, length_eq, (congrArg Outlet.staged outlet).trans staged⟩
  · exact .inr ⟨told, last, isLast, plain⟩

/--
In every state that a service reaches under a validated configuration, for every
slot whose first call was to accept a connection, let the calls be cut where a
connection of the slot last came or went. If the session is in the world, its
credentials let it in, and they and its key are those of a handshake of the
accepted version that was read since; the replies queued since are one snapshot
of the world followed by answers to commands. Whatever is called next, only a
session in the world answers a command. What the slot hands over next is the
challenge if nothing was handed over since, and never otherwise. And the phase
of the session is not before any that it had since, so that an ended session
stays ended.
-/
theorem no_command_before_authentication
    {arena : Arena}
    {start : GameService}
    {calls others : List ProtocolCall}
    {peer : SocketAddress}
    (valid : config.problems = .ok [])
    (started : ofArena arena key config = .ok start)
    (ran : protocol.run start calls = .ok after)
    (first : callsFor slot calls = .accept slot peer :: others)
    (found : after.sessions[slot]? = some session) :
    ∃ earlier restart later fresh sights ledger,
      SinceRestart slot calls earlier restart later ∧
        protocol.run start (earlier ++ [restart]) = .ok fresh ∧
        protocol.watch (protocol.outlet slot) slot fresh later = .ok (sights, after) ∧
        start.observeAll .empty calls = .ok (after, ledger) ∧
        (session.phase = .inWorld →
          session.IsAuthenticated config key (messagesFor slot later) ∧
            (∃ sent waiting,
              session.Streams config.game.outputBufferSize (ledger slot) sent waiting) ∧
            ∃ answers,
              (ledger slot).replies = .world session.character.bytes :: answers ∧
                ∀ reply ∈ answers, reply.answersCommand = true) ∧
        (∀ call next reply,
          after.observe call = .ok (next, .generated reply) →
          reply.answersCommand = true →
          ∃ server, after.sessions[call.slot]? = some server ∧ server.phase = .inWorld) ∧
        (∀ length next,
          protocol.produce after slot = .ok (length, next) →
          length ≠ 0 →
          (handedOver (outputsOf sights) = [] ∧
              length = GameSession.challenge.length ∧
              protocol.staged next slot = .ok GameSession.challenge) ∨
            (handedOver (outputsOf sights) ≠ [] ∧
              ∃ last, next.sessions[slot]? = some last ∧ last.challengeStaged = false)) ∧
        ∀ front back between before,
          later = front ++ back →
          protocol.run fresh front = .ok between →
          between.sessions[slot]? = some before →
          before.phase.rank ≤ session.phase.rank ∧
            (before.phase = .ended → session.phase = .ended) := by
  have accepted := Configuration.accepted_of_problems valid
  have small : config.game.outputBufferSize ≤ Frame.maxLength :=
    Nat.le_trans accepted.output_le (by decide)
  obtain ⟨sound, follows⟩ := isSound_ofArena started (BlockPool.Balanced.ofArena arena _)
  have kept (calls : List ProtocolCall) :=
    sound.run_meets accepted (BlockPool.balanced_contract _ _) (.inl trivial) calls (.inl trivial)
      follows
  obtain ⟨_, ledger, observed, afterFollows⟩ := (kept calls).of_eq_ok ran
  have welcome :
      ∀ (slot : Nat) (session : GameSession),
        start.sessions[slot]? = some session → session.Welcomes (Ledger.empty slot) := by
    intro slot session isThere
    rw [ofArena_eq_ok started] at isThere
    rw [List.eq_of_mem_replicate (List.mem_of_getElem? isThere)]
    exact ⟨fun _ => rfl, by simp [GameSession.unused]⟩
  have welcomes := welcomes_of_observeAll welcome observed slot session found
  have isFirst : ProtocolCall.accept slot peer ∈ callsFor slot calls := by
    rw [first]
    exact List.mem_cons_self
  have restarted : ∃ call ∈ calls, call.slot = slot ∧ call.isTraffic = false :=
    ⟨_, (List.mem_filter.mp isFirst).1, rfl, rfl⟩
  obtain ⟨earlier, restart, later, fresh, sights, since, ranFresh, ranLater, watched⟩ :=
    ConnectionProtocol.exists_watch_sinceRestart ran restarted (protocol.outlet slot)
  -- The session of the slot starts anew in `fresh`, and so its story starts there.
  obtain ⟨newest, isNewest, anew⟩ := exists_challenging_of_restart ranFresh since.restarts
  rw [since.slot_eq] at isNewest
  have freshSound := ((kept _).of_eq_ok ranFresh).1
  obtain ⟨final, isThere, stands⟩ :=
    watch_stands freshSound.config_eq freshSound.key_eq isNewest
      (GameSession.stands_of_challenging anew) since.traffic watched
  rw [found] at isThere
  cases isThere
  rw [List.nil_append, List.nil_append] at stands
  refine ⟨earlier, restart, later, fresh, sights, ledger, since, ranFresh, watched, observed, ?_,
    ?_, ?_, ?_⟩
  · intro inside
    exact ⟨stands.authenticated inside,
      (afterFollows slot session found).streams small (by simp [inside]), welcomes.inside inside⟩
  · intro call next reply generated answers
    exact inWorld_of_observe generated answers
  · intro length next produced some
    exact challenge_of_produce stands found produced some
  · intro front back between before later_eq ranFront isBefore
    rw [later_eq, ConnectionProtocol.run_append, ranFront] at ranLater
    have backTraffic : ∀ call ∈ back, call.slot = slot → call.isTraffic = true := by
      intro call member
      exact since.traffic call (by simp [later_eq, member])
    obtain ⟨last, isLast, forward⟩ := rank_le_of_run isBefore backTraffic ranLater
    rw [found] at isLast
    cases isLast
    exact ⟨forward, fun isOver => GamePhase.eq_ended (isOver ▸ forward)⟩

/-- The default player is in the world by its own handshake, and was sent one snapshot. -/
theorem default_player_authenticated :
    ∃ key start body after session ledger,
      ofArena Configuration.defaultArena key {} = .ok start ∧
        protocol.run start [.accept 0 .loopback, .produce 0, .read 0 body] = .ok after ∧
        after.sessions[0]? = some session ∧
        session.phase = .inWorld ∧
        (∃ messages, session.IsAuthenticated {} key messages) ∧
        start.observeAll .empty [.accept 0 .loopback, .produce 0, .read 0 body] =
          .ok (after, ledger) ∧
        ∃ answers, (ledger 0).replies = .world session.character.bytes :: answers := by
  have valid : Configuration.problems {} = .ok [] := by
    decide +kernel
  obtain ⟨key, start, body, after, session, payload, _, started, ran, found, verdict⟩ :=
    @default_service_decides (Bytes.ofText "account") (Bytes.ofText "Player") [] (by decide)
      (by decide)
  have admits : Configuration.Admits {} (Bytes.ofText "account") (Bytes.ofText "Player") [] := by
    refine ⟨{ name := "account", characters := ["Player"] }, ?_, ⟨rfl, .inl rfl⟩, "Player", ?_, rfl⟩
    · simp
    · simp
  have inside := verdict.inWorld_iff.mpr admits
  obtain ⟨_, _, _, _, _, ledger, _, _, _, observed, inWorld, _⟩ :=
    no_command_before_authentication valid started ran rfl found
  obtain ⟨authenticated, _, answers, replies_eq, _⟩ := inWorld inside
  exact ⟨key, start, body, after, session, ledger, started, ran, found, inside, ⟨_, authenticated⟩,
    observed, answers, replies_eq⟩

end GameService

end Gatehouse
