import Gatehouse.Proofs.Session.Login.Service
import Gatehouse.Proofs.Session.Watching

namespace Gatehouse

/-!
# Responses of one login session

Every call of the login service is a response of the session in its slot, which
leaves the others alone. A whole session has its credentials and its reply in
storage of full size; it stays whole whatever it is told, shows what is staged,
and is as good as new once it is cleared. Where the reply buffer lies does not
matter to any response.
-/

namespace LoginSession

/-- The response of a session to a call for its slot. -/
def respond
    (config : Configuration)
    (service : KeyPair)
    (session : LoginSession) :
    ProtocolCall → Checked (ProtocolAnswer × LoginSession)
  | .accept _ peer => .ok (.done, { session.clear with peer? := some peer })
  | .drop _ => .ok (.done, session.clear)
  | .read _ message => do
      let (left, after) ← session.read config service message
      return (.message left, after)
  | .produce _ => .ok (.output session.produce.1, session.produce.2)

/-- A session whose reply buffer and credentials have their full sizes. -/
structure IsWhole (session : LoginSession) : Prop where
  reply_length : session.reply.bytes.length = Protocol.loginReplyCapacity
  reply_inside : session.replyLength ≤ session.reply.bytes.length
  account_whole : session.account.IsWhole
  password_whole : session.password.IsWhole

theorem isWhole_ofBlock
    {reply : Block}
    (zero : reply.bytes = Bytes.zeros Protocol.loginReplyCapacity) :
    (ofBlock reply).IsWhole :=
  ⟨by rw [ofBlock, zero, Bytes.length_zeros], Nat.zero_le _, FixedText.isWhole_empty 32,
    FixedText.isWhole_empty 32⟩

/-- The session of a connection that was just accepted. -/
def accepted (peer : SocketAddress) : LoginSession :=
  { ofBlock { address := 0, bytes := Bytes.zeros Protocol.loginReplyCapacity } with
    peer? := some peer }

namespace IsWhole

variable {session : LoginSession} (whole : session.IsWhole)

include whole

theorem withPhase (phase : LoginPhase) : { session with phase := phase }.IsWhole :=
  ⟨whole.reply_length, whole.reply_inside, whole.account_whole, whole.password_whole⟩

/-- Nothing but the place of its reply buffer is left of a session that is cleared. -/
theorem clear_eq :
    session.clear =
      ofBlock { session.reply with bytes := Bytes.zeros Protocol.loginReplyCapacity } := by
  simp only [LoginSession.clear, ofBlock, Block.wipe, Block.fill, Block.length,
    whole.reply_length, whole.account_whole.clear_eq, whole.password_whole.clear_eq,
    Credential.empty]
  rfl

theorem clear : session.clear.IsWhole := by
  rw [whole.clear_eq]
  exact isWhole_ofBlock rfl

/-- What is staged can be shown. -/
theorem exists_staged : ∃ bytes, session.staged = .ok bytes :=
  ⟨_, Bytes.slice_eq_ok.mpr ⟨⟨Nat.zero_le _, whole.reply_inside⟩, rfl⟩⟩

theorem send
    {packet : Packet}
    {after : LoginSession}
    (sent : session.send packet = .ok after) :
    after.IsWhole := by
  have long : Frame.headerLength ≤ session.reply.bytes.length := by
    rw [whole.reply_length]
    decide
  obtain ⟨kept, _, _⟩ := Writer.length_buffer_packet long packet
  have inside := whole.reply_inside
  have capacity := whole.reply_length
  obtain ⟨payloadLength, _, sent⟩ := Checked.bind_eq_ok.mp sent
  split at sent
  next spoiled =>
    cases sent
    exact ⟨kept.trans capacity, Nat.le_trans inside (Nat.le_of_eq kept.symm),
      whole.account_whole, whole.password_whole⟩
  next intact =>
    obtain ⟨attempt, attempted, sent⟩ := Checked.bind_eq_ok.mp sent
    obtain ⟨length_eq, sealed_le⟩ := Frame.sealPayload_keeps attempted
    have same := length_eq.trans kept
    split at sent
    next error refused =>
      cases sent
      exact ⟨same.trans capacity, Nat.le_trans inside (Nat.le_of_eq same.symm),
        whole.account_whole, whole.password_whole⟩
    next length isSealed =>
      cases sent
      refine ⟨same.trans capacity, ?_, whole.account_whole, whole.password_whole⟩
      simp only [length_eq]
      exact sealed_le length isSealed

theorem answer
    {config : Configuration}
    {handshake : LoginHello}
    {after : LoginSession}
    (accountWhole : handshake.account.IsWhole)
    (passwordWhole : handshake.password.IsWhole)
    (answered : session.answer config handshake = .ok after) :
    after.IsWhole := by
  have keyed : { session with key := handshake.key }.IsWhole :=
    ⟨whole.reply_length, whole.reply_inside, whole.account_whole, whole.password_whole⟩
  have presented :
      { session with
        key := handshake.key
        account := handshake.account
        password := handshake.password }.IsWhole :=
    ⟨whole.reply_length, whole.reply_inside, accountWhole, passwordWhole⟩
  unfold LoginSession.answer at answered
  split at answered
  next accepted =>
    exact presented.send answered
  next other =>
    exact keyed.send answered

/-- Every response keeps a session whole. -/
theorem respond_meets
    (config : Configuration)
    (service : KeyPair)
    (call : ProtocolCall) :
    (session.respond config service call).Meets (fun _ => True) fun response =>
      response.2.IsWhole := by
  cases call with
  | accept slot peer =>
      have cleared := whole.clear
      exact ⟨cleared.reply_length, cleared.reply_inside, cleared.account_whole,
        cleared.password_whole⟩
  | drop slot =>
      exact whole.clear
  | produce slot =>
      simp only [respond, Checked.Meets, LoginSession.produce]
      cases session.phase with
      | replying =>
          exact whole.withPhase .replied
      | replied =>
          exact whole.withPhase .ended
      | awaitingHello | ended =>
          exact whole
  | read slot message =>
      simp only [respond, LoginSession.read]
      split
      next late =>
        exact whole.withPhase .ended
      next first =>
        rw [bind_assoc]
        refine Checked.Meets.bind
          (Hello.readWith_meets (.inl trivial) rfl Hello.loginPlaintext_isWhole) ?_
        intro attempt wholeHandshake
        cases outcome : attempt.outcome with
        | error error =>
            exact whole.withPhase .ended
        | ok handshake =>
            obtain ⟨account, password⟩ := wholeHandshake handshake outcome
            cases answered : session.answer config handshake with
            | error fault =>
                simp only [answered, bind, Except.bind]
                trivial
            | ok after =>
                simp only [answered, bind, Except.bind]
                exact whole.answer account password answered

end IsWhole

/-- The session with its reply buffer somewhere else. -/
def movedTo (session : LoginSession) (address : Nat) : LoginSession :=
  { session with reply := { session.reply with address := address } }

section Movement

variable {session : LoginSession} {address : Nat}

theorem send_movedTo (packet : Packet) :
    (session.movedTo address).send packet = do
      return (← session.send packet).movedTo address := by
  unfold send
  have bytes_eq : (session.movedTo address).reply.bytes = session.reply.bytes := rfl
  have key_eq : (session.movedTo address).key = session.key := rfl
  rw [bytes_eq, key_eq]
  simp only [bind_assoc]
  congr 1
  funext payloadLength
  split
  next spoiled =>
    rfl
  next intact =>
    simp only [bind_assoc]
    congr 1
    funext attempt
    cases attempt.outcome <;> rfl

theorem answer_movedTo (config : Configuration) (handshake : LoginHello) :
    (session.movedTo address).answer config handshake = do
      return (← session.answer config handshake).movedTo address := by
  unfold answer
  split
  next accepted =>
    exact @send_movedTo { session with
      key := handshake.key
      account := handshake.account
      password := handshake.password } address _
  next other =>
    exact @send_movedTo { session with key := handshake.key } address _

/-- A response does not depend on where the reply buffer lies. -/
theorem respond_movedTo
    {config : Configuration}
    {service : KeyPair}
    {call : ProtocolCall}
    {answer : ProtocolAnswer}
    {after : LoginSession}
    (responded : session.respond config service call = .ok (answer, after)) :
    (session.movedTo address).respond config service call =
      .ok (answer, after.movedTo address) := by
  cases call with
  | accept slot peer =>
      cases responded
      rfl
  | drop slot =>
      cases responded
      rfl
  | produce slot =>
      cases responded
      have phase_eq : (session.movedTo address).phase = session.phase := rfl
      simp only [respond, produce, phase_eq]
      cases session.phase <;> rfl
  | read slot message =>
      have phase_eq : (session.movedTo address).phase = session.phase := rfl
      simp only [respond, LoginSession.read, phase_eq] at responded ⊢
      split at responded
      next late =>
        cases responded
        rw [if_pos late]
        rfl
      next first =>
        rw [if_neg first]
        rw [bind_assoc] at responded ⊢
        obtain ⟨attempt, taken, responded⟩ := Checked.bind_eq_ok.mp responded
        simp only [taken, bind, Except.bind] at responded ⊢
        cases outcome : attempt.outcome with
        | error error =>
            simp only [outcome] at responded ⊢
            cases responded
            rfl
        | ok handshake =>
            simp only [outcome] at responded ⊢
            cases answered : session.answer config handshake with
            | error fault =>
                simp only [answered] at responded
                cases responded
            | ok last =>
                simp only [answered] at responded
                cases responded
                simp only [answer_movedTo, answered]
                rfl

end Movement

end LoginSession

namespace LoginService

variable {service next : LoginService} {call : ProtocolCall} {answer : ProtocolAnswer}

/-- A call is answered by the session of its slot. -/
theorem respond_eq (service : LoginService) (call : ProtocolCall) :
    protocol.respond service call = do
      let session ← Checked.lookUp service.sessions call.slot
      let (answer, after) ← session.respond service.config service.key call
      return (answer, service.withSession call.slot after) := by
  cases call with
  | accept slot peer =>
      simp only [ConnectionProtocol.respond, protocol, accept, bind_assoc, pure_bind]
      rfl
  | drop slot =>
      simp only [ConnectionProtocol.respond, protocol, drop, bind_assoc, pure_bind]
      rfl
  | read slot message =>
      simp only [ConnectionProtocol.respond, protocol, read, LoginSession.respond, bind_assoc,
        pure_bind, ProtocolCall.slot]
  | produce slot =>
      simp only [ConnectionProtocol.respond, protocol, produce, LoginSession.respond, bind_assoc,
        pure_bind, ProtocolCall.slot]
      rfl

theorem respond_eq_ok :
    protocol.respond service call = .ok (answer, next) ↔
      ∃ session after,
        service.sessions[call.slot]? = some session ∧
          session.respond service.config service.key call = .ok (answer, after) ∧
          next = service.withSession call.slot after := by
  simp only [respond_eq, Checked.bind_eq_ok, pure, Except.pure, Except.ok.injEq, Prod.mk.injEq,
    Prod.exists, Checked.lookUp_eq_ok]
  constructor
  · intro answered
    rcases answered with ⟨session, found, _, after, responded, rfl, rfl⟩
    exact ⟨session, after, found, responded, rfl⟩
  · intro answered
    rcases answered with ⟨session, after, found, responded, rfl⟩
    exact ⟨session, found, _, after, responded, rfl, rfl⟩

/-- A slot for which the call is not keeps its session. -/
theorem getElem?_withSession_of_ne
    {slot other : Nat}
    (elsewhere : other ≠ slot)
    (session : LoginSession) :
    (service.withSession other session).sessions[slot]? = service.sessions[slot]? := by
  simp only [withSession, List.getElem?_set, if_neg elsewhere]

theorem getElem?_withSession
    {slot : Nat}
    {before : LoginSession}
    (found : service.sessions[slot]? = some before)
    (session : LoginSession) :
    (service.withSession slot session).sessions[slot]? = some session := by
  have inside := (List.getElem?_eq_some_iff.mp found).1
  simp [withSession, inside]

/-- The outlet of a slot is that of its session. -/
theorem outlet_eq
    {slot : Nat}
    {session : LoginSession}
    (found : service.sessions[slot]? = some session) :
    protocol.outlet slot service = { staged := session.staged, status := .ok session.status } := by
  simp only [ConnectionProtocol.outlet, protocol, staged, status,
    Checked.lookUp_of_getElem? found, bind, Except.bind, pure, Except.pure]

/-- What some calls preserve of a session holds of the session of a slot that gets no others. -/
theorem exists_session_of_run
    {after : LoginService}
    {slot : Nat}
    {session : LoginSession}
    {later : List ProtocolCall}
    {holds : LoginSession → Prop}
    {admits : ProtocolCall → Prop}
    (found : service.sessions[slot]? = some session)
    (step :
      ∀ session call answer next,
        holds session →
        admits call →
        session.respond service.config service.key call = .ok (answer, next) →
        holds next)
    (start : holds session)
    (only : ∀ call ∈ later, call.slot = slot → admits call)
    (ran : protocol.run service later = .ok after) :
    ∃ final, after.sessions[slot]? = some final ∧ holds final := by
  induction later generalizing service session with
  | nil =>
      cases ran
      exact ⟨session, found, start⟩
  | cons call rest inductionHypothesis =>
      have restOnly := fun other member => only other (List.mem_cons_of_mem call member)
      simp only [ConnectionProtocol.run, ConnectionProtocol.perform_eq_respond, bind_assoc,
        pure_bind] at ran
      obtain ⟨⟨answer, next⟩, responded, continued⟩ := Checked.bind_eq_ok.mp ran
      obtain ⟨before, last, isThere, answered, rfl⟩ := respond_eq_ok.mp responded
      by_cases here : call.slot = slot
      · subst here
        rw [found] at isThere
        cases isThere
        exact inductionHypothesis (getElem?_withSession found last) step
          (step _ _ _ _ start (only call (by simp) rfl) answered) restOnly continued
      · have foundNext : (service.withSession call.slot last).sessions[slot]? = some session := by
          rw [getElem?_withSession_of_ne here, found]
        exact inductionHypothesis foundNext step start restOnly continued

/-- A service of whole sessions for a configuration and a key. -/
structure IsWhole (config : Configuration) (key : KeyPair) (service : LoginService) : Prop where
  config_eq : service.config = config
  key_eq : service.key = key
  count_eq : service.sessions.length = config.login.maxConnections
  sessions_whole : ∀ session ∈ service.sessions, session.IsWhole

/-- A service that starts is whole. -/
theorem isWhole_ofArena
    {config : Configuration}
    {arena rest : Arena}
    {key : KeyPair}
    (started : ofArena arena key config = .ok (service, rest)) :
    service.IsWhole config key := by
  simp only [ofArena, Checked.bind_eq_ok] at started
  rcases started with ⟨_, _, ⟨blocks, last⟩, carved, same⟩
  cases same
  obtain ⟨count_eq, zero⟩ := Arena.blocks_of_carveMany_eq_ok carved
  refine ⟨rfl, rfl, by rw [List.length_map]; exact count_eq, ?_⟩
  intro session member
  obtain ⟨block, isBlock, rfl⟩ := List.mem_map.mp member
  exact LoginSession.isWhole_ofBlock (zero block isBlock)

namespace IsWhole

variable {config : Configuration} {key : KeyPair} (whole : service.IsWhole config key)

include whole

/-- Every call keeps a service whole. -/
theorem respond (responded : protocol.respond service call = .ok (answer, next)) :
    next.IsWhole config key := by
  obtain ⟨session, after, found, answered, rfl⟩ := respond_eq_ok.mp responded
  have sessionWhole := whole.sessions_whole session (List.mem_of_getElem? found)
  refine ⟨whole.config_eq, whole.key_eq, ?_, ?_⟩
  · rw [withSession, List.length_set]
    exact whole.count_eq
  · intro other isOther
    rcases List.mem_or_eq_of_mem_set isOther with wasThere | isAfter
    · exact whole.sessions_whole other wasThere
    · rw [isAfter]
      exact (sessionWhole.respond_meets service.config service.key call).of_eq_ok answered

/-- All that is left in a slot that is taken over is where its reply buffer lies. -/
theorem respond_accept
    {slot : Nat}
    {session : LoginSession}
    (found : service.sessions[slot]? = some session)
    (peer : SocketAddress) :
    protocol.respond service (.accept slot peer) =
      .ok (.done,
        service.withSession slot ((LoginSession.accepted peer).movedTo session.reply.address)) := by
  have sessionWhole := whole.sessions_whole session (List.mem_of_getElem? found)
  refine respond_eq_ok.mpr ⟨session, _, found, ?_, rfl⟩
  simp only [LoginSession.respond, sessionWhole.clear_eq]
  rfl

/-- Every run keeps a service whole. -/
theorem run
    {after : LoginService}
    {calls : List ProtocolCall}
    (ran : protocol.run service calls = .ok after) :
    after.IsWhole config key := by
  have kept : (protocol.run service calls).Meets (fun _ => True) (IsWhole config key) := by
    apply ConnectionProtocol.run_meets _ whole
    intro state call _ stateWhole
    rw [ConnectionProtocol.perform_eq_respond]
    cases responded : protocol.respond state call with
    | error fault =>
        trivial
    | ok answer =>
        exact stateWhole.respond responded
  exact kept.of_eq_ok ran

end IsWhole

end LoginService

end Gatehouse
