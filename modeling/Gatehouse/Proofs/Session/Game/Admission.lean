import Gatehouse.Proofs.Configuration.AccountBook
import Gatehouse.Proofs.Hello.Block
import Gatehouse.Proofs.Session.Game.Service

namespace Gatehouse

/-!
# What the game service decides

A handshake that a client writes for the service key lets a character into the
world if the account book admits it, and otherwise dismisses the client with the
reason. The reply takes a block of the pool, and only for want of that block
reading the handshake can stop.
-/

namespace GameSession

/-- A session with the key and the credentials of a client. -/
def presented (session : GameSession) (handshake : GameHello) : GameSession :=
  { session with
    key := handshake.key
    account := handshake.account
    character := handshake.character
    password := handshake.password }

/-- The session that sends a reply to a handshake, and the reply. -/
def replyTo (session : GameSession) : Option LoginRefusal → GameSession × GameReply
  | none => ({ session with phase := .inWorld }, .world session.character.bytes)
  | some refusal => ({ session with phase := .dismissing }, .dismissal refusal.message)

/-- A session whose only draft is of one packet. -/
def withDraft (session : GameSession) (block : Block) (packet : Packet) : GameSession :=
  { session with
    queue := { session.queue with drafts := [(FrameDraft.ofBlock block).append packet] } }

/-- What becomes of a client whose handshake was read, and the bytes that it will be sent. -/
structure Verdict
    (config : Configuration)
    (name character password : Bytes)
    (session : GameSession)
    (payload : Bytes) : Prop where
  waiting_eq : session.queue.drafts.map FrameDraft.payload = [payload]
  inWorld_iff : session.phase = .inWorld ↔ config.Admits name character password
  dismissing_iff : session.phase = .dismissing ↔ ¬config.Admits name character password
  welcomed :
    config.Admits name character password →
    Packet.encoding? (World.snapshot character) = some payload
  shown :
    config.Admits name character password →
    World.Shows character payload
  unknown :
    ¬config.Opens name password →
    payload = 0x14 :: 16 :: 0 :: Bytes.ofText "Invalid account."
  foreign :
    config.Opens name password →
    ¬config.Admits name character password →
    payload = 0x14 :: 18 :: 0 :: Bytes.ofText "Invalid character."

theorem send_of_idle
    {session : GameSession}
    (idle : session.queue.drafts = [])
    (positive : 0 < session.queue.limit)
    (pool : BlockPool)
    (reply : GameReply) :
    session.send pool reply = do
      let (block, pool) ← pool.acquire
      return (session.withDraft block reply.packet, pool) := by
  have room : ¬session.queue.limit ≤ session.queue.length := by
    simp only [FrameQueue.length, idle, List.length_nil]
    omega
  cases acquired : pool.acquire with
  | error fault =>
      simp [send, FrameQueue.ensureRoom, FrameQueue.newestTakes, idle, room, acquired, bind,
        Except.bind]
  | ok granted =>
      simp [send, FrameQueue.ensureRoom, FrameQueue.newestTakes, idle, room, acquired, bind,
        Except.bind, pure, Except.pure, FrameQueue.append, FrameQueue.changeLast, withDraft]

/-- The first handshake of the accepted version is answered with what its credentials deserve. -/
theorem read_of_readGame
    {config : Configuration}
    {service : KeyPair}
    {session : GameSession}
    {message left : Bytes}
    {handshake : GameHello}
    (waiting : session.phase = .challenged ∨ session.phase = .awaitingHello)
    (readBack :
      Hello.readGame service message = .ok { outcome := .ok handshake, buffer := left })
    (versionAccepted : Hello.acceptsVersion handshake.version = true)
    {sender : GameSession × GameReply}
    (sender_eq :
      (session.presented handshake).replyTo
        ((session.presented handshake).loginRefusal? config) = sender)
    (pool : BlockPool) :
    session.read config service pool message = do
      let (after, pool) ← sender.1.send pool sender.2
      return { message := left, session := after, pool := pool } := by
  have handled :
      session.read config service pool message =
        session.readHandshake config service pool message := by
    rcases waiting with phase | phase <;> simp only [GameSession.read, phase]
  have answered : session.answer config pool handshake = sender.1.send pool sender.2 := by
    rw [← sender_eq]
    simp only [answer, versionAccepted, if_true]
    change (match (session.presented handshake).loginRefusal? config with
      | none => (session.presented handshake).letIn pool
      | some refusal => (session.presented handshake).dismiss pool refusal.message) = _
    cases (session.presented handshake).loginRefusal? config <;> rfl
  simp only [handled, readHandshake, readBack, answered, bind, Except.bind]

/-- The credentials of a client are refused exactly if the account book does not admit them. -/
theorem loginRefusal?_eq
    {config : Configuration}
    (accepted : config.Accepted)
    {name character password : Bytes}
    (short : character.length ≤ Credential.maxLength)
    {session : GameSession}
    (account_eq : session.account = Hello.credentialOf name)
    (character_eq : session.character = Hello.credentialOf character)
    (password_eq : session.password = Hello.credentialOf password) :
    (config.Admits name character password ∧ session.loginRefusal? config = none) ∨
      (¬config.Opens name password ∧
        session.loginRefusal? config = some .invalidAccount) ∨
        (config.Opens name password ∧ ¬config.Admits name character password ∧
          session.loginRefusal? config = some .invalidCharacter) := by
  rw [loginRefusal?, openedAccount?_eq, account_eq, character_eq, password_eq]
  cases opened :
      config.accountOpenedBy? (Hello.credentialOf name) (Hello.credentialOf password) with
  | none =>
      exact .inr (.inl ⟨(Configuration.accountOpenedBy?_eq_none accepted).mp opened, rfl⟩)
  | some account =>
      obtain ⟨member, isOpened⟩ := (Configuration.accountOpenedBy?_eq_some accepted).mp opened
      have opens : config.Opens name password := ⟨account, member, isOpened⟩
      -- Only one account is opened, so its characters decide.
      have admits_iff :
          config.Admits name character password ↔ account.HasCharacter character := by
        constructor
        · intro admits
          rcases admits with ⟨other, otherMember, otherOpened, has⟩
          have same :=
            (Configuration.accountOpenedBy?_eq_some accepted).mpr ⟨otherMember, otherOpened⟩
          rw [opened] at same
          cases same
          exact has
        · intro has
          exact ⟨account, member, isOpened, has⟩
      rw [admits_iff, Account.hasCharacter_iff short]
      cases spelled : (Hello.credentialOf character).toText? with
      | none =>
          exact .inr (.inr ⟨opens, by simp, rfl⟩)
      | some text =>
          cases owned : account.owns text with
          | true =>
              exact .inl ⟨⟨text, rfl, owned⟩, by simp [owned]⟩
          | false =>
              exact .inr (.inr ⟨opens, by simp [owned], by simp [owned]⟩)

/-- A modest reply in a new draft is the payload of the draft. -/
theorem payload_append_ofBlock
    {block : Block}
    {size : Nat}
    {reply : GameReply}
    (block_length : block.length = size)
    (large : Protocol.minOutboundCapacity ≤ size)
    (modest : reply.IsModest) :
    ∃ bytes,
      reply.packet.encoding? = some bytes ∧
        ((FrameDraft.ofBlock block).append reply.packet).payload = bytes := by
  obtain ⟨bytes, encoded, _, _, fits⟩ := GameReply.encoding?_of_isModest modest
  have isSound : (FrameDraft.ofBlock block).IsSound size := by
    apply FrameDraft.isSound_ofBlock block_length
    exact Nat.le_trans (by decide) large
  have enough :
      (FrameDraft.ofBlock block).length + bytes.length + FrameDraft.maxPadding ≤ size := by
    simp only [FrameDraft.ofBlock, Frame.headerLength, FrameDraft.maxPadding]
    omega
  obtain ⟨_, payload_eq⟩ := isSound.append encoded enough
  rw [FrameDraft.payload_ofBlock, List.nil_append] at payload_eq
  exact ⟨bytes, encoded, payload_eq⟩

/-- The refusal of an account, in bytes. -/
theorem encoding?_invalidAccount :
    (GameReply.dismissal LoginRefusal.invalidAccount.message).packet.encoding? =
      some (0x14 :: 16 :: 0 :: Bytes.ofText "Invalid account.") :=
  Packet.encoding?_tagged (by decide) Tag.gameDisconnect

/-- The refusal of a character, in bytes. -/
theorem encoding?_invalidCharacter :
    (GameReply.dismissal LoginRefusal.invalidCharacter.message).packet.encoding? =
      some (0x14 :: 18 :: 0 :: Bytes.ofText "Invalid character.") :=
  Packet.encoding?_tagged (by decide) Tag.gameDisconnect

/-- What becomes of a client is the verdict of the account book. -/
theorem verdict_replyTo
    {config : Configuration}
    (accepted : config.Accepted)
    {name character password : Bytes}
    (short : character.length ≤ Credential.maxLength)
    (session : GameSession)
    (account_eq : session.account = Hello.credentialOf name)
    (character_eq : session.character = Hello.credentialOf character)
    (password_eq : session.password = Hello.credentialOf password)
    {block : Block}
    (block_length : block.length = config.game.outputBufferSize) :
    ∃ payload,
      Verdict config name character password
        ((session.replyTo (session.loginRefusal? config)).1.withDraft block
          (session.replyTo (session.loginRefusal? config)).2.packet)
        payload := by
  have presented : session.character.bytes = character := by
    rw [character_eq, Hello.bytes_credentialOf, if_pos short]
  rcases loginRefusal?_eq accepted short account_eq character_eq password_eq with
    ⟨admits, admitted⟩ | ⟨opensNone, refused⟩ | ⟨opens, admitsNone, refused⟩
  · have modest : (GameReply.world character).IsModest := short
    have short_byte : character.length < 256 := Nat.lt_of_le_of_lt short (by decide)
    obtain ⟨payload, encoded, payload_eq⟩ :=
      payload_append_ofBlock block_length accepted.output_ge modest
    rw [admitted]
    simp only [replyTo, presented, withDraft]
    exact ⟨payload, {
      waiting_eq := by simp [payload_eq]
      inWorld_iff := by simp [admits]
      dismissing_iff := by simp [admits]
      welcomed := fun _ => encoded
      shown := fun _ => World.shows_of_encoding? short_byte encoded
      unknown := fun opensNone => absurd admits.opens opensNone
      foreign := fun _ admitsNone => absurd admits admitsNone
    }⟩
  · have modest : (GameReply.dismissal LoginRefusal.invalidAccount.message).IsModest := by
      decide
    obtain ⟨payload, encoded, payload_eq⟩ :=
      payload_append_ofBlock block_length accepted.output_ge modest
    have admitsNone : ¬config.Admits name character password :=
      fun admits => opensNone admits.opens
    rw [refused]
    simp only [replyTo, withDraft]
    exact ⟨payload, {
      waiting_eq := by simp [payload_eq]
      inWorld_iff := by simp [admitsNone]
      dismissing_iff := by simp [admitsNone]
      welcomed := fun admits => absurd admits admitsNone
      shown := fun admits => absurd admits admitsNone
      unknown := fun _ => Option.some.inj (encoded.symm.trans encoding?_invalidAccount)
      foreign := fun opens => absurd opens opensNone
    }⟩
  · have modest : (GameReply.dismissal LoginRefusal.invalidCharacter.message).IsModest := by
      decide
    obtain ⟨payload, encoded, payload_eq⟩ :=
      payload_append_ofBlock block_length accepted.output_ge modest
    rw [refused]
    simp only [replyTo, withDraft]
    exact ⟨payload, {
      waiting_eq := by simp [payload_eq]
      inWorld_iff := by simp [admitsNone]
      dismissing_iff := by simp [admitsNone]
      welcomed := fun admits => absurd admits admitsNone
      shown := fun admits => absurd admits admitsNone
      unknown := fun opensNone => absurd opens opensNone
      foreign := fun _ _ => Option.some.inj (encoded.symm.trans encoding?_invalidCharacter)
    }⟩

end GameSession

namespace GameService

/--
A slot takes the handshake that a client writes for the service key to the
verdict of the account book, unless the pool has no block for the reply.
-/
def DecidesByBook
    (before : GameService)
    (slot : Nat)
    (config : Configuration)
    (service : KeyPair)
    (sessionKey : CipherKey)
    (name character password : Bytes) : Prop :=
  ∃ body,
    Hello.writeGame service Protocol.acceptedVersion sessionKey name character password =
        .ok body ∧
      (∀ fault, before.pool.acquire = .error fault → before.read slot body = .error fault) ∧
      ∀ granted,
        before.pool.acquire = .ok granted →
        ∃ message after answered payload,
          before.read slot body = .ok (message, after) ∧
            after.sessions[slot]? = some answered ∧
            GameSession.Verdict config name character password answered payload

/-- The service takes a block of the pool for the reply to the first handshake. -/
theorem read_of_waiting
    {config : Configuration}
    {service : KeyPair}
    {books : Nat → BlockPool → Prop}
    {before : GameService}
    {slot : Nat}
    {session : GameSession}
    {body left : Bytes}
    {handshake : GameHello}
    (accepted : config.Accepted)
    (sound : before.IsSound config service books)
    (found : before.sessions[slot]? = some session)
    (waiting : session.phase = .challenged ∨ session.phase = .awaitingHello)
    (readBack :
      Hello.readGame service body = .ok { outcome := .ok handshake, buffer := left })
    (versionAccepted : Hello.acceptsVersion handshake.version = true)
    {sender : GameSession × GameReply}
    (sender_eq :
      (session.presented handshake).replyTo
        ((session.presented handshake).loginRefusal? config) = sender) :
    before.read slot body = do
      let (block, pool) ← before.pool.acquire
      return (left, before.withSession slot (sender.1.withDraft block sender.2.packet) pool) := by
  have isSound := sound.sessions_sound session (List.mem_of_getElem? found)
  have greeting : session.phase.isGreeting = true := by
    rcases waiting with phase | phase <;> rw [phase] <;> rfl
  have queue_eq : sender.1.queue = session.queue := by
    rw [← sender_eq]
    unfold GameSession.replyTo
    split <;> rfl
  have idle : sender.1.queue.drafts = [] := by
    rw [queue_eq]
    exact isSound.greeting_empty greeting
  have positive : 0 < sender.1.queue.limit := by
    rw [queue_eq, isSound.limit_eq]
    exact accepted.queue_pos
  have taken :=
    GameSession.read_of_readGame waiting readBack versionAccepted sender_eq before.pool
  rw [GameSession.send_of_idle idle positive] at taken
  simp only [read, Checked.lookUp_of_getElem? found, sound.config_eq, sound.key_eq, taken, bind,
    Except.bind]
  cases before.pool.acquire <;> rfl

/-- A session past its challenge decides by the account book. -/
theorem decidesByBook_of_waiting
    {config : Configuration}
    {service : KeyPair}
    {sessionKey : CipherKey}
    {name character password : Bytes}
    (accepted : config.Accepted)
    (key : Hello.IsWideKey service)
    (low : sessionKey.word0.toUInt8 ≠ 0)
    (short : character.length ≤ Credential.maxLength)
    (fits :
      16 + 1 + (2 + name.length) + (2 + character.length) + (2 + password.length) ≤
        Protocol.keyPlaintextLength)
    {before : GameService}
    {slot : Nat}
    {session : GameSession}
    (sound : before.IsSound config service (BlockPool.Balanced config.game.outputBufferSize))
    (found : before.sessions[slot]? = some session)
    (waiting : session.phase = .challenged ∨ session.phase = .awaitingHello) :
    before.DecidesByBook slot config service sessionKey name character password := by
  obtain ⟨body, left, written, readBack⟩ := Hello.readGame_of_writeGame key low fits
  generalize sender_eq :
    (session.presented (Hello.gameHelloOf sessionKey name character password)).replyTo
      ((session.presented
        (Hello.gameHelloOf sessionKey name character password)).loginRefusal? config) = sender
  have taken := read_of_waiting accepted sound found waiting readBack rfl sender_eq
  refine ⟨body, written, ?_, ?_⟩
  · intro fault acquired
    rw [taken, acquired]
    rfl
  · intro granted acquired
    rcases granted with ⟨block, pool⟩
    obtain ⟨zero, _⟩ :=
      ((BlockPool.balanced_contract _ (before.held + 1)).acquire sound.balanced
        (Nat.lt_succ_self _)).of_eq_ok acquired
    have block_length : block.length = config.game.outputBufferSize := by
      rw [Block.length, zero, Bytes.length_zeros]
    obtain ⟨payload, verdict⟩ :=
      GameSession.verdict_replyTo accepted short
        (session.presented (Hello.gameHelloOf sessionKey name character password))
        rfl rfl rfl block_length
    rw [sender_eq] at verdict
    refine ⟨left, before.withSession slot (sender.1.withDraft block sender.2.packet) pool, _,
      payload, ?_, getElem?_withSession found _ pool, verdict⟩
    rw [taken, acquired]
    rfl

/-- A service with the default sizes greets its first client, whatever its account book is. -/
theorem default_service_greets (accounts : List Account) (key : KeyPair) :
    ∃ start before session granted,
      ofArena Configuration.defaultArena key { accounts := accounts } = .ok start ∧
        protocol.run start [.accept 0 .loopback, .produce 0] = .ok before ∧
        before.sessions[0]? = some session ∧
        session.phase = .challenged ∧
        before.pool.acquire = .ok granted := by
  have made : newSessions 100 8 = .ok (.replicate 100 (.unused 8)) := rfl
  let start : GameService := {
    config := { accounts := accounts }
    key := key
    pool := .ofArena Configuration.defaultArena 16384
    sessions := .replicate 100 (.unused 8) }
  have started : ofArena Configuration.defaultArena key { accounts := accounts } = .ok start := by
    simp only [ofArena, made, bind, Except.bind]
    rfl
  have greets :
      ∃ before session,
        protocol.run start [.accept 0 .loopback, .produce 0] = .ok before ∧
          before.sessions[0]? = some session ∧
          session.phase = .challenged ∧
          before.pool = .ofArena Configuration.defaultArena 16384 :=
    ⟨_, _, rfl, rfl, rfl, rfl⟩
  obtain ⟨before, session, greeted, found, challenged, pool_eq⟩ := greets
  have books :
      BlockPool.BalancedAndReserved 16384 1 Configuration.defaultArena 0
        (.ofArena Configuration.defaultArena 16384) :=
    ⟨BlockPool.Balanced.ofArena _ _, Configuration.isPlaced_defaultArena, by decide, .refl _,
      Nat.zero_le _⟩
  obtain ⟨granted, acquired, _⟩ :=
    ((BlockPool.reserved_contract _ _ _).acquire books Nat.zero_lt_one).exists_eq_ok
  rw [← pool_eq] at acquired
  exact ⟨start, before, session, granted, started, greeted, found, challenged, acquired⟩

/-- A message that is read is the next call of a run. -/
theorem run_of_read
    {start before after : GameService}
    {calls : List ProtocolCall}
    {slot : Nat}
    {body left : Bytes}
    (ran : protocol.run start calls = .ok before)
    (taken : protocol.read before slot body = .ok (left, after)) :
    protocol.run start (calls ++ [.read slot body]) = .ok after := by
  rw [ConnectionProtocol.run_append, ran]
  simp only [bind, Except.bind, ConnectionProtocol.run, ConnectionProtocol.perform, taken]
  rfl

/-- A service under the default configuration takes the handshake of any client to a verdict. -/
theorem default_service_decides
    {name character password : Bytes}
    (short : character.length ≤ Credential.maxLength)
    (fits :
      16 + 1 + (2 + name.length) + (2 + character.length) + (2 + password.length) ≤
        Protocol.keyPlaintextLength) :
    ∃ key start body after session payload,
      Hello.IsWideKey key ∧
        ofArena Configuration.defaultArena key {} = .ok start ∧
        protocol.run start [.accept 0 .loopback, .produce 0, .read 0 body] = .ok after ∧
        after.sessions[0]? = some session ∧
        GameSession.Verdict {} name character password session payload := by
  have accepted : Configuration.Accepted {} :=
    Configuration.accepted_of_problems (by decide +kernel)
  obtain ⟨key, _, wide⟩ := Hello.exists_isWideKey
  obtain ⟨start, before, session, _, started, greeted, found, challenged, acquired⟩ :=
    default_service_greets [{}] key
  have sound := isSound_of_run accepted started greeted
  have byBook : before.DecidesByBook 0 {} key Hello.sampleKey name character password :=
    decidesByBook_of_waiting accepted wide (by decide) short fits sound found (.inl challenged)
  obtain ⟨body, _, _, answers⟩ := byBook
  obtain ⟨message, after, answered, payload, readBack, isThere, verdict⟩ := answers _ acquired
  exact ⟨key, start, body, after, answered, payload, wide, started, run_of_read greeted readBack,
    isThere, verdict⟩

end GameService

end Gatehouse
