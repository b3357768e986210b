import Gatehouse.Proofs.Session.Game.Authentication
import Gatehouse.Proofs.Session.Login.Conversation

namespace Gatehouse

/-!
# Identities that are too long

A name in a handshake that is longer than a credential reads as the empty name.
No account has an empty name, so a client with such an account name is refused
by both services, whatever comes later. An account may have a character with an
empty name, though: a client that may play it is let in with any name that is
too long.
-/

namespace LoginSession

/-- From here on a session tells one payload under a key, or nothing. -/
inductive TellsOnly (session : LoginSession) (key : CipherKey) (payload : Bytes) : Prop
  | replying
      (phase : session.phase = .replying)
      (staged_eq : session.staged = .ok (Frame.frameAround key payload))
      (length_eq : session.replyLength = Frame.lengthAround payload.length)
  | silent
      (phase : session.phase = .replied ∨ session.phase = .ended)

variable {config : Configuration} {service : KeyPair} {session after : LoginSession}
  {key : CipherKey} {payload : Bytes}

/-- A handshake of the accepted version leaves nothing to tell but the reply that it is due. -/
theorem tellsOnly_of_readLogin
    {message left : Bytes}
    {handshake : LoginHello}
    (sound : session.IsSound)
    (readBack :
      Hello.readLogin service message = .ok { outcome := .ok handshake, buffer := left })
    (versionAccepted : Hello.acceptsVersion handshake.version = true)
    (fits : Fits (replyTo config handshake.account handshake.password) payload) :
    ∃ rest after,
      session.read config service message = .ok (rest, after) ∧
        after.TellsOnly handshake.key payload := by
  by_cases late : session.phase ≠ .awaitingHello
  · refine ⟨message, session.hangUp, ?_, .silent (.inr rfl)⟩
    rw [LoginSession.read, if_pos late]
    rfl
  · have presented : (session.presented handshake).IsSound := sound
    refine ⟨left, (session.presented handshake).answeredWith payload, ?_,
      .replying rfl (staged_answeredWith _ _) rfl⟩
    exact read_of_readLogin (not_not.mp late) readBack versionAccepted
      (presented.send_of_fits fits)

namespace TellsOnly

variable (tells : session.TellsOnly key payload)

include tells

/-- Traffic leaves nothing else to tell. -/
theorem respond
    {call : ProtocolCall}
    {answer : ProtocolAnswer}
    (isTraffic : call.isTraffic = true)
    (responded : session.respond config service call = .ok (answer, after)) :
    after.TellsOnly key payload := by
  cases call with
  | accept slot peer | drop slot =>
      cases isTraffic
  | read slot message =>
      have late : session.phase ≠ .awaitingHello := by
        cases tells with
        | replying phase =>
            simp [phase]
        | silent phase =>
            rcases phase with phase | phase <;> simp [phase]
      rw [LoginSession.respond, LoginSession.read, if_pos late] at responded
      cases responded
      exact .silent (.inr rfl)
  | produce slot =>
      cases responded
      cases tells with
      | replying phase =>
          exact .silent (.inl (by simp only [LoginSession.produce, phase]))
      | silent phase =>
          refine .silent (.inr ?_)
          rcases phase with phase | phase <;> simp [LoginSession.produce, phase, hangUp]

/-- What is told is the payload. -/
theorem produce (something : session.produce.1 ≠ 0) :
    session.produce.1 = Frame.lengthAround payload.length ∧
      session.produce.2.staged = .ok (Frame.frameAround key payload) := by
  cases tells with
  | replying phase staged_eq length_eq =>
      simp only [LoginSession.produce, phase]
      exact ⟨length_eq, staged_eq⟩
  | silent phase =>
      rcases phase with phase | phase <;> simp [LoginSession.produce, phase] at something

end TellsOnly

end LoginSession

namespace LoginService

/--
A slot answers a message, and as long as its connection lasts whatever it hands
over then opens under the key to a refusal, which is no character list.
-/
def OnlyRefuses
    (before : LoginService)
    (slot : Nat)
    (message : Bytes)
    (key : CipherKey) :
    Prop :=
  ∃ left after refusal,
    protocol.read before slot message = .ok (left, after) ∧
      Packet.encoding? (Packet.loginDisconnect (Bytes.ofText LoginSession.wrongCredentials)) =
        some refusal ∧
      (∀ config account listed,
        Packet.encoding? (LoginSession.characterList config account) = some listed →
        listed ≠ refusal) ∧
      ∀ later between length next,
        (∀ call ∈ later, call.slot = slot → call.isTraffic = true) →
        protocol.run after later = .ok between →
        protocol.produce between slot = .ok (length, next) →
        length ≠ 0 →
        ∃ frame,
          protocol.staged next slot = .ok frame ∧
            frame.length = length ∧ Frame.opened? key frame = some refusal

/-- An account name that is too long is only refused. -/
theorem onlyRefuses_of_long
    {config : Configuration}
    {key : KeyPair}
    {before : LoginService}
    {slot : Nat}
    {session : LoginSession}
    {header : HelloHeader}
    {sessionKey : CipherKey}
    {body account password rest : Bytes}
    (accepted : config.Accepted)
    (whole : before.IsWhole config key)
    (found : before.sessions[slot]? = some session)
    (version : header.version = Protocol.acceptedVersion)
    (conveys :
      Hello.Conveys .login key body header (Hello.loginBytes sessionKey account password ++ rest))
    (long : Credential.maxLength < account.length) :
    before.OnlyRefuses slot body sessionKey := by
  have versionAccepted : Hello.acceptsVersion header.version = true := by
    simp [Hello.acceptsVersion, version]
  have short : LoginSession.wrongCredentials.utf8ByteSize ≤ 400 := by
    decide
  obtain ⟨refusal, fits⟩ := LoginSession.fits_loginDisconnect short
  obtain ⟨left, readBack⟩ := conveys.readLogin_eq
  have unopened :
      config.accountOpenedBy? (Hello.credentialOf account) (Hello.credentialOf password) = none :=
    (Configuration.accountOpenedBy?_eq_none accepted).mpr
      (Configuration.not_opens_of_long accepted long password)
  have due :
      LoginSession.Fits
        (LoginSession.replyTo config
          (Hello.loginHelloUnder header sessionKey account password).account
          (Hello.loginHelloUnder header sessionKey account password).password)
        refusal := by
    simp only [Hello.loginHelloUnder, Hello.credentialUnder_of_accepted versionAccepted,
      LoginSession.replyTo, unopened]
    exact fits
  have isSound : session.IsSound :=
    (whole.sessions_whole session (List.mem_of_getElem? found)).reply_length
  obtain ⟨answered, after, taken, tells⟩ :=
    LoginSession.tellsOnly_of_readLogin isSound readBack versionAccepted due
  refine ⟨answered, before.withSession slot after, refusal, ?_, fits.encoded, ?_, ?_⟩
  · simp only [protocol, read, Checked.lookUp_of_getElem? found, whole.config_eq, whole.key_eq,
      taken, bind, Except.bind]
    rfl
  · exact fun config account listed isList =>
      LoginSession.characterList_ne_loginDisconnect isList fits.encoded
  · intro later between length next traffic ran produced something
    have keeps (session : LoginSession) (call : ProtocolCall) (answer : ProtocolAnswer)
        (next : LoginSession) (tells : session.TellsOnly sessionKey refusal)
        (isTraffic : call.isTraffic = true)
        (responded : session.respond before.config before.key call = .ok (answer, next)) :
        next.TellsOnly sessionKey refusal :=
      tells.respond isTraffic responded
    obtain ⟨final, isFinal, stillTells⟩ :=
      exists_session_of_run (getElem?_withSession found after) keeps tells traffic ran
    simp only [protocol, produce, Checked.lookUp_of_getElem? isFinal, bind, Except.bind]
      at produced
    cases produced
    obtain ⟨length_eq, staged_eq⟩ := stillTells.produce something
    have outlet := outlet_eq (getElem?_withSession isFinal final.produce.2)
    refine ⟨_, (congrArg Outlet.staged outlet).trans staged_eq, ?_, ?_⟩
    · rw [Frame.length_frameAround]
      exact length_eq.symm
    · exact Frame.opened?_frameAround _ (Nat.le_trans fits.framed (by decide))

end LoginService

namespace GameSession

variable {config : Configuration} {service : KeyPair} {session other : GameSession}
  {handshake : GameHello}

/-- The verdict on a session depends on what its client presents. -/
theorem loginRefusal?_of_presents
    (presents : session.Presents handshake)
    (alsoPresents : other.Presents handshake) :
    session.loginRefusal? config = other.loginRefusal? config := by
  unfold loginRefusal? openedAccount?
  rw [presents.account_eq, presents.character_eq, presents.password_eq, alsoPresents.account_eq,
    alsoPresents.character_eq, alsoPresents.password_eq]

/-- A client whose handshake is refused is past the world. -/
theorem rank_read_of_refused
    {message left : Bytes}
    {pool : BlockPool}
    {after : AfterRead}
    (outside : session.phase ≠ .inWorld)
    (readBack :
      Hello.readGame service message = .ok { outcome := .ok handshake, buffer := left })
    (refused : (session.presented handshake).loginRefusal? config ≠ none)
    (taken : session.read config service pool message = .ok after) :
    GamePhase.rank .dismissing ≤ after.session.phase.rank := by
  rw [read_eq_carryOut] at taken
  obtain ⟨reaction, reacted, done⟩ := Checked.bind_eq_ok.mp taken
  rcases carryOut_eq_ok done with isOver | ⟨queue, queued⟩
  · rw [isOver]
    decide
  · rw [queued]
    cases reacts_of_reactTo reacted with
    | hangsUp =>
        exact GamePhase.rank_le_ended .dismissing
    | passesOver greeted =>
        -- Neither greeting nor in the world, the session is dismissed or ended.
        cases phase : session.phase <;> simp_all [GamePhase.isGreeting, GamePhase.rank]
    | serves inside =>
        exact absurd inside outside
    | dismisses _ phase =>
        exact Nat.le_of_eq (by rw [phase])
    | letsIn _ alsoRead _ presents unrefused =>
        rw [readBack] at alsoRead
        cases alsoRead
        have presented : (session.presented handshake).Presents handshake := ⟨rfl, rfl, rfl, rfl⟩
        rw [loginRefusal?_of_presents presented presents] at refused
        exact absurd unrefused refused

theorem loginRefusal?_of_long_account
    {account password : Bytes}
    (accepted : config.Accepted)
    (account_eq : session.account = Hello.credentialOf account)
    (password_eq : session.password = Hello.credentialOf password)
    (long : Credential.maxLength < account.length) :
    session.loginRefusal? config ≠ none := by
  have unopened :
      config.accountOpenedBy? session.account session.password = none := by
    rw [account_eq, password_eq, Configuration.accountOpenedBy?_eq_none accepted]
    exact Configuration.not_opens_of_long accepted long password
  simp [loginRefusal?, openedAccount?_eq, unopened]

/-- A character name that is too long is let in exactly as the empty name is. -/
theorem loginRefusal?_of_long_character
    {account character password : Bytes}
    (accepted : config.Accepted)
    (account_eq : session.account = Hello.credentialOf account)
    (character_eq : session.character = Hello.credentialOf character)
    (password_eq : session.password = Hello.credentialOf password)
    (long : Credential.maxLength < character.length) :
    session.loginRefusal? config = none ↔ config.Admits account [] password := by
  rw [Hello.credentialOf_of_long long] at character_eq
  have none_short : ([] : Bytes).length ≤ Credential.maxLength := Nat.zero_le _
  have verdict := loginRefusal?_eq accepted none_short account_eq character_eq password_eq
  rcases verdict with ⟨admits, admitted⟩ | ⟨opensNone, refused⟩ | ⟨_, admitsNone, refused⟩
  · exact iff_of_true admitted admits
  · exact iff_of_false (by simp [refused]) fun admits => opensNone admits.opens
  · exact iff_of_false (by simp [refused]) admitsNone

end GameSession

namespace GameService

variable {config : Configuration} {key : KeyPair} {books : Nat → BlockPool → Prop}
  {before after : GameService} {slot : Nat} {session : GameSession} {handshake : GameHello}
  {body left buffer : Bytes}

/-- As long as its connection lasts the session of a slot is not in the world. -/
def StaysOut (after : GameService) (slot : Nat) : Prop :=
  ∀ later between,
    (∀ call ∈ later, call.slot = slot → call.isTraffic = true) →
    protocol.run after later = .ok between →
    ∃ session, between.sessions[slot]? = some session ∧ session.phase ≠ .inWorld

/-- A client whose handshake is refused stays out. -/
theorem staysOut_of_refused
    (sound : before.IsSound config key books)
    (found : before.sessions[slot]? = some session)
    (outside : session.phase ≠ .inWorld)
    (readBack :
      Hello.readGame key body = .ok { outcome := .ok handshake, buffer := buffer })
    (refused : (session.presented handshake).loginRefusal? config ≠ none)
    (taken : protocol.read before slot body = .ok (left, after)) :
    after.StaysOut slot := by
  intro later between traffic ran
  simp only [protocol, read, Checked.bind_eq_ok, Checked.lookUp_of_getElem? found,
    Except.ok.injEq, sound.config_eq, sound.key_eq] at taken
  obtain ⟨_, rfl, answered, handled, same⟩ := taken
  cases same
  have past := GameSession.rank_read_of_refused outside readBack refused handled
  obtain ⟨final, isFinal, forward⟩ :=
    rank_le_of_run (getElem?_withSession found answered.session answered.pool) traffic ran
  refine ⟨final, isFinal, fun inside => ?_⟩
  have reached := Nat.le_trans past forward
  rw [inside] at reached
  exact absurd reached (by decide)

/-- A client that greets and whose handshake is not refused is let in. -/
theorem inWorld_of_unrefused
    (accepted : config.Accepted)
    (sound : before.IsSound config key books)
    (found : before.sessions[slot]? = some session)
    (greets : session.Greets)
    (readBack :
      Hello.readGame key body = .ok { outcome := .ok handshake, buffer := buffer })
    (versionAccepted : Hello.acceptsVersion handshake.version = true)
    (unrefused : (session.presented handshake).loginRefusal? config = none)
    (taken : protocol.read before slot body = .ok (left, after)) :
    ∃ last, after.sessions[slot]? = some last ∧ last.phase = .inWorld := by
  have reply := read_of_waiting accepted sound found greets readBack versionAccepted rfl
  have same := taken.symm.trans reply
  obtain ⟨⟨block, pool⟩, _, answered⟩ := Checked.bind_eq_ok.mp same.symm
  cases answered
  refine ⟨_, getElem?_withSession found _ pool, ?_⟩
  simp only [unrefused]
  rfl

/-- A service with the default sizes reads the handshake of its first client. -/
theorem exists_read_of_default
    {accounts : List Account}
    (accepted : Configuration.Accepted { accounts := accounts })
    (readBack :
      Hello.readGame key body = .ok { outcome := .ok handshake, buffer := buffer })
    (versionAccepted : Hello.acceptsVersion handshake.version = true) :
    ∃ start before session left after books,
      ofArena Configuration.defaultArena key { accounts := accounts } = .ok start ∧
        protocol.run start [.accept 0 .loopback, .produce 0] = .ok before ∧
        before.IsSound { accounts := accounts } key books ∧
        before.sessions[0]? = some session ∧
        session.phase = .challenged ∧ protocol.read before 0 body = .ok (left, after) := by
  obtain ⟨start, before, session, granted, started, greeted, found, challenged, acquired⟩ :=
    default_service_greets accounts key
  have sound := isSound_of_run accepted started greeted
  have reply :=
    read_of_waiting accepted sound found (.inl challenged) readBack versionAccepted rfl
  rw [acquired] at reply
  exact ⟨start, before, session, _, _, _, started, greeted, sound, found, challenged, reply⟩

/--
Validation has no objection to a character without a name, and a client of its
account is let in with a character name of 32 bytes.
-/
theorem nameless_character_logs_in :
    let config : Configuration := { accounts := [{ characters := [""] }] }
    let character : Bytes := List.replicate 32 120
    config.problems = .ok [] ∧
      ∃ key body padding start after session,
        KeyPair.ofPrimes Hello.widePrimes.1 Hello.widePrimes.2 65537 = .ok key ∧
          Hello.Conveys .game key body
            { system := Hello.declaredSystem, version := Protocol.acceptedVersion }
            (Hello.gameBytes Hello.sampleKey 0 (Bytes.ofText "account") character [] ++
              padding) ∧
          ofArena Configuration.defaultArena key config = .ok start ∧
          protocol.run start [.accept 0 .loopback, .produce 0, .read 0 body] = .ok after ∧
          after.sessions[0]? = some session ∧ session.phase = .inWorld := by
  intro config character
  have valid : config.problems = .ok [] := by
    decide +kernel
  have accepted := Configuration.accepted_of_problems valid
  obtain ⟨key, made, wide⟩ := Hello.exists_isWideKey
  obtain ⟨body, padding, _, conveys⟩ :=
    @Hello.conveys_of_writeGame key Hello.sampleKey (Bytes.ofText "account") character [] wide
      (by decide) (by decide) Protocol.acceptedVersion
  obtain ⟨buffer, readBack⟩ := conveys.readGame_eq
  obtain ⟨start, before, session, left, after, _, started, greeted, sound, found, challenged,
    taken⟩ := exists_read_of_default accepted readBack rfl
  have admits : config.Admits (Bytes.ofText "account") [] [] :=
    ⟨{ characters := [""] }, by simp [config], ⟨rfl, .inl rfl⟩, "", by simp, rfl⟩
  have long : Credential.maxLength < character.length := by
    decide
  have unrefused :
      (session.presented
        (Hello.gameHelloUnder
          { system := Hello.declaredSystem, version := Protocol.acceptedVersion } Hello.sampleKey
          (Bytes.ofText "account") character [])).loginRefusal? config = none :=
    (GameSession.loginRefusal?_of_long_character accepted rfl rfl rfl long).mpr admits
  obtain ⟨last, isLast, inside⟩ :=
    inWorld_of_unrefused accepted sound found (.inl challenged) readBack rfl unrefused taken
  exact ⟨valid, key, body, padding, start, after, last, made, conveys, started,
    run_of_read greeted taken, isLast, inside⟩

end GameService

/--
Under a validated configuration and any keys, let a service read a handshake of
the accepted version in any state that it comes to. If the account name is too
long, the login service hands nothing over for it but a refusal, and the game
service does not let the client into the world, then or later. If the character
name is too long, the game service lets the client in exactly if the account
that the credentials open has a character with the empty name.
-/
theorem long_identity_never_logs_in
    {config : Configuration}
    {arena : Arena}
    {key : KeyPair}
    (valid : config.problems = .ok []) :
    (∀ (start before : LoginService) (rest : Arena) (calls : List ProtocolCall) (slot : Nat)
        (session : LoginSession) (header : HelloHeader) (sessionKey : CipherKey)
        (body account password padding : Bytes),
        LoginService.ofArena arena key config = .ok (start, rest) →
        LoginService.protocol.run start calls = .ok before →
        before.sessions[slot]? = some session →
        header.version = Protocol.acceptedVersion →
        Hello.Conveys .login key body header
          (Hello.loginBytes sessionKey account password ++ padding) →
        Credential.maxLength < account.length →
        before.OnlyRefuses slot body sessionKey) ∧
      ∀ (start before after : GameService) (calls : List ProtocolCall) (slot : Nat)
        (session : GameSession) (header : HelloHeader) (sessionKey : CipherKey) (flag : UInt8)
        (body left account character password padding : Bytes),
        GameService.ofArena arena key config = .ok start →
        GameService.protocol.run start calls = .ok before →
        before.sessions[slot]? = some session →
        session.phase ≠ .inWorld →
        header.version = Protocol.acceptedVersion →
        Hello.Conveys .game key body header
          (Hello.gameBytes sessionKey flag account character password ++ padding) →
        GameService.protocol.read before slot body = .ok (left, after) →
        (Credential.maxLength < account.length → after.StaysOut slot) ∧
          (Credential.maxLength < character.length →
            (¬config.Admits account [] password → after.StaysOut slot) ∧
              (config.Admits account [] password →
                session.Greets →
                ∃ last, after.sessions[slot]? = some last ∧ last.phase = .inWorld)) := by
  have accepted := Configuration.accepted_of_problems valid
  constructor
  · intro start before rest calls slot session header sessionKey body account password padding
      started ran found version conveys long
    have whole := (LoginService.isWhole_ofArena started).run ran
    exact LoginService.onlyRefuses_of_long accepted whole found version conveys long
  · intro start before after calls slot session header sessionKey flag body left account character
      password padding started ran found outside version conveys taken
    obtain ⟨startSound, follows⟩ :=
      GameService.isSound_ofArena started (BlockPool.Balanced.ofArena arena _)
    have sound :=
      ((startSound.run_meets accepted (BlockPool.balanced_contract _ _) (.inl trivial) calls
        (.inl trivial) follows).of_eq_ok ran).1
    have versionAccepted : Hello.acceptsVersion header.version = true := by
      simp [Hello.acceptsVersion, version]
    obtain ⟨buffer, readBack⟩ := conveys.readGame_eq
    have credential (value : Bytes) :
        Hello.credentialUnder header.version value = Hello.credentialOf value :=
      Hello.credentialUnder_of_accepted versionAccepted value
    generalize presented_eq :
      session.presented (Hello.gameHelloUnder header sessionKey account character password) =
        presented
    have account_eq : presented.account = Hello.credentialOf account := by
      rw [← presented_eq]
      exact credential account
    have character_eq : presented.character = Hello.credentialOf character := by
      rw [← presented_eq]
      exact credential character
    have password_eq : presented.password = Hello.credentialOf password := by
      rw [← presented_eq]
      exact credential password
    refine ⟨fun long => ?_, fun long => ?_⟩
    · have refused :=
        GameSession.loginRefusal?_of_long_account accepted account_eq password_eq long
      rw [← presented_eq] at refused
      exact GameService.staysOut_of_refused sound found outside readBack refused taken
    · have admits :=
        GameSession.loginRefusal?_of_long_character accepted account_eq character_eq password_eq
          long
      rw [← presented_eq] at admits
      refine ⟨fun admitsNone => ?_, fun admitsNameless greets => ?_⟩
      · exact GameService.staysOut_of_refused sound found outside readBack
          (fun unrefused => admitsNone (admits.mp unrefused)) taken
      · exact GameService.inWorld_of_unrefused accepted sound found greets readBack versionAccepted
          (admits.mpr admitsNameless) taken

/--
The default services refuse an account name of 40 bytes and a character name of
32 bytes.
-/
theorem default_services_refuse_long_identities :
    ∃ key loginBody gameBody lobby accepted rest start after,
      LoginService.ofArena Configuration.defaultArena key {} = .ok (lobby, rest) ∧
        LoginService.protocol.run lobby [.accept 0 .loopback] = .ok accepted ∧
        accepted.OnlyRefuses 0 loginBody Hello.sampleKey ∧
        GameService.ofArena Configuration.defaultArena key {} = .ok start ∧
        GameService.protocol.run start [.accept 0 .loopback, .produce 0, .read 0 gameBody] =
          .ok after ∧
        after.StaysOut 0 := by
  have valid : Configuration.problems {} = .ok [] := by
    decide +kernel
  have accepted := Configuration.accepted_of_problems valid
  obtain ⟨key, _, wide⟩ := Hello.exists_isWideKey
  obtain ⟨loginBody, loginPadding, _, loginConveys⟩ :=
    @Hello.conveys_of_writeLogin key Hello.sampleKey (List.replicate 40 97) [] wide (by decide)
      (by decide) Protocol.acceptedVersion
  obtain ⟨gameBody, gamePadding, _, gameConveys⟩ :=
    @Hello.conveys_of_writeGame key Hello.sampleKey (Bytes.ofText "account")
      (List.replicate 32 120) [] wide (by decide) (by decide) Protocol.acceptedVersion
  obtain ⟨buffer, readBack⟩ := gameConveys.readGame_eq
  obtain ⟨start, before, session, left, after, _, started, greeted, _, found, challenged,
    taken⟩ := @GameService.exists_read_of_default key _ _ _ [{}] accepted readBack rfl
  have opens :
      ∃ lobby rest accepted session,
        LoginService.ofArena Configuration.defaultArena key {} = .ok (lobby, rest) ∧
          LoginService.protocol.run lobby [.accept 0 .loopback] = .ok accepted ∧
          accepted.sessions[0]? = some session :=
    ⟨_, _, _, _, rfl, rfl, rfl⟩
  obtain ⟨lobby, rest, lobbyAfter, visitor, opened, ranLobby, isThere⟩ := opens
  have admitsNone : ¬Configuration.Admits {} (Bytes.ofText "account") [] [] := by
    rintro ⟨account, member, _, name, isName, spelled⟩
    cases List.mem_singleton.mp member
    cases List.mem_singleton.mp isName
    exact absurd spelled (by decide)
  have outside : session.phase ≠ .inWorld := by
    simp [challenged]
  obtain ⟨ofLogin, ofGame⟩ := @long_identity_never_logs_in {} Configuration.defaultArena key valid
  refine ⟨key, loginBody, gameBody, lobby, lobbyAfter, rest, start, after, opened, ranLobby, ?_,
    started, GameService.run_of_read greeted taken, ?_⟩
  · exact ofLogin _ _ _ _ _ _ _ _ _ _ _ _ opened ranLobby isThere rfl loginConveys (by decide)
  · exact ((ofGame _ _ _ _ _ _ _ _ _ _ _ _ _ _ _ started greeted found outside rfl gameConveys
      taken).2 (by decide)).1 admitsNone

end Gatehouse
