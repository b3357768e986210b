import Gatehouse.Proofs.Session.Game.Admission
import Gatehouse.Proofs.Session.Login.Admission

namespace Gatehouse.Configuration

/-!
# Both services decide by the account book

For every handshake that a client writes for the service key, in every state
that a run of the services reaches, the login service and the game service act
on the same condition: that the account book opens an account for the name and
the password that were presented, byte by byte.
-/

/--
A fresh connection to the login service is answered with the verdict of the
account book, and so is a connection to the game service past its challenge.
Only for want of a block the game service does not answer, and it never wants
one on an arena that holds all outbound buffers.
-/
theorem services_decide_by_account_book
    {config : Configuration}
    {service : KeyPair}
    {firstPrime secondPrime exponent : Nat}
    {sessionKey : CipherKey}
    (name : Bytes)
    {character : Bytes}
    (password : Bytes)
    (valid : config.problems = .ok [])
    (made : KeyPair.ofPrimes firstPrime secondPrime exponent = .ok service)
    (firstIsPrime : firstPrime.Prime)
    (secondIsPrime : secondPrime.Prime)
    (firstOdd : firstPrime ≠ 2)
    (secondOdd : secondPrime ≠ 2)
    (different : firstPrime ≠ secondPrime)
    (wide : 2 ^ 1016 < firstPrime * secondPrime)
    (low : sessionKey.word0.toUInt8 ≠ 0)
    (short : character.length ≤ Credential.maxLength) :
    (16 + (2 + name.length) + (2 + password.length) ≤ Protocol.keyPlaintextLength →
      ∀ (arena left : Arena) (start before : LoginService) (calls : List ProtocolCall)
        (slot : Nat) (session : LoginSession),
        LoginService.ofArena arena service config = .ok (start, left) →
        LoginService.protocol.run start calls = .ok before →
        before.sessions[slot]? = some session →
        session.phase = .awaitingHello →
        before.DecidesByBook slot config service sessionKey name password) ∧
      (16 + 1 + (2 + name.length) + (2 + character.length) + (2 + password.length) ≤
          Protocol.keyPlaintextLength →
        ∀ (arena : Arena) (start before : GameService) (calls : List ProtocolCall)
          (slot : Nat) (session : GameSession),
          GameService.ofArena arena service config = .ok start →
          GameService.protocol.run start calls = .ok before →
          before.sessions[slot]? = some session →
          session.phase = .challenged ∨ session.phase = .awaitingHello →
          before.DecidesByBook slot config service sessionKey name character password ∧
            (arena.IsPlaced →
              Arena.cursorAfter config.game.outputBufferSize config.outboundCount arena.used ≤
                arena.reserved →
              ∃ granted, before.pool.acquire = .ok granted)) := by
  have accepted := accepted_of_problems valid
  have key :=
    Hello.isWideKey_of_ofPrimes made firstIsPrime secondIsPrime firstOdd secondOdd different wide
  constructor
  · intro fits arena left start before calls slot session started ran found fresh
    have kept : (LoginService.protocol.run start calls).Meets (fun _ => True) _ :=
      (LoginService.isSound_ofArena started).1.run_meets (.inl trivial) (.inl trivial)
    exact LoginService.decidesByBook_of_awaiting accepted key low fits (kept.of_eq_ok ran) found
      fresh
  · intro fits arena start before calls slot session started ran found waiting
    constructor
    · obtain ⟨sound, follows⟩ :=
        GameService.isSound_ofArena started (BlockPool.Balanced.ofArena arena _)
      have kept :=
        sound.run_meets accepted (BlockPool.balanced_contract _ _) (.inl trivial) calls
          (.inl trivial) follows
      exact GameService.decidesByBook_of_waiting accepted key low short fits
        (kept.of_eq_ok ran).1 found waiting
    · intro placed roomy
      have books :
          BlockPool.BalancedAndReserved config.game.outputBufferSize config.outboundCount arena 0
            (.ofArena arena config.game.outputBufferSize) :=
        ⟨BlockPool.Balanced.ofArena arena _, placed, roomy, .refl arena, Nat.zero_le _⟩
      have contract :=
        BlockPool.reserved_contract config.game.outputBufferSize config.outboundCount arena
      obtain ⟨sound, follows⟩ := GameService.isSound_ofArena started books
      have kept :=
        sound.run_meets accepted (contract.allow fun _ _ => trivial) (.inl trivial) calls
          (.inl trivial) follows
      have afterSound := (kept.of_eq_ok ran).1
      have greeting : session.phase.isGreeting = true := by
        rcases waiting with phase | phase <;> rw [phase] <;> rfl
      have isSound := afterSound.sessions_sound session (List.mem_of_getElem? found)
      exact afterSound.exists_acquire contract accepted found (isSound.greeting_empty greeting)

/-- The default services decide about the default player by the default account book. -/
theorem default_services_decide :
    ∃ service,
      KeyPair.ofPrimes Hello.widePrimes.1 Hello.widePrimes.2 65537 = .ok service ∧
        (∃ before : LoginService,
          before.DecidesByBook 0 {} service Hello.sampleKey (Bytes.ofText "account") []) ∧
        ∃ before : GameService,
          before.DecidesByBook 0 {} service Hello.sampleKey (Bytes.ofText "account")
              (Bytes.ofText "Player") [] ∧
            ∃ granted, before.pool.acquire = .ok granted := by
  have valid : problems {} = .ok [] := by
    decide +kernel
  have low : Hello.sampleKey.word0.toUInt8 ≠ 0 := by
    decide
  have short : (Bytes.ofText "Player").length ≤ Credential.maxLength := by
    decide
  obtain ⟨service, made, _⟩ := Hello.exists_isWideKey
  obtain ⟨login, game⟩ :=
    services_decide_by_account_book (Bytes.ofText "account") [] valid made
      Hello.prime_widePrimes_fst Hello.prime_widePrimes_snd (by decide +kernel)
      (by decide +kernel) (by decide +kernel) (by decide +kernel) low short
  have placed : defaultArena.IsPlaced := isPlaced_defaultArena
  have roomy :
      Arena.cursorAfter Protocol.loginReplyCapacity 10 defaultArena.used ≤
        defaultArena.reserved := by
    decide
  obtain ⟨blocks, left, carved, _⟩ := Arena.carveMany_of_fits placed roomy
  have started :
      LoginService.ofArena defaultArena service {} =
        .ok ({ config := {}, key := service, sessions := blocks.map .ofBlock }, left) := by
    simp only [LoginService.ofArena, carved]
    rfl
  refine ⟨service, made, ?_, ?_⟩
  · cases blocks with
    | nil =>
        exact absurd (Arena.blocks_of_carveMany_eq_ok carved).1 (by decide)
    | cons first rest =>
        exact ⟨_, login (by decide) defaultArena left _ _ [.accept 0 .loopback] 0 _ started rfl
          rfl rfl⟩
  · have decided (before : GameService) (session : GameSession) :=
      game (by decide) defaultArena _ before [.accept 0 .loopback, .produce 0] 0 session rfl
    obtain ⟨byBook, obtained⟩ := decided _ _ rfl rfl (.inl rfl)
    exact ⟨_, byBook, obtained placed (by decide +kernel)⟩

end Gatehouse.Configuration
