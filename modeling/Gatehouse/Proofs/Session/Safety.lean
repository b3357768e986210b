import Gatehouse.Proofs.Checksum
import Gatehouse.Proofs.Hello.Block
import Gatehouse.Proofs.Session.Game.Wholeness
import Gatehouse.Proofs.Session.Login.Response

namespace Gatehouse

/-!
# No input stops the services

Under a validated configuration and a key that was made, every sequence of calls
for slots that exist is answered, whatever the messages are, and afterwards all
slots can be asked for what is staged and whether they go on. Only an arena
without room for another frame can stop the game service.
-/

/-- An outlet that can be asked for what is staged and whether the connection goes on. -/
structure Outlet.Answers (outlet : Outlet) : Prop where
  staged : ∃ bytes, outlet.staged = .ok bytes
  status : ∃ disposition, outlet.status = .ok disposition

namespace KeyPair

/-- The difference that recombination starts from is none below zero. -/
theorem IsMade.second_mod_le
    {key : KeyPair}
    (made : key.IsMade)
    (value : Nat) :
    Modular.power value key.secondExponent key.secondPrime % key.firstPrime ≤
      Modular.power value key.firstExponent key.firstPrime + key.firstPrime := by
  have positive : 0 < key.firstPrime := Nat.zero_lt_of_lt made.first_gt
  exact Nat.le_trans (Nat.mod_lt _ positive).le (Nat.le_add_left _ _)

end KeyPair

namespace LoginService

variable {config : Configuration} {key : KeyPair} {service : LoginService}

theorem IsWhole.outlet_answers
    (whole : service.IsWhole config key)
    {slot : Nat}
    (inside : slot < config.login.maxConnections) :
    (protocol.outlet slot service).Answers := by
  rw [← whole.count_eq] at inside
  have found := List.getElem?_eq_getElem inside
  have sessionWhole := whole.sessions_whole _ (List.getElem_mem inside)
  rw [outlet_eq found]
  exact ⟨sessionWhole.exists_staged, _, rfl⟩

/-- Every run of a service that was started answers. -/
theorem exists_run
    {arena rest : Arena}
    (started : ofArena arena key config = .ok (service, rest))
    (fitting : Hello.FitsBlock key)
    {calls : List ProtocolCall}
    (inside : ∀ call ∈ calls, call.slot < config.login.maxConnections) :
    ∃ after,
      protocol.run service calls = .ok after ∧
        ∀ slot < config.login.maxConnections, (protocol.outlet slot after).Answers := by
  obtain ⟨sound, _⟩ := isSound_ofArena started
  have answers : (protocol.run service calls).Meets (fun _ => False) _ :=
    sound.run_meets (.inr fitting) (.inr inside)
  obtain ⟨after, ran, _⟩ := answers.exists_eq_ok
  exact ⟨after, ran, fun slot => ((isWhole_ofArena started).run ran).outlet_answers⟩

end LoginService

namespace GameService

variable {config : Configuration} {key : KeyPair} {service : GameService}

theorem IsWhole.outlet_answers
    {books : Nat → BlockPool → Prop}
    (whole : service.IsWhole config key books)
    {slot : Nat}
    (inside : slot < config.game.maxConnections) :
    (protocol.outlet slot service).Answers := by
  rw [← whole.count_eq] at inside
  have found := List.getElem?_eq_getElem inside
  have sessionWhole := whole.sessions_whole _ (List.getElem_mem inside)
  rw [outlet_eq found]
  exact ⟨sessionWhole.exists_staged, _, rfl⟩

variable {arena : Arena} (started : ofArena arena key config = .ok service)

include started

/-- After every run of a service that was started its slots can be asked. -/
theorem outlet_answers_of_run
    {calls : List ProtocolCall}
    {after : GameService}
    (ran : protocol.run service calls = .ok after)
    {slot : Nat}
    (inside : slot < config.game.maxConnections) :
    (protocol.outlet slot after).Answers := by
  have books : BlockPool.Balanced config.game.outputBufferSize 0 _ :=
    BlockPool.Balanced.ofArena arena _
  exact ((isWhole_ofArena started books).1.run (BlockPool.balanced_contract _) ran).outlet_answers
    inside

variable (accepted : config.Accepted) (fitting : Hello.FitsBlock key) (placed : arena.IsPlaced)
  {calls : List ProtocolCall} (within : ∀ call ∈ calls, call.slot < config.game.maxConnections)

include accepted fitting placed within

/-- A run stops only for want of a block. -/
theorem exhausted_of_run
    {fault : Fault}
    (stopped : protocol.run service calls = .error fault) :
    fault = .exhausted := by
  have books :
      BlockPool.BalancedAndPlaced config.game.outputBufferSize 0
        (.ofArena arena config.game.outputBufferSize) :=
    ⟨BlockPool.Balanced.ofArena arena _, placed⟩
  obtain ⟨sound, follows⟩ := isSound_ofArena started books
  exact (sound.run_meets accepted (BlockPool.placed_contract _ _) (.inr fitting) calls (.inr within)
    follows).of_eq_error stopped

/-- A run answers if the arena has room for all frames that can wait and be staged at once. -/
theorem exists_run
    (room :
      Arena.cursorAfter config.game.outputBufferSize config.outboundCount arena.used ≤
        arena.reserved) :
    ∃ after, protocol.run service calls = .ok after := by
  have books :
      BlockPool.BalancedAndReserved config.game.outputBufferSize config.outboundCount arena 0
        (.ofArena arena config.game.outputBufferSize) :=
    ⟨BlockPool.Balanced.ofArena arena _, placed, room, .refl arena, Nat.zero_le _⟩
  obtain ⟨sound, follows⟩ := isSound_ofArena started books
  have answers : (protocol.run service calls).Meets (fun _ => False) _ :=
    sound.run_meets accepted (BlockPool.reserved_contract _ _ _) (.inr fitting) calls (.inr within)
      follows
  obtain ⟨after, ran, _⟩ := answers.exists_eq_ok
  exact ⟨after, ran⟩

end GameService

/--
Under a validated configuration, no sequence of calls for slots that exist stops
a service that was started with a key that `KeyPair.ofPrimes` made, be the two
factors prime or not: the private operation subtracts nothing larger and its
results fit the block of a handshake, the sums of a checksum keep to 32 bits,
and every index and slice lies inside its table or buffer. The game service can
only stop when the arena is exhausted, and does not if the arena has room for
all frames that are held at once.
-/
theorem no_input_stops_services
    {config : Configuration}
    {firstPrime secondPrime exponent : Nat}
    {key : KeyPair}
    (valid : config.problems = .ok [])
    (made : KeyPair.ofPrimes firstPrime secondPrime exponent = .ok key) :
    (∀ value,
      Modular.power value key.secondExponent key.secondPrime % key.firstPrime ≤
          Modular.power value key.firstExponent key.firstPrime + key.firstPrime ∧
        key.privatePower value < firstPrime * secondPrime ∧
        (Bytes.bigEndian (key.privatePower value)).length ≤ 128) ∧
      (∀ bytes, Checksum.Sums.start.absorb? bytes = .ok (Checksum.Sums.start.absorb bytes)) ∧
      (∀ arena rest service calls,
        LoginService.ofArena arena key config = .ok (service, rest) →
        (∀ call ∈ calls, call.slot < config.login.maxConnections) →
        ∃ after,
          LoginService.protocol.run service calls = .ok after ∧
            ∀ slot < config.login.maxConnections,
              (LoginService.protocol.outlet slot after).Answers) ∧
      ∀ arena service calls,
        GameService.ofArena arena key config = .ok service →
        arena.IsPlaced →
        (∀ call ∈ calls, call.slot < config.game.maxConnections) →
        (∀ fault, GameService.protocol.run service calls = .error fault → fault = .exhausted) ∧
          (Arena.cursorAfter config.game.outputBufferSize config.outboundCount arena.used ≤
              arena.reserved →
            ∃ after, GameService.protocol.run service calls = .ok after) ∧
          ∀ after,
            GameService.protocol.run service calls = .ok after →
            ∀ slot < config.game.maxConnections,
              (GameService.protocol.outlet slot after).Answers := by
  have accepted := Configuration.accepted_of_problems valid
  obtain ⟨isMade, first_eq, second_eq⟩ := KeyPair.isMade_of_ofPrimes made
  have fitting := Hello.fitsBlock_of_isMade isMade
  refine ⟨?_, Checksum.Sums.absorb?_start, ?_, ?_⟩
  · intro value
    have below := isMade.privatePower_lt value
    rw [isMade.modulus_eq, first_eq, second_eq] at below
    exact ⟨isMade.second_mod_le value, below, fitting value⟩
  · intro arena rest service calls started inside
    exact LoginService.exists_run started fitting inside
  · intro arena service calls started placed inside
    exact ⟨fun fault => GameService.exhausted_of_run started accepted fitting placed inside,
      GameService.exists_run started accepted fitting placed inside,
      fun after ran slot => GameService.outlet_answers_of_run started ran⟩

/-- The default services answer whatever is read, for a slot in use and for one that is free. -/
theorem default_services_answer :
    ∃ key login rest game,
      LoginService.ofArena Configuration.defaultArena key {} = .ok (login, rest) ∧
        GameService.ofArena Configuration.defaultArena key {} = .ok game ∧
        (∀ message,
          ∃ after,
            LoginService.protocol.run login [.accept 0 .loopback, .read 0 message, .read 1 message] =
                .ok after ∧
              (LoginService.protocol.outlet 0 after).Answers) ∧
        ∀ message,
          ∃ after,
            GameService.protocol.run game
                [.accept 0 .loopback, .produce 0, .read 0 message, .read 1 message] =
              .ok after ∧
              (GameService.protocol.outlet 0 after).Answers := by
  have valid : Configuration.problems {} = .ok [] := by
    decide +kernel
  obtain ⟨key, made, _⟩ := Hello.exists_isWideKey
  have starts :
      ∃ login rest game,
        LoginService.ofArena Configuration.defaultArena key {} = .ok (login, rest) ∧
          GameService.ofArena Configuration.defaultArena key {} = .ok game :=
    ⟨_, _, _, rfl, rfl⟩
  obtain ⟨login, rest, game, loginStarted, gameStarted⟩ := starts
  obtain ⟨_, _, loginAnswers, gameAnswers⟩ := no_input_stops_services valid made
  refine ⟨key, login, rest, game, loginStarted, gameStarted, ?_, ?_⟩
  · intro message
    obtain ⟨after, ran, answers⟩ :=
      loginAnswers _ _ login [.accept 0 .loopback, .read 0 message, .read 1 message] loginStarted
        (by simp [ProtocolCall.slot])
    exact ⟨after, ran, answers 0 (by decide)⟩
  · intro message
    obtain ⟨_, answers, asked⟩ :=
      gameAnswers _ game [.accept 0 .loopback, .produce 0, .read 0 message, .read 1 message]
        gameStarted Configuration.isPlaced_defaultArena (by simp [ProtocolCall.slot])
    have room :
        Arena.cursorAfter 16384 (Configuration.outboundCount {})
            Configuration.defaultArena.used ≤
          Configuration.defaultArena.reserved := by
      decide +kernel
    obtain ⟨after, ran⟩ := answers room
    exact ⟨after, ran, asked after ran 0 (by decide)⟩

end Gatehouse
