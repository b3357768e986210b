import Mathlib.Control.Monad.Basic
import Gatehouse.Services
import Gatehouse.Proofs.Configuration.Reservation
import Gatehouse.Proofs.Session.Game.Service
import Gatehouse.Proofs.Session.Login.Service
import Gatehouse.Proofs.Transport.Switchboard

namespace Gatehouse

/-!
# When the reservation is enough

The services never exhaust their arena if the reservation holds all they may
carve, with the padding in front of every block. Validation compares the
reservation with the plain bytes of the blocks, which is enough only if all
blocks are whole words: a valid configuration can exhaust its arena.
-/

/-- Every reason to stop but that the arena is exhausted. -/
def Fault.IsSparing (fault : Fault) : Prop :=
  fault ≠ .exhausted

theorem Fault.isSparing_outOfRange : IsSparing .outOfRange := by
  simp [IsSparing]

theorem Fault.isSparing_brokenKey : IsSparing .brokenKey := by
  simp [IsSparing]

/-- A table that is too large is no exhaustion. -/
theorem Size.checkTable_meets (count entrySize : Nat) :
    (Size.checkTable count entrySize).Meets Fault.IsSparing fun _ => True := by
  unfold Size.checkTable
  split
  next small =>
    trivial
  next large =>
    simp [Checked.Meets, Fault.IsSparing]

namespace LoginService

/-- The login service carves its replies and starts sound. -/
theorem ofArena_meets
    {arena : Arena}
    {config : Configuration}
    (placed : arena.IsPlaced)
    (fits :
      Arena.cursorAfter Protocol.loginReplyCapacity config.login.maxConnections arena.used ≤
        arena.reserved)
    (key : KeyPair) :
    (ofArena arena key config).Meets Fault.IsSparing fun answer =>
      answer.1.IsSound config key ∧
        arena.IsCarvedTo
          (Arena.cursorAfter Protocol.loginReplyCapacity config.login.maxConnections arena.used)
          answer.2 := by
  obtain ⟨blocks, after, carved, reached⟩ := Arena.carveMany_of_fits placed fits
  have carves :
      (ofArena arena key config).Meets Fault.IsSparing fun answer =>
        arena.IsCarvedTo
          (Arena.cursorAfter Protocol.loginReplyCapacity config.login.maxConnections arena.used)
          answer.2 := by
    refine Checked.Meets.bind (Size.checkTable_meets _ _) ?_
    intro _ _
    rw [carved]
    exact reached
  refine carves.remember.weaken ?_
  intro answer answered
  rcases answer with ⟨service, left⟩
  rcases answered with ⟨started, isCarved⟩
  exact ⟨(isSound_ofArena started).1, isCarved⟩

/-- The login service stays sound and carves nothing. -/
theorem keeps_isSound
    (config : Configuration)
    (key : KeyPair) :
    protocol.Keeps Fault.IsSparing (IsSound config key) := by
  have outOfRange := Fault.isSparing_outOfRange
  apply ConnectionProtocol.keeps_of_perform outOfRange
  · intro service call sound
    exact sound.perform_meets (.inl Fault.isSparing_brokenKey) call (.inl outOfRange)
  · intro service slot
    refine Checked.Meets.bind (Checked.lookUp_meets (.inl outOfRange)) ?_
    intro session _
    exact Bytes.slice_meets outOfRange _ _ _
  · intro service slot
    refine Checked.Meets.bind (Checked.lookUp_meets (.inl outOfRange)) ?_
    intro session _
    trivial

end LoginService

namespace GameService

/-- The game service stays sound, and never wants a block while the pool has all its blocks. -/
theorem keeps_isSound
    {config : Configuration}
    {key : KeyPair}
    {books : Nat → BlockPool → Prop}
    (accepted : config.Accepted)
    (contract :
      BlockPool.Contract (fun _ => False) config.game.outputBufferSize config.outboundCount
        books) :
    protocol.Keeps Fault.IsSparing (IsSound config key books) := by
  have outOfRange := Fault.isSparing_outOfRange
  have sparing :
      BlockPool.Contract Fault.IsSparing config.game.outputBufferSize config.outboundCount books :=
    contract.allow fun _ impossible => impossible.elim
  apply ConnectionProtocol.keeps_of_perform outOfRange
  · intro service call sound
    have performs :=
      sound.perform_meets accepted sparing (.inl Fault.isSparing_brokenKey) call (.inl outOfRange)
    exact performs.weaken fun next goesOn => goesOn.isSound
  · intro service slot
    refine Checked.Meets.bind (Checked.lookUp_meets (.inl outOfRange)) ?_
    intro session _
    unfold GameSession.staged
    split
    next challenge =>
      trivial
    next other =>
      split
      next nothing =>
        trivial
      next message =>
        exact Bytes.slice_meets outOfRange _ _ _
  · intro service slot
    refine Checked.Meets.bind (Checked.lookUp_meets (.inl outOfRange)) ?_
    intro session _
    trivial

/-- The game service carves nothing when it starts. -/
theorem ofArena_meets (arena : Arena) (key : KeyPair) (config : Configuration) :
    (ofArena arena key config).Meets Fault.IsSparing fun _ => True := by
  have limited :
      (GameSession.ofLimit config.game.maxQueuedMessages).Meets Fault.IsSparing fun _ => True := by
    unfold GameSession.ofLimit FrameQueue.ofLimit
    rw [bind_assoc]
    refine Checked.Meets.bind (Size.checkTable_meets _ _) ?_
    intro _ _
    trivial
  have made :
      (newSessions config.game.maxConnections config.game.maxQueuedMessages).Meets
        Fault.IsSparing fun _ => True := by
    unfold newSessions
    refine Checked.Meets.bind (Size.checkTable_meets _ _) ?_
    intro _ _
    split
    next none =>
      trivial
    next some =>
      refine Checked.Meets.bind limited ?_
      intro session _
      trivial
  refine Checked.Meets.bind made ?_
  intro sessions _
  trivial

theorem ofArena_onArena
    {arena : Arena}
    {key : KeyPair}
    {config : Configuration}
    {service : GameService}
    (started : ofArena arena key config = .ok service)
    (later : Arena) :
    ofArena later key config = .ok (service.onArena later) := by
  simp only [ofArena, Checked.bind_eq_ok] at started ⊢
  rcases started with ⟨sessions, made, same⟩
  cases same
  exact ⟨sessions, made, rfl⟩

end GameService

namespace Switchboard

theorem carveChannels_meets
    {settings : SwitchboardSettings}
    {arena : Arena}
    (placed : arena.IsPlaced)
    (fits :
      Arena.cursorAfter settings.readBufferSize settings.capacity arena.used ≤ arena.reserved)
    (now : Nat) :
    (carveChannels arena settings now).Meets Fault.IsSparing fun answer =>
      arena.IsCarvedTo
        (Arena.cursorAfter settings.readBufferSize settings.capacity arena.used) answer.2 := by
  obtain ⟨blocks, after, carved, reached⟩ := Arena.carveMany_of_fits placed fits
  unfold carveChannels
  refine Checked.Meets.bind (Size.checkTable_meets _ _) ?_
  intro _ _
  rw [carved]
  exact reached

/-- A switchboard carves nothing but its read buffers when it starts to listen. -/
theorem listen_meets
    (settings : SwitchboardSettings)
    {start arena : Arena}
    {position : Nat}
    (placed : start.IsPlaced)
    (carvedBefore : start.IsCarvedTo position arena)
    (fits : Arena.cursorAfter settings.readBufferSize settings.capacity position ≤ start.reserved)
    (host : Host)
    (now : Nat)
    (serviceOf : Arena → σ) :
    (listen host settings arena now serviceOf).Meets Fault.IsSparing fun
      | .error _ => True
      | .ok (switchboard, after, _) =>
          switchboard.service = serviceOf after ∧
            start.IsCarvedTo
              (Arena.cursorAfter settings.readBufferSize settings.capacity position) after := by
  have within : position ≤ start.reserved := Nat.le_trans (Arena.le_cursorAfter _ _ _) fits
  have stillPlaced := carvedBefore.isPlaced placed within
  rw [← carvedBefore.used_eq, ← carvedBefore.reserved_eq] at fits
  have pooled : (IndexPool.ofCapacity settings.capacity).Meets Fault.IsSparing fun _ => True := by
    unfold IndexPool.ofCapacity
    split
    next none =>
      simp [Checked.Meets, Fault.IsSparing, throw, throwThe, MonadExceptOf.throw, bind, Except.bind]
    next some =>
      refine Checked.Meets.bind (Size.checkTable_meets _ _) ?_
      intro _ _
      trivial
  unfold listen
  split
  next error refused =>
    trivial
  next listening listened =>
    refine Checked.Meets.bind (carveChannels_meets stillPlaced fits now) ?_
    intro answer carved
    refine Checked.Meets.bind pooled ?_
    intro pool _
    refine ⟨rfl, carvedBefore.trans ?_⟩
    rw [← carvedBefore.used_eq]
    exact carved

end Switchboard

namespace Services

/-- The services after a sequence of passes. -/
def run (services : Services) : List ServicesInput → Checked Services
  | [] => .ok services
  | input :: rest => do (← services.pass input).services.run rest

/-- Services that are sound, whose pool has its place for every outbound buffer. -/
structure IsSound
    (config : Configuration)
    (key : KeyPair)
    (books : Nat → BlockPool → Prop)
    (services : Services) : Prop where
  login : services.login.service.IsSound config key
  game : services.game.service.IsSound config key books

namespace IsSound

variable {config : Configuration} {key : KeyPair} {books : Nat → BlockPool → Prop}
  {services : Services} (sound : services.IsSound config key books)

include sound

/-- A pass keeps the services sound and does not exhaust the arena. -/
theorem pass_meets
    (accepted : config.Accepted)
    (contract :
      BlockPool.Contract (fun _ => False) config.game.outputBufferSize config.outboundCount
        books)
    (input : ServicesInput) :
    (services.pass input).Meets Fault.IsSparing fun after =>
      after.services.IsSound config key books := by
  refine Checked.Meets.bind
    (Switchboard.pass_meets (LoginService.keeps_isSound config key) sound.login input.login) ?_
  intro login loginKept
  simp only
  split
  next error failed =>
    exact ⟨loginKept, sound.game⟩
  next passed =>
    refine Checked.Meets.bind
      (Switchboard.pass_meets (GameService.keeps_isSound accepted contract) sound.game
        input.game) ?_
    intro game gameKept
    exact ⟨loginKept, gameKept⟩

theorem run_meets
    (accepted : config.Accepted)
    (contract :
      BlockPool.Contract (fun _ => False) config.game.outputBufferSize config.outboundCount
        books)
    (inputs : List ServicesInput) :
    (services.run inputs).Meets Fault.IsSparing (IsSound config key books) := by
  induction inputs generalizing services with
  | nil =>
      exact sound
  | cons input rest inductionHypothesis =>
      refine Checked.Meets.bind (sound.pass_meets accepted contract input) ?_
      intro after kept
      exact inductionHypothesis kept

end IsSound

/-- Services that listen are sound and have exhausted nothing, if everything has its place. -/
theorem listen_meets
    {config : Configuration}
    {arena : Arena}
    (accepted : config.Accepted)
    (placed : arena.IsPlaced)
    (untouched : arena.used = 0)
    (fits : config.paddedBytes ≤ arena.reserved)
    (host : Host)
    (now : Nat)
    (key : KeyPair) :
    (listen host now config arena key).Meets Fault.IsSparing fun
      | .error _ => True
      | .ok services =>
          ∃ start,
            services.IsSound config key
              (BlockPool.BalancedAndReserved config.game.outputBufferSize config.outboundCount
                start) := by
  have fixedFits := Nat.le_trans accepted.fixedBytes_le fits
  have loginFits := Nat.le_trans config.loginBytes_le fixedFits
  have repliesFit :
      Arena.cursorAfter Protocol.loginReplyCapacity config.login.maxConnections arena.used ≤
        arena.reserved := by
    rw [untouched]
    exact Nat.le_trans (Arena.le_cursorAfter _ _ _) loginFits
  unfold listen
  refine Checked.Meets.bind (LoginService.ofArena_meets placed repliesFit key) ?_
  intro answer answered
  rcases answer with ⟨loginService, afterReplies⟩
  rcases answered with ⟨loginSound, repliesCarved⟩
  rw [untouched] at repliesCarved
  refine Checked.Meets.bind
    (Switchboard.listen_meets config.loginSettings placed repliesCarved loginFits host now
      fun _ => loginService) ?_
  intro loginAnswer loginListens
  cases loginAnswer with
  | error refused =>
      trivial
  | ok granted =>
      rcases granted with ⟨login, afterLogin, listening⟩
      rcases loginListens with ⟨loginService_eq, loginCarved⟩
      refine Checked.Meets.bind (GameService.ofArena_meets afterLogin key config).remember ?_
      intro gameService answered
      rcases answered with ⟨started, _⟩
      refine Checked.Meets.bind
        (Switchboard.listen_meets config.gameSettings placed loginCarved fixedFits listening now
          gameService.onArena) ?_
      intro gameAnswer gameListens
      cases gameAnswer with
      | error refused =>
          trivial
      | ok granted =>
          rcases granted with ⟨game, start, _⟩
          rcases gameListens with ⟨gameService_eq, gameCarved⟩
          have books :
              BlockPool.BalancedAndReserved config.game.outputBufferSize config.outboundCount start
                0 (.ofArena start config.game.outputBufferSize) := by
            refine ⟨BlockPool.Balanced.ofArena start _, gameCarved.isPlaced placed fixedFits, ?_,
              .refl start, Nat.zero_le _⟩
            rw [gameCarved.used_eq, gameCarved.reserved_eq]
            exact Nat.le_trans (Nat.le_of_eq accepted.cursorAfter_fixedBytes) fits
          refine ⟨start, ?_, ?_⟩
          · rw [loginService_eq]
            exact loginSound
          · rw [gameService_eq]
            exact (GameService.isSound_ofArena (GameService.ofArena_onArena started start) books).1

/--
For a valid configuration, carving everything exhausts the reservation exactly if
the blocks with the padding in front of them do not fit it. If they fit, neither
starting the services nor any run of them exhausts it; and they fit whenever all
buffer sizes are whole words.
-/
theorem reservation_suffices_iff
    {config : Configuration}
    {base : Nat}
    {arena : Arena}
    (valid : config.problems = .ok [])
    (aligned : base % 16 = 0)
    (made :
      Arena.ofSizes base config.arena.reserveBytes config.arena.granuleBytes = .ok (.ok arena))
    (addressable : base + arena.reserved + Arena.wordAlignment < Size.limit) :
    (config.carveAll arena = .error .exhausted ↔ arena.reserved < config.paddedBytes) ∧
      (config.paddedBytes ≤ arena.reserved →
        (∃ after, config.carveAll arena = .ok after) ∧
          ∀ (host : Host) (now : Nat) (key : KeyPair),
            listen host now config arena key ≠ .error .exhausted ∧
              ∀ (services : Services) (inputs : List ServicesInput),
                listen host now config arena key = .ok (.ok services) →
                services.run inputs ≠ .error .exhausted) ∧
      (config.login.readBufferSize % 8 = 0 →
        config.game.readBufferSize % 8 = 0 →
        config.game.outputBufferSize % 8 = 0 →
        config.paddedBytes ≤ arena.reserved) := by
  have accepted := Configuration.accepted_of_problems valid
  obtain ⟨rfl, untouched, large, _⟩ := Arena.of_ofSizes_eq_ok made
  have placed : arena.IsPlaced := ⟨by omega, addressable, by omega⟩
  refine ⟨⟨?_, ?_⟩, ?_, ?_⟩
  · intro exhausted
    apply Nat.lt_of_not_le
    intro enough
    obtain ⟨after, carved⟩ := accepted.carveAll_of_fits placed untouched enough
    rw [carved] at exhausted
    cases exhausted
  · exact accepted.carveAll_of_exceeds placed untouched
  · intro fits
    refine ⟨accepted.carveAll_of_fits placed untouched fits, ?_⟩
    intro host now key
    have listens := listen_meets accepted placed untouched fits host now key
    constructor
    · intro exhausted
      exact listens.of_eq_error exhausted rfl
    · intro services inputs listening exhausted
      obtain ⟨start, sound⟩ := listens.of_eq_ok listening
      have runs := sound.run_meets accepted (BlockPool.reserved_contract _ _ start) inputs
      exact runs.of_eq_error exhausted rfl
  · intro loginReads gameReads outbound
    exact Nat.le_trans (accepted.paddedBytes_le_of_words loginReads gameReads outbound) large

/-- The default services do not exhaust a reservation of the default size. -/
theorem default_reservation_suffices :
    (∃ after, Configuration.carveAll {} Configuration.defaultArena = .ok after) ∧
      listen .isolated 0 {} Configuration.defaultArena
          { firstPrime := 3, secondPrime := 11, modulus := 33, exponent := 3, firstExponent := 1,
            secondExponent := 7, coefficient := 2 } ≠
        .error .exhausted := by
  have valid : Configuration.problems {} = .ok [] := by
    decide +kernel
  have made : Arena.ofSizes 4096 67108864 1048576 = .ok (.ok Configuration.defaultArena) := by
    decide +kernel
  obtain ⟨_, holds, words⟩ := reservation_suffices_iff valid (by decide) made (by decide)
  obtain ⟨carves, listens⟩ := holds (words (by decide) (by decide) (by decide))
  exact ⟨carves, (listens _ _ _).1⟩

/-- A configuration whose buffers are not whole words, with a reservation of their plain bytes. -/
def unpadded : Configuration where
  arena := { reserveBytes := 28672, granuleBytes := 4096 }
  login := { maxConnections := 1, readBufferSize := 149 }
  game :=
    { maxConnections := 1
      readBufferSize := 137
      outputBufferSize := 13937
      maxQueuedMessages := 1 }

/-- A valid configuration can exhaust its arena: the last outbound buffer does not fit. -/
theorem unpadded_exhausts :
    unpadded.problems = .ok [] ∧
      Arena.ofSizes 4096 unpadded.arena.reserveBytes unpadded.arena.granuleBytes =
        .ok (.ok
          { base := 4096, reserved := 28672, granule := 4096, committed := 0, used := 0 }) ∧
      unpadded.carveAll
          { base := 4096, reserved := 28672, granule := 4096, committed := 0, used := 0 } =
        .error .exhausted := by
  decide +kernel

end Services

end Gatehouse
