import Gatehouse.CommandLine
import Gatehouse.Proofs.Frame.Layout
import Gatehouse.Proofs.Outcomes

namespace Gatehouse

/-!
# When validation answers

Validation computes the length of every login reply and the size of the arena
in checked arithmetic, whatever it found wrong before. It answers exactly if all
these sizes stay in range; then its verdict on the reservation is the one that
the numbers have without a bound. Otherwise it stops with an overflow.
-/

/-- A checked size is the size itself, or an overflow. -/
theorem Size.check_meets (size : Nat) :
    (Size.check size).Meets (· = .overflow) fun _ => True := by
  unfold Size.check
  split <;> trivial

theorem Size.add_meets (left right : Nat) :
    (Size.add left right).Meets (· = .overflow) fun _ => True :=
  Size.check_meets _

theorem Size.mul_meets (left right : Nat) :
    (Size.mul left right).Meets (· = .overflow) fun _ => True :=
  Size.check_meets _

theorem Size.roundUp_meets (size unit : Nat) :
    (Size.roundUp size unit).Meets (· = .overflow) fun _ => True := by
  unfold Size.roundUp
  split <;> exact Size.check_meets _

theorem Frame.sealedLength_meets (payloadLength : Nat) :
    (Frame.sealedLength payloadLength).Meets (· = .overflow) fun _ => True := by
  unfold Frame.sealedLength
  exact (Size.add_meets _ _).bind fun _ _ =>
    (Size.roundUp_meets _ _).bind fun _ _ => Size.add_meets _ _

@[simp]
theorem mem_problemIf {condition : Bool} {problem other : ConfigProblem} :
    other ∈ problemIf condition problem ↔ condition = true ∧ other = problem := by
  cases condition <;> simp [problemIf]

namespace Configuration

/-- Bytes of some characters in a login reply. -/
def listedBytes (config : Configuration) (names : List String) : Nat :=
  (names.map fun name => 10 + name.utf8ByteSize + config.login.worldName.utf8ByteSize).sum

/-- Bytes of the sealed reply that lists the characters of an account. -/
def replyBytes (config : Configuration) (account : Account) : Nat :=
  Frame.lengthAround
    (3 + config.login.motd.utf8ByteSize + config.listedBytes account.characters + 4)

/-- Bytes of the arena that the services may carve, padding apart. -/
def neededBytes (config : Configuration) : Nat :=
  config.login.maxConnections * (config.login.readBufferSize + Protocol.loginReplyCapacity) +
    config.game.maxConnections * config.game.readBufferSize +
    config.game.maxConnections * (config.game.maxQueuedMessages + 1) *
      config.game.outputBufferSize

/-- The sizes on the way to the bytes needed stay in range. -/
structure CarvedFits (config : Configuration) : Prop where
  login_slot_lt : config.login.readBufferSize + Protocol.loginReplyCapacity < Size.limit
  held_lt : config.game.maxQueuedMessages + 1 < Size.limit
  game_buffers_lt :
    config.game.maxConnections * (config.game.maxQueuedMessages + 1) < Size.limit
  needed_lt : config.neededBytes < Size.limit

/-- All sizes that validation computes stay in range. -/
structure SizesFit (config : Configuration) : Prop where
  replies_lt : ∀ account ∈ config.accounts, config.replyBytes account < Size.limit
  carved : config.CarvedFits

theorem entriesLength_eq_ok
    {config : Configuration}
    {names : List String}
    {total : Nat} :
    config.entriesLength names = .ok total ↔
      config.listedBytes names < Size.limit ∧ total = config.listedBytes names := by
  induction names generalizing total with
  | nil =>
      simp [entriesLength, listedBytes, Size.limit, eq_comm]
  | cons name rest inductionHypothesis =>
      simp only [entriesLength, entryLength, Checked.bind_eq_ok, Size.add, Size.check_eq_ok,
        inductionHypothesis]
      simp only [listedBytes, List.map_cons, List.sum_cons]
      constructor
      · intro computed
        rcases computed with ⟨_, ⟨_, ⟨_, rfl⟩, _, rfl⟩, _, ⟨_, rfl⟩, inside, rfl⟩
        exact ⟨inside, rfl⟩
      · intro computed
        rcases computed with ⟨inside, rfl⟩
        exact ⟨_, ⟨_, ⟨by omega, rfl⟩, by omega, rfl⟩, _, ⟨by omega, rfl⟩, inside, rfl⟩

/-- The length of a login reply is computed if it is in range. -/
theorem loginReplyLength_eq_ok
    {config : Configuration}
    {account : Account}
    {length : Nat} :
    config.loginReplyLength account = .ok length ↔
      config.replyBytes account < Size.limit ∧ length = config.replyBytes account := by
  simp only [loginReplyLength, Checked.bind_eq_ok, Size.add, Size.check_eq_ok,
    entriesLength_eq_ok, Frame.sealedLength_eq_ok, replyBytes]
  constructor
  · intro computed
    rcases computed with ⟨_, ⟨_, rfl⟩, _, ⟨_, rfl⟩, _, ⟨_, rfl⟩, _, ⟨_, rfl⟩, inside, rfl⟩
    exact ⟨inside, rfl⟩
  · intro computed
    rcases computed with ⟨inside, rfl⟩
    have framed := Frame.lengthAround_eq
      (3 + config.login.motd.utf8ByteSize + config.listedBytes account.characters + 4)
    exact ⟨_, ⟨by omega, rfl⟩, _, ⟨by omega, rfl⟩, _, ⟨by omega, rfl⟩, _, ⟨by omega, rfl⟩,
      inside, rfl⟩

/-- The size of the arena is computed if it and the sizes on the way are in range. -/
theorem carvedBytes_eq_ok
    {config : Configuration}
    {needed : Nat} :
    config.carvedBytes = .ok needed ↔ config.CarvedFits ∧ needed = config.neededBytes := by
  simp only [carvedBytes, Checked.bind_eq_ok, Size.add, Size.mul, Size.check_eq_ok]
  constructor
  · intro computed
    obtain ⟨_, ⟨slot, rfl⟩, _, ⟨_, rfl⟩, _, ⟨_, rfl⟩, _, ⟨held, rfl⟩, _, ⟨buffers, rfl⟩, _,
      ⟨_, rfl⟩, _, ⟨_, rfl⟩, inside, rfl⟩ := computed
    exact ⟨⟨slot, held, buffers, inside⟩, rfl⟩
  · rintro ⟨fits, rfl⟩
    have inside := fits.needed_lt
    unfold neededBytes at inside ⊢
    -- each summand is at most their sum
    refine ⟨_, ⟨fits.login_slot_lt, rfl⟩, _, ⟨?_, rfl⟩, _, ⟨?_, rfl⟩, _, ⟨fits.held_lt, rfl⟩, _,
      ⟨fits.game_buffers_lt, rfl⟩, _, ⟨?_, rfl⟩, _, ⟨?_, rfl⟩, inside, rfl⟩ <;> omega

theorem entriesLength_meets (config : Configuration) (names : List String) :
    (config.entriesLength names).Meets (· = .overflow) fun _ => True := by
  induction names with
  | nil =>
      trivial
  | cons name rest inductionHypothesis =>
      unfold entriesLength entryLength
      exact ((Size.add_meets _ _).bind fun _ _ => Size.add_meets _ _).bind fun _ _ =>
        inductionHypothesis.bind fun _ _ => Size.add_meets _ _

theorem loginReplyLength_meets (config : Configuration) (account : Account) :
    (config.loginReplyLength account).Meets (· = .overflow) fun _ => True := by
  unfold loginReplyLength
  exact (Size.add_meets _ _).bind fun _ _ =>
    (config.entriesLength_meets _).bind fun _ _ =>
      (Size.add_meets _ _).bind fun _ _ =>
        (Size.add_meets _ _).bind fun _ _ => Frame.sealedLength_meets _

theorem loginReplyLength_of_exceeds
    {config : Configuration}
    {account : Account}
    (exceeds : ¬config.replyBytes account < Size.limit) :
    config.loginReplyLength account = .error .overflow := by
  cases computed : config.loginReplyLength account with
  | ok length =>
      exact absurd (loginReplyLength_eq_ok.mp computed).1 exceeds
  | error fault =>
      rw [(config.loginReplyLength_meets account).of_eq_error computed]

theorem carvedBytes_of_exceeds
    {config : Configuration}
    (exceeds : ¬config.CarvedFits) :
    config.carvedBytes = .error .overflow := by
  cases computed : config.carvedBytes with
  | ok needed =>
      exact absurd (carvedBytes_eq_ok.mp computed).1 exceeds
  | error fault =>
      unfold carvedBytes at computed
      -- the unifier would count the numeral down
      generalize Protocol.loginReplyCapacity = capacity at computed
      refine congrArg Except.error
        (@Checked.Meets.of_eq_error _ (· = .overflow) (fun _ => True) _ fault ?_ computed)
      exact (Size.add_meets _ _).bind fun _ _ =>
        (Size.mul_meets _ _).bind fun _ _ =>
          (Size.mul_meets _ _).bind fun _ _ =>
            (Size.add_meets _ _).bind fun _ _ =>
              (Size.mul_meets _ _).bind fun _ _ =>
                (Size.mul_meets _ _).bind fun _ _ =>
                  (Size.add_meets _ _).bind fun _ _ => Size.add_meets _ _

/-- Accounts whose replies are in range are judged, and nothing is said of the reservation. -/
theorem accountProblems_of_fits
    {config : Configuration}
    {accounts : List Account}
    (fits : ∀ account ∈ accounts, config.replyBytes account < Size.limit)
    (earlier : List Account) :
    ∃ problems,
      config.accountProblems earlier accounts = .ok problems ∧
        ∀ reserved needed, .reservationTooSmall reserved needed ∉ problems := by
  induction accounts generalizing earlier with
  | nil =>
      exact ⟨[], rfl, by simp⟩
  | cons account rest inductionHypothesis =>
      obtain ⟨firstFits, restFits⟩ := List.forall_mem_cons.mp fits
      obtain ⟨later, restProblems, restSilent⟩ :=
        inductionHypothesis restFits (earlier ++ [account])
      have computed := loginReplyLength_eq_ok.mpr ⟨firstFits, rfl⟩
      simp only [accountProblems, computed, restProblems, bind, Except.bind]
      refine ⟨_, rfl, ?_⟩
      intro reserved needed
      have silent : .reservationTooSmall reserved needed ∉ account.problems := by
        simp only [Account.problems, Account.characterProblems]
        split <;> simp
      simp [silent, restSilent]

theorem accountProblems_of_exceeds
    {config : Configuration}
    {accounts : List Account}
    (exceeds : ¬∀ account ∈ accounts, config.replyBytes account < Size.limit)
    (earlier : List Account) :
    config.accountProblems earlier accounts = .error .overflow := by
  induction accounts generalizing earlier with
  | nil =>
      exact absurd (by simp) exceeds
  | cons account rest inductionHypothesis =>
      by_cases firstFits : config.replyBytes account < Size.limit
      · have restExceeds : ¬∀ account ∈ rest, config.replyBytes account < Size.limit :=
          fun restFits => exceeds (List.forall_mem_cons.mpr ⟨firstFits, restFits⟩)
        have computed := loginReplyLength_eq_ok.mpr ⟨firstFits, rfl⟩
        simp only [accountProblems, computed, inductionHypothesis restExceeds, bind, Except.bind]
      · simp only [accountProblems, loginReplyLength_of_exceeds firstFits, bind, Except.bind]

/-- Only the check of the reservation objects to its size. -/
theorem sections_silent (config : Configuration) (reserved needed : Nat) :
    .reservationTooSmall reserved needed ∉
      problemIf (!LogLevel.isValid config.logLevel) (.invalidLogLevel config.logLevel) ++
        config.tickProblems ++
        config.arena.problems ++
        config.login.problems ++
        config.game.problems ++
        config.key?.elim [] KeySection.problems ++
        problemIf config.accounts.isEmpty .noAccounts := by
  have ofTick : .reservationTooSmall reserved needed ∉ config.tickProblems := by
    unfold tickProblems
    split <;> simp
  have ofArena : .reservationTooSmall reserved needed ∉ config.arena.problems := by
    unfold ArenaSection.problems
    split <;> simp
  have ofSlots (service : ServiceName) (count : Nat) :
      .reservationTooSmall reserved needed ∉ service.slotProblems count := by
    unfold ServiceName.slotProblems
    split <;> simp
  have ofReadBuffer (service : ServiceName) (size handshake : Nat) :
      .reservationTooSmall reserved needed ∉ service.readBufferProblems size handshake := by
    unfold ServiceName.readBufferProblems
    split <;> simp
  have ofOutputBuffer :
      .reservationTooSmall reserved needed ∉ config.game.outputBufferProblems := by
    unfold GameSection.outputBufferProblems
    split <;> simp
  have ofKey : .reservationTooSmall reserved needed ∉ config.key?.elim [] KeySection.problems := by
    cases config.key? <;> simp [KeySection.problems]
  simp [ofTick, ofArena, ofSlots, ofReadBuffer, ofOutputBuffer, ofKey, LoginSection.problems,
    GameSection.problems]

/-- Validation whose sizes are in range answers, and judges the reservation by the bytes needed. -/
theorem problems_of_fits
    {config : Configuration}
    (fits : config.SizesFit) :
    ∃ problems,
      config.problems = .ok problems ∧
        ∀ reserved needed,
          .reservationTooSmall reserved needed ∈ problems ↔
            reserved = config.arena.reserveBytes ∧
              needed = config.neededBytes ∧
              config.arena.reserveBytes < config.neededBytes := by
  obtain ⟨ofAccounts, judged, silent⟩ := accountProblems_of_fits fits.replies_lt []
  have computed := carvedBytes_eq_ok.mpr ⟨fits.carved, rfl⟩
  simp only [problems, reservationProblems, judged, computed, bind, Except.bind, pure, Except.pure]
  refine ⟨_, rfl, ?_⟩
  intro reserved needed
  have spoken :
      .reservationTooSmall reserved needed ∈
          problemIf (config.arena.reserveBytes < config.neededBytes)
            (.reservationTooSmall config.arena.reserveBytes config.neededBytes) ↔
        reserved = config.arena.reserveBytes ∧
          needed = config.neededBytes ∧
          config.arena.reserveBytes < config.neededBytes := by
    simp only [mem_problemIf, decide_eq_true_eq, ConfigProblem.reservationTooSmall.injEq]
    exact ⟨fun ⟨exceeds, same, equal⟩ => ⟨same, equal, exceeds⟩,
      fun ⟨same, equal, exceeds⟩ => ⟨exceeds, same, equal⟩⟩
  rw [List.mem_append, List.mem_append, ← spoken]
  simp only [config.sections_silent, silent, false_or]

theorem problems_of_exceeds
    {config : Configuration}
    (exceeds : ¬config.SizesFit) :
    config.problems = .error .overflow := by
  by_cases replies : ∀ account ∈ config.accounts, config.replyBytes account < Size.limit
  · have carved : ¬config.CarvedFits := fun carved => exceeds ⟨replies, carved⟩
    obtain ⟨ofAccounts, judged, _⟩ := accountProblems_of_fits replies []
    simp only [problems, reservationProblems, judged, carvedBytes_of_exceeds carved, bind,
      Except.bind]
  · simp only [problems, accountProblems_of_exceeds replies, bind, Except.bind]

/-- Validation answers a verdict exactly if all sizes are in range. -/
theorem validated_answers_iff (config : Configuration) :
    (∃ verdict, config.validated = .ok verdict) ↔ config.SizesFit := by
  constructor
  · rintro ⟨verdict, answered⟩
    by_contra exceeds
    simp [validated, problems_of_exceeds exceeds, bind, Except.bind] at answered
  · intro fits
    obtain ⟨problems, judged, _⟩ := problems_of_fits fits
    simp only [validated, judged, bind, Except.bind]
    exact ⟨_, rfl⟩

/-- Loading answers a verdict exactly if what is loaded, if anything, has sizes in range. -/
theorem loadValidated_answers_iff
    (readFile : String → Except String String)
    (path? : Option String) :
    (∃ verdict, loadValidated readFile path? = .ok verdict) ↔
      ∀ config, load readFile path? = .ok config → config.SizesFit := by
  unfold loadValidated
  cases load readFile path? with
  | error error =>
      simp
  | ok config =>
      simp [validated_answers_iff]

/--
Validation answers exactly if all sizes that it computes stay in range. It then
objects to the reservation exactly if the bytes needed exceed it; otherwise it
stops with an overflow. Checking a configuration and loading one answer a
verdict exactly then, too.
-/
theorem validation_answers (config : Configuration) :
    (config.SizesFit →
      ∃ problems,
        config.problems = .ok problems ∧
          ∀ reserved needed,
            .reservationTooSmall reserved needed ∈ problems ↔
              reserved = config.arena.reserveBytes ∧
                needed = config.neededBytes ∧
                config.arena.reserveBytes < config.neededBytes) ∧
      (¬config.SizesFit → config.problems = .error .overflow) ∧
      ((∃ verdict, config.validated = .ok verdict) ↔ config.SizesFit) ∧
      ∀ readFile path?,
        (∃ verdict, loadValidated readFile path? = .ok verdict) ↔
          ∀ loaded, load readFile path? = .ok loaded → loaded.SizesFit :=
  ⟨problems_of_fits, problems_of_exceeds, config.validated_answers_iff, loadValidated_answers_iff⟩

/-- Validation of the default configuration answers, without an objection to the reservation. -/
theorem default_validation_answers :
    ∃ problems,
      Configuration.problems {} = .ok problems ∧
        ∀ reserved needed, .reservationTooSmall reserved needed ∉ problems := by
  have fits : SizesFit {} :=
    ⟨by decide +kernel, by decide +kernel, by decide +kernel, by decide +kernel, by decide +kernel⟩
  obtain ⟨problems, judged, objects⟩ := (validation_answers {}).1 fits
  refine ⟨problems, judged, ?_⟩
  intro reserved needed objected
  have exceeds := ((objects reserved needed).mp objected).2.2
  exact absurd exceeds (by decide +kernel)

/--
Validation overflows on a queue without bound: with outbound buffers of no
bytes, which need nothing of the reservation, as well as with those of the
defaults, to whose number it should object.
-/
theorem unbounded_queue_overflows :
    let empty : Configuration := {
      game := { maxQueuedMessages := 9223372036854775807, outputBufferSize := 0 } }
    let unbounded : Configuration := { game := { maxQueuedMessages := 9223372036854775807 } }
    (empty.neededBytes ≤ empty.arena.reserveBytes ∧
        empty.problems = .error .overflow ∧ empty.validated = .error .overflow) ∧
      unbounded.arena.reserveBytes < unbounded.neededBytes ∧
      unbounded.problems = .error .overflow ∧ unbounded.validated = .error .overflow := by
  decide +kernel

end Configuration

end Gatehouse
