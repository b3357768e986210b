import Gatehouse.Configuration.Validation

namespace Gatehouse

/-!
# What validation promises

A configuration without objections satisfies a list of bounds. They are read
back from the validator here, once, as the fields of `Configuration.Accepted`,
so that nothing later looks at the objections again.
-/

@[simp]
theorem problemIf_eq_nil {condition : Bool} {problem : ConfigProblem} :
    problemIf condition problem = [] ↔ condition = false := by
  cases condition <;> simp [problemIf]

namespace Account

/-- What validation promises of an account on its own. -/
structure Accepted (account : Account) : Prop where
  name_ne_empty : account.name ≠ ""
  name_short : account.name.utf8ByteSize ≤ Credential.maxLength
  password_short : account.password.utf8ByteSize ≤ Credential.maxLength
  characters_short :
    ∀ character ∈ account.characters, character.utf8ByteSize ≤ Credential.maxLength
  characters_ne_nil : account.characters ≠ []
  characters_few : account.characters.length ≤ 255

/-- An account without objections is accepted. -/
theorem accepted_of_problems
    {account : Account}
    (none : account.problems = []) :
    account.Accepted := by
  simp only [problems, List.append_eq_nil_iff, problemIf_eq_nil, List.map_eq_nil_iff,
    List.filter_eq_nil_iff, decide_eq_true_eq, Nat.not_lt] at none
  rcases none with ⟨⟨named, short⟩, characters⟩
  refine ⟨?_, ?_, ?_, ?_, ?_, ?_⟩
  · intro empty
    simp [empty] at named
  · exact short (.accountName account.name) (by simp [limitedTexts])
  · exact short (.password account.password) (by simp [limitedTexts])
  · intro character member
    exact short (.characterName character) (by simp [limitedTexts, member])
  · intro empty
    simp [characterProblems, empty] at characters
  · unfold characterProblems at characters
    split at characters
    · cases characters
    · simpa using characters

end Account

namespace Configuration

/-- What validation promises of a configuration. -/
structure Accepted (config : Configuration) : Prop where
  login_slots_pos : 0 < config.login.maxConnections
  login_slots_le : config.login.maxConnections ≤ 65535
  login_read_ge : Protocol.loginHandshakeLength ≤ config.login.readBufferSize
  login_read_le : config.login.readBufferSize ≤ 65535
  game_slots_pos : 0 < config.game.maxConnections
  game_slots_le : config.game.maxConnections ≤ 65535
  game_read_ge : Protocol.gameHandshakeLength ≤ config.game.readBufferSize
  game_read_le : config.game.readBufferSize ≤ 65535
  output_ge : Protocol.minOutboundCapacity ≤ config.game.outputBufferSize
  output_le : config.game.outputBufferSize ≤ 65535
  queue_pos : 0 < config.game.maxQueuedMessages
  reserve_pos : 0 < config.arena.reserveBytes
  granule_pos : 0 < config.arena.granuleBytes
  account_accepted : ∀ account ∈ config.accounts, account.Accepted
  reply_fits :
    ∀ account ∈ config.accounts,
      ∃ length,
        config.loginReplyLength account = .ok length ∧ length ≤ Protocol.loginReplyCapacity
  names_distinct : config.accounts.Pairwise fun first second => first.name ≠ second.name
  carved_fits :
    ∃ needed, config.carvedBytes = .ok needed ∧ needed ≤ config.arena.reserveBytes

theorem slots_of_problems
    {service : ServiceName}
    {count : Nat}
    (none : service.slotProblems count = []) :
    0 < count ∧ count ≤ 65535 := by
  unfold ServiceName.slotProblems at none
  split at none
  · cases none
  next positive =>
    simp only [problemIf_eq_nil, decide_eq_false_iff_not] at none
    omega

/-- A read buffer without objections holds the handshake and what a length can say. -/
theorem readBuffer_of_problems
    {service : ServiceName}
    {size handshake : Nat}
    (none : service.readBufferProblems size handshake = []) :
    handshake ≤ size ∧ size ≤ 65535 := by
  unfold ServiceName.readBufferProblems at none
  split at none
  · cases none
  next long =>
    simp only [problemIf_eq_nil, decide_eq_false_iff_not] at none
    omega

/-- An outbound buffer without objections holds the world and what a length can say. -/
theorem outputBuffer_of_problems
    {config : GameSection}
    (none : config.outputBufferProblems = []) :
    Protocol.minOutboundCapacity ≤ config.outputBufferSize ∧
      config.outputBufferSize ≤ 65535 := by
  unfold GameSection.outputBufferProblems at none
  split at none
  · cases none
  next long =>
    simp only [problemIf_eq_nil, decide_eq_false_iff_not] at none
    omega

/-- Accounts without objections are accepted, fit their reply and differ from all before them. -/
theorem accounts_of_problems
    {config : Configuration}
    {earlier accounts : List Account}
    (none : config.accountProblems earlier accounts = .ok []) :
    (∀ account ∈ accounts,
        account.Accepted ∧
          (∃ length,
            config.loginReplyLength account = .ok length ∧
              length ≤ Protocol.loginReplyCapacity) ∧
          ∀ other ∈ earlier, other.name ≠ account.name) ∧
      accounts.Pairwise fun first second => first.name ≠ second.name := by
  induction accounts generalizing earlier with
  | nil =>
      simp
  | cons account rest inductionHypothesis =>
      simp only [accountProblems, Checked.bind_eq_ok, pure, Except.pure, Except.ok.injEq,
        List.append_eq_nil_iff, problemIf_eq_nil, decide_eq_false_iff_not, Nat.not_lt] at none
      rcases none with ⟨length, computed, later, restProblems, ⟨⟨own, unlike⟩, fits⟩, rfl⟩
      obtain ⟨members, distinct⟩ := inductionHypothesis restProblems
      have unlikeEarlier : ∀ other ∈ earlier, other.name ≠ account.name := by
        simpa using unlike
      constructor
      · intro member isMember
        rcases List.mem_cons.mp isMember with isHead | inRest
        · subst isHead
          exact ⟨Account.accepted_of_problems own, ⟨length, computed, fits⟩, unlikeEarlier⟩
        · obtain ⟨accepted, reply, unlikeBefore⟩ := members member inRest
          exact ⟨accepted, reply,
            fun other before => unlikeBefore other (List.mem_append_left _ before)⟩
      · rw [List.pairwise_cons]
        refine ⟨?_, distinct⟩
        intro second inRest
        exact (members second inRest).2.2 account (by simp)

/-- A configuration without objections is accepted. -/
theorem accepted_of_problems
    {config : Configuration}
    (none : config.problems = .ok []) :
    config.Accepted := by
  simp only [problems, Checked.bind_eq_ok, pure, Except.pure, Except.ok.injEq,
    List.append_eq_nil_iff] at none
  obtain ⟨_, ofAccounts, _, ofReservation,
    ⟨⟨⟨⟨⟨⟨⟨_, _⟩, arena⟩, login⟩, game⟩, _⟩, _⟩, rfl⟩, rfl⟩ := none
  simp only [LoginSection.problems, List.append_eq_nil_iff] at login
  rcases login with ⟨⟨⟨loginSlots, loginRead⟩, _⟩, _⟩
  simp only [GameSection.problems, List.append_eq_nil_iff, problemIf_eq_nil,
    decide_eq_false_iff_not] at game
  rcases game with ⟨⟨⟨⟨gameSlots, gameRead⟩, _⟩, output⟩, queue⟩
  simp only [ArenaSection.problems, List.append_eq_nil_iff, problemIf_eq_nil,
    decide_eq_false_iff_not] at arena
  rcases arena with ⟨reserve, granule⟩
  simp only [reservationProblems, Checked.bind_eq_ok, pure, Except.pure, Except.ok.injEq,
    problemIf_eq_nil, decide_eq_false_iff_not, Nat.not_lt] at ofReservation
  rcases ofReservation with ⟨needed, computed, reservation⟩
  have loginSlotsBounds := slots_of_problems loginSlots
  have loginReadBounds := readBuffer_of_problems loginRead
  have gameSlotsBounds := slots_of_problems gameSlots
  have gameReadBounds := readBuffer_of_problems gameRead
  have outputBounds := outputBuffer_of_problems output
  obtain ⟨members, distinct⟩ := accounts_of_problems ofAccounts
  have granulePositive : config.arena.granuleBytes ≠ 0 := by
    intro zero
    simp [zero] at granule
  exact {
    login_slots_pos := loginSlotsBounds.1
    login_slots_le := loginSlotsBounds.2
    login_read_ge := loginReadBounds.1
    login_read_le := loginReadBounds.2
    game_slots_pos := gameSlotsBounds.1
    game_slots_le := gameSlotsBounds.2
    game_read_ge := gameReadBounds.1
    game_read_le := gameReadBounds.2
    output_ge := outputBounds.1
    output_le := outputBounds.2
    queue_pos := Nat.pos_of_ne_zero queue
    reserve_pos := Nat.pos_of_ne_zero reserve
    granule_pos := Nat.pos_of_ne_zero granulePositive
    account_accepted := fun account member => (members account member).1
    reply_fits := fun account member => (members account member).2.1
    names_distinct := distinct
    carved_fits := ⟨needed, computed, reservation⟩
  }

end Configuration

end Gatehouse
