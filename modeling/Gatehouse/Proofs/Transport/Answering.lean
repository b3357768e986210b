import Gatehouse.Proofs.Transport.Lifecycle

namespace Gatehouse

/-!
# Passes answer

A service that answers whatever it is asked in turn is never asked anything
else, and a switchboard has a place for every byte that comes and a channel for
every slot that is taken. So every pass answers, whatever comes in.
-/

/-- The body that a channel waits for fits into its read buffer. -/
def Channel.AwaitsFitting (channel : Channel) : Prop :=
  ∀ length position,
    channel.progress = .awaitingBody length position → length ≤ channel.buffer.length

/-- A message that has come whole is in the read buffer, and what is awaited fits. -/
structure ChannelStep.Fits (step : ChannelStep ReadStop) : Prop where
  awaits : step.channel.AwaitsFitting
  message : ∀ length, step.event = .message length → length ≤ step.channel.buffer.length

namespace Channel

theorem AwaitsFitting.of_start
    {channel : Channel}
    (start : channel.progress = .start) :
    channel.AwaitsFitting := by
  intro length position awaiting
  rw [start] at awaiting
  cases awaiting

theorem AwaitsFitting.of_alike
    {before after : Channel}
    (fits : before.AwaitsFitting)
    (progress : after.progress = before.progress)
    (buffer : after.buffer = before.buffer) :
    after.AwaitsFitting := by
  intro length position awaiting
  rw [buffer]
  exact fits length position (progress ▸ awaiting)

/-- Bytes that come in fill what is awaited and no more. -/
theorem AwaitsFitting.absorb
    {channel : Channel}
    (fits : channel.AwaitsFitting)
    (data : Bytes) :
    (channel.absorb data).2.AwaitsFitting ∧
      ∀ length,
        (channel.absorb data).1 = some (.message length) →
        length ≤ (channel.absorb data).2.buffer.length := by
  unfold Channel.absorb
  split
  next position awaiting =>
    dsimp only
    split
    next short =>
      refine ⟨fun length position awaited => ?_, fun length event => by cases event⟩
      cases awaited
    next enough =>
      split
      next admitted =>
        refine ⟨fun length position awaited => ?_, fun length event => by cases event⟩
        cases awaited
        simp only [admitsLength, Bool.and_eq_true, decide_eq_true_eq] at admitted
        exact admitted.2
      next refused =>
        refine ⟨fun length position awaited => ?_, fun length event => by cases event⟩
        cases awaited
  next length position awaiting =>
    have room := fits length position awaiting
    have same : (Bytes.overwrite channel.buffer.bytes position data).length =
        channel.buffer.bytes.length :=
      Bytes.length_overwrite _ _ _
    dsimp only
    refine ⟨fun other next awaited => ?_, fun other event => ?_⟩
    · cases awaited
      exact Nat.le_trans room (Nat.le_of_eq same.symm)
    · split at event
      · cases event
      · cases event
        exact Nat.le_trans room (Nat.le_of_eq same.symm)

theorem AwaitsFitting.readFrom
    {channel : Channel}
    (fits : channel.AwaitsFitting)
    (socket : Socket)
    (now moved : Nat) :
    (channel.readFrom socket now moved).Fits := by
  fun_induction Channel.readFrom channel socket now moved with
  | case1 | case4 | case6 =>
      exact ⟨fits, fun length event => by cases event⟩
  | case2 channel socket moved byte rest next received event after absorbed =>
      have bound : { channel with socket? := some next, lastActivity := now }.AwaitsFitting := fits
      have taken := bound.absorb (byte :: rest)
      rw [absorbed] at taken
      exact ⟨taken.1, fun length whole => taken.2 length (congrArg some whole)⟩
  | case3 channel socket moved byte rest next received after absorbed inductionHypothesis =>
      have bound : { channel with socket? := some next, lastActivity := now }.AwaitsFitting := fits
      have taken := bound.absorb (byte :: rest)
      rw [absorbed] at taken
      exact inductionHypothesis taken.1
  | case5 channel socket moved next received inductionHypothesis =>
      exact inductionHypothesis fits

theorem AwaitsFitting.receiveMessage
    {channel : Channel}
    (fits : channel.AwaitsFitting)
    (now : Nat) :
    (channel.receiveMessage now).Fits := by
  unfold Channel.receiveMessage
  split
  next unbound =>
    exact ⟨fits, fun length event => by cases event⟩
  next socket bound =>
    exact fits.readFrom socket now 0

end Channel

namespace ConnectionProtocol

/-- A service answers whatever it is asked in turn at its slots. -/
structure AnswersInTurn (protocol : ConnectionProtocol σ) (slots : Nat) (start : σ) : Prop where
  perform :
    ∀ (state : σ) (calls : List ProtocolCall) (call : ProtocolCall),
      protocol.Replays start (state, calls) →
      call.slot < slots →
      isConnected call.slot calls = (!call.isAccept) →
      ∃ next, protocol.perform state call = .ok next
  staged :
    ∀ (state : σ) (calls : List ProtocolCall) (slot : Nat),
      protocol.Replays start (state, calls) →
      slot < slots →
      isConnected slot calls = true →
      ∃ bytes, protocol.staged state slot = .ok bytes
  status :
    ∀ (state : σ) (calls : List ProtocolCall) (slot : Nat),
      protocol.Replays start (state, calls) →
      slot < slots →
      isConnected slot calls = true →
      ∃ disposition, protocol.status state slot = .ok disposition

/-- A state that calls in turn lead to, by which the slot has a connection. -/
def Attends (protocol : ConnectionProtocol σ) (start : σ) (slot : Nat) (state : σ) : Prop :=
  ∃ calls, protocol.Replays start (state, calls) ∧ isConnected slot calls = true

variable
  {protocol : ConnectionProtocol σ}
  {slots slot : Nat}
  {start state : σ}

namespace AnswersInTurn

/-- A service that is asked something about a connection answers, and still has the connection. -/
theorem traffic
    {call : ProtocolCall}
    (answers : protocol.AnswersInTurn slots start)
    (inside : slot < slots)
    (attends : protocol.Attends start slot state)
    (here : call.slot = slot)
    (isTraffic : call.isTraffic = true) :
    ∃ next, protocol.perform state call = .ok next ∧ protocol.Attends start slot next := by
  subst here
  obtain ⟨calls, replays, connected⟩ := attends
  have isNext : isConnected call.slot calls = !call.isAccept := by
    rw [connected]
    cases call <;> first | rfl | cases isTraffic
  obtain ⟨next, performed⟩ := answers.perform state calls call replays inside isNext
  refine ⟨next, performed, calls ++ [call], replays.append isNext performed, ?_⟩
  rw [isConnected_append_singleton]
  cases call <;> first | exact connected | cases isTraffic

theorem read_meets
    (answers : protocol.AnswersInTurn slots start)
    (inside : slot < slots)
    (attends : protocol.Attends start slot state)
    (message : Bytes) :
    (protocol.read state slot message).Meets (fun _ => False) fun answer =>
      protocol.Attends start slot answer.2 := by
  have called : ∃ next, protocol.perform state (.read slot message) = .ok next ∧ _ :=
    answers.traffic inside attends rfl rfl
  obtain ⟨next, performed, stillAttends⟩ := called
  obtain ⟨answer, read, same⟩ := Checked.bind_eq_ok.mp performed
  cases same
  rw [read]
  exact stillAttends

theorem produce_meets
    (answers : protocol.AnswersInTurn slots start)
    (inside : slot < slots)
    (attends : protocol.Attends start slot state) :
    (protocol.produce state slot).Meets (fun _ => False) fun answer =>
      protocol.Attends start slot answer.2 := by
  have called : ∃ next, protocol.perform state (.produce slot) = .ok next ∧ _ :=
    answers.traffic inside attends rfl rfl
  obtain ⟨next, performed, stillAttends⟩ := called
  obtain ⟨answer, produced, same⟩ := Checked.bind_eq_ok.mp performed
  cases same
  rw [produced]
  exact stillAttends

end AnswersInTurn

end ConnectionProtocol

section

variable
  {protocol : ConnectionProtocol σ}
  {slots slot : Nat}
  {start : σ}
  (answers : protocol.AnswersInTurn slots start)
  (inside : slot < slots)

include answers inside

namespace Turn

variable {turn : Turn σ}

theorem read_answers
    (attends : protocol.Attends start slot turn.service)
    (fits : turn.channel.AwaitsFitting)
    (now : Nat) :
    (turn.read protocol slot now).Meets (fun _ => False) fun after =>
      protocol.Attends start slot after.turn.service := by
  fun_induction Turn.read protocol slot now turn with
  | case1 turn ready length whole turn' inductionHypothesis =>
      have received := fits.receiveMessage now
      have room : length ≤ turn'.channel.buffer.bytes.length := received.message length whole
      have sliced : (turn'.channel.message length).Meets (fun _ => False) fun _ => True := by
        have isThere := Bytes.slice_eq_ok.mpr ⟨⟨Nat.zero_le length, room⟩, rfl⟩
        rw [Channel.message, isThere]
        trivial
      refine Checked.Meets.bind sliced ?_
      intro message _
      refine Checked.Meets.bind (answers.read_meets inside attends message) ?_
      rintro ⟨left, service⟩ stillAttends
      exact inductionHypothesis left service stillAttends (.of_start rfl)
  | case2 | case3 | case4 | case5 | case6 =>
      exact attends

theorem stage_answers
    (attends : protocol.Attends start slot turn.service) :
    (turn.stage protocol slot).Meets (fun _ => False) fun answer =>
      protocol.Attends start slot answer.2.service := by
  unfold stage
  split
  next writing =>
    exact attends
  next idle =>
    split
    next closing =>
      exact attends
    next going =>
      refine Checked.Meets.bind (answers.produce_meets inside attends) ?_
      rintro ⟨length, service⟩ stillAttends
      dsimp only
      split <;> exact stillAttends

theorem write_answers
    (attends : protocol.Attends start slot turn.service)
    (now : Nat) :
    (turn.write protocol slot now).Meets (fun _ => False) fun after =>
      protocol.Attends start slot after.turn.service := by
  unfold write
  split
  next blocked =>
    exact attends
  next writable =>
    refine Checked.Meets.bind (stage_answers answers inside attends) ?_
    rintro ⟨isStaged, staging⟩ stillAttends
    dsimp only
    split
    next nothing =>
      exact stillAttends
    next something =>
      obtain ⟨calls, replays, connected⟩ := stillAttends
      obtain ⟨bytes, shown⟩ := answers.staged _ calls slot replays inside connected
      rw [shown]
      exact ⟨calls, replays, connected⟩

theorem check_answers
    (attends : protocol.Attends start slot turn.service)
    (now timeout : Nat) :
    (turn.check protocol slot now timeout).Meets (fun _ => False) fun after =>
      protocol.Attends start slot after.turn.service := by
  unfold check
  split
  next closing =>
    exact attends
  next going =>
    obtain ⟨calls, replays, connected⟩ := attends
    obtain ⟨disposition, asked⟩ := answers.status _ calls slot replays inside connected
    rw [asked]
    cases disposition <;> exact ⟨calls, replays, connected⟩

theorem take_answers
    (attends : protocol.Attends start slot turn.service)
    (fits : turn.channel.AwaitsFitting)
    (timeout : Nat)
    (clock : PassClock) :
    (turn.take protocol slot timeout clock).Meets (fun _ => False) fun after =>
      protocol.Attends start slot after.turn.service := by
  have orElse_answers
      {after : AfterTurn σ}
      {next : Turn σ → Checked (AfterTurn σ)}
      (attends : protocol.Attends start slot after.turn.service)
      (nextAnswers :
        (next after.turn).Meets (fun _ => False) fun later =>
          protocol.Attends start slot later.turn.service) :
      (orElse after next).Meets (fun _ => False) fun later =>
        protocol.Attends start slot later.turn.service := by
    unfold orElse
    split
    · exact attends
    · exact nextAnswers
  refine Checked.Meets.bind (read_answers answers inside attends fits clock.moving) ?_
  intro afterReading attendsReading
  refine Checked.Meets.bind
    (orElse_answers attendsReading (write_answers answers inside attendsReading clock.moving)) ?_
  intro afterWriting attendsWriting
  exact orElse_answers attendsWriting
    (check_answers answers inside attendsWriting clock.checking timeout)

end Turn

end

/-- What a channel awaits fits after every step of a turn. -/
theorem Turn.awaitsFitting_of_step
    {protocol : ConnectionProtocol σ}
    {slot : Nat}
    {before after : Turn σ}
    (step : Step protocol slot before after)
    (fits : before.channel.AwaitsFitting) :
    after.channel.AwaitsFitting := by
  cases step with
  | receive now going => exact (fits.receiveMessage now).awaits
  | handle length going handled => exact .of_start rfl
  | @transmit staged now writing shown =>
      have alike := before.channel.readsAlike_transmit staged now
      exact fits.of_alike alike.progress alike.buffer
  | produceNothing | produce | latch => exact fits

theorem Turn.awaitsFitting_of_take
    {protocol : ConnectionProtocol σ}
    {slot timeout : Nat}
    {clock : PassClock}
    {turn : Turn σ}
    {after : AfterTurn σ}
    (taken : turn.take protocol slot timeout clock = .ok after)
    (fits : turn.channel.AwaitsFitting) :
    after.turn.channel.AwaitsFitting :=
  @holds_of_take _ protocol slot turn after (fun turn => turn.channel.AwaitsFitting) timeout clock
    (fun _ _ => awaitsFitting_of_step) fits taken

namespace Switchboard

variable
  {protocol : ConnectionProtocol σ}
  {capacity : Nat}
  {departures : List Departure}
  {start before middle : Switchboard σ}

/-- What every channel awaits fits. -/
theorem awaitsFitting_of_reached
    (inOrder : InOrder capacity [] (start.recorded []))
    (reached : Reached protocol start departures middle) :
    ∀ (slot : Nat) (channel : Channel),
      middle.channels[slot]? = some channel → channel.AwaitsFitting := by
  induction reached with
  | start =>
      intro slot channel found
      exact .of_start (inOrder.vacant slot channel found (inOrder.connected slot).symm).progress_eq
  | network _ network inductionHypothesis =>
      intro slot channel found
      obtain ⟨former, wasThere, rfl⟩ := channel_of_onNetwork found
      exact (inductionHypothesis slot former wasThere).of_alike rfl rfl
  | @note departures before _ events inductionHypothesis =>
      intro slot channel found
      obtain ⟨former, readable, writable, wasThere, rfl⟩ := channel_of_noteReadiness found
      exact (inductionHypothesis slot former wasThere).of_alike rfl rfl
  | accept _ _ accepted inductionHypothesis =>
      cases accept_singleton_eq_ok.mp accepted with
      | failed | interrupted | rejected | givenUp => exact inductionHypothesis
      | @admitted socket peer slot pool service acquired told =>
          intro other channel found
          rcases channel_of_afterAccepting found with ⟨former, -, -, rfl⟩ | ⟨-, wasThere⟩
          · exact .of_start rfl
          · exact inductionHypothesis other channel wasThere
  | @serve departures departed before after clock slot _ served inductionHypothesis =>
      have stays
          {connection : Channel}
          {later : AfterTurn σ}
          (found : before.channels[slot]? = some connection)
          (turned :
            (before.turnOf connection).take protocol slot before.settings.idleLimit clock =
              .ok later)
          (other : Nat)
          (channel : Channel)
          (isThere : (before.afterTurn slot later.turn).channels[other]? = some channel) :
          channel.AwaitsFitting := by
        rcases channel_of_afterTurn isThere with ⟨rfl, rfl⟩ | ⟨-, wasThere⟩
        · exact Turn.awaitsFitting_of_take turned (inductionHypothesis slot connection found)
        · exact inductionHypothesis other channel wasThere
      cases serveAll_singleton_eq_ok.mp served with
      | skipped free => exact inductionHypothesis
      | stayed taken found turned goesOn => exact stays found turned
      | ended taken found turned ends dropped =>
          intro other channel isThere
          rcases channel_of_afterEnding isThere with ⟨former, -, -, rfl⟩ | ⟨-, wasThere⟩
          · exact .of_start rfl
          · exact stays found turned other channel wasThere

/-- A service that answers in turn can be told of whatever comes. -/
theorem accept_answers
    {now : Nat}
    {found : Incoming}
    (inOrder : InOrder capacity [] (start.recorded []))
    (answers : protocol.AnswersInTurn capacity start.service)
    (reached : Reached protocol start departures before) :
    ∃ after, before.accept protocol now [found] = .ok after := by
  obtain ⟨calls, recorded⟩ := exists_recorded_of_reached inOrder reached
  have books := inOrder_of_reached inOrder recorded
  simp only [accept_singleton_eq_ok]
  cases found with
  | failed => exact ⟨_, .failed⟩
  | interrupted => exact ⟨_, .interrupted⟩
  | connection socket peer watched =>
      cases acquired : before.pool.acquire? with
      | none => exact ⟨_, .rejected acquired⟩
      | some taking =>
          obtain ⟨slot, pool⟩ := taking
          cases watched with
          | false => exact ⟨_, .givenUp acquired⟩
          | true =>
              have wasFree := (books.pool.acquired_of_acquire? acquired).wasFree
              have inside : slot < capacity :=
                books.capacity_eq ▸ (List.getElem?_eq_some_iff.mp wasFree).1
              have free : isConnected slot calls = false :=
                (books.connected slot).trans (IndexPool.isTaken_eq_false_of_getElem? wasFree)
              obtain ⟨service, told⟩ :=
                answers.perform _ calls (.accept slot peer)
                  (replays_of_reached recorded) inside free
              exact ⟨_, .admitted acquired told⟩

/-- A slot that is taken gets its turn, whatever comes of it. -/
theorem serve_answers
    {clock : PassClock}
    {slot : Nat}
    (inOrder : InOrder capacity [] (start.recorded []))
    (answers : protocol.AnswersInTurn capacity start.service)
    (reached : Reached protocol start departures before) :
    ∃ departed after, before.serveAll protocol clock [slot] = .ok (departed, after) := by
  obtain ⟨calls, recorded⟩ := exists_recorded_of_reached inOrder reached
  have books := inOrder_of_reached inOrder recorded
  simp only [serveAll_singleton_eq_ok]
  cases taken : before.pool.isTaken slot with
  | false => exact ⟨[], before, .skipped taken⟩
  | true =>
      have inside : slot < capacity := books.capacity_eq ▸ IndexPool.lt_capacity_of_isTaken taken
      have inTable : slot < before.channels.length := books.length_eq.symm ▸ inside
      have found := List.getElem?_eq_getElem inTable
      have attends :
          protocol.Attends start.service slot (before.turnOf before.channels[slot]).service :=
        ⟨calls, replays_of_reached recorded, (books.connected slot).trans taken⟩
      have turns := Turn.take_answers answers inside attends
        (awaitsFitting_of_reached inOrder reached slot _ found) before.settings.idleLimit clock
      obtain ⟨after, turned, laterCalls, replays, connected⟩ := turns.exists_eq_ok
      cases ends : after.ending? with
      | none => exact ⟨[], _, .stayed taken found turned ends⟩
      | some ending =>
          obtain ⟨service, dropped⟩ :=
            answers.perform _ laterCalls (.drop slot) replays inside connected
          exact ⟨_, _, .ended taken found turned ends dropped⟩

theorem acceptAll_answers
    {now : Nat}
    {incoming : List Incoming}
    (inOrder : InOrder capacity [] (start.recorded []))
    (answers : protocol.AnswersInTurn capacity start.service)
    (reached : Reached protocol start departures before)
    (fresh : ∀ found ∈ incoming, found.IsFresh) :
    ∃ after, before.accept protocol now incoming = .ok after := by
  induction incoming generalizing before with
  | nil =>
      exact ⟨before, rfl⟩
  | cons first rest inductionHypothesis =>
      by_cases stops : first = .failed
      · subst stops
        exact ⟨before, rfl⟩
      · obtain ⟨middle, accepted⟩ := accept_answers inOrder answers reached
        obtain ⟨after, acceptedRest⟩ :=
          inductionHypothesis (.accept reached (fresh first List.mem_cons_self) accepted)
            fun found member => fresh found (List.mem_cons_of_mem first member)
        rw [accept_cons stops]
        exact ⟨after, Checked.bind_eq_ok.mpr ⟨middle, accepted, acceptedRest⟩⟩

theorem serveAll_answers
    {clock : PassClock}
    {slots : List Nat}
    (inOrder : InOrder capacity [] (start.recorded []))
    (answers : protocol.AnswersInTurn capacity start.service)
    (reached : Reached protocol start departures before) :
    ∃ answer, before.serveAll protocol clock slots = .ok answer := by
  induction slots generalizing before departures with
  | nil =>
      exact ⟨_, rfl⟩
  | cons slot rest inductionHypothesis =>
      obtain ⟨departed, middle, served⟩ := serve_answers inOrder answers reached
      obtain ⟨answer, servedRest⟩ := inductionHypothesis (.serve reached served)
      rw [serveAll_cons]
      exact ⟨_, Checked.bind_eq_ok.mpr ⟨_, served, Checked.bind_eq_ok.mpr ⟨_, servedRest, rfl⟩⟩⟩

/-- If its service answers in turn, a switchboard passes over whatever it finds. -/
theorem pass_answers
    {input : PassInput}
    (inOrder : InOrder capacity [] (start.recorded []))
    (answers : protocol.AnswersInTurn capacity start.service)
    (reached : Reached protocol start departures before)
    (fresh : ∀ found ∈ input.incoming, found.IsFresh) :
    ∃ after, before.pass protocol input = .ok after := by
  obtain ⟨accepted, accepting⟩ := acceptAll_answers inOrder answers reached fresh
  have acceptedAll := reached.acceptAll fresh accepting
  have ready (events : List Readiness) :
      ∃ after, accepted.serveReady protocol input.clock events = .ok after := by
    obtain ⟨answer, served⟩ := serveAll_answers inOrder answers (acceptedAll.note events)
    exact ⟨_, Checked.bind_eq_ok.mpr ⟨answer, served, rfl⟩⟩
  cases told : input.report with
  | ready events =>
      obtain ⟨after, served⟩ := ready events
      exact ⟨after, Checked.bind_eq_ok.mpr ⟨accepted, accepting, by rw [told]; exact served⟩⟩
  | interrupted =>
      obtain ⟨after, served⟩ := ready []
      exact ⟨after, Checked.bind_eq_ok.mpr ⟨accepted, accepting, by rw [told]; exact served⟩⟩
  | failed reason =>
      exact ⟨_, Checked.bind_eq_ok.mpr ⟨accepted, accepting, by rw [told]; rfl⟩⟩

end Switchboard

end Gatehouse
