import Gatehouse.Transport.Switchboard
import Gatehouse.Proofs.Session.Calls

namespace Gatehouse

/-!
# What a switchboard preserves

A switchboard touches its service only through the operations of the protocol.
So what those operations preserve holds after every turn and every pass, and a
pass stops only for a reason for which an operation may stop, or because
something is out of range.
-/

/-- What the operations of a protocol preserve, and for which reasons they may stop. -/
structure ConnectionProtocol.Keeps
    (protocol : ConnectionProtocol σ)
    (allowed : Fault → Prop)
    (holds : σ → Prop) : Prop where
  outOfRange : allowed .outOfRange
  accept :
    ∀ {state : σ} (slot : Nat) (peer : SocketAddress),
      holds state → (protocol.accept state slot peer).Meets allowed holds
  drop :
    ∀ {state : σ} (slot : Nat), holds state → (protocol.drop state slot).Meets allowed holds
  read :
    ∀ {state : σ} (slot : Nat) (message : Bytes),
      holds state →
      (protocol.read state slot message).Meets allowed fun answer => holds answer.2
  produce :
    ∀ {state : σ} (slot : Nat),
      holds state → (protocol.produce state slot).Meets allowed fun answer => holds answer.2
  staged :
    ∀ {state : σ} (slot : Nat),
      holds state → (protocol.staged state slot).Meets allowed fun _ => True
  status :
    ∀ {state : σ} (slot : Nat),
      holds state → (protocol.status state slot).Meets allowed fun _ => True

/-- What every call preserves, the operations of the protocol preserve. -/
theorem ConnectionProtocol.keeps_of_perform
    {protocol : ConnectionProtocol σ}
    {allowed : Fault → Prop}
    {holds : σ → Prop}
    (outOfRange : allowed .outOfRange)
    (perform :
      ∀ (state : σ) (call : ProtocolCall),
        holds state → (protocol.perform state call).Meets allowed holds)
    (staged :
      ∀ (state : σ) (slot : Nat), (protocol.staged state slot).Meets allowed fun _ => True)
    (status :
      ∀ (state : σ) (slot : Nat), (protocol.status state slot).Meets allowed fun _ => True) :
    protocol.Keeps allowed holds where
  outOfRange := outOfRange
  accept := fun slot peer before => perform _ (.accept slot peer) before
  drop := fun slot before => perform _ (.drop slot) before
  read := by
    intro state slot message before
    have called := perform state (.read slot message) before
    simp only [ConnectionProtocol.perform] at called
    cases answered : protocol.read state slot message <;> rw [answered] at called <;> exact called
  produce := by
    intro state slot before
    have called := perform state (.produce slot) before
    simp only [ConnectionProtocol.perform] at called
    cases answered : protocol.produce state slot <;> rw [answered] at called <;> exact called
  staged := fun slot _ => staged _ slot
  status := fun slot _ => status _ slot

theorem Bytes.slice_meets
    {allowed : Fault → Prop}
    (outOfRange : allowed .outOfRange)
    (buffer : Bytes)
    (start stop : Nat) :
    (buffer.slice start stop).Meets allowed fun _ => True := by
  unfold slice
  split
  next inside =>
    trivial
  next outside =>
    exact outOfRange

section

variable {protocol : ConnectionProtocol σ} {allowed : Fault → Prop} {holds : σ → Prop}
  (keeps : protocol.Keeps allowed holds)

include keeps

namespace Turn

theorem read_meets
    {turn : Turn σ}
    (before : holds turn.service)
    (index now : Nat) :
    (turn.read protocol index now).Meets allowed fun after => holds after.turn.service := by
  fun_induction Turn.read protocol index now turn with
  | case1 turn ready length whole turn' inductionHypothesis =>
      refine Checked.Meets.bind (Bytes.slice_meets keeps.outOfRange _ _ _) ?_
      intro message _
      refine Checked.Meets.bind (keeps.read index message before) ?_
      intro answer kept
      rcases answer with ⟨left, service⟩
      exact inductionHypothesis left service kept
  | case2 turn ready waiting =>
      exact before
  | case3 turn ready ended =>
      exact before
  | case4 turn ready length bad =>
      exact before
  | case5 turn ready error failed =>
      exact before
  | case6 turn notReady =>
      exact before

theorem stage_meets
    {turn : Turn σ}
    (before : holds turn.service)
    (index : Nat) :
    (turn.stage protocol index).Meets allowed fun answer => holds answer.2.service := by
  unfold stage
  split
  next writing =>
    exact before
  next idle =>
    split
    next closing =>
      exact before
    next going =>
      refine Checked.Meets.bind (keeps.produce index before) ?_
      intro answer kept
      rcases answer with ⟨length, service⟩
      simp only
      split <;> exact kept

theorem write_meets
    {turn : Turn σ}
    (before : holds turn.service)
    (index now : Nat) :
    (turn.write protocol index now).Meets allowed fun after => holds after.turn.service := by
  unfold write
  split
  next blocked =>
    exact before
  next writable =>
    refine Checked.Meets.bind (stage_meets keeps before index) ?_
    intro answer kept
    rcases answer with ⟨isStaged, staging⟩
    simp only
    split
    next nothing =>
      exact kept
    next something =>
      refine Checked.Meets.bind (keeps.staged index kept) ?_
      intro bytes _
      exact kept

/-- Checking for the end leaves the service alone. -/
theorem check_meets
    {turn : Turn σ}
    (before : holds turn.service)
    (index now timeout : Nat) :
    (turn.check protocol index now timeout).Meets allowed fun after =>
      holds after.turn.service := by
  unfold check
  split
  next closing =>
    exact before
  next going =>
    refine Checked.Meets.bind (keeps.status index before) ?_
    intro disposition _
    cases disposition <;> exact before

theorem take_meets
    {turn : Turn σ}
    (before : holds turn.service)
    (index timeout : Nat)
    (clock : PassClock) :
    (turn.take protocol index timeout clock).Meets allowed fun after =>
      holds after.turn.service := by
  have orElse_meets
      {after : AfterTurn σ}
      {next : Turn σ → Checked (AfterTurn σ)}
      (kept : holds after.turn.service)
      (nextMeets : (next after.turn).Meets allowed fun later => holds later.turn.service) :
      (orElse after next).Meets allowed fun later => holds later.turn.service := by
    unfold orElse
    split
    · exact kept
    · exact nextMeets
  refine Checked.Meets.bind (read_meets keeps before index clock.moving) ?_
  intro afterReading readKept
  refine Checked.Meets.bind
    (orElse_meets readKept (write_meets keeps readKept index clock.moving)) ?_
  intro afterWriting writeKept
  exact orElse_meets writeKept (check_meets keeps writeKept index clock.checking timeout)

end Turn

namespace Switchboard

theorem accept_meets
    {switchboard : Switchboard σ}
    (before : holds switchboard.service)
    (now : Nat)
    (incoming : List Incoming) :
    (switchboard.accept protocol now incoming).Meets allowed fun after =>
      holds after.service := by
  induction incoming generalizing switchboard with
  | nil =>
      exact before
  | cons first rest inductionHypothesis =>
      cases first with
      | failed =>
          exact before
      | interrupted =>
          exact inductionHypothesis before
      | connection socket peer watched =>
          unfold Switchboard.accept
          split
          next full =>
            exact inductionHypothesis before
          next slot pool acquired =>
            split
            next isWatched =>
              simp only [admitTo, bind_assoc, pure_bind]
              refine Checked.Meets.bind (keeps.accept slot peer before) ?_
              intro service kept
              exact inductionHypothesis kept
            next unwatched =>
              exact inductionHypothesis before

theorem serve_meets
    {switchboard : Switchboard σ}
    (before : holds switchboard.service)
    (clock : PassClock)
    (slot : Nat)
    (connection : Channel) :
    (switchboard.serve protocol clock slot connection).Meets allowed fun answer =>
      holds answer.2.service := by
  unfold serve
  refine Checked.Meets.bind (Turn.take_meets keeps before slot _ clock) ?_
  intro after kept
  simp only
  split
  next going =>
    exact kept
  next ending ended =>
    simp only [tearDown, bind_assoc, pure_bind]
    refine Checked.Meets.bind (keeps.drop slot kept) ?_
    intro service dropped
    exact dropped

theorem serveAll_meets
    {switchboard : Switchboard σ}
    (before : holds switchboard.service)
    (clock : PassClock)
    (slots : List Nat) :
    (switchboard.serveAll protocol clock slots).Meets allowed fun answer =>
      holds answer.2.service := by
  induction slots generalizing switchboard with
  | nil =>
      exact before
  | cons slot rest inductionHypothesis =>
      unfold serveAll
      split
      next isTaken =>
        refine Checked.Meets.bind (Checked.lookUp_meets (.inl keeps.outOfRange)) ?_
        intro connection _
        refine Checked.Meets.bind (serve_meets keeps before clock slot connection) ?_
        intro answer kept
        rcases answer with ⟨departure?, served⟩
        refine Checked.Meets.bind (inductionHypothesis kept) ?_
        intro rest laterKept
        rcases rest with ⟨departures, later⟩
        exact laterKept
      next isFree =>
        exact inductionHypothesis before

/-- A pass preserves what the protocol preserves. -/
theorem pass_meets
    {switchboard : Switchboard σ}
    (before : holds switchboard.service)
    (input : PassInput) :
    (switchboard.pass protocol input).Meets allowed fun after =>
      holds after.switchboard.service := by
  have ready_meets
      {accepted : Switchboard σ}
      (kept : holds accepted.service)
      (events : List Readiness) :
      (accepted.serveReady protocol input.clock events).Meets allowed fun after =>
        holds after.switchboard.service := by
    have noted : holds (accepted.noteReadiness events).service := kept
    refine Checked.Meets.bind (serveAll_meets keeps noted input.clock _) ?_
    intro answer servedKept
    rcases answer with ⟨departures, served⟩
    exact servedKept
  refine Checked.Meets.bind (accept_meets keeps before input.clock.accepting input.incoming) ?_
  intro accepted kept
  cases input.report with
  | ready events =>
      exact ready_meets kept events
  | interrupted =>
      exact ready_meets kept []
  | failed reason =>
      exact kept

end Switchboard

end

end Gatehouse
