import Gatehouse.Proofs.Transport.Reading

namespace Gatehouse

/-!
# What happens between two passes

After its reading, a turn writes and is checked for its end. Neither touches what
is read next while the service keeps the connection open.
-/

/-- A protocol that keeps the connection of a slot open in all states that hold. -/
structure ConnectionProtocol.StaysOpen
    (protocol : ConnectionProtocol σ)
    (allowed : Fault → Prop)
    (holds : σ → Prop)
    (slot : Nat) :
    Prop where
  produce :
    ∀ state, holds state → (protocol.produce state slot).Meets allowed fun answer => holds answer.2
  staged : ∀ state, holds state → (protocol.staged state slot).Meets allowed fun _ => True
  status : ∀ state, holds state → (protocol.status state slot).Meets allowed (· = .isOpen)

/-- Writing takes nothing of what came in. -/
theorem Socket.arrivals_send (socket : Socket) (data : Bytes) :
    (socket.send data).2.arrivals = socket.arrivals := by
  unfold send
  split <;> rfl

namespace Channel

/-- What is read next is the same in two channels. -/
structure ReadsAlike (before after : Channel) : Prop where
  progress : after.progress = before.progress
  lengthField : after.lengthField = before.lengthField
  buffer : after.buffer = before.buffer
  closing : after.closing = before.closing
  arrivals : after.socket?.map Socket.arrivals = before.socket?.map Socket.arrivals

namespace ReadsAlike

theorem refl (channel : Channel) : channel.ReadsAlike channel where
  progress := rfl
  lengthField := rfl
  buffer := rfl
  closing := rfl
  arrivals := rfl

theorem trans
    {first second third : Channel}
    (before : first.ReadsAlike second)
    (after : second.ReadsAlike third) :
    first.ReadsAlike third where
  progress := after.progress.trans before.progress
  lengthField := after.lengthField.trans before.lengthField
  buffer := after.buffer.trans before.buffer
  closing := after.closing.trans before.closing
  arrivals := after.arrivals.trans before.arrivals

end ReadsAlike

/-- A channel that some bytes were sent from. -/
theorem readsAlike_of_sent
    {channel : Channel}
    {socket next : Socket}
    {data : Bytes}
    {answer : SocketAnswer Nat}
    (sent : socket.send data = (answer, next))
    (position activity : Nat)
    (writable : Bool) :
    { channel with socket? := some socket }.ReadsAlike
      { channel with
        socket? := some next
        writePosition := position
        writable := writable
        lastActivity := activity } where
  progress := rfl
  lengthField := rfl
  buffer := rfl
  closing := rfl
  arrivals := by
    have same : next.arrivals = socket.arrivals := by
      rw [← socket.arrivals_send data, sent]
    simp [same]

/-- Writing leaves reading alone. -/
theorem readsAlike_writeTo
    (channel : Channel)
    (socket : Socket)
    (staged : Bytes)
    (now moved : Nat) :
    { channel with socket? := some socket }.ReadsAlike
      (channel.writeTo socket staged now moved).channel := by
  fun_induction writeTo channel socket staged now moved with
  | case1 channel socket moved rest drained => exact ⟨rfl, rfl, rfl, rfl, rfl⟩
  | case2 channel socket moved rest pending next sent =>
      exact readsAlike_of_sent sent _ _ _
  | case3 channel socket moved rest pending count next sent inductionHypothesis =>
      exact (readsAlike_of_sent sent _ now _).trans inductionHypothesis
  | case4 channel socket moved rest pending next sent =>
      exact readsAlike_of_sent sent _ _ _
  | case5 channel socket moved rest pending next sent inductionHypothesis =>
      exact (readsAlike_of_sent sent _ _ _).trans inductionHypothesis
  | case6 channel socket moved rest pending error next sent =>
      exact readsAlike_of_sent sent _ _ _

theorem readsAlike_transmit (channel : Channel) (staged : Bytes) (now : Nat) :
    channel.ReadsAlike (channel.transmit staged now).channel := by
  unfold transmit
  split
  next unbound => exact .refl channel
  next socket bound =>
    have same := readsAlike_writeTo channel socket staged now 0
    rwa [← bound] at same

end Channel

namespace Turn

/-- What is read next is the same in two turns, and so is what was heard. -/
structure ReadsAlike (before after : Turn (σ × List Bytes)) : Prop where
  channel : before.channel.ReadsAlike after.channel
  heard : after.service.2 = before.service.2

namespace ReadsAlike

theorem refl (turn : Turn (σ × List Bytes)) : turn.ReadsAlike turn where
  channel := .refl turn.channel
  heard := rfl

theorem trans
    {first second third : Turn (σ × List Bytes)}
    (before : first.ReadsAlike second)
    (after : second.ReadsAlike third) :
    first.ReadsAlike third where
  channel := before.channel.trans after.channel
  heard := after.heard.trans before.heard

end ReadsAlike

/-- What follows the reading in a turn. -/
def finish
    (protocol : ConnectionProtocol σ)
    (index timeout : Nat)
    (clock : PassClock)
    (turn : Turn σ) :
    Checked (Turn σ) := do
  let afterWriting ← turn.write protocol index clock.moving
  let afterCheck ← orElse afterWriting (Turn.check protocol index clock.checking timeout)
  return afterCheck.turn

section

variable
  {protocol : ConnectionProtocol σ}
  {allowed : Fault → Prop}
  {holds : σ → Prop}
  {index : Nat}
  (opens : protocol.StaysOpen allowed holds index)
  {turn : Turn (σ × List Bytes)}
  (before : holds turn.service.1)

include opens before

theorem stage_readsAlike :
    (turn.stage (protocol.recording index) index).Meets allowed fun answer =>
      turn.ReadsAlike answer.2 ∧ holds answer.2.service.1 := by
  unfold stage
  split
  next writing =>
    exact ⟨.refl turn, before⟩
  next idle =>
    split
    next closing =>
      exact ⟨.refl turn, before⟩
    next going =>
      simp only [ConnectionProtocol.recording, bind_assoc, pure_bind]
      refine Checked.Meets.bind (opens.produce turn.service.1 before) ?_
      rintro ⟨length, state⟩ kept
      simp only
      split
      next nothing =>
        exact ⟨⟨.refl turn.channel, rfl⟩, kept⟩
      next something =>
        exact ⟨⟨⟨rfl, rfl, rfl, rfl, rfl⟩, rfl⟩, kept⟩

theorem write_readsAlike (now : Nat) :
    (turn.write (protocol.recording index) index now).Meets allowed fun after =>
      turn.ReadsAlike after.turn ∧ holds after.turn.service.1 := by
  unfold write
  split
  next blocked =>
    exact ⟨.refl turn, before⟩
  next writable =>
    refine Checked.Meets.bind (stage_readsAlike opens before) ?_
    rintro ⟨isStaged, staging⟩ ⟨same, kept⟩
    simp only
    split
    next nothing =>
      exact ⟨same, kept⟩
    next something =>
      refine Checked.Meets.bind (opens.staged staging.service.1 kept) ?_
      intro staged _
      have transmitted := staging.channel.readsAlike_transmit staged now
      exact ⟨⟨same.channel.trans transmitted, same.heard⟩, kept⟩

theorem check_readsAlike (now timeout : Nat) :
    (turn.check (protocol.recording index) index now timeout).Meets allowed fun after =>
      turn.ReadsAlike after.turn ∧ holds after.turn.service.1 := by
  unfold check
  split
  next closing =>
    exact ⟨.refl turn, before⟩
  next going =>
    refine Checked.Meets.bind (opens.status turn.service.1 before) ?_
    rintro disposition rfl
    exact ⟨.refl turn, before⟩

/-- While the connection stays open, the rest of a turn leaves reading alone. -/
theorem finish_readsAlike (timeout : Nat) (clock : PassClock) :
    (turn.finish (protocol.recording index) index timeout clock).Meets allowed fun next =>
      turn.ReadsAlike next ∧ holds next.service.1 := by
  refine Checked.Meets.bind (write_readsAlike opens before clock.moving) ?_
  rintro afterWriting ⟨written, kept⟩
  have checked :
      (orElse afterWriting
          (Turn.check (protocol.recording index) index clock.checking timeout)).Meets
        allowed fun after => turn.ReadsAlike after.turn ∧ holds after.turn.service.1 := by
    unfold orElse
    split
    next ending ended => exact ⟨written, kept⟩
    next goesOn =>
      refine (check_readsAlike opens kept clock.checking timeout).weaken ?_
      rintro after ⟨same, keptAfter⟩
      exact ⟨written.trans same, keptAfter⟩
  refine Checked.Meets.bind checked ?_
  intro after same
  exact same

end

end Turn

end Gatehouse
