import Mathlib.Logic.Relation
import Gatehouse.Proofs.Transport.Writing

namespace Gatehouse

/-!
# The steps of a turn

A turn is made of few kinds of steps: something is received, a message is
handled, output is asked for, staged output is transmitted, and the close is
latched. What every step preserves, a turn preserves. Receiving leaves
writing alone, just as writing leaves reading alone.
-/

/-- Reading sends nothing. -/
theorem Socket.sent_receive (socket : Socket) (count : Nat) :
    (socket.receive count).2.sent = socket.sent := by
  unfold receive
  split <;> rfl

namespace Channel

/-- What is written next is the same in two channels, and so is what was written. -/
structure WritesAlike (before after : Channel) : Prop where
  writePosition : after.writePosition = before.writePosition
  writeLength : after.writeLength = before.writeLength
  closing : after.closing = before.closing
  sent : after.socket?.map Socket.sent = before.socket?.map Socket.sent

namespace WritesAlike

theorem refl (channel : Channel) : channel.WritesAlike channel where
  writePosition := rfl
  writeLength := rfl
  closing := rfl
  sent := rfl

theorem trans
    {first second third : Channel}
    (before : first.WritesAlike second)
    (after : second.WritesAlike third) :
    first.WritesAlike third where
  writePosition := after.writePosition.trans before.writePosition
  writeLength := after.writeLength.trans before.writeLength
  closing := after.closing.trans before.closing
  sent := after.sent.trans before.sent

theorem isWriting
    {before after : Channel}
    (alike : before.WritesAlike after) :
    after.isWriting = before.isWriting := by
  simp only [Channel.isWriting, alike.writePosition, alike.writeLength]

end WritesAlike

/-- A channel that read from its socket. -/
theorem writesAlike_of_received
    {channel : Channel}
    {socket next : Socket}
    {count : Nat}
    {answer : SocketAnswer Bytes}
    (received : socket.receive count = (answer, next))
    (activity : Nat)
    (readable : Bool) :
    { channel with socket? := some socket }.WritesAlike
      { channel with socket? := some next, readable := readable, lastActivity := activity } where
  writePosition := rfl
  writeLength := rfl
  closing := rfl
  sent := by
    have same : next.sent = socket.sent := by
      rw [← socket.sent_receive count, received]
    simp [same]

theorem writesAlike_absorb (channel : Channel) (data : Bytes) :
    channel.WritesAlike (channel.absorb data).2 := by
  unfold absorb
  split
  next received awaiting =>
    dsimp only
    split
    · exact ⟨rfl, rfl, rfl, rfl⟩
    · split <;> exact ⟨rfl, rfl, rfl, rfl⟩
  next length position awaiting =>
    exact ⟨rfl, rfl, rfl, rfl⟩

/-- Reading leaves writing alone. -/
theorem writesAlike_readFrom
    (channel : Channel)
    (socket : Socket)
    (now moved : Nat) :
    { channel with socket? := some socket }.WritesAlike
      (channel.readFrom socket now moved).channel := by
  fun_induction readFrom channel socket now moved with
  | case1 channel socket moved next received =>
      exact writesAlike_of_received received _ _
  | case2 channel socket moved byte rest next received event after absorbed =>
      have taken :=
        writesAlike_absorb { channel with socket? := some next, lastActivity := now } (byte :: rest)
      rw [absorbed] at taken
      exact (writesAlike_of_received received now _).trans taken
  | case3 channel socket moved byte rest next received after absorbed inductionHypothesis =>
      have taken :=
        writesAlike_absorb { channel with socket? := some next, lastActivity := now } (byte :: rest)
      have bound :=
        socket?_absorb { channel with socket? := some next, lastActivity := now } (byte :: rest)
      rw [absorbed] at taken bound
      change after.socket? = some next at bound
      have same : { after with socket? := some next } = after := by
        rw [← bound]
      rw [same] at inductionHypothesis
      exact ((writesAlike_of_received received now _).trans taken).trans inductionHypothesis
  | case4 channel socket moved next received =>
      exact writesAlike_of_received received _ _
  | case5 channel socket moved next received inductionHypothesis =>
      exact (writesAlike_of_received received _ _).trans inductionHypothesis
  | case6 channel socket moved error next received =>
      exact writesAlike_of_received received _ _

theorem writesAlike_receiveMessage (channel : Channel) (now : Nat) :
    channel.WritesAlike (channel.receiveMessage now).channel := by
  unfold receiveMessage
  split
  next unbound =>
    exact .refl channel
  next socket bound =>
    have same := writesAlike_readFrom channel socket now 0
    rwa [← bound] at same

/-- A channel keeps its socket while it is written to. -/
theorem isSome_socket?_transmit (channel : Channel) (staged : Bytes) (now : Nat) :
    (channel.transmit staged now).channel.socket?.isSome = channel.socket?.isSome := by
  have same := (channel.readsAlike_transmit staged now).arrivals
  rw [← Option.isSome_map, same, Option.isSome_map]

/-- A channel keeps its socket while it is read from. -/
theorem isSome_socket?_receiveMessage (channel : Channel) (now : Nat) :
    (channel.receiveMessage now).channel.socket?.isSome = channel.socket?.isSome := by
  have same := (channel.writesAlike_receiveMessage now).sent
  rw [← Option.isSome_map, same, Option.isSome_map]

end Channel

namespace Turn

/-- One step of a turn. -/
inductive Step (protocol : ConnectionProtocol σ) (index : Nat) (turn : Turn σ) : Turn σ → Prop where
  | receive
      (now : Nat)
      (going : turn.channel.closing = false) :
      Step protocol index turn (turn.afterRead (turn.channel.receiveMessage now))
  | handle
      {message left : Bytes}
      {service : σ}
      (length : Nat)
      (going : turn.channel.closing = false)
      (handled : protocol.read turn.service index message = .ok (left, service)) :
      Step protocol index turn (turn.afterMessage (left.take length) service)
  | produceNothing
      {service : σ}
      (going : turn.channel.closing = false)
      (idle : turn.channel.isWriting = false)
      (produced : protocol.produce turn.service index = .ok (0, service)) :
      Step protocol index turn { turn with service := service }
  | produce
      {length : Nat}
      {service : σ}
      (going : turn.channel.closing = false)
      (idle : turn.channel.isWriting = false)
      (produced : protocol.produce turn.service index = .ok (length, service))
      (something : length ≠ 0) :
      Step protocol index turn
        { turn with channel := turn.channel.startWriting length, service := service }
  | transmit
      {staged : Bytes}
      (now : Nat)
      (writing : turn.channel.isWriting = true)
      (shown : protocol.staged turn.service index = .ok staged) :
      Step protocol index turn (turn.afterWrite (turn.channel.transmit staged now))
  | latch
      (closes : protocol.status turn.service index = .ok .closing) :
      Step protocol index turn { turn with channel := turn.channel.close }

/-- Any number of steps of a turn, one after another. -/
abbrev Steps (protocol : ConnectionProtocol σ) (index : Nat) : Turn σ → Turn σ → Prop :=
  Relation.ReflTransGen (Step protocol index)

variable {protocol : ConnectionProtocol σ} {index : Nat} {turn : Turn σ} {after : AfterTurn σ}

theorem steps_of_read
    {now : Nat}
    (read : turn.read protocol index now = .ok after) :
    Steps protocol index turn after.turn := by
  have receive {turn : Turn σ} (reads : (turn.channel.readable && !turn.channel.closing) = true) :
      Step protocol index turn (turn.afterRead (turn.channel.receiveMessage now)) :=
    .receive now (by simpa using (Bool.and_eq_true_iff.mp reads).2)
  fun_induction Turn.read protocol index now turn with
  | case1 turn ready length whole turn' inductionHypothesis =>
      obtain ⟨message, sliced, rest⟩ := Checked.bind_eq_ok.mp read
      obtain ⟨⟨left, service⟩, handled, goesOn⟩ := Checked.bind_eq_ok.mp rest
      have received := receive ready
      have going : turn'.channel.closing = false := by
        refine ((turn.channel.writesAlike_receiveMessage now).closing).trans ?_
        simpa using (Bool.and_eq_true_iff.mp ready).2
      exact .head received (.head (.handle length going handled)
        (inductionHypothesis left service goesOn))
  | case2 turn ready waiting =>
      cases read
      exact .single (receive ready)
  | case3 turn ready ended =>
      cases read
      exact .single (receive ready)
  | case4 turn ready length bad =>
      cases read
      exact .single (receive ready)
  | case5 turn ready error failed =>
      cases read
      exact .single (receive ready)
  | case6 turn notReady =>
      cases read
      exact .refl

/-- Once output is staged, it is being written. -/
theorem steps_of_stage
    {isStaged : Bool}
    {staging : Turn σ}
    (staged : turn.stage protocol index = .ok (isStaged, staging)) :
    Steps protocol index turn staging ∧ (isStaged = true → staging.channel.isWriting = true) := by
  unfold stage at staged
  split at staged
  next writing =>
    cases staged
    exact ⟨.refl, fun _ => writing⟩
  next idle =>
    split at staged
    next closing =>
      cases staged
      exact ⟨.refl, fun nothing => nomatch nothing⟩
    next going =>
      have going : turn.channel.closing = false := by simpa using going
      have idle : turn.channel.isWriting = false := by simpa using idle
      obtain ⟨⟨length, service⟩, produced, answered⟩ := Checked.bind_eq_ok.mp staged
      dsimp only at answered
      split at answered
      next nothing =>
        subst nothing
        cases answered
        exact ⟨.single (.produceNothing going idle produced), fun nothing => nomatch nothing⟩
      next something =>
        cases answered
        refine ⟨.single (.produce going idle produced something), fun _ => ?_⟩
        exact decide_eq_true (Nat.pos_of_ne_zero something)

theorem steps_of_write
    {now : Nat}
    (written : turn.write protocol index now = .ok after) :
    Steps protocol index turn after.turn := by
  unfold write at written
  split at written
  next blocked =>
    cases written
    exact .refl
  next writable =>
    obtain ⟨⟨isStaged, staging⟩, staged, answered⟩ := Checked.bind_eq_ok.mp written
    obtain ⟨steps, writes⟩ := steps_of_stage staged
    dsimp only at answered
    split at answered
    next nothing =>
      cases answered
      exact steps
    next something =>
      obtain ⟨bytes, shown, transmitted⟩ := Checked.bind_eq_ok.mp answered
      cases transmitted
      exact steps.tail (.transmit now (writes (by simpa using something)) shown)

theorem steps_of_check
    {now timeout : Nat}
    (checked : turn.check protocol index now timeout = .ok after) :
    Steps protocol index turn after.turn := by
  unfold check at checked
  split at checked
  next closing =>
    cases checked
    exact .refl
  next going =>
    obtain ⟨disposition, closes, answered⟩ := Checked.bind_eq_ok.mp checked
    cases disposition with
    | isOpen =>
        cases answered
        exact .refl
    | closing =>
        cases answered
        exact .single (.latch closes)

/-- A turn is made of steps. -/
theorem steps_of_take
    {timeout : Nat}
    {clock : PassClock}
    (taken : turn.take protocol index timeout clock = .ok after) :
    Steps protocol index turn after.turn := by
  have steps_of_orElse
      {before later : AfterTurn σ}
      {next : Turn σ → Checked (AfterTurn σ)}
      (went : orElse before next = .ok later)
      (steps :
        ∀ {later}, next before.turn = .ok later → Steps protocol index before.turn later.turn) :
      Steps protocol index before.turn later.turn := by
    unfold orElse at went
    split at went
    · cases went
      exact .refl
    · exact steps went
  obtain ⟨afterReading, read, rest⟩ := Checked.bind_eq_ok.mp taken
  obtain ⟨afterWriting, written, checked⟩ := Checked.bind_eq_ok.mp rest
  exact ((steps_of_read read).trans (steps_of_orElse written steps_of_write)).trans
    (steps_of_orElse checked steps_of_check)

/-- What every step preserves holds after a turn. -/
theorem holds_of_take
    {holds : Turn σ → Prop}
    {timeout : Nat}
    {clock : PassClock}
    (step : ∀ before after, Step protocol index before after → holds before → holds after)
    (start : holds turn)
    (taken : turn.take protocol index timeout clock = .ok after) :
    holds after.turn := by
  have steps := steps_of_take taken
  generalize after.turn = last at steps ⊢
  induction steps with
  | refl => exact start
  | tail _ last inductionHypothesis => exact step _ _ last inductionHypothesis

end Turn

end Gatehouse
