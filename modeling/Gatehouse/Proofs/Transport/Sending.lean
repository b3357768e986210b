import Gatehouse.Proofs.Transport.Steps

namespace Gatehouse

/-!
# Sending what is staged

A channel sends its staged output from where it stopped, however little is taken
at a time: what was sent of it is always a front of it, and the bytes that moved
are counted.
-/

/-- What a socket has sent once some bytes were offered to it. -/
def Socket.SendsOf (socket : Socket) (data : Bytes) : SocketAnswer Nat × Socket → Prop
  | (.done count, next) => count ≤ data.length ∧ next.sent = socket.sent ++ data.take count
  | (_, next) => next.sent = socket.sent

theorem Socket.sendsOf_of_send
    {socket next : Socket}
    {data : Bytes}
    {answer : SocketAnswer Nat}
    (sent : socket.send data = (answer, next)) :
    socket.SendsOf data (answer, next) := by
  rw [← sent]
  unfold send
  split
  next unlimited =>
    exact ⟨Nat.le_refl _, by rw [List.take_length]⟩
  next count rest limited =>
    refine ⟨Nat.min_le_right count _, ?_⟩
    by_cases fits : count ≤ data.length
    · rw [Nat.min_eq_left fits]
    · have more : data.length ≤ count := Nat.le_of_not_le fits
      rw [Nat.min_eq_right more, List.take_length, List.take_of_length_le more]
  all_goals rfl

namespace Channel

/-- Bytes that the connection of a channel was sent. -/
def sentLength (channel : Channel) : Nat :=
  channel.socket?.elim 0 fun socket => socket.sent.length

theorem sentLength_of_sent
    {channel former : Channel}
    (sent : channel.socket?.map Socket.sent = former.socket?.map Socket.sent) :
    channel.sentLength = former.sentLength := by
  have counts (channel : Channel) :
      channel.sentLength = (channel.socket?.map Socket.sent).elim 0 List.length := by
    unfold sentLength
    cases channel.socket? <;> rfl
  rw [counts, sent, ← counts]

/-- The bytes that move are the bytes that are sent. -/
theorem sentLength_writeTo
    (channel : Channel)
    (socket : Socket)
    (staged : Bytes)
    (now moved : Nat) :
    (channel.writeTo socket staged now moved).channel.sentLength + moved =
      socket.sent.length + (channel.writeTo socket staged now moved).moved := by
  fun_induction writeTo channel socket staged now moved with
  | case1 => rfl
  | case2 channel socket moved rest pending next sent =>
      have sends := Socket.sendsOf_of_send sent
      simp [sentLength, sends.2]
  | case3 channel socket moved rest pending count next sent inductionHypothesis =>
      obtain ⟨within, sends⟩ := Socket.sendsOf_of_send sent
      have width : (rest.take (count + 1)).length = count + 1 := by
        rw [List.length_take, Nat.min_eq_left within]
      rw [sends, List.length_append, width] at inductionHypothesis
      omega
  | case4 channel socket moved rest pending next sent =>
      have sends : next.sent = socket.sent := Socket.sendsOf_of_send sent
      simp [sentLength, sends]
  | case5 channel socket moved rest pending next sent inductionHypothesis =>
      have sends : next.sent = socket.sent := Socket.sendsOf_of_send sent
      rwa [sends] at inductionHypothesis
  | case6 channel socket moved rest pending error next sent =>
      have sends : next.sent = socket.sent := Socket.sendsOf_of_send sent
      simp [sentLength, sends]

theorem sentLength_transmit (channel : Channel) (staged : Bytes) (now : Nat) :
    (channel.transmit staged now).channel.sentLength =
      channel.sentLength + (channel.transmit staged now).moved := by
  unfold transmit
  split
  next unbound =>
    rfl
  next socket bound =>
    have counted := channel.sentLength_writeTo socket staged now 0
    simpa [sentLength, bound] using counted

/-- A channel whose socket was sent a front of `staged` behind `base`. -/
structure SendsFront (channel : Channel) (socket : Socket) (base staged : Bytes) : Prop where
  bound : channel.socket? = some socket
  length_eq : channel.writeLength = staged.length
  within : channel.writePosition ≤ staged.length
  sent : socket.sent = base ++ staged.take channel.writePosition

/-- Sending goes on where it stopped. -/
theorem sendsFront_writeTo
    {channel : Channel}
    {socket : Socket}
    {base staged : Bytes}
    (length_eq : channel.writeLength = staged.length)
    (within : channel.writePosition ≤ staged.length)
    (sent : socket.sent = base ++ staged.take channel.writePosition)
    (now moved : Nat) :
    ∃ next, (channel.writeTo socket staged now moved).channel.SendsFront next base staged := by
  -- The rest that is offered to the socket begins where the front that was sent ends.
  have rest_eq {channel : Channel} (length_eq : channel.writeLength = staged.length) :
      (staged.take channel.writeLength).drop channel.writePosition =
        staged.drop channel.writePosition := by
    rw [length_eq, List.take_length]
  fun_induction writeTo channel socket staged now moved with
  | case1 channel socket moved rest drained =>
      have atEnd : staged.length ≤ channel.writePosition := by
        have none : (staged.drop channel.writePosition).length = 0 := by
          rw [← rest_eq length_eq]
          exact drained
        rw [List.length_drop] at none
        omega
      refine ⟨socket, rfl, length_eq, Nat.le_of_eq length_eq, ?_⟩
      rw [sent, List.take_of_length_le atEnd]
      simp [length_eq]
  | case2 channel socket moved rest pending next sending =>
      have sends := Socket.sendsOf_of_send sending
      exact ⟨next, rfl, length_eq, within, by rw [sends.2, List.take_zero, List.append_nil, sent]⟩
  | case3 channel socket moved rest pending count next sending inductionHypothesis =>
      obtain ⟨fits, sends⟩ := Socket.sendsOf_of_send sending
      have rest_is : rest = staged.drop channel.writePosition := rest_eq length_eq
      refine inductionHypothesis length_eq ?_ ?_
      · rw [rest_is, List.length_drop] at fits
        change channel.writePosition + (count + 1) ≤ staged.length
        omega
      · rw [sends, sent, rest_is, List.append_assoc, ← List.take_add]
  | case4 channel socket moved rest pending next sending =>
      have sends : next.sent = socket.sent := Socket.sendsOf_of_send sending
      exact ⟨next, rfl, length_eq, within, by rw [sends, sent]⟩
  | case5 channel socket moved rest pending next sending inductionHypothesis =>
      have sends : next.sent = socket.sent := Socket.sendsOf_of_send sending
      exact inductionHypothesis length_eq within (by rw [sends, sent])
  | case6 channel socket moved rest pending error next sending =>
      have sends : next.sent = socket.sent := Socket.sendsOf_of_send sending
      exact ⟨next, rfl, length_eq, within, by rw [sends, sent]⟩

theorem sendsFront_transmit
    {channel : Channel}
    {socket : Socket}
    {base staged : Bytes}
    (sends : channel.SendsFront socket base staged)
    (now : Nat) :
    ∃ next, (channel.transmit staged now).channel.SendsFront next base staged := by
  have written := sendsFront_writeTo sends.length_eq sends.within sends.sent now 0
  simpa only [transmit, sends.bound] using written

/--
What was sent of the buffers that were staged: all of them if nothing is being
written, and otherwise all that are complete and a front of the last one.
-/
inductive HasSent (channel : Channel) : List Bytes → Bytes → Prop where
  | all
      {buffers : List Bytes}
      (idle : channel.isWriting = false) :
      HasSent channel buffers buffers.flatten
  | front
      {complete : List Bytes}
      {current : Bytes}
      (length_eq : channel.writeLength = current.length)
      (within : channel.writePosition < current.length) :
      HasSent channel (complete ++ [current])
        (complete.flatten ++ current.take channel.writePosition)

namespace HasSent

variable {channel after : Channel} {buffers : List Bytes} {sent : Bytes}

theorem of_writesAlike
    (hasSent : channel.HasSent buffers sent)
    (position : after.writePosition = channel.writePosition)
    (length : after.writeLength = channel.writeLength) :
    after.HasSent buffers sent := by
  cases hasSent with
  | all idle =>
      refine .all ?_
      simpa only [isWriting, position, length] using idle
  | front length_eq within =>
      rw [← position]
      exact .front (length.trans length_eq) (position ▸ within)

theorem sent_eq_of_idle
    (hasSent : channel.HasSent buffers sent)
    (idle : channel.isWriting = false) :
    sent = buffers.flatten := by
  cases hasSent with
  | all _ => rfl
  | front length_eq within =>
      simp only [isWriting, length_eq, decide_eq_false_iff_not] at idle
      exact absurd within idle

/-- A channel that sends the front of its last buffer has sent that much of all. -/
theorem of_sendsFront
    {socket : Socket}
    {complete : List Bytes}
    {current : Bytes}
    (sends : channel.SendsFront socket complete.flatten current) :
    channel.HasSent (complete ++ [current]) socket.sent := by
  rw [sends.sent]
  rcases Nat.lt_or_eq_of_le sends.within with part | whole
  · exact .front sends.length_eq part
  · have all : complete.flatten ++ current.take channel.writePosition =
        (complete ++ [current]).flatten := by
      rw [whole, List.take_length]
      simp
    rw [all]
    refine .all ?_
    simp [isWriting, sends.length_eq, whole]

end HasSent

end Channel

end Gatehouse
