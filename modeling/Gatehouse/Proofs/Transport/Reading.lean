import Gatehouse.Transport.Turn
import Gatehouse.Proofs.Transport.Receiving

namespace Gatehouse

/-!
# Reading a stream

A pass hands over the messages that the bytes since the last whole message
spell, and leaves the front of the next one in the channel, whatever the service
writes over a message it was given. So the messages of a connection are cut from
its stream alone, however many passes it takes and whatever else happens between
them.
-/

/-- A protocol that also keeps the messages of one slot, in order. -/
def ConnectionProtocol.recording
    (protocol : ConnectionProtocol σ)
    (watched : Nat) :
    ConnectionProtocol (σ × List Bytes) where
  accept := fun (state, heard) slot peer => return (← protocol.accept state slot peer, heard)
  drop := fun (state, heard) slot => return (← protocol.drop state slot, heard)
  read := fun (state, heard) slot message => do
    let (left, state) ← protocol.read state slot message
    return (left, state, if slot = watched then heard ++ [message] else heard)
  produce := fun (state, heard) slot => do
    let (length, state) ← protocol.produce state slot
    return (length, state, heard)
  staged := fun (state, _) slot => protocol.staged state slot
  status := fun (state, _) slot => protocol.status state slot

theorem Channel.Holds.ofStream_eq
    {channel : Channel}
    {held : Bytes}
    (holds : channel.Holds held) :
    Parsed.ofStream channel.buffer.length held =
      { bodies := [], remainder := .incomplete held } := by
  unfold Channel.Holds at holds
  split at holds
  next position awaiting =>
    obtain ⟨short, rfl⟩ := holds
    have part : (channel.lengthField.bytes.take position).length < ReadProgress.lengthWidth :=
      Nat.lt_of_le_of_lt (List.length_take_le _ _) short
    exact Parsed.ofStream_of_short part
  next length position awaiting =>
    obtain ⟨part, fits, small, rfl⟩ := holds
    have width : (channel.buffer.bytes.take position).length < length := by
      rw [List.length_take]
      omega
    rw [Parsed.ofStream_littleEndian_append _ small, if_neg (by omega), if_pos width]

/-- A channel that waits for what comes after the bytes that it holds. -/
structure Channel.Waits
    (channel : Channel)
    (limit : Nat)
    (held : Bytes)
    (arrivals : List Arrival) :
    Prop where
  closing : channel.closing = false
  length_buffer : channel.buffer.length = limit
  holds : channel.Holds held
  bound : ∃ socket, channel.socket? = some socket ∧ socket.arrivals = arrivals
  orderly : ∀ arrival ∈ arrivals, arrival.IsOrderly

/-- What receiving leaves of a channel that waits. -/
theorem Channel.Waits.exists_received
    {channel : Channel}
    {limit now : Nat}
    {held : Bytes}
    {arrivals : List Arrival}
    {step : ChannelStep ReadStop}
    (waits : channel.Waits limit held arrivals)
    (received : channel.receiveMessage now = step) :
    ∃ data next, channel.Received held data (Intake.ofArrivals arrivals) 0 next step := by
  obtain ⟨socket, bound, rfl⟩ := waits.bound
  rw [← received]
  exact (waits.holds.receiveMessage bound waits.orderly now).2

/-- How a connection ends that a stream was read from. -/
def Parsed.ending? (parsed : Parsed) (ended : Bool) : Option Ending :=
  match parsed.remainder with
  | .incomplete _ => if ended then some .closed else none
  | .badLength _ _ => some .aborted

/-- How the connection ends if receiving ends without a message. -/
def ReadStop.ending? : ReadStop → Option Ending
  | .message _ | .wouldBlock => none
  | .peerClosed => some .closed
  | .badLength _ | .failed _ => some .aborted

namespace Turn

/-- Read and hand over all messages as `read` does, into the place that each read is for. -/
def read?
    (protocol : ConnectionProtocol σ)
    (index now : Nat)
    (turn : Turn σ) :
    Checked (AfterTurn σ) :=
  if turn.channel.readable && !turn.channel.closing then
    match _received : turn.channel.receiveMessage? now with
    | .error fault => .error fault
    | .ok step =>
        match _event : step.event with
        | .message length => do
            let message ← step.channel.message length
            let (message, service) ← protocol.read turn.service index message
            Turn.read? protocol index now
              ((turn.afterRead step).afterMessage (message.take length) service)
        | stop => .ok { ending? := stop.ending?, turn := turn.afterRead step }
  else
    .ok { ending? := none, turn := turn }
termination_by turn.channel.work
decreasing_by
  rw [← Channel.receiveMessage_eq_of_receiveMessage? _received] at _event ⊢
  exact Channel.work_receiveMessage_of_message _event

/-- What a pass leaves that handed over the messages of `parsed` and could take `intake`. -/
structure HasRead
    (before : Turn (σ × List Bytes))
    (limit : Nat)
    (parsed : Parsed)
    (intake : Intake)
    (after : AfterTurn (σ × List Bytes)) :
    Prop where
  heard : after.turn.service.2 = before.service.2 ++ parsed.bodies
  messagesRead :
    after.turn.counters.messagesRead = before.counters.messagesRead + parsed.bodies.length
  bytesRead :
    ∃ bytes,
      after.turn.counters.bytesRead = before.counters.bytesRead + bytes ∧
        bytes + parsed.remainder.unread.length = intake.taken.length
  ending : after.ending? = parsed.ending? intake.ended
  waits :
    after.ending? = none →
      ∃ front,
        parsed.remainder = .incomplete front ∧
          after.turn.channel.Waits limit front intake.waiting

section Pass

variable
  {protocol : ConnectionProtocol σ}
  {allowed : Fault → Prop}
  {holds : σ → Prop}
  {index now limit : Nat}
  {turn : Turn (σ × List Bytes)}
  {held data : Bytes}
  {arrivals : List Arrival}
  {intake : Intake}
  {next : Socket}
  {step : ChannelStep ReadStop}

/-- A recording reads as its protocol does, and keeps the message. -/
theorem recording_read_meets
    (handles :
      ∀ state message,
        holds state →
        (protocol.read state index message).Meets allowed fun answer => holds answer.2)
    {service : σ × List Bytes}
    (before : holds service.1)
    (message : Bytes) :
    ((protocol.recording index).read service index message).Meets allowed fun answer =>
      answer.2.2 = service.2 ++ [message] ∧ holds answer.2.1 := by
  refine Checked.Meets.bind (handles service.1 message before) ?_
  intro answer kept
  exact ⟨if_pos rfl, kept⟩

/-- A whole message is handed over, and reading goes on behind it. -/
theorem read_of_message
    {turn : Turn σ}
    {length : Nat}
    (ready : (turn.channel.readable && !turn.channel.closing) = true)
    (received : turn.channel.receiveMessage now = step)
    (whole : step.event = .message length) :
    turn.read protocol index now =
      (do
        let message ← step.channel.message length
        let (message, service) ← protocol.read turn.service index message
        ((turn.afterRead step).afterMessage (message.take length) service).read
          protocol index now) := by
  rw [Turn.read, if_pos ready]
  split
  next longer wholeToo =>
    obtain rfl := received
    obtain rfl := ReadStop.message.inj (whole.symm.trans wholeToo)
    rfl
  all_goals simp_all

/-- What a whole message leaves to the rest of its pass. -/
theorem next_of_message
    {length : Nat}
    (waits : turn.channel.Waits limit held arrivals)
    (received : turn.channel.Received held data (Intake.ofArrivals arrivals) 0 next step)
    (whole : step.event = .message length) :
    ∃ body : Bytes,
      step.channel.message length = .ok body ∧
        Intake.ofArrivals arrivals = (Intake.ofArrivals next.arrivals).after data ∧
        Parsed.ofStream limit (held ++ (Intake.ofArrivals arrivals).taken) =
          (Parsed.ofStream limit (Intake.ofArrivals next.arrivals).taken).after body := by
  have ends := received.ends
  simp only [Channel.Ends, whole, Channel.Settles] at ends
  obtain ⟨intake_eq, positive, fits, small, spelled⟩ := ends
  have size := received.length_buffer
  have inside : length ≤ step.channel.buffer.bytes.length :=
    Nat.le_trans fits (Nat.le_of_eq size.symm)
  have width : (step.channel.buffer.bytes.take length).length = length := by
    rw [List.length_take, Nat.min_eq_left inside]
  rw [waits.length_buffer] at fits
  refine ⟨step.channel.buffer.bytes.take length, ?_, intake_eq, ?_⟩
  · simp [Channel.message, Bytes.slice_eq_ok, inside]
  · have cut :
        held ++ (data ++ (Intake.ofArrivals next.arrivals).taken) =
          Bytes.littleEndian 2 length ++
            (step.channel.buffer.bytes.take length ++ (Intake.ofArrivals next.arrivals).taken) := by
      rw [← List.append_assoc, spelled, List.append_assoc]
    rw [intake_eq]
    simp only [Intake.after, cut]
    rw [Parsed.ofStream_littleEndian_append _ small, if_neg (by omega),
      if_neg (by rw [List.length_append]; omega), List.drop_left' width, List.take_left' width]

theorem waits_of_received
    {front : Bytes}
    (waits : turn.channel.Waits limit held arrivals)
    (received : turn.channel.Received held data intake 0 next step)
    (holds : step.channel.Holds front) :
    (turn.afterRead step).channel.Waits limit front next.arrivals where
  closing := received.closing.trans waits.closing
  length_buffer := received.length_buffer.trans waits.length_buffer
  holds := holds
  bound := ⟨next, received.bound, rfl⟩
  orderly := received.orderly

/-- Once a message was handled, the channel waits for the next one. -/
theorem waits_afterMessage
    (waits : turn.channel.Waits limit held arrivals)
    (received : turn.channel.Received held data intake 0 next step)
    (left : Bytes)
    (service : σ × List Bytes) :
    ((turn.afterRead step).afterMessage left service).channel.Waits limit [] next.arrivals where
  closing := received.closing.trans waits.closing
  length_buffer := by
    rw [← waits.length_buffer, ← received.length_buffer]
    exact Bytes.length_overwrite _ _ _
  holds := ⟨Nat.zero_lt_two, rfl⟩
  bound := ⟨next, received.bound, rfl⟩
  orderly := received.orderly

/-- What comes after a message is counted behind it. -/
theorem HasRead.of_next
    {parsed : Parsed}
    {after : AfterTurn (σ × List Bytes)}
    {body left : Bytes}
    {state : σ}
    (moved : step.moved = data.length)
    (read :
      ((turn.afterRead step).afterMessage left (state, turn.service.2 ++ [body])).HasRead limit
        parsed intake after) :
    turn.HasRead limit (parsed.after body) (intake.after data) after where
  heard := by
    rw [read.heard]
    simp [afterMessage, Parsed.after]
  messagesRead := by
    rw [read.messagesRead]
    simp only [afterMessage, afterRead, Parsed.after, List.length_cons]
    omega
  bytesRead := by
    obtain ⟨bytes, bytesRead, all⟩ := read.bytesRead
    simp only [afterMessage, afterRead] at bytesRead
    refine ⟨data.length + bytes, by omega, ?_⟩
    simp only [Parsed.after, Intake.after, List.length_append]
    omega
  ending := read.ending
  waits := read.waits

theorem read_of_stop
    {turn : Turn σ}
    (ready : (turn.channel.readable && !turn.channel.closing) = true)
    (received : turn.channel.receiveMessage now = step)
    (stops : ∀ length, step.event ≠ .message length) :
    turn.read protocol index now =
      .ok { ending? := step.event.ending?, turn := turn.afterRead step } := by
  subst received
  rw [Turn.read, if_pos ready]
  split
  next length whole => exact absurd whole (stops length)
  next blocked => rw [blocked]; rfl
  next closed => rw [closed]; rfl
  next length bad => rw [bad]; rfl
  next error failed => rw [failed]; rfl

/-- A pass that hands over no more messages. -/
theorem hasRead_of_stop
    (waits : turn.channel.Waits limit held arrivals)
    (received : turn.channel.Received held data (Intake.ofArrivals arrivals) 0 next step)
    (stops : ∀ length, step.event ≠ .message length) :
    turn.HasRead limit
      (Parsed.ofStream limit (held ++ (Intake.ofArrivals arrivals).taken))
      (Intake.ofArrivals arrivals)
      { ending? := step.event.ending?, turn := turn.afterRead step } := by
  have ends := received.ends
  have moved : step.moved = data.length := by simpa using received.moved
  have size := received.length_buffer.trans waits.length_buffer
  cases event_eq : step.event with
  | message length => exact absurd event_eq (stops length)
  | failed error => simp [Channel.Ends, event_eq] at ends
  | wouldBlock =>
      simp only [Channel.Ends, event_eq] at ends
      obtain ⟨intake_eq, holds⟩ := ends
      have parsed_eq := holds.ofStream_eq
      rw [size] at parsed_eq
      simp only [intake_eq, Intake.after, Intake.none, List.append_nil, parsed_eq]
      exact {
        heard := by simp [afterRead]
        messagesRead := by simp [afterRead]
        bytesRead := ⟨data.length, by simp [afterRead, moved], by simp [Remainder.unread]⟩
        ending := rfl
        waits := fun _ => ⟨_, rfl, waits_of_received waits received holds⟩
      }
  | peerClosed =>
      simp only [Channel.Ends, event_eq] at ends
      obtain ⟨intake_eq, holds⟩ := ends
      have parsed_eq := holds.ofStream_eq
      rw [size] at parsed_eq
      simp only [intake_eq, parsed_eq]
      exact {
        heard := by simp [afterRead]
        messagesRead := by simp [afterRead]
        bytesRead := ⟨data.length, by simp [afterRead, moved], by simp [Remainder.unread]⟩
        ending := rfl
        waits := fun goesOn => by simp [ReadStop.ending?] at goesOn
      }
  | badLength length =>
      simp only [Channel.Ends, event_eq, Channel.Settles] at ends
      obtain ⟨intake_eq, bad, small, spelled⟩ := ends
      rw [waits.length_buffer] at bad
      simp only [intake_eq, Intake.after]
      rw [← List.append_assoc, spelled, Parsed.ofStream_littleEndian_append _ small, if_pos bad]
      exact {
        heard := by simp [afterRead]
        messagesRead := by simp [afterRead]
        bytesRead := ⟨data.length, by simp [afterRead, moved], by simp [Remainder.unread]⟩
        ending := rfl
        waits := fun goesOn => by simp [ReadStop.ending?] at goesOn
      }

/-- One pass. -/
theorem read?_hasRead
    (handles :
      ∀ state message,
        holds state →
        (protocol.read state index message).Meets allowed fun answer => holds answer.2)
    (before : holds turn.service.1)
    (waits : turn.channel.Waits limit held arrivals)
    (readable : turn.channel.readable = true)
    (now : Nat) :
    turn.read? (protocol.recording index) index now =
        turn.read (protocol.recording index) index now ∧
      (turn.read? (protocol.recording index) index now).Meets allowed fun after =>
        turn.HasRead limit
            (Parsed.ofStream limit (held ++ (Intake.ofArrivals arrivals).taken))
            (Intake.ofArrivals arrivals) after ∧
          holds after.turn.service.1 := by
  -- Behind a whole message the channel holds nothing, whatever the service left in the buffer.
  fun_induction Turn.read? (protocol.recording index) index now turn generalizing held arrivals with
  | case1 turn ready fault stopped =>
      obtain ⟨socket, bound, rfl⟩ := waits.bound
      have received := (waits.holds.receiveMessage bound waits.orderly now).1
      rw [stopped] at received
      contradiction
  | case2 turn ready step answered length whole inductionHypothesis =>
      have received_eq := Channel.receiveMessage_eq_of_receiveMessage? answered
      obtain ⟨data, next, received⟩ := waits.exists_received received_eq
      obtain ⟨body, sliced, intake_eq, parsed_eq⟩ := next_of_message waits received whole
      have recorded := recording_read_meets handles before body
      rw [read_of_message ready received_eq whole, sliced, parsed_eq, intake_eq]
      simp only [bind, Except.bind]
      cases handled : (protocol.recording index).read turn.service index body with
      | error fault =>
          rw [handled] at recorded
          exact ⟨rfl, recorded⟩
      | ok answer =>
          rcases answer with ⟨left, state, heard⟩
          rw [handled] at recorded
          obtain ⟨rfl, kept⟩ := recorded
          obtain ⟨same, reads⟩ := inductionHypothesis left (state, turn.service.2 ++ [body])
            kept (waits_afterMessage waits received _ _)
            ((received.readable (by simp [whole])).trans readable)
          refine ⟨same, reads.weaken ?_⟩
          rintro after ⟨read, keptAfter⟩
          exact ⟨.of_next (by simpa using received.moved) read, keptAfter⟩
  | case3 turn ready step answered stops =>
      have received_eq := Channel.receiveMessage_eq_of_receiveMessage? answered
      obtain ⟨data, next, received⟩ := waits.exists_received received_eq
      rw [read_of_stop ready received_eq stops]
      exact ⟨rfl, hasRead_of_stop waits received stops, before⟩
  | case4 turn notReady =>
      simp [readable, waits.closing] at notReady

end Pass

end Turn

end Gatehouse
