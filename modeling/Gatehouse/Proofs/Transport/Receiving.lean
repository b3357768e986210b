import Gatehouse.Transport.Channel
import Gatehouse.Proofs.Bytes.Pieces
import Gatehouse.Proofs.Bytes.Words
import Gatehouse.Proofs.Outcomes
import Gatehouse.Proofs.Transport.Stream

namespace Gatehouse

/-!
# Receiving one message

Between two reads a channel holds the front of a message: in the two bytes of
the length, or in the length and the front of the read buffer. A read puts its
bytes behind what is held, so receiving ends with exactly the bytes that were
held and those that came in since. The part of a buffer that a read writes to
always lies inside that buffer.
-/

namespace LengthField

theorem littleEndian_value (field : LengthField) :
    Bytes.littleEndian 2 field.value = field.bytes := by
  have whole : field.bytes.take 2 = field.bytes :=
    List.take_of_length_le (Nat.le_of_eq field.length_eq)
  exact (Bytes.ofUInt16_toUInt16 (Nat.le_of_eq field.length_eq.symm)).trans whole

theorem value_lt (field : LengthField) : field.value < 65536 :=
  (Bytes.toUInt16 field.bytes).toNat_lt

end LengthField

namespace Channel

/-- The place of the bytes that are missing, with what is in it now. -/
def destination (channel : Channel) : Checked Bytes :=
  match channel.progress with
  | .awaitingLength position =>
      channel.lengthField.bytes.slice position ReadProgress.lengthWidth
  | .awaitingBody length position => channel.buffer.bytes.slice position length

/-- Read from a socket as `readFrom` does, into the place that each read is for. -/
def readFrom?
    (channel : Channel)
    (socket : Socket)
    (now moved : Nat) :
    Checked (ChannelStep ReadStop) :=
  match channel.destination with
  | .error fault => .error fault
  | .ok place =>
      match _answered : socket.receive place.length with
      | (.done [], socket) =>
          .ok {
            event := .peerClosed
            moved := moved
            channel := { channel with socket? := some socket }
          }
      | (.done (byte :: rest), next) =>
          match { channel with socket? := some next, lastActivity := now }.absorb (byte :: rest) with
          | (some event, channel) =>
              .ok { event := event, moved := moved + (rest.length + 1), channel := channel }
          | (none, channel) => channel.readFrom? next now (moved + (rest.length + 1))
      | (.wouldBlock, socket) =>
          .ok {
            event := .wouldBlock
            moved := moved
            channel := { channel with socket? := some socket, readable := false }
          }
      | (.interrupted, next) => channel.readFrom? next now moved
      | (.failed error, socket) =>
          .ok {
            event := .failed error
            moved := moved
            channel := { channel with socket? := some socket }
          }
termination_by socket.work
decreasing_by
  · exact Socket.work_receive_of_done _answered (List.cons_ne_nil _ _)
  · exact Socket.work_receive_of_interrupted _answered

/-- Receive a message as `receiveMessage` does, into the place that each read is for. -/
def receiveMessage? (channel : Channel) (now : Nat) : Checked (ChannelStep ReadStop) :=
  match channel.socket? with
  | none => .ok { event := .peerClosed, moved := 0, channel := channel }
  | some socket => channel.readFrom? socket now 0

/-- A place is as long as what is missing. -/
theorem length_of_destination_eq_ok
    {channel : Channel}
    {place : Bytes}
    (placed : channel.destination = .ok place) :
    place.length = channel.progress.missing := by
  unfold destination at placed
  split at placed
  all_goals
    obtain ⟨⟨ordered, inside⟩, rfl⟩ := Bytes.slice_eq_ok.mp placed
    simp only [ReadProgress.missing, List.length_take, List.length_drop, *]
    omega

theorem readFrom_eq_of_readFrom?
    {channel : Channel}
    {socket : Socket}
    {now moved : Nat}
    {step : ChannelStep ReadStop}
    (read : channel.readFrom? socket now moved = .ok step) :
    channel.readFrom socket now moved = step := by
  fun_induction readFrom? channel socket now moved
  case case1 => simp at read
  -- Both make the same read, so that every other answer is impossible.
  all_goals
    have missing_eq := length_of_destination_eq_ok ‹destination _ = .ok _›
    rw [readFrom, ← missing_eq]
    split <;> simp_all

/-- Where every read has its place, nothing else is different. -/
theorem receiveMessage_eq_of_receiveMessage?
    {channel : Channel}
    {now : Nat}
    {step : ChannelStep ReadStop}
    (received : channel.receiveMessage? now = .ok step) :
    channel.receiveMessage now = step := by
  unfold receiveMessage? at received
  unfold receiveMessage
  cases bound : channel.socket? with
  | none =>
      rw [bound] at received
      exact Except.ok.inj received
  | some socket =>
      rw [bound] at received
      exact readFrom_eq_of_readFrom? received

/-- The bytes of a message that is not whole yet. -/
def Holds (channel : Channel) (held : Bytes) : Prop :=
  match channel.progress with
  | .awaitingLength position =>
      position < ReadProgress.lengthWidth ∧ held = channel.lengthField.bytes.take position
  | .awaitingBody length position =>
      position < length ∧
        length ≤ channel.buffer.length ∧
        length < 65536 ∧
        held = Bytes.littleEndian 2 length ++ channel.buffer.bytes.take position

theorem Holds.missing_pos
    {channel : Channel}
    {held : Bytes}
    (holds : channel.Holds held) :
    0 < channel.progress.missing := by
  unfold Holds at holds
  split at holds
  next position awaiting =>
    simp only [awaiting, ReadProgress.missing]
    omega
  next length position awaiting =>
    simp only [awaiting, ReadProgress.missing]
    omega

/-- There is a place for the bytes that are missing. -/
theorem Holds.exists_destination
    {channel : Channel}
    {held : Bytes}
    (holds : channel.Holds held) :
    ∃ place, channel.destination = .ok place := by
  unfold Holds at holds
  unfold destination
  split at holds
  next position awaiting =>
    obtain ⟨short, -⟩ := holds
    simp only [Bytes.slice_eq_ok]
    exact ⟨_, ⟨Nat.le_of_lt short, Nat.le_of_eq channel.lengthField.length_eq.symm⟩, rfl⟩
  next length position awaiting =>
    obtain ⟨part, fits, -, -⟩ := holds
    simp only [Bytes.slice_eq_ok]
    exact ⟨_, ⟨Nat.le_of_lt part, fits⟩, rfl⟩

/-- What taking in bytes answers and leaves, if `stream` are the bytes since the last message. -/
def Settles (limit : Nat) (stream : Bytes) : Option ReadStop × Channel → Prop
  | (none, next) => next.Holds stream
  | (some (.message length), next) =>
      0 < length ∧ length ≤ limit ∧ length < 65536 ∧
        stream = Bytes.littleEndian 2 length ++ next.buffer.bytes.take length
  | (some (.badLength length), _) =>
      (length = 0 ∨ limit < length) ∧ length < 65536 ∧ stream = Bytes.littleEndian 2 length
  | (some _, _) => False

/-- Taking in bytes puts them behind what is held. -/
theorem Holds.absorb
    {channel : Channel}
    {held data : Bytes}
    (holds : channel.Holds held)
    (fits : data.length ≤ channel.progress.missing) :
    Settles channel.buffer.length (held ++ data) (channel.absorb data) := by
  unfold Holds at holds
  unfold Channel.absorb
  split at holds
  next position awaiting =>
    obtain ⟨short, rfl⟩ := holds
    have width_eq : ReadProgress.lengthWidth = 2 := rfl
    simp only [awaiting, ReadProgress.missing] at fits ⊢
    have inside : position + data.length ≤ channel.lengthField.bytes.length := by
      rw [channel.lengthField.length_eq]
      omega
    have filled := Bytes.take_overwrite inside
    split
    next stillShort =>
      exact ⟨stillShort, filled.symm⟩
    next enough =>
      have complete : position + data.length = ReadProgress.lengthWidth := by omega
      have spelled :
          channel.lengthField.bytes.take position ++ data =
            Bytes.littleEndian 2 (channel.lengthField.fill position data).value := by
        rw [← filled, complete, LengthField.littleEndian_value]
        have whole := (channel.lengthField.fill position data).length_eq
        exact List.take_of_length_le (Nat.le_of_eq whole)
      have small := (channel.lengthField.fill position data).value_lt
      split
      next admitted =>
        simp only [admitsLength, Bool.and_eq_true, decide_eq_true_eq] at admitted
        refine ⟨admitted.1, admitted.2, small, ?_⟩
        rw [List.take_zero, List.append_nil]
        exact spelled
      next refused =>
        simp only [admitsLength, Bool.and_eq_true, decide_eq_true_eq] at refused
        exact ⟨by omega, small, spelled⟩
  next length position awaiting =>
    obtain ⟨part, room, small, rfl⟩ := holds
    simp only [awaiting, ReadProgress.missing] at fits ⊢
    have inside : position + data.length ≤ channel.buffer.bytes.length := by
      unfold Block.length at room
      omega
    have filled := Bytes.take_overwrite inside
    split
    next stillPart =>
      refine ⟨stillPart, ?_, small, ?_⟩
      · simpa [Block.length] using room
      · rw [filled, List.append_assoc]
    next whole =>
      have complete : position + data.length = length := by omega
      rw [complete] at filled
      refine ⟨by omega, room, small, ?_⟩
      rw [filled, List.append_assoc]

/-- Taking in bytes leaves the rest of a channel alone. -/
theorem absorb_keeps (channel : Channel) (data : Bytes) :
    (channel.absorb data).2.readable = channel.readable ∧
      (channel.absorb data).2.closing = channel.closing ∧
      (channel.absorb data).2.buffer.length = channel.buffer.length := by
  unfold Channel.absorb
  split
  · dsimp only
    split
    · exact ⟨rfl, rfl, rfl⟩
    · split <;> exact ⟨rfl, rfl, rfl⟩
  · exact ⟨rfl, rfl, Bytes.length_overwrite _ _ _⟩

/-- A channel that took in bytes from the socket it is bound to. -/
theorem Holds.absorb_eq
    {channel after : Channel}
    {held data : Bytes}
    {next : Socket}
    {now : Nat}
    {event? : Option ReadStop}
    (holds : channel.Holds held)
    (fits : data.length ≤ channel.progress.missing)
    (absorbed :
      { channel with socket? := some next, lastActivity := now }.absorb data = (event?, after)) :
    after.socket? = some next ∧
      after.readable = channel.readable ∧
      after.closing = channel.closing ∧
      after.buffer.length = channel.buffer.length ∧
      Settles channel.buffer.length (held ++ data) (event?, after) := by
  have boundHolds : { channel with socket? := some next, lastActivity := now }.Holds held := holds
  have bound := socket?_absorb { channel with socket? := some next, lastActivity := now } data
  have kept := absorb_keeps { channel with socket? := some next, lastActivity := now } data
  have settles := boundHolds.absorb fits
  rw [absorbed] at bound kept settles
  exact ⟨bound, kept.1, kept.2.1, kept.2.2, settles⟩

/-- How receiving ended once `data` came in behind what was held; a pass takes `intake`. -/
def Ends
    (limit : Nat)
    (held data : Bytes)
    (intake : Intake)
    (next : Socket)
    (step : ChannelStep ReadStop) :
    Prop :=
  match step.event with
  | .message _ | .badLength _ =>
      intake = (Intake.ofArrivals next.arrivals).after data ∧
        Settles limit (held ++ data) (some step.event, step.channel)
  | .wouldBlock =>
      intake = (Intake.none next.arrivals).after data ∧ step.channel.Holds (held ++ data)
  | .peerClosed =>
      intake = { taken := data, ended := true, waiting := next.arrivals } ∧
        step.channel.Holds (held ++ data)
  | .failed _ => False

/-- What receiving leaves. -/
structure Received
    (channel : Channel)
    (held data : Bytes)
    (intake : Intake)
    (moved : Nat)
    (next : Socket)
    (step : ChannelStep ReadStop) :
    Prop where
  moved : step.moved = moved + data.length
  bound : step.channel.socket? = some next
  orderly : next.IsOrderly
  closing : step.channel.closing = channel.closing
  length_buffer : step.channel.buffer.length = channel.buffer.length
  readable : step.event ≠ .wouldBlock → step.channel.readable = channel.readable
  ends : Ends channel.buffer.length held data intake next step

/-- Bytes that came in before count too. -/
theorem Ends.prepend
    {limit : Nat}
    {held front data : Bytes}
    {intake : Intake}
    {next : Socket}
    {step : ChannelStep ReadStop}
    (ends : Ends limit (held ++ front) data intake next step) :
    Ends limit held (front ++ data) (intake.after front) next step := by
  unfold Ends at ends ⊢
  rw [List.append_assoc] at ends
  split at ends
  case h_5 => exact ends
  all_goals
    obtain ⟨rfl, ends⟩ := ends
    exact ⟨by simp [Intake.after], ends⟩

namespace Received

variable
  {channel after : Channel}
  {held chunk data : Bytes}
  {intake rest : Intake}
  {moved now : Nat}
  {next last : Socket}
  {step : ChannelStep ReadStop}

/-- A read that takes nothing. -/
theorem of_nothing
    {event : ReadStop}
    {readable : Bool}
    (orderly : next.IsOrderly)
    (readable_eq : event ≠ .wouldBlock → readable = channel.readable)
    (ends :
      Ends channel.buffer.length held [] intake next
        { event := event
          moved := moved
          channel := { channel with socket? := some next, readable := readable } }) :
    Received channel held [] intake moved next
      { event := event
        moved := moved
        channel := { channel with socket? := some next, readable := readable } } where
  moved := rfl
  bound := rfl
  orderly := orderly
  closing := rfl
  length_buffer := rfl
  readable := readable_eq
  ends := ends

/-- A read whose bytes settle what comes next. -/
theorem of_settled
    {event : ReadStop}
    (holds : channel.Holds held)
    (fits : chunk.length ≤ channel.progress.missing)
    (orderly : next.IsOrderly)
    (absorbed :
      { channel with socket? := some next, lastActivity := now }.absorb chunk =
        (some event, after)) :
    Received channel held chunk ((Intake.ofArrivals next.arrivals).after chunk) moved next
      { event := event, moved := moved + chunk.length, channel := after } := by
  obtain ⟨bound, readable, closing, length_eq, settles⟩ := holds.absorb_eq fits absorbed
  exact {
    moved := rfl
    bound := bound
    orderly := orderly
    closing := closing
    length_buffer := length_eq
    readable := fun _ => readable
    ends := by
      cases event with
      | message | badLength => exact ⟨rfl, settles⟩
      | wouldBlock | peerClosed | failed => exact settles.elim
  }

/-- A read whose bytes leave others missing. -/
theorem of_more
    (holds : channel.Holds held)
    (fits : chunk.length ≤ channel.progress.missing)
    (absorbed :
      { channel with socket? := some next, lastActivity := now }.absorb chunk = (none, after))
    (later : Received after (held ++ chunk) data rest (moved + chunk.length) last step) :
    Received channel held (chunk ++ data) (rest.after chunk) moved last step := by
  obtain ⟨-, readable, closing, length_eq, -⟩ := holds.absorb_eq fits absorbed
  exact {
    moved := by
      rw [later.moved, List.length_append, Nat.add_assoc]
    bound := later.bound
    orderly := later.orderly
    closing := later.closing.trans closing
    length_buffer := later.length_buffer.trans length_eq
    readable := fun goesOn => (later.readable goesOn).trans readable
    ends := length_eq ▸ later.ends.prepend
  }

end Received

/-- Reading from a socket ends, with every read into a place of its own. -/
theorem Holds.readFrom?_meets
    {channel : Channel}
    {held : Bytes}
    {socket : Socket}
    (holds : channel.Holds held)
    (orderly : socket.IsOrderly)
    (now moved : Nat) :
    (channel.readFrom? socket now moved).Meets (fun _ => False) fun step =>
      ∃ data next,
        Received channel held data (Intake.ofArrivals socket.arrivals) moved next step := by
  -- Each read moves its bytes from what a pass can take to what the channel holds.
  fun_induction Channel.readFrom? channel socket now moved generalizing held with
  | case1 channel socket moved fault misplaced =>
      obtain ⟨place, placed⟩ := holds.exists_destination
      rw [placed] at misplaced
      contradiction
  | case2 channel socket moved place placed next received =>
      rw [length_of_destination_eq_ok placed] at received
      obtain ⟨rfl, intake_eq⟩ := received ▸ socket.receive_yields orderly holds.missing_pos
      exact ⟨[], next, .of_nothing orderly (fun _ => rfl) ⟨intake_eq, by rwa [List.append_nil]⟩⟩
  | case3 channel socket moved place placed byte rest next received event after absorbed =>
      rw [length_of_destination_eq_ok placed] at received
      obtain ⟨fits, nextOrderly, intake_eq⟩ :=
        received ▸ socket.receive_yields orderly holds.missing_pos
      rw [intake_eq]
      exact ⟨byte :: rest, next, .of_settled holds fits nextOrderly absorbed⟩
  | case4 channel socket moved place placed byte rest next received after absorbed
      inductionHypothesis =>
      rw [length_of_destination_eq_ok placed] at received
      obtain ⟨fits, nextOrderly, intake_eq⟩ :=
        received ▸ socket.receive_yields orderly holds.missing_pos
      obtain ⟨-, -, -, -, settles⟩ := holds.absorb_eq fits absorbed
      refine (inductionHypothesis settles nextOrderly).weaken ?_
      rintro step ⟨data, last, later⟩
      rw [intake_eq]
      exact ⟨byte :: rest ++ data, last, .of_more holds fits absorbed later⟩
  | case5 channel socket moved place placed next received =>
      rw [length_of_destination_eq_ok placed] at received
      obtain ⟨nextOrderly, intake_eq⟩ := received ▸ socket.receive_yields orderly holds.missing_pos
      exact ⟨[], next,
        .of_nothing nextOrderly (fun goesOn => absurd rfl goesOn)
          ⟨intake_eq, by rwa [List.append_nil]⟩⟩
  | case6 channel socket moved place placed next received inductionHypothesis =>
      rw [length_of_destination_eq_ok placed] at received
      obtain ⟨nextOrderly, intake_eq⟩ := received ▸ socket.receive_yields orderly holds.missing_pos
      rw [intake_eq]
      exact inductionHypothesis holds nextOrderly
  | case7 channel socket moved place placed error next received =>
      rw [length_of_destination_eq_ok placed] at received
      have impossible := received ▸ socket.receive_yields orderly holds.missing_pos
      exact impossible.elim

/-- Receiving ends, with every read into a place of its own. -/
theorem Holds.receiveMessage
    {channel : Channel}
    {held : Bytes}
    {socket : Socket}
    (holds : channel.Holds held)
    (bound : channel.socket? = some socket)
    (orderly : socket.IsOrderly)
    (now : Nat) :
    channel.receiveMessage? now = .ok (channel.receiveMessage now) ∧
      ∃ data next,
        Received channel held data (Intake.ofArrivals socket.arrivals) 0 next
          (channel.receiveMessage now) := by
  have answers : channel.receiveMessage? now = channel.readFrom? socket now 0 := by
    rw [receiveMessage?, bound]
  obtain ⟨step, read, received⟩ := (holds.readFrom?_meets orderly now 0).exists_eq_ok
  rw [← answers] at read
  rw [receiveMessage_eq_of_receiveMessage? read]
  exact ⟨read, received⟩

end Channel

end Gatehouse
