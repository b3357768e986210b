import Gatehouse.Proofs.Session.HandedOver
import Gatehouse.Proofs.Transport.Bookkeeping
import Gatehouse.Proofs.Transport.Closing
import Gatehouse.Proofs.Transport.Sending

namespace Gatehouse

/-!
# Delivery

What a service stages for a connection is sent once and in order, however few
bytes are taken at a time and whatever happens in between: the next output is
asked for only when the last one is sent in full, never once the connection is
to be closed, and the close waits for what is staged.
-/

/-- Bytes that a connection which ended was sent. -/
def Departure.sentLength (departure : Departure) : Nat :=
  departure.socket?.elim 0 fun socket => socket.sent.length

/--
The connection of a slot was sent what the service handed over to it, in full
but for the last buffer, which the service still shows.
-/
structure Delivers
    (protocol : ConnectionProtocol σ)
    (start : σ)
    (slot : Nat)
    (service : σ × List ProtocolCall)
    (channel : Channel)
    (buffers : List Bytes) : Prop where
  handsOver : protocol.HandsOver start slot service buffers
  sends : ∃ socket, channel.socket? = some socket ∧ channel.HasSent buffers socket.sent
  shows :
    ∀ (complete : List Bytes) (current : Bytes),
      buffers = complete ++ [current] →
      channel.isWriting = true →
      protocol.Shows slot service current

section

variable
  {protocol : ConnectionProtocol σ}
  {start : σ}
  {slot index : Nat}
  {buffers : List Bytes}
  {channel : Channel}

namespace Delivers

/-- A delivery is carried on by a channel that has sent the same, from where it stopped. -/
theorem carry
    {before after : σ × List ProtocolCall}
    {former : Channel}
    (delivers : Delivers protocol start slot before former buffers)
    (handsOver : protocol.HandsOver start slot after buffers)
    (shows :
      former.isWriting = true →
      ∀ current, protocol.Shows slot before current → protocol.Shows slot after current)
    (position : channel.writePosition = former.writePosition)
    (length : channel.writeLength = former.writeLength)
    (sent : channel.socket?.map Socket.sent = former.socket?.map Socket.sent) :
    Delivers protocol start slot after channel buffers where
  handsOver := handsOver
  sends := by
    obtain ⟨socket, bound, hasSent⟩ := delivers.sends
    rw [bound, Option.map_some, Option.map_eq_some_iff] at sent
    obtain ⟨next, nextBound, sent_eq⟩ := sent
    exact ⟨next, nextBound, sent_eq ▸ hasSent.of_writesAlike position length⟩
  shows := by
    intro complete current last writing
    have wasWriting : former.isWriting = true := by
      simpa only [Channel.isWriting, position, length] using writing
    exact shows wasWriting current (delivers.shows complete current last wasWriting)

/-- What happens at other slots leaves a delivery alone. -/
theorem elsewhere
    {before after : σ × List ProtocolCall}
    {call : ProtocolCall}
    {answer : ProtocolAnswer}
    (delivers : Delivers protocol start slot before channel buffers)
    (responded : protocol.respond before.1 call = .ok (answer, after.1))
    (recorded : after.2 = before.2 ++ [call])
    (elsewhere : call.slot ≠ slot) :
    Delivers protocol start slot after channel buffers := by
  have performed : protocol.perform before.1 call = .ok after.1 := by
    rw [ConnectionProtocol.perform_eq_respond, responded]
    rfl
  obtain ⟨state, calls⟩ := after
  subst recorded
  exact delivers.carry (delivers.handsOver.elsewhere responded elsewhere)
    (fun _ _ shows => shows.step (fun here => absurd here elsewhere) performed rfl) rfl rfl rfl

/-- The next output begins once nothing is left of the last one. -/
theorem startWriting
    {before after : σ × List ProtocolCall}
    {staged : Bytes}
    (delivers : Delivers protocol start slot before channel buffers)
    (idle : channel.isWriting = false)
    (handsOver : protocol.HandsOver start slot after (buffers ++ [staged]))
    (shows : protocol.Shows slot after staged) :
    Delivers protocol start slot after (channel.startWriting staged.length)
      (buffers ++ [staged]) where
  handsOver := handsOver
  sends := by
    obtain ⟨socket, bound, hasSent⟩ := delivers.sends
    have front : (channel.startWriting staged.length).SendsFront socket buffers.flatten staged := {
      bound := bound
      length_eq := rfl
      within := Nat.zero_le _
      sent := (hasSent.sent_eq_of_idle idle).trans (List.append_nil _).symm
    }
    exact ⟨socket, bound, .of_sendsFront front⟩
  shows := by
    intro complete current last writing
    obtain ⟨-, same⟩ := List.append_inj' last rfl
    cases same
    exact shows

/-- The output that is shown is sent from where it stopped. -/
theorem transmit
    {service : σ × List ProtocolCall}
    {staged : Bytes}
    (delivers : Delivers protocol start slot service channel buffers)
    (inTurn : InTurn service.2)
    (writing : channel.isWriting = true)
    (shown : protocol.staged service.1 slot = .ok staged)
    (now : Nat) :
    Delivers protocol start slot service (channel.transmit staged now).channel buffers where
  handsOver := delivers.handsOver
  sends := by
    obtain ⟨socket, bound, hasSent⟩ := delivers.sends
    generalize sent_eq : socket.sent = sent at hasSent
    cases hasSent with
    | all idle =>
        rw [idle] at writing
        cases writing
    | @front complete current length_eq within =>
        have shows := delivers.shows complete current rfl writing
        rw [shows.staged_eq inTurn] at shown
        cases shown
        have front : channel.SendsFront socket complete.flatten staged :=
          ⟨bound, length_eq, Nat.le_of_lt within, sent_eq⟩
        obtain ⟨next, sends⟩ := Channel.sendsFront_transmit front now
        exact ⟨next, sends.bound, .of_sendsFront sends⟩
  shows := fun complete current last _ => delivers.shows complete current last writing

end Delivers

namespace Turn

variable {before after : Turn (σ × List ProtocolCall)}

/-- What a step of a turn records leads to its state. -/
theorem replays_of_step
    (replays : protocol.Replays start before.service)
    (step : Step protocol.strict index before after) :
    protocol.Replays start after.service := by
  rcases service_of_step step with
    same | ⟨call, answer, rfl, traffic, connected, responded, recorded⟩
  · rwa [same]
  · have performed : protocol.perform before.service.1 call = .ok after.service.1 := by
      rw [ConnectionProtocol.perform_eq_respond, responded]
      rfl
    have isNext : isConnected call.slot before.service.2 = !call.isAccept := by
      cases call <;> first | exact connected | cases traffic
    have continued := replays.append isNext performed
    rwa [← recorded] at continued

/-- A step of another slot's turn leaves a delivery alone. -/
theorem delivers_of_step_elsewhere
    (step : Step protocol.strict index before after)
    (elsewhere : index ≠ slot)
    (delivers : Delivers protocol start slot before.service channel buffers) :
    Delivers protocol start slot after.service channel buffers := by
  rcases service_of_step step with same | ⟨call, answer, rfl, -, -, responded, recorded⟩
  · rwa [same]
  · exact delivers.elsewhere responded recorded elsewhere

/-- Every step of its own turn goes on with a delivery. -/
theorem delivers_of_step
    (steady : protocol.StagesSteadily start)
    (replays : protocol.Replays start before.service)
    (step : Step protocol.strict slot before after)
    (delivers : Delivers protocol start slot before.service before.channel buffers) :
    ∃ buffers, Delivers protocol start slot after.service after.channel buffers := by
  have inTurn := (replays_of_step replays step).inTurn
  cases step with
  | receive now going =>
      have alike := before.channel.writesAlike_receiveMessage now
      exact ⟨buffers, delivers.carry delivers.handsOver (fun _ _ shows => shows)
        alike.writePosition alike.writeLength alike.sent⟩
  | @handle message left service length going handled =>
      obtain ⟨-, answered, recorded⟩ := ConnectionProtocol.read_strict_eq_ok.mp handled
      obtain ⟨state, calls⟩ := service
      subst recorded
      have performed : protocol.perform before.service.1 (.read slot message) = .ok state :=
        Checked.bind_eq_ok.mpr ⟨_, answered, rfl⟩
      exact ⟨buffers, delivers.carry (delivers.handsOver.read answered)
        (fun _ _ shows => shows.step (fun _ => rfl) performed rfl) rfl rfl rfl⟩
  | @produceNothing service going idle produced =>
      obtain ⟨-, answered, recorded⟩ := ConnectionProtocol.produce_strict_eq_ok.mp produced
      obtain ⟨state, calls⟩ := service
      subst recorded
      exact ⟨buffers, delivers.carry (delivers.handsOver.produceNothing answered)
        (fun writing => absurd writing (by simp [idle])) rfl rfl rfl⟩
  | @produce length service going idle produced something =>
      obtain ⟨-, answered, recorded⟩ := ConnectionProtocol.produce_strict_eq_ok.mp produced
      obtain ⟨state, calls⟩ := service
      subst recorded
      obtain ⟨staged, rfl, shows⟩ := steady _ _ _ _ _ replays.ran inTurn answered something
      have handsOver := delivers.handsOver.produce answered something (shows.staged_eq inTurn)
      exact ⟨buffers ++ [staged], delivers.startWriting idle handsOver shows⟩
  | @transmit staged now writing shown =>
      obtain ⟨-, shown⟩ := ConnectionProtocol.staged_strict_eq_ok.mp shown
      exact ⟨buffers, delivers.transmit inTurn writing shown now⟩
  | latch closes =>
      exact ⟨buffers, delivers.carry delivers.handsOver (fun _ _ shows => shows) rfl rfl rfl⟩

variable
  {timeout : Nat}
  {clock : PassClock}
  {turn : Turn (σ × List ProtocolCall)}
  {afterTurn : AfterTurn (σ × List ProtocolCall)}

/-- A turn goes on with the delivery of its own connection. -/
theorem delivers_of_take
    (steady : protocol.StagesSteadily start)
    (replays : protocol.Replays start turn.service)
    (taken : turn.take protocol.strict slot timeout clock = .ok afterTurn)
    (delivers : Delivers protocol start slot turn.service turn.channel buffers) :
    ∃ buffers,
      Delivers protocol start slot afterTurn.turn.service afterTurn.turn.channel buffers := by
  have kept :
      protocol.Replays start afterTurn.turn.service ∧
        ∃ buffers,
          Delivers protocol start slot afterTurn.turn.service afterTurn.turn.channel buffers := by
    refine @holds_of_take _ protocol.strict slot turn afterTurn
      (fun next =>
        protocol.Replays start next.service ∧
          ∃ buffers, Delivers protocol start slot next.service next.channel buffers)
      timeout clock ?_ ⟨replays, buffers, delivers⟩ taken
    rintro before after step ⟨replays, buffers, delivers⟩
    exact ⟨replays_of_step replays step, delivers_of_step steady replays step delivers⟩
  exact kept.2

/-- A turn leaves the deliveries of the other connections alone. -/
theorem delivers_of_take_elsewhere
    (taken : turn.take protocol.strict index timeout clock = .ok afterTurn)
    (elsewhere : index ≠ slot)
    (delivers : Delivers protocol start slot turn.service channel buffers) :
    Delivers protocol start slot afterTurn.turn.service channel buffers :=
  @holds_of_take _ protocol.strict index turn afterTurn
    (fun next => Delivers protocol start slot next.service channel buffers) timeout clock
    (fun _ _ step before => delivers_of_step_elsewhere step elsewhere before) delivers taken

/-- Every byte that a turn sends is counted. -/
theorem bytesWritten_of_take
    (taken : turn.take protocol.strict index timeout clock = .ok afterTurn) :
    afterTurn.turn.counters.bytesWritten + turn.channel.sentLength =
      turn.counters.bytesWritten + afterTurn.turn.channel.sentLength := by
  refine @holds_of_take _ protocol.strict index turn afterTurn
    (fun next =>
      next.counters.bytesWritten + turn.channel.sentLength =
        turn.counters.bytesWritten + next.channel.sentLength)
    timeout clock ?_ rfl taken
  intro before after step counted
  cases step with
  | receive now going =>
      have same :
          (before.channel.receiveMessage now).channel.sentLength = before.channel.sentLength :=
        Channel.sentLength_of_sent (before.channel.writesAlike_receiveMessage now).sent
      simp only [afterRead, same]
      exact counted
  | handle | produceNothing | produce | latch => exact counted
  | @transmit staged now writing shown =>
      have moved := before.channel.sentLength_transmit staged now
      simp only [afterWrite, moved]
      omega

/-- Reading asks a strict service to read, and leaves writing alone. -/
theorem calls_of_read
    {now : Nat}
    (read : turn.read protocol.strict index now = .ok afterTurn) :
    turn.channel.WritesAlike afterTurn.turn.channel ∧
      ∃ reads,
        (∀ call ∈ reads, ∃ message, call = .read index message) ∧
          afterTurn.turn.service.2 = turn.service.2 ++ reads := by
  have stops (turn : Turn (σ × List ProtocolCall)) :
      turn.channel.WritesAlike (turn.afterRead (turn.channel.receiveMessage now)).channel ∧
        ∃ reads : List ProtocolCall,
          (∀ call ∈ reads, ∃ message, call = .read index message) ∧
            (turn.afterRead (turn.channel.receiveMessage now)).service.2 =
              turn.service.2 ++ reads :=
    ⟨turn.channel.writesAlike_receiveMessage now, [], by simp, by simp [afterRead]⟩
  fun_induction Turn.read protocol.strict index now turn with
  | case1 turn ready length whole turn' inductionHypothesis =>
      obtain ⟨message, sliced, rest⟩ := Checked.bind_eq_ok.mp read
      obtain ⟨⟨left, service⟩, handled, goesOn⟩ := Checked.bind_eq_ok.mp rest
      obtain ⟨-, -, recorded⟩ := ConnectionProtocol.read_strict_eq_ok.mp handled
      obtain ⟨alike, reads, areReads, recordedLater⟩ := inductionHypothesis left service goesOn
      have received := turn.channel.writesAlike_receiveMessage now
      have handledAlike :
          turn'.channel.WritesAlike (turn'.afterMessage (left.take length) service).channel :=
        ⟨rfl, rfl, rfl, rfl⟩
      refine ⟨(received.trans handledAlike).trans alike, .read index message :: reads, ?_, ?_⟩
      · rintro call member
        rcases List.mem_cons.mp member with rfl | isLater
        · exact ⟨message, rfl⟩
        · exact areReads call isLater
      · rw [recordedLater, afterMessage, recorded, List.append_assoc]
        rfl
  | case2 turn ready waiting =>
      cases read
      exact stops turn
  | case3 turn ready ended =>
      cases read
      exact stops turn
  | case4 turn ready length bad =>
      cases read
      exact stops turn
  | case5 turn ready error failed =>
      cases read
      exact stops turn
  | case6 turn notReady =>
      cases read
      exact ⟨.refl turn.channel, [], by simp, by simp⟩

/-- Writing asks for an output at most, if none is being written and none is refused. -/
theorem calls_of_write
    {now : Nat}
    (written : turn.write protocol.strict index now = .ok afterTurn) :
    afterTurn.turn.service.2 = turn.service.2 ∨
      afterTurn.turn.service.2 = turn.service.2 ++ [.produce index] ∧
        turn.channel.closing = false ∧ turn.channel.isWriting = false := by
  have calls_of_stage
      {isStaged : Bool}
      {staging : Turn (σ × List ProtocolCall)}
      (staged : turn.stage protocol.strict index = .ok (isStaged, staging)) :
      staging.service.2 = turn.service.2 ∨
        staging.service.2 = turn.service.2 ++ [.produce index] ∧
          turn.channel.closing = false ∧ turn.channel.isWriting = false := by
    unfold stage at staged
    split at staged
    next writing =>
      cases staged
      exact .inl rfl
    next idle =>
      split at staged
      next closing =>
        cases staged
        exact .inl rfl
      next going =>
        obtain ⟨⟨length, service⟩, produced, answered⟩ := Checked.bind_eq_ok.mp staged
        obtain ⟨-, -, recorded⟩ := ConnectionProtocol.produce_strict_eq_ok.mp produced
        refine .inr ⟨?_, by simpa using going, by simpa using idle⟩
        dsimp only at answered
        split at answered <;> cases answered <;> exact recorded
  unfold write at written
  split at written
  next blocked =>
    cases written
    exact .inl rfl
  next writable =>
    obtain ⟨⟨isStaged, staging⟩, staged, answered⟩ := Checked.bind_eq_ok.mp written
    dsimp only at answered
    split at answered
    next nothing =>
      cases answered
      exact calls_of_stage staged
    next something =>
      obtain ⟨bytes, shown, transmitted⟩ := Checked.bind_eq_ok.mp answered
      have asked := calls_of_stage staged
      cases transmitted
      exact asked

theorem service_of_check
    {now : Nat}
    (checked : turn.check protocol.strict index now timeout = .ok afterTurn) :
    afterTurn.turn.service = turn.service := by
  unfold check at checked
  split at checked
  next closing =>
    cases checked
    rfl
  next going =>
    obtain ⟨disposition, asked, answered⟩ := Checked.bind_eq_ok.mp checked
    cases disposition <;> cases answered <;> rfl

/--
A turn reads messages, and then asks for an output at most once: only if nothing
is being written and the connection is not to be closed.
-/
theorem calls_of_take
    (taken : turn.take protocol.strict index timeout clock = .ok afterTurn) :
    ∃ reads,
      (∀ call ∈ reads, ∃ message, call = .read index message) ∧
        (afterTurn.turn.service.2 = turn.service.2 ++ reads ∨
          afterTurn.turn.service.2 = turn.service.2 ++ (reads ++ [.produce index]) ∧
            turn.channel.closing = false ∧ turn.channel.isWriting = false) := by
  obtain ⟨afterReading, read, rest⟩ := Checked.bind_eq_ok.mp taken
  obtain ⟨afterWriting, written, checked⟩ := Checked.bind_eq_ok.mp rest
  obtain ⟨alike, reads, areReads, recorded⟩ := calls_of_read read
  have same : afterTurn.turn.service = afterWriting.turn.service := by
    unfold orElse at checked
    split at checked
    · cases checked
      rfl
    · exact service_of_check checked
  refine ⟨reads, areReads, ?_⟩
  rw [same]
  unfold orElse at written
  split at written
  next ending ended =>
    cases written
    exact .inl recorded
  next goesOn =>
    rcases calls_of_write written with nothing | ⟨produced, going, idle⟩
    · exact .inl (nothing.trans recorded)
    · refine .inr ⟨?_, alike.closing.symm.trans going, alike.isWriting.symm.trans idle⟩
      rw [produced, recorded, List.append_assoc]

end Turn

end

end Gatehouse
