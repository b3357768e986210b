import Gatehouse.Proofs.Transport.Delivery

namespace Gatehouse

/-!
# The outputs of a switchboard

At every moment the connection of a slot was sent what the service handed over
to it since it came, once and in order, up to a front of the last output; the
bytes that were sent to all connections are those that the counters show.
-/

/-- A channel that something else comes to, or that is ready for something, is written to alike. -/
theorem Channel.writesAlike_of_socket
    {channel : Channel}
    {socket? : Option Socket}
    (sent : socket?.map Socket.sent = channel.socket?.map Socket.sent) :
    channel.WritesAlike { channel with socket? := socket? } where
  writePosition := rfl
  writeLength := rfl
  closing := rfl
  sent := sent

/-- A vacant channel was sent nothing. -/
theorem Channel.IsVacant.sentLength_eq
    {channel : Channel}
    (vacant : channel.IsVacant) :
    channel.sentLength = 0 := by
  rw [sentLength, vacant.socket?_eq]
  rfl

namespace Switchboard

/-- Channels that are written to like those of a switchboard. -/
structure WritesAlike (before : Switchboard σ) (channels : List Channel) : Prop where
  length_eq : channels.length = before.channels.length
  alike :
    ∀ (slot : Nat) (channel : Channel),
      channels[slot]? = some channel →
      ∃ former, before.channels[slot]? = some former ∧ former.WritesAlike channel

theorem writesAlike_onNetwork (switchboard : Switchboard σ) (network : Network) :
    switchboard.WritesAlike (switchboard.onNetwork network).channels where
  length_eq := List.length_mapIdx
  alike := by
    intro slot channel found
    obtain ⟨former, wasThere, rfl⟩ := channel_of_onNetwork found
    refine ⟨former, wasThere, Channel.writesAlike_of_socket ?_⟩
    rw [Option.map_map]
    rfl

theorem writesAlike_noteReadiness (switchboard : Switchboard σ) (events : List Readiness) :
    switchboard.WritesAlike (switchboard.noteReadiness events).channels where
  length_eq := switchboard.length_noteReadiness events
  alike := by
    intro slot channel found
    obtain ⟨former, readable, writable, wasThere, rfl⟩ := channel_of_noteReadiness found
    exact ⟨former, wasThere, rfl, rfl, rfl, rfl⟩

theorem WritesAlike.sum_sentLength_eq
    {before : Switchboard σ}
    {channels : List Channel}
    (same : before.WritesAlike channels) :
    (channels.map Channel.sentLength).sum = (before.channels.map Channel.sentLength).sum := by
  refine congrArg List.sum (List.ext_getElem ?_ fun slot inside insideBefore => ?_)
  · rw [List.length_map, List.length_map, same.length_eq]
  · rw [List.length_map] at inside
    obtain ⟨former, wasThere, alike⟩ := same.alike slot _ (List.getElem?_eq_getElem inside)
    obtain ⟨_, rfl⟩ := List.getElem?_eq_some_iff.mp wasThere
    rw [List.getElem_map, List.getElem_map]
    exact Channel.sentLength_of_sent alike.sent

/-- The bytes that were written are those that the connections were sent, live or gone. -/
def CountsSent (departures : List Departure) (switchboard : Switchboard σ) : Prop :=
  switchboard.counters.bytesWritten =
    (switchboard.channels.map Channel.sentLength).sum + (departures.map Departure.sentLength).sum

/-- Whoever is connected is delivered what the service hands over. -/
def DeliversAll
    (protocol : ConnectionProtocol σ)
    (start : σ)
    (switchboard : Switchboard (σ × List ProtocolCall)) : Prop :=
  ∀ (slot : Nat) (channel : Channel),
    switchboard.channels[slot]? = some channel →
    channel.socket?.isSome = true →
    ∃ buffers, Delivers protocol start slot switchboard.service channel buffers

variable
  {protocol : ConnectionProtocol σ}
  {capacity slot : Nat}
  {departures departed : List Departure}
  {start : σ}
  {before : Switchboard (σ × List ProtocolCall)}

namespace DeliversAll

theorem of_vacant
    (vacant : ∀ channel ∈ before.channels, channel.IsVacant) :
    DeliversAll protocol start before := by
  intro slot channel found bound
  rw [(vacant channel (List.mem_of_getElem? found)).socket?_eq] at bound
  cases bound

theorem of_channels
    {channels : List Channel}
    (delivers : DeliversAll protocol start before)
    (same : before.WritesAlike channels) :
    DeliversAll protocol start { before with channels := channels } := by
  intro slot channel found bound
  obtain ⟨former, wasThere, alike⟩ := same.alike slot channel found
  have wasBound : former.socket?.isSome = true := by
    rwa [← Option.isSome_map, alike.sent, Option.isSome_map] at bound
  obtain ⟨buffers, delivered⟩ := delivers slot former wasThere wasBound
  exact ⟨buffers, delivered.carry delivered.handsOver (fun _ _ shows => shows)
    alike.writePosition alike.writeLength alike.sent⟩

/-- Whoever comes was delivered nothing yet, and takes nothing away from the others. -/
theorem accept
    {pool : IndexPool}
    {socket : Socket}
    {peer : SocketAddress}
    {service : σ × List ProtocolCall}
    (delivers : DeliversAll protocol start before)
    (replays : protocol.Replays start before.service)
    (told : protocol.strict.accept before.service slot peer = .ok service)
    (fresh : socket.sent = [])
    (now : Nat) :
    DeliversAll protocol start (before.afterAccepting pool slot socket peer now service) := by
  obtain ⟨-, accepted, recorded⟩ := ConnectionProtocol.accept_strict_eq_ok.mp told
  have performed : protocol.strict.perform before.service (.accept slot peer) = .ok service := told
  have ran := (replays.perform performed).ran
  intro other channel found bound
  rcases channel_of_afterAccepting found with ⟨former, rfl, -, rfl⟩ | ⟨elsewhere, wasThere⟩
  · obtain ⟨state, calls⟩ := service
    subst recorded
    refine ⟨[], .of_restart ran rfl, ⟨socket, rfl, ?_⟩, ?_⟩
    · rw [fresh]
      exact .all rfl
    · intro complete current last
      simp at last
  · obtain ⟨buffers, delivered⟩ := delivers other channel wasThere bound
    have responded :
        protocol.respond before.service.1 (.accept slot peer) = .ok (.done, service.1) :=
      Checked.bind_eq_ok.mpr ⟨_, accepted, rfl⟩
    exact ⟨buffers, delivered.elsewhere responded recorded elsewhere⟩

/-- A turn delivers to its own connection and to no other one. -/
theorem turn
    {connection : Channel}
    {timeout : Nat}
    {clock : PassClock}
    {after : AfterTurn (σ × List ProtocolCall)}
    (delivers : DeliversAll protocol start before)
    (steady : protocol.StagesSteadily start)
    (replays : protocol.Replays start before.service)
    (found : before.channels[slot]? = some connection)
    (turned : (before.turnOf connection).take protocol.strict slot timeout clock = .ok after) :
    DeliversAll protocol start (before.afterTurn slot after.turn) := by
  intro other channel isThere bound
  rcases channel_of_afterTurn isThere with ⟨rfl, rfl⟩ | ⟨elsewhere, wasThere⟩
  · have wasBound : connection.socket?.isSome = true :=
      (Turn.staysConnected_of_take turned).bound.symm.trans bound
    obtain ⟨buffers, delivered⟩ := delivers slot connection found wasBound
    exact Turn.delivers_of_take steady replays turned delivered
  · obtain ⟨buffers, delivered⟩ := delivers other channel wasThere bound
    exact ⟨buffers, Turn.delivers_of_take_elsewhere turned elsewhere delivered⟩

/-- Whoever leaves takes nothing away from the others. -/
theorem tearDown
    {service : σ × List ProtocolCall}
    (delivers : DeliversAll protocol start before)
    (told : protocol.strict.drop before.service slot = .ok service)
    (ending : Ending) :
    DeliversAll protocol start (before.afterEnding slot ending service) := by
  obtain ⟨-, dropped, recorded⟩ := ConnectionProtocol.drop_strict_eq_ok.mp told
  have responded : protocol.respond before.service.1 (.drop slot) = .ok (.done, service.1) :=
    Checked.bind_eq_ok.mpr ⟨_, dropped, rfl⟩
  intro other channel found bound
  rcases channel_of_afterEnding found with ⟨former, -, -, rfl⟩ | ⟨elsewhere, wasThere⟩
  · rw [former.isVacant_detach.socket?_eq] at bound
    cases bound
  · obtain ⟨buffers, delivered⟩ := delivers other channel wasThere bound
    exact ⟨buffers, delivered.elsewhere responded recorded elsewhere⟩

end DeliversAll

namespace CountsSent

theorem of_vacant
    (vacant : ∀ channel ∈ before.channels, channel.IsVacant)
    (counted : before.counters.bytesWritten = 0) :
    CountsSent [] before := by
  have nothing : (before.channels.map Channel.sentLength).sum ≤ before.channels.length * 0 :=
    sum_weights_le fun channel member => Nat.le_of_eq (vacant channel member).sentLength_eq
  exact counted.trans (Nat.le_zero.mp nothing).symm

theorem of_channels
    {channels : List Channel}
    (counts : CountsSent departures before)
    (same : before.WritesAlike channels) :
    CountsSent departures { before with channels := channels } := by
  unfold CountsSent at counts ⊢
  rw [same.sum_sentLength_eq]
  exact counts

/-- Whoever comes was sent nothing yet. -/
theorem accept
    {pool : IndexPool}
    {socket : Socket}
    {peer : SocketAddress}
    {service : σ × List ProtocolCall}
    (counts : CountsSent departures before)
    (vacant : ∀ channel, before.channels[slot]? = some channel → channel.IsVacant)
    (fresh : socket.sent = [])
    (now : Nat) :
    CountsSent departures (before.afterAccepting pool slot socket peer now service) := by
  have same :
      (before.channels.modify slot fun free => free.attach socket peer now).map
          Channel.sentLength =
        before.channels.map Channel.sentLength := by
    refine List.ext_getElem? fun other => ?_
    simp only [List.getElem?_map, List.getElem?_modify, Option.map_eq_map]
    cases found : before.channels[other]? with
    | none => rfl
    | some channel =>
        by_cases here : slot = other
        · subst here
          have nothing := (vacant channel found).sentLength_eq
          simp only [Option.map_some, nothing]
          simp [Channel.sentLength, Channel.attach, fresh]
        · simp [here]
  unfold CountsSent at counts ⊢
  simp only [afterAccepting, same]
  exact counts

theorem turn
    {connection : Channel}
    {timeout : Nat}
    {clock : PassClock}
    {after : AfterTurn (σ × List ProtocolCall)}
    (counts : CountsSent departures before)
    (found : before.channels[slot]? = some connection)
    (turned : (before.turnOf connection).take protocol.strict slot timeout clock = .ok after) :
    CountsSent departures (before.afterTurn slot after.turn) := by
  obtain ⟨rest, total, replaced, -⟩ := exists_rest_of_weights Channel.sentLength found
  have moved := Turn.bytesWritten_of_take turned
  unfold CountsSent at counts ⊢
  simp only [afterTurn, replaced]
  simp only [turnOf] at moved
  omega

/-- What a connection was sent is known from its departure once it is gone. -/
theorem tearDown
    {connection : Channel}
    {service : σ × List ProtocolCall}
    {departure : Departure}
    (counts : CountsSent departures before)
    (found : before.channels[slot]? = some connection)
    (left : departure.socket? = connection.socket?)
    (ending : Ending) :
    CountsSent (departures ++ [departure]) (before.afterEnding slot ending service) := by
  obtain ⟨rest, total, replaced, -⟩ := exists_rest_of_weights Channel.sentLength found
  have gone : departure.sentLength = connection.sentLength := by
    rw [Departure.sentLength, left]
    rfl
  have wiped : before.channels.modify slot Channel.detach =
      before.channels.set slot connection.detach := by
    rw [List.modify_eq_set_getElem?, found]
    rfl
  have same :
      (before.afterEnding slot ending service).counters.bytesWritten =
        before.counters.bytesWritten := by
    cases ending <;> rfl
  unfold CountsSent at counts ⊢
  rw [same]
  simp only [afterEnding, wiped, replaced, connection.isVacant_detach.sentLength_eq,
    List.map_append, List.sum_append, List.map_cons, List.map_nil, List.sum_cons, List.sum_nil,
    gone]
  omega

end CountsSent

/-- Whatever is reached, outputs were delivered as they were handed over, and all were counted. -/
theorem delivers_of_reached
    {start : Switchboard σ}
    {middle : Switchboard (σ × List ProtocolCall)}
    (inOrder : InOrder capacity [] (start.recorded []))
    (steady : protocol.StagesSteadily start.service)
    (counted : start.counters.bytesWritten = 0)
    (reached : Reached protocol.strict (start.recorded []) departures middle) :
    DeliversAll protocol start.service middle ∧ CountsSent departures middle := by
  induction reached with
  | start =>
      have vacant (channel : Channel) (member : channel ∈ start.channels) : channel.IsVacant := by
        obtain ⟨slot, found⟩ := List.getElem?_of_mem member
        exact inOrder.vacant slot channel found (inOrder.connected slot).symm
      exact ⟨.of_vacant vacant, .of_vacant vacant counted⟩
  | @network departures before reached network inductionHypothesis =>
      obtain ⟨delivers, counts⟩ := inductionHypothesis
      have same := before.writesAlike_onNetwork network
      exact ⟨delivers.of_channels same, counts.of_channels same⟩
  | @note departures before reached events inductionHypothesis =>
      obtain ⟨delivers, counts⟩ := inductionHypothesis
      have same := before.writesAlike_noteReadiness events
      exact ⟨delivers.of_channels same, counts.of_channels same⟩
  | @accept departures before after now incoming reached fresh accepted inductionHypothesis =>
      obtain ⟨delivers, counts⟩ := inductionHypothesis
      have books := inOrder_of_reached inOrder reached
      have replays := replays_of_reached reached
      cases accept_singleton_eq_ok.mp accepted with
      | failed | interrupted | rejected | givenUp => exact ⟨delivers, counts⟩
      | @admitted socket peer slot pool service acquired told =>
          have wasFree := (books.pool.acquired_of_acquire? acquired).wasFree
          have free := IndexPool.isTaken_eq_false_of_getElem? wasFree
          have vacant (channel : Channel) (found : before.channels[slot]? = some channel) :
              channel.IsVacant :=
            books.vacant slot channel found free
          exact ⟨delivers.accept replays told fresh now, counts.accept vacant fresh now⟩
  | @serve departures departed before after clock slot reached served inductionHypothesis =>
      obtain ⟨delivers, counts⟩ := inductionHypothesis
      have replays := replays_of_reached reached
      cases serveAll_singleton_eq_ok.mp served with
      | skipped free =>
          rw [List.append_nil]
          exact ⟨delivers, counts⟩
      | @stayed connection afterTurn taken found turned goesOn =>
          rw [List.append_nil]
          exact ⟨delivers.turn steady replays found turned, counts.turn found turned⟩
      | @ended connection afterTurn ending service taken found turned ends dropped =>
          have inside := (List.getElem?_eq_some_iff.mp found).1
          have isThere :
              (before.afterTurn slot afterTurn.turn).channels[slot]? =
                some afterTurn.turn.channel :=
            List.getElem?_set_self inside
          exact ⟨(delivers.turn steady replays found turned).tearDown dropped ending,
            (counts.turn found turned).tearDown isThere rfl ending⟩

/-- A new switchboard has counted nothing, and its service has the arena that is left. -/
theorem service_of_listen
    {host left : Host}
    {settings : SwitchboardSettings}
    {arena rest : Arena}
    {now : Nat}
    {serviceOf : Arena → σ}
    {start : Switchboard σ}
    (listening : listen host settings arena now serviceOf = .ok (.ok (start, rest, left))) :
    start.service = serviceOf rest ∧ start.counters.bytesWritten = 0 := by
  unfold listen at listening
  split at listening
  next error refused =>
    cases listening
  next listens granted =>
    obtain ⟨_, _, rest⟩ := Checked.bind_eq_ok.mp listening
    obtain ⟨_, _, answered⟩ := Checked.bind_eq_ok.mp rest
    cases answered
    exact ⟨rfl, rfl⟩

/--
A turn of a connection in which its service was called `more`. The connection
was sent what the service handed over to it, in full if it is closed because it
was to be closed. Another output was asked for only with everything sent
before, and only of a connection that was not to be closed.
-/
structure DeliversInTurn
    (protocol : ConnectionProtocol σ)
    (start : σ)
    (slot : Nat)
    (calls more : List ProtocolCall)
    (connection : Channel)
    (after : AfterTurn σ) : Prop where
  sends :
    ∃ socket buffers,
      after.turn.channel.socket? = some socket ∧
        protocol.HandsOver start slot (after.turn.service, calls ++ more) buffers ∧
        after.turn.channel.HasSent buffers socket.sent ∧
        (after.ending? = some .closed →
          after.turn.channel.closing = true →
          socket.sent = buffers.flatten)
  asks :
    ∃ reads,
      (∀ call ∈ reads, ∃ message, call = .read slot message) ∧
        (more = reads ∨
          more = reads ++ [.produce slot] ∧
            connection.closing = false ∧ connection.isWriting = false)
  staysClosing : connection.closing = true → after.turn.channel.closing = true
  closes :
    after.turn.channel.closing = true →
    connection.closing = true ∨ protocol.status after.turn.service slot = .ok .closing

theorem deliversInTurn_of_take
    {start : σ}
    {switchboard : Switchboard σ}
    {calls : List ProtocolCall}
    {connection : Channel}
    {clock : PassClock}
    {after : AfterTurn σ}
    (steady : protocol.StagesSteadily start)
    (replays : protocol.Replays start (switchboard.service, calls))
    (delivers : DeliversAll protocol start (switchboard.recorded calls))
    (connected : isConnected slot calls = true)
    (bound : connection.socket?.isSome = true)
    (found : switchboard.channels[slot]? = some connection)
    (turned :
      (switchboard.turnOf connection).take protocol slot switchboard.settings.idleLimit clock =
        .ok after) :
    ∃ more,
      ((switchboard.turnOf connection).recorded calls).take protocol.strict slot
          switchboard.settings.idleLimit clock =
        .ok (after.recorded (calls ++ more)) ∧
      DeliversInTurn protocol start slot calls more connection after := by
  obtain ⟨buffers, delivered⟩ := delivers slot connection found bound
  obtain ⟨later, turnedToo, -⟩ := Turn.take_recorded connected turned
  obtain ⟨reads, areReads, recorded⟩ := Turn.calls_of_take turnedToo
  have continues :
      ∃ more,
        later = calls ++ more ∧
          (more = reads ∨
            more = reads ++ [.produce slot] ∧
              connection.closing = false ∧ connection.isWriting = false) := by
    rcases recorded with readOnly | ⟨produced, going, idle⟩
    · exact ⟨reads, readOnly, .inl rfl⟩
    · have continued : later = calls ++ (reads ++ [.produce slot]) := produced
      exact ⟨_, continued, .inr ⟨rfl, going, idle⟩⟩
  obtain ⟨more, rfl, asked⟩ := continues
  obtain ⟨handed, deliveredNow⟩ := Turn.delivers_of_take steady replays turnedToo delivered
  obtain ⟨socket, boundNow, hasSent⟩ := deliveredNow.sends
  obtain ⟨stays, closes⟩ := Turn.closing_of_take turned
  refine ⟨more, turnedToo, ?_⟩
  exact {
    sends := by
      refine ⟨socket, handed, boundNow, deliveredNow.handsOver, hasSent, fun ends closing => ?_⟩
      have idle := Turn.isWriting_eq_false_of_take turned ends closing
      exact hasSent.sent_eq_of_idle idle
    asks := ⟨reads, areReads, asked⟩
    staysClosing := stays
    closes := closes
  }

/--
What was delivered at a moment of a switchboard whose service was called `calls`:
the connections that are live and those that are gone were sent all bytes that are
counted as written, each live one was sent what was handed over to it since it came,
and its next turn, whatever comes of it, goes on from there.
-/
structure DeliversInOrder
    (protocol : ConnectionProtocol σ)
    (start : Switchboard σ)
    (departures : List Departure)
    (middle : Switchboard σ)
    (calls : List ProtocolCall) : Prop where
  recorded : Reached protocol.strict (start.recorded []) departures (middle.recorded calls)
  ran : protocol.run start.service calls = .ok middle.service
  inTurn : InTurn calls
  counts : CountsSent departures middle
  sent :
    ∀ (slot : Nat) (channel : Channel) (socket : Socket),
      middle.channels[slot]? = some channel →
      channel.socket? = some socket →
      ∃ buffers,
        protocol.HandsOver start.service slot (middle.service, calls) buffers ∧
          channel.HasSent buffers socket.sent ∧
          (channel.isWriting = false → socket.sent = buffers.flatten)
  turns :
    ∀ (slot : Nat) (connection : Channel) (clock : PassClock) (after : AfterTurn σ),
      middle.pool.isTaken slot = true →
      middle.channels[slot]? = some connection →
      (middle.turnOf connection).take protocol slot middle.settings.idleLimit clock = .ok after →
      ∃ more,
        ((middle.turnOf connection).recorded calls).take protocol.strict slot
            middle.settings.idleLimit clock =
          .ok (after.recorded (calls ++ more)) ∧
        DeliversInTurn protocol start.service slot calls more connection after

/-- Whatever a switchboard reaches, a service that stages steadily is delivered in order. -/
theorem exists_deliversInOrder
    {host left : Host}
    {settings : SwitchboardSettings}
    {arena rest : Arena}
    {now : Nat}
    {serviceOf : Arena → σ}
    {start middle : Switchboard σ}
    (listening : listen host settings arena now serviceOf = .ok (.ok (start, rest, left)))
    (steady : protocol.StagesSteadily start.service)
    (reached : Reached protocol start departures middle) :
    ∃ calls, DeliversInOrder protocol start departures middle calls := by
  have startsInOrder := inOrder_of_listen listening
  obtain ⟨calls, recorded⟩ := exists_recorded_of_reached startsInOrder reached
  have replays := replays_of_reached recorded
  have books := inOrder_of_reached startsInOrder recorded
  obtain ⟨delivers, counts⟩ :=
    delivers_of_reached startsInOrder steady (service_of_listen listening).2 recorded
  refine ⟨calls, recorded, replays.ran, replays.inTurn, counts, ?_, ?_⟩
  · intro slot channel socket found bound
    obtain ⟨buffers, delivered⟩ := delivers slot channel found (by rw [bound]; rfl)
    obtain ⟨same, boundToo, hasSent⟩ := delivered.sends
    cases bound.symm.trans boundToo
    exact ⟨buffers, delivered.handsOver, hasSent, hasSent.sent_eq_of_idle⟩
  · intro slot connection clock after taken found turned
    have connected : isConnected slot calls = true := (books.connected slot).trans taken
    have bound : connection.socket?.isSome = true :=
      (books.bound slot connection found).trans taken
    exact deliversInTurn_of_take steady replays delivers connected bound found turned

/--
Of a service that stages steadily, at every moment of a switchboard: the bytes
that are counted as written are those that the connections were sent; each
connection that is live was sent what was handed over to it since it came; and
its next turn, whatever comes of it, goes on from there.
-/
theorem outputs_delivered_in_order
    {host left : Host}
    {settings : SwitchboardSettings}
    {arena rest : Arena}
    {now : Nat}
    {serviceOf : Arena → σ}
    {start middle : Switchboard σ}
    (listening : listen host settings arena now serviceOf = .ok (.ok (start, rest, left)))
    (steady : protocol.StagesSteadily start.service)
    (reached : Reached protocol start departures middle) :
    (∀ input : PassInput,
        (∀ found ∈ input.incoming, found.IsFresh) →
        (∀ after,
          middle.pass protocol input = .ok after →
          Reached protocol start (departures ++ after.departures) after.switchboard) ∧
        (protocol.AnswersInTurn settings.capacity start.service →
          ∃ after, middle.pass protocol input = .ok after)) ∧
      CountsSent departures middle ∧
      ∃ calls,
        Reached protocol.strict (start.recorded []) departures (middle.recorded calls) ∧
          protocol.run start.service calls = .ok middle.service ∧
          InTurn calls ∧
          (∀ (slot : Nat) (channel : Channel) (socket : Socket),
            middle.channels[slot]? = some channel →
            channel.socket? = some socket →
            ∃ buffers,
              protocol.HandsOver start.service slot (middle.service, calls) buffers ∧
                channel.HasSent buffers socket.sent ∧
                (channel.isWriting = false → socket.sent = buffers.flatten)) ∧
          ∀ (slot : Nat) (connection : Channel) (clock : PassClock) (after : AfterTurn σ),
            middle.pool.isTaken slot = true →
            middle.channels[slot]? = some connection →
            (middle.turnOf connection).take protocol slot middle.settings.idleLimit clock =
              .ok after →
            ∃ more,
              ((middle.turnOf connection).recorded calls).take protocol.strict slot
                  middle.settings.idleLimit clock =
                .ok (after.recorded (calls ++ more)) ∧
              DeliversInTurn protocol start.service slot calls more connection after := by
  obtain ⟨calls, delivers⟩ := exists_deliversInOrder listening steady reached
  exact ⟨fun input fresh => ⟨fun after passed => reached.pass fresh passed,
      fun answers => pass_answers (inOrder_of_listen listening) answers reached fresh⟩,
    delivers.counts, calls, delivers.recorded, delivers.ran, delivers.inTurn, delivers.sent,
    delivers.turns⟩

end Switchboard

/-- A protocol that says one thing to whoever comes, and then closes. -/
def ConnectionProtocol.greeting (text : Bytes) : ConnectionProtocol Bool where
  accept := fun _ _ _ => .ok false
  drop := fun greeted _ => .ok greeted
  read := fun greeted _ message => .ok (message, greeted)
  produce := fun greeted _ => .ok (if greeted then 0 else text.length, true)
  staged := fun _ _ => .ok text
  status := fun greeted _ => .ok (if greeted then .closing else .isOpen)

theorem ConnectionProtocol.stagesSteadily_greeting (text : Bytes) (start : Bool) :
    (greeting text).StagesSteadily start := by
  intro calls before after slot length ran inTurn produced something
  refine ⟨text, ?_, fun more later onlyReads inTurnLater ranLater => rfl⟩
  cases before with
  | true =>
      cases produced
      exact absurd rfl something
  | false =>
      cases produced
      rfl

/--
A greeting of three bytes, of which the first pass can send two: the connection
is to be closed from then on, and is closed in its next turn, with all three sent.
-/
theorem Switchboard.greeting_delivered_before_close :
    let start : Switchboard Bool := ofOneSlot false
    let clock : PassClock := { accepting := 0, checking := 0, moving := 0 }
    let writable : List Readiness := [{ slot := 0, readable := false, writable := true }]
    let input : PassInput := {
      clock := clock
      incoming := [
        .connection { Socket.fresh with grants := [.interrupted, .room 2, .wouldBlock] } .loopback
          true
      ]
      report := .ready writable
    }
    let protocol := ConnectionProtocol.greeting [1, 2, 3]
    ∃ rest left first connection after calls more,
      listen .isolated start.settings Configuration.defaultArena 0 (fun _ => false) =
          .ok (.ok (start, rest, left)) ∧
        start.pass protocol input = .ok first ∧
        first.switchboard.counters.bytesWritten = 2 ∧
        ((first.switchboard.noteReadiness writable).turnOf connection).take protocol 0
            (first.switchboard.noteReadiness writable).settings.idleLimit clock =
          .ok after ∧
        connection.closing = true ∧
        after.ending? = some .closed ∧
        after.turn.channel.socket?.map Socket.sent = some [1, 2, 3] ∧
        DeliversInTurn protocol false 0 calls more connection after := by
  intro start clock writable input protocol
  let twoTurns : Checked ((Nat × Bool × Bool) × Option Ending × Option Bytes) := do
    let first ← start.pass protocol input
    let middle := first.switchboard.noteReadiness writable
    let connection ← Checked.lookUp middle.channels 0
    let after ← (middle.turnOf connection).take protocol 0 middle.settings.idleLimit clock
    return ((first.switchboard.counters.bytesWritten, middle.pool.isTaken 0, connection.closing),
      after.ending?, after.turn.channel.socket?.map Socket.sent)
  have ran : twoTurns = .ok ((2, true, true), some .closed, some [1, 2, 3]) := by
    simp only [twoTurns, protocol, input, writable, clock, start]
    cbv
  obtain ⟨first, passed, ran⟩ := Checked.bind_eq_ok.mp ran
  obtain ⟨connection, found, ran⟩ := Checked.bind_eq_ok.mp ran
  obtain ⟨after, turned, shown⟩ := Checked.bind_eq_ok.mp ran
  simp only [pure, Except.pure, Except.ok.injEq, Prod.mk.injEq] at shown
  obtain ⟨⟨written, taken, closing⟩, ends, sent⟩ := shown
  have fresh : ∀ found ∈ input.incoming, found.IsFresh := by
    simp [input, Incoming.IsFresh, Socket.fresh]
  obtain ⟨rest, left, listening⟩ := listen_ofOneSlot false
  have reached := (Reached.start.pass fresh passed).note writable
  obtain ⟨-, -, calls, -, -, -, -, turns⟩ :=
    outputs_delivered_in_order listening
      (ConnectionProtocol.stagesSteadily_greeting [1, 2, 3] false) reached
  obtain ⟨more, -, delivers⟩ :=
    turns 0 connection clock after taken (Checked.lookUp_eq_ok.mp found) turned
  exact ⟨rest, left, first, connection, after, calls, more, listening, passed, written, turned,
    closing, ends, sent, delivers⟩

end Gatehouse
