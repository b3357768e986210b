import Gatehouse.Proofs.Storage.Carving
import Gatehouse.Proofs.Storage.IndexPool
import Gatehouse.Proofs.Transport.Record
import Gatehouse.Proofs.Transport.Steps
import Gatehouse.Proofs.Transport.Switchboard

namespace Gatehouse

/-!
# The life of a connection

The pool, the channels, the counters and the calls of the service agree at every
moment: a slot is taken exactly while its channel has a socket and the service
was told of a connection that it was not told the end of. Every connection that
ends is counted once, dropped once, and leaves its channel vacant.
-/

/-- A channel in which a connection left nothing. -/
structure Channel.IsVacant (channel : Channel) : Prop where
  socket?_eq : channel.socket? = none
  peer?_eq : channel.peer? = none
  progress_eq : channel.progress = .start
  lengthField_eq : channel.lengthField = .zero
  zero : ∀ byte ∈ channel.buffer.bytes, byte = 0
  writePosition_eq : channel.writePosition = 0
  writeLength_eq : channel.writeLength = 0
  closing_eq : channel.closing = false

theorem Channel.isVacant_ofBlock
    {buffer : Block}
    (zero : ∀ byte ∈ buffer.bytes, byte = 0)
    (now : Nat) :
    (Channel.ofBlock buffer now).IsVacant where
  socket?_eq := rfl
  peer?_eq := rfl
  progress_eq := rfl
  lengthField_eq := rfl
  zero := zero
  writePosition_eq := rfl
  writeLength_eq := rfl
  closing_eq := rfl

theorem Channel.isVacant_detach (channel : Channel) : channel.detach.IsVacant :=
  isVacant_ofBlock (fun _ wiped => (List.mem_replicate.mp wiped).2) _

theorem Channel.IsVacant.noteReadiness
    {channel : Channel}
    (vacant : channel.IsVacant)
    (readable writable : Bool) :
    (channel.noteReadiness readable writable).IsVacant where
  socket?_eq := vacant.socket?_eq
  peer?_eq := vacant.peer?_eq
  progress_eq := vacant.progress_eq
  lengthField_eq := vacant.lengthField_eq
  zero := vacant.zero
  writePosition_eq := vacant.writePosition_eq
  writeLength_eq := vacant.writeLength_eq
  closing_eq := vacant.closing_eq

/-- No connection came or went between two readings of the counters. -/
structure Counters.SameConnections (before after : Counters) : Prop where
  accepted : after.accepted = before.accepted
  rejected : after.rejected = before.rejected
  closed : after.closed = before.closed
  aborted : after.aborted = before.aborted
  timedOut : after.timedOut = before.timedOut

namespace Turn

/-- A step asks nothing that changes a strict service, or makes one call of traffic. -/
theorem service_of_step
    {protocol : ConnectionProtocol σ}
    {index : Nat}
    {before after : Turn (σ × List ProtocolCall)}
    (step : Step protocol.strict index before after) :
    after.service = before.service ∨
      ∃ call answer,
        call.slot = index ∧
          call.isTraffic = true ∧
          isConnected index before.service.2 = true ∧
          protocol.respond before.service.1 call = .ok (answer, after.service.1) ∧
          after.service.2 = before.service.2 ++ [call] := by
  have produces
      {length : Nat}
      {service : σ × List ProtocolCall}
      (produced : protocol.strict.produce before.service index = .ok (length, service)) :
      ∃ call answer,
        call.slot = index ∧
          call.isTraffic = true ∧
          isConnected index before.service.2 = true ∧
          protocol.respond before.service.1 call = .ok (answer, service.1) ∧
          service.2 = before.service.2 ++ [call] := by
    obtain ⟨connected, answered, recorded⟩ := ConnectionProtocol.produce_strict_eq_ok.mp produced
    exact ⟨.produce index, _, rfl, rfl, connected,
      Checked.bind_eq_ok.mpr ⟨_, answered, rfl⟩, recorded⟩
  cases step with
  | receive | transmit | latch => exact .inl rfl
  | produceNothing going idle produced => exact .inr (produces produced)
  | produce going idle produced something => exact .inr (produces produced)
  | @handle message left service length going handled =>
      obtain ⟨connected, answered, recorded⟩ := ConnectionProtocol.read_strict_eq_ok.mp handled
      exact .inr ⟨.read index message, _, rfl, rfl, connected,
        Checked.bind_eq_ok.mpr ⟨_, answered, rfl⟩, recorded⟩

/-- What a turn of a connection leaves for its slot to be judged by. -/
structure StaysConnected (index : Nat) (before after : Turn (σ × List ProtocolCall)) : Prop where
  bound : after.channel.socket?.isSome = before.channel.socket?.isSome
  counters : before.counters.SameConnections after.counters
  continues :
    ∃ more,
      after.service.2 = before.service.2 ++ more ∧
        ∀ call ∈ more, call.slot = index ∧ call.isTraffic = true

namespace StaysConnected

variable {index : Nat} {first second third : Turn (σ × List ProtocolCall)}

theorem refl (turn : Turn (σ × List ProtocolCall)) : StaysConnected index turn turn where
  bound := rfl
  counters := ⟨rfl, rfl, rfl, rfl, rfl⟩
  continues := ⟨[], by simp, by simp⟩

theorem trans
    (before : StaysConnected index first second)
    (after : StaysConnected index second third) :
    StaysConnected index first third where
  bound := after.bound.trans before.bound
  counters := {
    accepted := after.counters.accepted.trans before.counters.accepted
    rejected := after.counters.rejected.trans before.counters.rejected
    closed := after.counters.closed.trans before.counters.closed
    aborted := after.counters.aborted.trans before.counters.aborted
    timedOut := after.counters.timedOut.trans before.counters.timedOut
  }
  continues := by
    obtain ⟨earlier, recorded, traffic⟩ := before.continues
    obtain ⟨later, recordedLater, trafficLater⟩ := after.continues
    refine ⟨earlier ++ later, by rw [recordedLater, recorded, List.append_assoc], ?_⟩
    intro call member
    rcases List.mem_append.mp member with isEarlier | isLater
    · exact traffic call isEarlier
    · exact trafficLater call isLater

end StaysConnected

theorem staysConnected_of_step
    {protocol : ConnectionProtocol σ}
    {index : Nat}
    {before after : Turn (σ × List ProtocolCall)}
    (step : Step protocol.strict index before after) :
    StaysConnected index before after where
  bound := by
    cases step with
    | receive now going => exact before.channel.isSome_socket?_receiveMessage now
    | transmit now writing shown => exact before.channel.isSome_socket?_transmit _ now
    | handle | produceNothing | produce | latch => rfl
  counters := by
    cases step <;> exact ⟨rfl, rfl, rfl, rfl, rfl⟩
  continues := by
    rcases service_of_step step with same | ⟨call, answer, here, isTraffic, -, -, recorded⟩
    · exact ⟨[], by rw [same, List.append_nil], by simp⟩
    · refine ⟨[call], recorded, fun other member => ?_⟩
      cases List.mem_singleton.mp member
      exact ⟨here, isTraffic⟩

/-- A turn neither binds a connection nor lets go of it. -/
theorem staysConnected_of_take
    {protocol : ConnectionProtocol σ}
    {index timeout : Nat}
    {clock : PassClock}
    {turn : Turn (σ × List ProtocolCall)}
    {after : AfterTurn (σ × List ProtocolCall)}
    (taken : turn.take protocol.strict index timeout clock = .ok after) :
    StaysConnected index turn after.turn :=
  holds_of_take (fun _ _ step before => before.trans (staysConnected_of_step step)) (.refl turn)
    taken

end Turn

namespace Switchboard

/-- The books of a switchboard, with the record of its calls and the connections that ended. -/
structure InOrder
    (capacity : Nat)
    (departures : List Departure)
    (switchboard : Switchboard (σ × List ProtocolCall)) : Prop where
  pool : switchboard.pool.IsSound
  capacity_eq : switchboard.capacity = capacity
  length_eq : switchboard.channels.length = capacity
  /-- A channel has a socket exactly while its slot is taken. -/
  bound :
    ∀ (slot : Nat) (channel : Channel),
      switchboard.channels[slot]? = some channel →
      channel.socket?.isSome = switchboard.pool.isTaken slot
  vacant :
    ∀ (slot : Nat) (channel : Channel),
      switchboard.channels[slot]? = some channel →
      switchboard.pool.isTaken slot = false →
      channel.IsVacant
  connected :
    ∀ slot, isConnected slot switchboard.service.2 = switchboard.pool.isTaken slot
  balance :
    switchboard.counters.accepted =
      switchboard.counters.closed + switchboard.counters.aborted + switchboard.counters.timedOut +
        switchboard.takenCount
  /-- The connections that the service was told the end of are those that ended, in order. -/
  dropped :
    switchboard.service.2.filterMap ProtocolCall.dropped? = departures.map Departure.slot

variable
  {capacity : Nat}
  {departures departed : List Departure}
  {before after : Switchboard (σ × List ProtocolCall)}

/-- As many channels are carved as are asked for, with read buffers of zeros. -/
theorem vacant_of_carveChannels
    {arena rest : Arena}
    {settings : SwitchboardSettings}
    {now : Nat}
    {channels : List Channel}
    (carved : carveChannels arena settings now = .ok (channels, rest)) :
    channels.length = settings.capacity ∧ ∀ channel ∈ channels, channel.IsVacant := by
  obtain ⟨_, _, answered⟩ := Checked.bind_eq_ok.mp carved
  obtain ⟨⟨blocks, left⟩, made, same⟩ := Checked.bind_eq_ok.mp answered
  cases same
  obtain ⟨count_eq, zero⟩ := Arena.blocks_of_carveMany_eq_ok made
  refine ⟨by rw [List.length_map, count_eq], fun channel member => ?_⟩
  obtain ⟨block, isThere, rfl⟩ := List.mem_map.mp member
  refine Channel.isVacant_ofBlock (fun byte inBlock => ?_) now
  rw [zero block isThere] at inBlock
  exact (List.mem_replicate.mp inBlock).2

/-- A new switchboard. -/
theorem inOrder_of_listen
    {host left : Host}
    {settings : SwitchboardSettings}
    {arena rest : Arena}
    {now : Nat}
    {serviceOf : Arena → σ}
    {start : Switchboard σ}
    (listening : listen host settings arena now serviceOf = .ok (.ok (start, rest, left))) :
    InOrder settings.capacity [] (start.recorded []) := by
  unfold listen at listening
  split at listening
  next error refused =>
    cases listening
  next listens granted =>
    obtain ⟨⟨channels, carved⟩, carving, rest⟩ := Checked.bind_eq_ok.mp listening
    obtain ⟨pool, pooled, answered⟩ := Checked.bind_eq_ok.mp rest
    obtain ⟨length_eq, vacant⟩ := vacant_of_carveChannels carving
    obtain ⟨sound, capacity_eq, nothingTaken, free⟩ := IndexPool.isSound_ofCapacity pooled
    cases answered
    exact {
      pool := sound
      capacity_eq := capacity_eq
      length_eq := length_eq
      bound := by
        intro slot channel found
        rw [(vacant channel (List.mem_of_getElem? found)).socket?_eq]
        exact (free slot).symm
      vacant := fun slot channel found _ => vacant channel (List.mem_of_getElem? found)
      connected := fun slot => (free slot).symm
      balance := by
        change 0 = 0 + 0 + 0 + pool.takenCount
        rw [nothingTaken]
      dropped := rfl
    }

namespace InOrder

/-- The channels may change as long as what they are judged by does not. -/
theorem of_channels
    {channels : List Channel}
    (inOrder : InOrder capacity departures before)
    (length_eq : channels.length = before.channels.length)
    (alike :
      ∀ (slot : Nat) (channel : Channel),
        channels[slot]? = some channel →
        ∃ former,
          before.channels[slot]? = some former ∧
            channel.socket?.isSome = former.socket?.isSome ∧
            (former.IsVacant → channel.IsVacant)) :
    InOrder capacity departures { before with channels := channels } where
  pool := inOrder.pool
  capacity_eq := inOrder.capacity_eq
  length_eq := length_eq.trans inOrder.length_eq
  bound := by
    intro slot channel found
    obtain ⟨former, wasThere, same, -⟩ := alike slot channel found
    exact same.trans (inOrder.bound slot former wasThere)
  vacant := by
    intro slot channel found free
    obtain ⟨former, wasThere, -, kept⟩ := alike slot channel found
    exact kept (inOrder.vacant slot former wasThere free)
  connected := inOrder.connected
  balance := inOrder.balance
  dropped := inOrder.dropped

theorem note
    (inOrder : InOrder capacity departures before)
    (events : List Readiness) :
    InOrder capacity departures (before.noteReadiness events) := by
  refine inOrder.of_channels (before.length_noteReadiness events) ?_
  intro slot channel found
  obtain ⟨former, readable, writable, wasThere, rfl⟩ := channel_of_noteReadiness found
  exact ⟨former, wasThere, rfl, fun vacant => vacant.noteReadiness readable writable⟩

theorem network
    (inOrder : InOrder capacity departures before)
    (network : Network) :
    InOrder capacity departures (before.onNetwork network) := by
  refine inOrder.of_channels (List.length_mapIdx) ?_
  intro slot channel found
  obtain ⟨former, wasThere, rfl⟩ := channel_of_onNetwork found
  refine ⟨former, wasThere, Option.isSome_map, fun vacant => ?_⟩
  exact {
    socket?_eq := by rw [vacant.socket?_eq]; rfl
    peer?_eq := vacant.peer?_eq
    progress_eq := vacant.progress_eq
    lengthField_eq := vacant.lengthField_eq
    zero := vacant.zero
    writePosition_eq := vacant.writePosition_eq
    writeLength_eq := vacant.writeLength_eq
    closing_eq := vacant.closing_eq
  }

theorem reject (inOrder : InOrder capacity departures before) :
    InOrder capacity departures before.reject where
  pool := inOrder.pool
  capacity_eq := inOrder.capacity_eq
  length_eq := inOrder.length_eq
  bound := inOrder.bound
  vacant := inOrder.vacant
  connected := inOrder.connected
  balance := inOrder.balance
  dropped := inOrder.dropped

/-- Who is given up gets a slot that goes back right away. -/
theorem giveUp
    {slot : Nat}
    {pool : IndexPool}
    (inOrder : InOrder capacity departures before)
    (acquired : before.pool.acquire? = some (slot, pool)) :
    InOrder capacity departures { before with pool := (pool.release slot).2 } := by
  rw [inOrder.pool.release_of_acquire? acquired]
  exact inOrder

/-- Who is admitted gets a slot that was free. -/
theorem accept
    {slot : Nat}
    {pool : IndexPool}
    {service : σ × List ProtocolCall}
    {peer : SocketAddress}
    (inOrder : InOrder capacity departures before)
    (acquired : before.pool.acquire? = some (slot, pool))
    (recorded : service.2 = before.service.2 ++ [.accept slot peer])
    (socket : Socket)
    (now : Nat) :
    InOrder capacity departures
      (before.afterAccepting pool slot socket peer now service) := by
  have taking := inOrder.pool.acquired_of_acquire? acquired
  exact {
    pool := taking.sound
    capacity_eq := taking.capacity_eq.trans inOrder.capacity_eq
    length_eq := (List.length_modify _ _ _).trans inOrder.length_eq
    bound := by
      intro other channel found
      simp only [afterAccepting, taking.isTaken_eq]
      rcases channel_of_afterAccepting found with ⟨former, rfl, -, rfl⟩ | ⟨elsewhere, wasThere⟩
      · simp [Channel.attach]
      · simp [Ne.symm elsewhere, inOrder.bound other channel wasThere]
    vacant := by
      intro other channel found free
      simp only [afterAccepting, taking.isTaken_eq, Bool.or_eq_false_iff, decide_eq_false_iff_not]
        at free
      rcases channel_of_afterAccepting found with ⟨former, here, -, -⟩ | ⟨-, wasThere⟩
      · exact absurd here.symm free.1
      · exact inOrder.vacant other channel wasThere free.2
    connected := by
      intro other
      simp only [afterAccepting, recorded, isConnected_append_singleton, inOrder.connected,
        taking.isTaken_eq, ProtocolCall.connects]
      by_cases here : slot = other
      · simp [here]
      · simp [here, Ne.symm here]
    balance := by
      have balance := inOrder.balance
      have oneMore := taking.takenCount_eq
      simp only [afterAccepting, takenCount] at balance ⊢
      omega
    dropped := by
      simp [afterAccepting, recorded, inOrder.dropped, ProtocolCall.dropped?]
  }

/-- A turn without an end changes nothing that the books show. -/
theorem turn
    {slot : Nat}
    {connection : Channel}
    {turn : Turn (σ × List ProtocolCall)}
    (inOrder : InOrder capacity departures before)
    (taken : before.pool.isTaken slot = true)
    (found : before.channels[slot]? = some connection)
    (stays : Turn.StaysConnected slot (before.turnOf connection) turn) :
    InOrder capacity departures (before.afterTurn slot turn) where
  pool := inOrder.pool
  capacity_eq := inOrder.capacity_eq
  length_eq := List.length_set.trans inOrder.length_eq
  bound := by
    intro other channel isThere
    rcases channel_of_afterTurn isThere with ⟨rfl, rfl⟩ | ⟨-, wasThere⟩
    · exact stays.bound.trans (inOrder.bound slot connection found)
    · exact inOrder.bound other channel wasThere
  vacant := by
    intro other channel isThere free
    rcases channel_of_afterTurn isThere with ⟨rfl, -⟩ | ⟨-, wasThere⟩
    · exact absurd taken (by simpa [afterTurn] using free)
    · exact inOrder.vacant other channel wasThere free
  connected := by
    intro other
    obtain ⟨more, recorded, traffic⟩ := stays.continues
    simp only [afterTurn, recorded]
    rw [isConnected_append_of_traffic _ _ fun call member => (traffic call member).2]
    exact inOrder.connected other
  balance := by
    have balance := inOrder.balance
    have same := stays.counters
    simp only [afterTurn, takenCount, same.accepted, same.closed, same.aborted, same.timedOut]
    exact balance
  dropped := by
    obtain ⟨more, recorded, traffic⟩ := stays.continues
    have none : more.filterMap ProtocolCall.dropped? = [] := by
      refine List.filterMap_eq_nil_iff.mpr fun call member => ?_
      have isTraffic := (traffic call member).2
      cases call <;> first | rfl | cases isTraffic
    simp only [afterTurn, recorded]
    rw [List.filterMap_append, none, List.append_nil]
    exact inOrder.dropped

/-- Every way in which a connection ends counts it, drops it and leaves its channel vacant. -/
theorem tearDown
    {slot : Nat}
    {service : σ × List ProtocolCall}
    (inOrder : InOrder capacity departures before)
    (taken : before.pool.isTaken slot = true)
    (recorded : service.2 = before.service.2 ++ [.drop slot])
    (ending : Ending)
    {departure : Departure}
    (here : departure.slot = slot) :
    InOrder capacity (departures ++ [departure])
      (before.afterEnding slot ending service) := by
  have freeing := inOrder.pool.released_of_isTaken taken
  exact {
    pool := freeing.sound
    capacity_eq := freeing.capacity_eq.trans inOrder.capacity_eq
    length_eq := (List.length_modify _ _ _).trans inOrder.length_eq
    bound := by
      intro other channel found
      simp only [afterEnding, freeing.isTaken_eq]
      rcases channel_of_afterEnding found with ⟨former, rfl, -, rfl⟩ | ⟨elsewhere, wasThere⟩
      · simp [former.isVacant_detach.socket?_eq]
      · simp [Ne.symm elsewhere, inOrder.bound other channel wasThere]
    vacant := by
      intro other channel found free
      simp only [afterEnding, freeing.isTaken_eq] at free
      rcases channel_of_afterEnding found with ⟨former, -, -, rfl⟩ | ⟨elsewhere, wasThere⟩
      · exact former.isVacant_detach
      · simp only [Ne.symm elsewhere, decide_false, Bool.not_false, Bool.true_and] at free
        exact inOrder.vacant other channel wasThere free
    connected := by
      intro other
      simp only [afterEnding, recorded, isConnected_append_singleton, inOrder.connected,
        freeing.isTaken_eq, ProtocolCall.connects]
      by_cases here : slot = other
      · simp [here]
      · simp [here, Ne.symm here]
    balance := by
      have balance := inOrder.balance
      have oneLess := freeing.takenCount_eq
      cases ending <;>
        simp only [afterEnding, takenCount, Counters.countEnding] at balance ⊢ <;>
        omega
    dropped := by
      simp [afterEnding, recorded, inOrder.dropped, ProtocolCall.dropped?, here]
  }

end InOrder

/-- The books are in order at every moment. -/
theorem inOrder_of_reached
    {protocol : ConnectionProtocol σ}
    {start middle : Switchboard (σ × List ProtocolCall)}
    (inOrder : InOrder capacity [] start)
    (reached : Reached protocol.strict start departures middle) :
    InOrder capacity departures middle := by
  induction reached with
  | start => exact inOrder
  | network _ network before => exact before.network network
  | note _ events before => exact before.note events
  | accept _ _ accepted before =>
      cases accept_singleton_eq_ok.mp accepted with
      | failed | interrupted => exact before
      | rejected full => exact before.reject
      | givenUp acquired => exact before.giveUp acquired
      | admitted acquired told =>
          obtain ⟨-, -, recorded⟩ := ConnectionProtocol.accept_strict_eq_ok.mp told
          exact before.accept acquired recorded _ _
  | serve _ served before =>
      cases serveAll_singleton_eq_ok.mp served with
      | skipped free =>
          rw [List.append_nil]
          exact before
      | stayed taken found turned goesOn =>
          rw [List.append_nil]
          exact before.turn taken found (Turn.staysConnected_of_take turned)
      | ended taken found turned ends dropped =>
          obtain ⟨-, -, recorded⟩ := ConnectionProtocol.drop_strict_eq_ok.mp dropped
          exact (before.turn taken found (Turn.staysConnected_of_take turned)).tearDown taken
            recorded _ rfl

end Switchboard

namespace ConnectionProtocol

/-- What a strict service records always leads to its state. -/
theorem keeps_replays (protocol : ConnectionProtocol σ) (start : σ) :
    protocol.strict.Keeps (fun _ => True) (protocol.Replays start) :=
  keeps_of_perform trivial
    (fun _ _ replays => .of_forall fun _ performed => replays.perform performed)
    (fun _ _ => .of_forall fun _ _ => trivial)
    (fun _ _ => .of_forall fun _ _ => trivial)

end ConnectionProtocol

namespace Switchboard

variable
  {protocol : ConnectionProtocol σ}
  {capacity : Nat}
  {departures : List Departure}
  {start : Switchboard σ}

theorem replays_of_reached
    {middle : Switchboard (σ × List ProtocolCall)}
    (reached : Reached protocol.strict (start.recorded []) departures middle) :
    protocol.Replays start.service middle.service := by
  have keeps := protocol.keeps_replays start.service
  induction reached with
  | start => exact protocol.replays_nil start.service
  | network _ _ before => exact before
  | note _ _ before => exact before
  | accept _ _ accepted before => exact (accept_meets keeps before _ _).of_eq_ok accepted
  | serve _ served before => exact (serveAll_meets keeps before _ _).of_eq_ok served

/-- What is reached with a service is reached with the strict one, which refuses nothing. -/
theorem exists_recorded_of_reached
    {middle : Switchboard σ}
    (inOrder : InOrder capacity [] (start.recorded []))
    (reached : Reached protocol start departures middle) :
    ∃ calls, Reached protocol.strict (start.recorded []) departures (middle.recorded calls) := by
  induction reached with
  | start =>
      exact ⟨[], .start⟩
  | network _ network inductionHypothesis =>
      obtain ⟨calls, recorded⟩ := inductionHypothesis
      exact ⟨calls, .network recorded network⟩
  | note _ events inductionHypothesis =>
      obtain ⟨calls, recorded⟩ := inductionHypothesis
      exact ⟨calls, .note recorded events⟩
  | @accept departures before after now incoming _ fresh accepted inductionHypothesis =>
      obtain ⟨calls, recorded⟩ := inductionHypothesis
      have books := inOrder_of_reached inOrder recorded
      have free :
          ∀ slot pool,
            before.pool.acquire? = some (slot, pool) → isConnected slot calls = false := by
        intro slot pool acquired
        have wasFree := (books.pool.acquired_of_acquire? acquired).wasFree
        exact (books.connected slot).trans (IndexPool.isTaken_eq_false_of_getElem? wasFree)
      obtain ⟨later, acceptedToo⟩ := accept_recorded free accepted
      exact ⟨later, .accept recorded fresh acceptedToo⟩
  | @serve departures departed before after clock slot _ served inductionHypothesis =>
      obtain ⟨calls, recorded⟩ := inductionHypothesis
      have books := inOrder_of_reached inOrder recorded
      have connected (taken : before.pool.isTaken slot = true) : isConnected slot calls = true :=
        (books.connected slot).trans taken
      obtain ⟨later, servedToo⟩ := serve_recorded connected served
      exact ⟨later, .serve recorded servedToo⟩

end Switchboard

end Gatehouse
