import Gatehouse.Proofs.Configuration.Reservation
import Gatehouse.Proofs.Transport.Answering
import Gatehouse.Proofs.Transport.Framing

namespace Gatehouse

/-!
# Bookkeeping of a switchboard

Whatever comes in, goes out, fails or stalls, in any number of passes: the
books of a switchboard are in order at every moment, its service is called in
turn, and a connection is turned away only if every slot is taken. Every pass
answers if the service does.
-/

theorem ConnectionProtocol.answersInTurn_wiping (slots start : Nat) :
    wiping.AnswersInTurn slots start where
  perform := by
    intro state calls call replays inside isNext
    cases call <;> exact ⟨_, rfl⟩
  staged := fun _ _ _ _ _ _ => ⟨_, rfl⟩
  status := fun _ _ _ _ _ _ => ⟨_, rfl⟩

namespace Switchboard

variable
  {protocol : ConnectionProtocol σ}
  {capacity : Nat}
  {departures : List Departure}
  {start : Switchboard σ}

/-- As many slots are taken as channels have a socket. -/
theorem InOrder.takenCount_eq
    {switchboard : Switchboard (σ × List ProtocolCall)}
    (inOrder : InOrder capacity departures switchboard) :
    switchboard.takenCount =
      switchboard.channels.countP fun channel => channel.socket?.isSome := by
  have size : switchboard.pool.taken.length = switchboard.channels.length :=
    inOrder.capacity_eq.trans inOrder.length_eq.symm
  have taken_eq :
      switchboard.pool.taken = switchboard.channels.map fun channel => channel.socket?.isSome := by
    refine List.ext_getElem (by rw [List.length_map, size]) fun slot inPool inTable => ?_
    have inside : slot < switchboard.channels.length := size ▸ inPool
    have bound := inOrder.bound slot _ (List.getElem?_eq_getElem inside)
    rw [List.getElem_map, bound, IndexPool.isTaken, List.getElem?_eq_getElem inPool,
      Option.getD_some]
  change switchboard.pool.takenCount = _
  rw [inOrder.pool.takenCount_eq, taken_eq, List.count, List.countP_map]
  exact List.countP_congr fun channel _ => by simp

/-- How many are turned away after one more that came. -/
theorem rejected_of_accept
    {before after : Switchboard σ}
    {now : Nat}
    {socket : Socket}
    {peer : SocketAddress}
    {watched : Bool}
    (sound : before.pool.IsSound)
    (accepted : before.accept protocol now [.connection socket peer watched] = .ok after) :
    (after.counters.rejected = before.counters.rejected + 1 ∧
        ∀ slot < before.capacity, before.pool.isTaken slot = true) ∨
      (after.counters.rejected = before.counters.rejected ∧
        ∃ slot < before.capacity, before.pool.isTaken slot = false) := by
  have free {slot : Nat} {pool : IndexPool} (acquired : before.pool.acquire? = some (slot, pool)) :
      ∃ slot < before.capacity, before.pool.isTaken slot = false := by
    have wasFree := (sound.acquired_of_acquire? acquired).wasFree
    exact ⟨slot, (List.getElem?_eq_some_iff.mp wasFree).1,
      IndexPool.isTaken_eq_false_of_getElem? wasFree⟩
  cases accept_singleton_eq_ok.mp accepted with
  | rejected full =>
      exact .inl ⟨rfl, fun slot inside => sound.isTaken_of_acquire?_eq_none full inside⟩
  | admitted acquired told => exact .inr ⟨rfl, free acquired⟩
  | givenUp acquired => exact .inr ⟨rfl, free acquired⟩

/--
At every moment of a switchboard, in any passes over anything that comes: the
service was called in turn and nothing else was asked of it out of turn; every
connection that was accepted is live or was counted under one ending; a slot has
a socket exactly while it is taken, and is vacant otherwise; and what ended was
dropped once each. Whoever comes next is turned away only if every slot is taken. And the
next pass answers if the service answers whatever it is asked in turn.
-/
theorem lifecycle_in_order
    {host left : Host}
    {settings : SwitchboardSettings}
    {arena rest : Arena}
    {now : Nat}
    {serviceOf : Arena → σ}
    {middle : Switchboard σ}
    (listening : listen host settings arena now serviceOf = .ok (.ok (start, rest, left)))
    (reached : Reached protocol start departures middle) :
    (∀ input : PassInput,
        (∀ found ∈ input.incoming, found.IsFresh) →
        (∀ after,
          middle.pass protocol input = .ok after →
          Reached protocol start (departures ++ after.departures) after.switchboard) ∧
        (protocol.AnswersInTurn settings.capacity start.service →
          ∃ after, middle.pass protocol input = .ok after)) ∧
      (∃ calls,
        Reached protocol.strict (start.recorded []) departures (middle.recorded calls) ∧
          protocol.run start.service calls = .ok middle.service ∧
          InTurn calls ∧
          InOrder settings.capacity departures (middle.recorded calls)) ∧
      middle.takenCount = middle.channels.countP (fun channel => channel.socket?.isSome) ∧
      middle.takenCount ≤ settings.capacity ∧
      ∀ (now : Nat) (socket : Socket) (peer : SocketAddress) (watched : Bool)
        (after : Switchboard σ),
        middle.accept protocol now [.connection socket peer watched] = .ok after →
        (after.counters.rejected = middle.counters.rejected + 1 ∧
            ∀ slot < settings.capacity, middle.pool.isTaken slot = true) ∨
          (after.counters.rejected = middle.counters.rejected ∧
            ∃ slot < settings.capacity, middle.pool.isTaken slot = false) := by
  have startsInOrder := inOrder_of_listen listening
  obtain ⟨calls, recorded⟩ := exists_recorded_of_reached startsInOrder reached
  have replays := replays_of_reached recorded
  have inOrder := inOrder_of_reached startsInOrder recorded
  have capacity_eq : middle.capacity = settings.capacity := inOrder.capacity_eq
  refine ⟨fun input fresh => ⟨fun after passed => reached.pass fresh passed,
      fun answers => pass_answers startsInOrder answers reached fresh⟩,
    ⟨calls, recorded, replays.ran, replays.inTurn, inOrder⟩, inOrder.takenCount_eq, ?_, ?_⟩
  · have counted := inOrder.pool.takenCount_add_spareCount
    rw [← capacity_eq]
    exact Nat.le.intro counted
  · intro now socket peer watched after accepted
    rw [← capacity_eq]
    exact rejected_of_accept inOrder.pool accepted

/-- A switchboard for one connection, with nobody on it. -/
def ofOneSlot (service : σ) : Switchboard σ where
  settings := {
    service := .login
    bind := .loopback
    capacity := 1
    readBufferSize := 4
    idleTimeoutMs := 1000
  }
  channels := [.ofBlock { address := 4096, bytes := Bytes.zeros 4 } 0]
  pool := { taken := [false], free := [0] }
  service := service
  counters := {}

theorem listen_ofOneSlot (service : σ) :
    ∃ rest left,
      listen .isolated (ofOneSlot service).settings Configuration.defaultArena 0
          (fun _ => service) =
        .ok (.ok (ofOneSlot service, rest, left)) :=
  ⟨_, _, rfl⟩

/-- Two come for the only slot: the second is turned away, and the first one's peer closes. -/
theorem only_slot_in_order :
    let start : Switchboard Nat := ofOneSlot 0
    let input : PassInput := {
      clock := { accepting := 0, checking := 0, moving := 0 }
      incoming := [
        .connection { Socket.fresh with arrivals := [.endOfStream] } .loopback true,
        .connection .fresh .loopback true
      ]
      report := .ready [{ slot := 0, readable := true, writable := true }]
    }
    ∃ rest left after calls,
      listen .isolated start.settings Configuration.defaultArena 0 (fun _ => 0) =
          .ok (.ok (start, rest, left)) ∧
        start.pass .wiping input = .ok after ∧
        after.departures.map Departure.slot = [0] ∧
        after.switchboard.counters.rejected = 1 ∧
        ConnectionProtocol.wiping.run 0 calls = .ok after.switchboard.service ∧
        InTurn calls ∧
        InOrder 1 after.departures (after.switchboard.recorded calls) ∧
        ∀ next : PassInput,
          (∀ found ∈ next.incoming, found.IsFresh) →
          ∃ last, after.switchboard.pass .wiping next = .ok last := by
  intro start input
  let seen : Checked (List Nat × Nat) := do
    let after ← start.pass .wiping input
    return (after.departures.map Departure.slot, after.switchboard.counters.rejected)
  have ran : seen = .ok ([0], 1) := by
    decide +kernel
  obtain ⟨after, passed, shown⟩ := Checked.bind_eq_ok.mp ran
  obtain ⟨departed, rejected⟩ := Prod.mk.inj (Except.ok.inj shown)
  have fresh : ∀ found ∈ input.incoming, found.IsFresh := by
    simp [input, Incoming.IsFresh, Socket.fresh]
  obtain ⟨rest, left, listening⟩ := listen_ofOneSlot 0
  obtain ⟨passes, ⟨calls, -, ran, inTurn, inOrder⟩, -⟩ :=
    lifecycle_in_order listening (Reached.start.pass fresh passed)
  exact ⟨rest, left, after, calls, listening, passed, departed, rejected, ran, inTurn, inOrder,
    fun next freshNext =>
      (passes next freshNext).2 (ConnectionProtocol.answersInTurn_wiping 1 0)⟩

end Switchboard

end Gatehouse
