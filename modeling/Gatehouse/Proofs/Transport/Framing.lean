import Gatehouse.Proofs.Session.Calls
import Gatehouse.Proofs.Transport.Visits

namespace Gatehouse

/-!
# Messages do not depend on how a stream comes in

From the moment a channel is bound to a connection, what all passes hand over is
the greedy cut of the stream, and how the connection ends is decided by the stream
alone.
-/

/-- Nothing of a message is here when a channel is bound to a connection. -/
theorem Channel.waits_attach
    {socket : Socket}
    (free : Channel)
    (peer : SocketAddress)
    (now : Nat)
    (orderly : socket.IsOrderly) :
    (free.attach socket peer now).Waits free.buffer.length [] socket.arrivals where
  closing := rfl
  length_buffer := rfl
  holds := ⟨Nat.zero_lt_two, rfl⟩
  bound := ⟨socket, rfl, rfl⟩
  orderly := orderly

/-- What is spelled by the part of a stream that visits take is all that the stream spells, once
the connection ended or nothing waits. -/
theorem Parsed.bodies_of_settled
    {limit : Nat}
    {waiting : List Arrival}
    {visits : List (Visit σ)}
    (settled :
      (Parsed.ofStream limit (Intake.ofVisits waiting visits).taken).ending?
            (Intake.ofVisits waiting visits).ended ≠
          none ∨
        (Intake.ofVisits waiting visits).waiting = []) :
    (ofStream limit (Intake.ofVisits waiting visits).taken).bodies =
      (ofStream limit (Arrival.stream (waiting ++ visits.flatMap Visit.arrivals))).bodies := by
  rw [← Intake.taken_append_stream_of_visits]
  cases remains : (ofStream limit (Intake.ofVisits waiting visits).taken).remainder with
  | badLength length rest =>
      rw [ofStream_append, extend_of_badLength remains]
  | incomplete front =>
      have nothing : Arrival.stream (Intake.ofVisits waiting visits).waiting = [] := by
        rcases settled with ended | empty
        · apply Intake.stream_waiting_of_visits_ended
          by_contra goesOn
          simp [ending?, remains, goesOn] at ended
        · rw [empty]
          rfl
      rw [nothing, List.append_nil]

/--
However a stream comes in, and whatever happens between the passes, what is
handed over are the messages that the stream spells, all of them once the
connection ended or nothing waits. A length that no message has aborts the
connection, the end of the stream closes it, and no read leaves its place.
-/
theorem Turn.passes_cut_stream
    {protocol : ConnectionProtocol σ}
    {allowed : Fault → Prop}
    {holds : σ → Prop}
    {index : Nat}
    {visits : List (Visit (σ × List Bytes))}
    {socket : Socket}
    {service : σ}
    (handles :
      ∀ state message,
        holds state →
        (protocol.read state index message).Meets allowed fun answer => holds answer.2)
    (undisturbed :
      ∀ visit ∈ visits, ∀ turn,
        holds turn.service.1 →
        (visit.meanwhile turn).Meets allowed fun next =>
          turn.ReadsAlike next ∧ holds next.service.1)
    (before : holds service)
    (orderly :
      ∀ arrival ∈ socket.arrivals ++ visits.flatMap Visit.arrivals, arrival.IsOrderly)
    (free : Channel)
    (peer : SocketAddress)
    (now : Nat)
    (counters : Counters) :
    let start : Turn (σ × List Bytes) := {
      channel := free.attach socket peer now
      service := (service, [])
      counters := counters
    }
    let stream := Arrival.stream (socket.arrivals ++ visits.flatMap Visit.arrivals)
    let intake := Intake.ofVisits socket.arrivals visits
    let parsed := Parsed.ofStream free.buffer.length intake.taken
    start.readAll (Turn.read? (protocol.recording index) index) visits =
        start.readAll (Turn.read (protocol.recording index) index) visits ∧
      intake.taken ++ Arrival.stream intake.waiting = stream ∧
      (start.readAll (Turn.read (protocol.recording index) index) visits).Meets allowed
        fun visited =>
          visited.after.turn.service.2 = parsed.bodies ∧
            visited.messages = parsed.bodies.length ∧
            visited.bytes + parsed.remainder.unread.length = intake.taken.length ∧
            visited.after.ending? = parsed.ending? intake.ended ∧
            (visited.after.ending? ≠ none ∨ intake.waiting = [] →
              parsed.bodies = (Parsed.ofStream free.buffer.length stream).bodies) := by
  intro start stream intake parsed
  have socketOrderly : socket.IsOrderly :=
    fun arrival member => orderly arrival (List.mem_append_left _ member)
  have visitsOrderly : ∀ visit ∈ visits, ∀ arrival ∈ visit.arrivals, arrival.IsOrderly :=
    fun visit member arrival arrives =>
      orderly arrival (List.mem_append_right _ (List.mem_flatMap_of_mem member arrives))
  have waits : start.channel.Waits free.buffer.length [] socket.arrivals :=
    free.waits_attach peer now socketOrderly
  obtain ⟨same, reads⟩ := readAll_meets handles undisturbed before visitsOrderly waits
  refine ⟨same, Intake.taken_append_stream_of_visits socket.arrivals visits, ?_⟩
  rw [← same]
  refine reads.weaken ?_
  intro visited read
  refine ⟨read.heard, read.messages, read.bytes, read.ending, ?_⟩
  intro settled
  rw [read.ending] at settled
  exact Parsed.bodies_of_settled settled

/-- A protocol that wipes each message and counts them. -/
def ConnectionProtocol.wiping : ConnectionProtocol Nat where
  accept := fun count _ _ => .ok count
  drop := fun count _ => .ok count
  read := fun count _ message => .ok (Bytes.zeros message.length, count + 1)
  produce := fun count _ => .ok (0, count)
  staged := fun _ _ => .ok []
  status := fun _ _ => .ok .isOpen

/-- Two messages that come in six pieces and three passes, and a length that no message has. -/
theorem Turn.wiped_messages_cut_from_pieces :
    let protocol := ConnectionProtocol.wiping.recording 0
    let clock : PassClock := { accepting := 0, checking := 0, moving := 0 }
    let visits : List (Visit (Nat × List Bytes)) :=
      [[.bytes [1]],
        [.interrupted, .bytes [0, 7, 2], .wouldBlock, .bytes [0, 8]],
        [.bytes [9, 5], .bytes [0, 6]]].map fun arrivals =>
          { meanwhile := Turn.finish protocol 0 1 clock, arrivals := arrivals, now := 0 }
    let start : Turn (Nat × List Bytes) := {
      channel :=
        (Channel.ofBlock { address := 0, bytes := Bytes.zeros 4 } 0).attach .fresh .loopback 0
      service := (0, [])
      counters := {}
    }
    ∃ visited,
      start.readAll (Turn.read protocol 0) visits = .ok visited ∧
        visited.after.turn.service.2 = [[7], [8, 9]] ∧
        visited.messages = 2 ∧
        visited.bytes = 9 ∧
        visited.after.ending? = some .aborted := by
  intro protocol clock visits start
  have handles :
      ∀ state message,
        True →
        (ConnectionProtocol.wiping.read state 0 message).Meets (fun _ => False) fun _ => True :=
    fun _ _ _ => trivial
  have opens : ConnectionProtocol.wiping.StaysOpen (fun _ => False) (fun _ => True) 0 := {
    produce := fun _ _ => trivial
    staged := fun _ _ => trivial
    status := fun _ _ => rfl
  }
  have undisturbed :
      ∀ visit ∈ visits, ∀ turn,
        True →
        (visit.meanwhile turn).Meets (fun _ => False) fun next => turn.ReadsAlike next ∧ True := by
    intro visit member turn _
    obtain ⟨arrivals, -, rfl⟩ := List.mem_map.mp member
    exact Turn.finish_readsAlike opens trivial 1 clock
  have orderly :
      ∀ arrival ∈ Socket.fresh.arrivals ++ visits.flatMap Visit.arrivals, arrival.IsOrderly := by
    simp [visits, Socket.fresh, Arrival.IsOrderly]
  obtain ⟨-, -, reads⟩ :=
    @Turn.passes_cut_stream _ _ (fun _ => False) (fun _ => True) 0 visits .fresh 0 handles
      undisturbed trivial orderly (Channel.ofBlock { address := 0, bytes := Bytes.zeros 4 } 0)
      .loopback 0 {}
  have taken :
      (Intake.ofVisits Socket.fresh.arrivals visits).taken = [1, 0, 7, 2, 0, 8, 9, 5, 0, 6] := rfl
  have spelled :
      Parsed.ofStream 4 [1, 0, 7, 2, 0, 8, 9, 5, 0, 6] =
        { bodies := [[7], [8, 9]], remainder := .badLength 5 [6] } := by
    simp [Parsed.ofStream, Parsed.after]
  obtain ⟨visited, ran, heard, messages, bytes, ending, -⟩ := reads.exists_eq_ok
  rw [taken] at heard messages bytes ending
  have limit_eq :
      (Channel.ofBlock { address := 0, bytes := Bytes.zeros 4 } 0).buffer.length = 4 := rfl
  rw [limit_eq, spelled] at heard messages bytes ending
  exact ⟨visited, ran, heard, messages, Nat.add_right_cancel bytes, ending⟩

end Gatehouse
