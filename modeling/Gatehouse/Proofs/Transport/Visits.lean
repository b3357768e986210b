import Gatehouse.Proofs.Transport.Writing

namespace Gatehouse

/-!
# Visits

A connection is read in any number of passes, with anything between them that
leaves the reading side of the channel alone: writing, checking for the end, other
connections. All passes together take what each of them takes, and hand over what
the bytes they took spell.
-/

/-- A pass that finds the socket of a connection readable. -/
structure Visit (σ : Type) where
  /-- What happened since the visit before. -/
  meanwhile : Turn σ → Checked (Turn σ)
  /-- What came in since then. -/
  arrivals : List Arrival
  now : Nat

/-- What visits did, and how far their reading moved the counters. -/
structure Visited (σ : Type) where
  after : AfterTurn σ
  messages : Nat
  bytes : Nat

namespace Intake

/-- What visits take if something waits already. -/
def ofVisits (waiting : List Arrival) : List (Visit σ) → Intake
  | [] => none waiting
  | visit :: rest =>
      let first := ofArrivals (waiting ++ visit.arrivals)
      if first.ended then first else (ofVisits first.waiting rest).after first.taken

theorem ofVisits_of_ended
    {waiting : List Arrival}
    {visit : Visit σ}
    (ended : (ofArrivals (waiting ++ visit.arrivals)).ended = true)
    (rest : List (Visit σ)) :
    ofVisits waiting (visit :: rest) = ofArrivals (waiting ++ visit.arrivals) := by
  rw [ofVisits, ended, if_pos rfl]

theorem ofVisits_of_not_ended
    {waiting : List Arrival}
    {visit : Visit σ}
    (goesOn : (ofArrivals (waiting ++ visit.arrivals)).ended = false)
    (rest : List (Visit σ)) :
    ofVisits waiting (visit :: rest) =
      (ofVisits (ofArrivals (waiting ++ visit.arrivals)).waiting rest).after
        (ofArrivals (waiting ++ visit.arrivals)).taken := by
  rw [ofVisits, goesOn, if_neg Bool.false_ne_true]

theorem taken_append_stream_of_visits (waiting : List Arrival) (visits : List (Visit σ)) :
    (ofVisits waiting visits).taken ++ Arrival.stream (ofVisits waiting visits).waiting =
      Arrival.stream (waiting ++ visits.flatMap Visit.arrivals) := by
  induction visits generalizing waiting with
  | nil =>
      simp [ofVisits, none]
  | cons visit rest inductionHypothesis =>
      have first :=
        taken_append_stream_waiting (waiting ++ visit.arrivals) (rest.flatMap Visit.arrivals)
      rw [List.flatMap_cons, ← List.append_assoc, ← first]
      cases isLast : (ofArrivals (waiting ++ visit.arrivals)).ended with
      | true =>
          have nothing := stream_waiting_of_ended isLast []
          rw [List.append_nil] at nothing
          rw [ofVisits_of_ended isLast, nothing, stream_waiting_of_ended isLast]
      | false =>
          rw [ofVisits_of_not_ended isLast]
          simp only [after, List.append_assoc, inductionHypothesis]

/-- After the end was found, no more bytes wait. -/
theorem stream_waiting_of_visits_ended
    {waiting : List Arrival}
    {visits : List (Visit σ)}
    (found : (ofVisits waiting visits).ended = true) :
    Arrival.stream (ofVisits waiting visits).waiting = [] := by
  induction visits generalizing waiting with
  | nil =>
      simp [ofVisits, none] at found
  | cons visit rest inductionHypothesis =>
      cases isLast : (ofArrivals (waiting ++ visit.arrivals)).ended with
      | true =>
          rw [ofVisits_of_ended isLast]
          simpa using stream_waiting_of_ended isLast []
      | false =>
          rw [ofVisits_of_not_ended isLast] at found ⊢
          exact inductionHypothesis found

end Intake

namespace Turn

/-- The turn once something came in, of which the pass is told. -/
def meet (turn : Turn σ) (arrivals : List Arrival) : Turn σ :=
  let socket? := turn.channel.socket?.map fun socket => socket.deliver arrivals
  { turn with channel := { turn.channel with socket? := socket? }.noteReadiness true false }

/-- Read in every visit, until the connection ends. -/
def readAll
    (read : Nat → Turn σ → Checked (AfterTurn σ))
    (turn : Turn σ) :
    List (Visit σ) → Checked (Visited σ)
  | [] => .ok { after := { ending? := none, turn := turn }, messages := 0, bytes := 0 }
  | visit :: rest => do
      let found := (← visit.meanwhile turn).meet visit.arrivals
      let after ← read visit.now found
      let messages := after.turn.counters.messagesRead - found.counters.messagesRead
      let bytes := after.turn.counters.bytesRead - found.counters.bytesRead
      if after.ending?.isSome then
        return { after := after, messages := messages, bytes := bytes }
      else do
        let later ← after.turn.readAll read rest
        return { later with messages := messages + later.messages, bytes := bytes + later.bytes }

section Visits

variable
  {protocol : ConnectionProtocol σ}
  {allowed : Fault → Prop}
  {holds : σ → Prop}
  {index limit : Nat}
  {turn later : Turn (σ × List Bytes)}
  {held : Bytes}
  {waiting arrivals : List Arrival}

theorem waits_meet
    (waits : turn.channel.Waits limit held waiting)
    (alike : turn.ReadsAlike later)
    (orderly : ∀ arrival ∈ arrivals, arrival.IsOrderly) :
    (later.meet arrivals).channel.Waits limit held (waiting ++ arrivals) where
  closing := alike.channel.closing.trans waits.closing
  length_buffer := by
    rw [← waits.length_buffer, ← alike.channel.buffer]
    rfl
  holds := by
    have holds := waits.holds
    unfold Channel.Holds at holds ⊢
    rwa [← alike.channel.progress, ← alike.channel.lengthField, ← alike.channel.buffer] at holds
  bound := by
    obtain ⟨socket, bound, rfl⟩ := waits.bound
    have same := alike.channel.arrivals
    rw [bound, Option.map_some, Option.map_eq_some_iff] at same
    obtain ⟨next, nextBound, same⟩ := same
    refine ⟨next.deliver arrivals, ?_, ?_⟩
    · simp [meet, Channel.noteReadiness, nextBound]
    · simp [Socket.deliver, same]
  orderly := by
    intro arrival member
    rcases List.mem_append.mp member with earlier | recent
    · exact waits.orderly arrival earlier
    · exact orderly arrival recent

/-- What visits leave that handed over the messages of `parsed` and could take `intake`. -/
structure HasReadAll
    (before : Turn (σ × List Bytes))
    (parsed : Parsed)
    (intake : Intake)
    (visited : Visited (σ × List Bytes)) :
    Prop where
  heard : visited.after.turn.service.2 = before.service.2 ++ parsed.bodies
  messages : visited.messages = parsed.bodies.length
  bytes : visited.bytes + parsed.remainder.unread.length = intake.taken.length
  ending : visited.after.ending? = parsed.ending? intake.ended

variable
  {found : Turn (σ × List Bytes)}
  {parsed : Parsed}
  {first rest : Intake}
  {after : AfterTurn (σ × List Bytes)}

/-- A visit that is the last one because it finds the end. -/
theorem HasReadAll.of_last
    (read : found.HasRead limit parsed first after)
    (heard : found.service.2 = turn.service.2) :
    turn.HasReadAll parsed first
      { after := after
        messages := after.turn.counters.messagesRead - found.counters.messagesRead
        bytes := after.turn.counters.bytesRead - found.counters.bytesRead } := by
  obtain ⟨bytes, bytesRead, all⟩ := read.bytesRead
  exact {
    heard := by rw [read.heard, heard]
    messages := by simp [read.messagesRead]
    bytes := by simpa [bytesRead] using all
    ending := read.ending
  }

/-- A visit that is the last one because of a length that no message has. -/
theorem HasReadAll.of_bad
    (read : found.HasRead limit parsed first after)
    (heard : found.service.2 = turn.service.2)
    (ended : after.ending?.isSome)
    (goesOn : first.ended = false) :
    turn.HasReadAll (parsed.extend limit rest.taken) (rest.after first.taken)
      { after := after
        messages := after.turn.counters.messagesRead - found.counters.messagesRead
        bytes := after.turn.counters.bytesRead - found.counters.bytesRead } := by
  obtain ⟨bytes, bytesRead, all⟩ := read.bytesRead
  have ending := read.ending
  cases remains : parsed.remainder with
  | incomplete front => simp [ending, Parsed.ending?, remains, goesOn] at ended
  | badLength length unread =>
      rw [Parsed.extend_of_badLength remains]
      rw [remains, Remainder.unread] at all
      exact {
        heard := by rw [read.heard, heard]
        messages := by simp [read.messagesRead]
        bytes := by
          simp only [bytesRead, Intake.after, Remainder.unread, List.length_append]
          omega
        ending := by
          rw [ending]
          simp only [Parsed.ending?, remains]
      }

/-- A visit that ends the connection is the last one. -/
theorem HasReadAll.of_ending
    {visit : Visit (σ × List Bytes)}
    {visits : List (Visit (σ × List Bytes))}
    (read :
      found.HasRead limit
        (Parsed.ofStream limit (held ++ (Intake.ofArrivals (waiting ++ visit.arrivals)).taken))
        (Intake.ofArrivals (waiting ++ visit.arrivals)) after)
    (heard : found.service.2 = turn.service.2)
    (ended : after.ending?.isSome) :
    turn.HasReadAll
      (Parsed.ofStream limit (held ++ (Intake.ofVisits waiting (visit :: visits)).taken))
      (Intake.ofVisits waiting (visit :: visits))
      { after := after
        messages := after.turn.counters.messagesRead - found.counters.messagesRead
        bytes := after.turn.counters.bytesRead - found.counters.bytesRead } := by
  cases isLast : (Intake.ofArrivals (waiting ++ visit.arrivals)).ended with
  | true =>
      rw [Intake.ofVisits_of_ended isLast]
      exact .of_last read heard
  | false =>
      rw [Intake.ofVisits_of_not_ended isLast, Intake.after, ← List.append_assoc,
        Parsed.ofStream_append]
      exact .of_bad read heard ended isLast

/-- What the other visits do comes on top of what the first one did. -/
theorem HasReadAll.of_next
    {front : Bytes}
    {visited : Visited (σ × List Bytes)}
    (read : found.HasRead limit parsed first after)
    (heard : found.service.2 = turn.service.2)
    (remains : parsed.remainder = .incomplete front)
    (readAll : after.turn.HasReadAll (Parsed.ofStream limit (front ++ rest.taken)) rest visited) :
    turn.HasReadAll (parsed.extend limit rest.taken) (rest.after first.taken)
      { visited with
        messages :=
          after.turn.counters.messagesRead - found.counters.messagesRead + visited.messages
        bytes := after.turn.counters.bytesRead - found.counters.bytesRead + visited.bytes } := by
  obtain ⟨bytes, bytesRead, all⟩ := read.bytesRead
  have restBytes := readAll.bytes
  rw [remains, Remainder.unread, List.length_nil] at all
  rw [Parsed.extend_of_incomplete remains]
  exact {
    heard := by rw [readAll.heard, read.heard, heard, List.append_assoc]
    messages := by
      simp only [read.messagesRead, readAll.messages, List.length_append]
      omega
    bytes := by
      simp only [bytesRead, Intake.after, List.length_append]
      omega
    ending := readAll.ending
  }

/-- All visits together. -/
theorem readAll_meets
    (handles :
      ∀ state message,
        holds state →
        (protocol.read state index message).Meets allowed fun answer => holds answer.2)
    {visits : List (Visit (σ × List Bytes))}
    (undisturbed :
      ∀ visit ∈ visits, ∀ turn,
        holds turn.service.1 →
        (visit.meanwhile turn).Meets allowed fun next =>
          turn.ReadsAlike next ∧ holds next.service.1)
    (before : holds turn.service.1)
    (orderly : ∀ visit ∈ visits, ∀ arrival ∈ visit.arrivals, arrival.IsOrderly)
    (waits : turn.channel.Waits limit held waiting) :
    turn.readAll (Turn.read? (protocol.recording index) index) visits =
        turn.readAll (Turn.read (protocol.recording index) index) visits ∧
      (turn.readAll (Turn.read? (protocol.recording index) index) visits).Meets allowed
        (turn.HasReadAll
          (Parsed.ofStream limit (held ++ (Intake.ofVisits waiting visits).taken))
          (Intake.ofVisits waiting visits)) := by
  -- What one visit leaves to the next is a channel that waits, with the front of a message.
  induction visits generalizing turn held waiting with
  | nil =>
      have parsed_eq := waits.holds.ofStream_eq
      rw [waits.length_buffer] at parsed_eq
      refine ⟨rfl, ?_⟩
      simp only [Intake.ofVisits, Intake.none, List.append_nil, parsed_eq]
      exact {
        heard := by simp
        messages := rfl
        bytes := rfl
        ending := rfl
      }
  | cons visit rest inductionHypothesis =>
      have disturbed := undisturbed visit (by simp) turn before
      simp only [readAll, bind, Except.bind]
      cases changed : visit.meanwhile turn with
      | error fault =>
          rw [changed] at disturbed
          exact ⟨rfl, disturbed⟩
      | ok later =>
          rw [changed] at disturbed
          obtain ⟨alike, kept⟩ := disturbed
          have keptFound : holds (later.meet visit.arrivals).service.1 := kept
          obtain ⟨same, reads⟩ :=
            read?_hasRead handles keptFound (waits_meet waits alike (orderly visit (by simp)))
              (by simp [meet, Channel.noteReadiness]) visit.now
          simp only [← same]
          cases answered :
              Turn.read? (protocol.recording index) index visit.now
                (later.meet visit.arrivals) with
          | error fault =>
              rw [answered] at reads
              exact ⟨rfl, reads⟩
          | ok after =>
              rw [answered] at reads
              obtain ⟨read, keptAfter⟩ := reads
              have heard : (later.meet visit.arrivals).service.2 = turn.service.2 := alike.heard
              dsimp only
              by_cases ended : after.ending?.isSome
              · rw [if_pos ended, if_pos ended]
                exact ⟨rfl, .of_ending read heard ended⟩
              · obtain ⟨front, remains, waitsNext⟩ := read.waits (by simpa using ended)
                have goesOn : (Intake.ofArrivals (waiting ++ visit.arrivals)).ended = false := by
                  rw [read.ending, Parsed.ending?, remains] at ended
                  simpa using ended
                obtain ⟨sameRest, readsRest⟩ :=
                  inductionHypothesis
                    (fun visit member => undisturbed visit (List.mem_cons_of_mem _ member))
                    keptAfter
                    (fun visit member => orderly visit (List.mem_cons_of_mem _ member))
                    waitsNext
                rw [if_neg ended, if_neg ended, ← sameRest, Intake.ofVisits_of_not_ended goesOn,
                  Intake.after, ← List.append_assoc, Parsed.ofStream_append]
                refine ⟨rfl, Checked.Meets.bind readsRest ?_⟩
                intro visited readRest
                exact .of_next read heard remains readRest

end Visits

end Turn

end Gatehouse
