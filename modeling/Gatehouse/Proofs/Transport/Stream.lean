import Gatehouse.Transport.Socket

namespace Gatehouse

/-!
# Streams of messages

A stream spells messages one after another, each as its length in two bytes, low
byte first, and a body of that length. What a longer stream spells is what its
front spells, gone on with from the remainder of the front. How a stream comes in
does not matter either: one pass takes the bytes of all arrivals up to the first
read that would block or that finds the end.
-/

/-- How a stream goes on after its last whole message. -/
inductive Remainder where
  /-- With the front of a message. -/
  | incomplete (front : Bytes)
  /-- With a length that no message has, and with these bytes after it. -/
  | badLength (length : Nat) (rest : Bytes)
deriving DecidableEq, Repr

/-- What a stream spells. -/
structure Parsed where
  bodies : List Bytes
  remainder : Remainder
deriving DecidableEq, Repr

/-- The bytes that nobody has a reason to read. -/
def Remainder.unread : Remainder → Bytes
  | .incomplete _ => []
  | .badLength _ rest => rest

namespace Parsed

/-- A message in front of what is spelled. -/
def after (body : Bytes) (parsed : Parsed) : Parsed :=
  { parsed with bodies := body :: parsed.bodies }

/-- Cut a stream into messages of at most `limit` bytes. -/
def ofStream (limit : Nat) (stream : Bytes) : Parsed :=
  match stream with
  | low :: high :: rest =>
      let length := low.toNat + 256 * high.toNat
      if length = 0 ∨ limit < length then
        { bodies := [], remainder := .badLength length rest }
      else if rest.length < length then
        { bodies := [], remainder := .incomplete (low :: high :: rest) }
      else
        (ofStream limit (rest.drop length)).after (rest.take length)
  | front => { bodies := [], remainder := .incomplete front }
termination_by stream.length
decreasing_by
  simp only [List.length_drop, List.length_cons]
  omega

/-- Go on with more bytes. -/
def extend (limit : Nat) (parsed : Parsed) (more : Bytes) : Parsed :=
  match parsed.remainder with
  | .incomplete front =>
      let later := ofStream limit (front ++ more)
      { later with bodies := parsed.bodies ++ later.bodies }
  | .badLength length rest => { parsed with remainder := .badLength length (rest ++ more) }

theorem extend_after (limit : Nat) (body : Bytes) (parsed : Parsed) (more : Bytes) :
    (parsed.after body).extend limit more = (parsed.extend limit more).after body := by
  rcases parsed with ⟨bodies, front | ⟨length, rest⟩⟩ <;> rfl

theorem extend_of_incomplete
    {limit : Nat}
    {parsed : Parsed}
    {front : Bytes}
    (remains : parsed.remainder = .incomplete front)
    (more : Bytes) :
    parsed.extend limit more =
      { ofStream limit (front ++ more) with
        bodies := parsed.bodies ++ (ofStream limit (front ++ more)).bodies } := by
  rw [extend, remains]

theorem extend_of_badLength
    {limit length : Nat}
    {parsed : Parsed}
    {rest : Bytes}
    (remains : parsed.remainder = .badLength length rest)
    (more : Bytes) :
    parsed.extend limit more = { parsed with remainder := .badLength length (rest ++ more) } := by
  rw [extend, remains]

/-- What a stream spells depends on the length in front. -/
theorem ofStream_littleEndian_append
    (limit : Nat)
    {length : Nat}
    (small : length < 65536)
    (rest : Bytes) :
    ofStream limit (Bytes.littleEndian 2 length ++ rest) =
      if length = 0 ∨ limit < length then
        { bodies := [], remainder := .badLength length rest }
      else if rest.length < length then
        { bodies := [], remainder := .incomplete (Bytes.littleEndian 2 length ++ rest) }
      else
        (ofStream limit (rest.drop length)).after (rest.take length) := by
  have spelled :
      (UInt8.ofNat length).toNat + 256 * (UInt8.ofNat (length / 256)).toNat = length := by
    simp only [UInt8.toNat_ofNat']
    omega
  simp only [Bytes.littleEndian, List.cons_append, List.nil_append]
  rw [ofStream]
  simp only [spelled]

theorem ofStream_of_short
    {limit : Nat}
    {front : Bytes}
    (short : front.length < 2) :
    ofStream limit front = { bodies := [], remainder := .incomplete front } := by
  rw [ofStream]
  intro low high rest long
  simp only [long, List.length_cons] at short
  omega

/-- What a stream spells is what its front spells, gone on with. -/
theorem ofStream_append (limit : Nat) (front more : Bytes) :
    ofStream limit (front ++ more) = (ofStream limit front).extend limit more := by
  fun_induction ofStream limit front with
  | case1 low high rest length bad =>
      rw [List.cons_append, List.cons_append, ofStream, if_pos bad]
      rfl
  | case2 low high rest length good isPart =>
      simp [extend]
  | case3 low high rest length good whole inductionHypothesis =>
      have enough : length ≤ rest.length := Nat.not_lt.mp whole
      have stillWhole : ¬ (rest ++ more).length < length := by
        rw [List.length_append]
        omega
      rw [List.cons_append, List.cons_append, ofStream, if_neg good, if_neg stillWhole,
        List.take_append_of_le_length enough, List.drop_append_of_le_length enough,
        inductionHypothesis, extend_after]
  | case4 front short =>
      simp [extend]

end Parsed

namespace Arrival

/-- Whether a read may find this while the connection is in order. -/
def IsOrderly : Arrival → Prop
  | .bytes data => data ≠ []
  | .failure _ => False
  | .wouldBlock | .interrupted | .endOfStream => True

/-- The bytes of some arrivals, up to the end of the stream. -/
def stream : List Arrival → Bytes
  | [] => []
  | .bytes data :: rest => data ++ stream rest
  | .endOfStream :: _ => []
  | .wouldBlock :: rest | .interrupted :: rest | .failure _ :: rest => stream rest

end Arrival

/-- What passes take of the arrivals. -/
structure Intake where
  taken : Bytes
  /-- Whether the end of the stream was found. -/
  ended : Bool
  /-- What waits for a later pass. -/
  waiting : List Arrival
deriving DecidableEq, Repr

namespace Intake

/-- Nothing is taken. -/
def none (arrivals : List Arrival) : Intake where
  taken := []
  ended := false
  waiting := arrivals

/-- Bytes that are taken before others. -/
def after (data : Bytes) (intake : Intake) : Intake :=
  { intake with taken := data ++ intake.taken }

/-- What one pass takes. -/
def ofArrivals : List Arrival → Intake
  | [] => none []
  | .bytes data :: rest => (ofArrivals rest).after data
  | .interrupted :: rest => ofArrivals rest
  | .wouldBlock :: rest | .failure _ :: rest => none rest
  | .endOfStream :: rest => { taken := [], ended := true, waiting := .endOfStream :: rest }

/-- What a pass takes and what waits are what arrived, also with what arrives later. -/
theorem taken_append_stream_waiting (arrivals later : List Arrival) :
    (ofArrivals arrivals).taken ++ Arrival.stream ((ofArrivals arrivals).waiting ++ later) =
      Arrival.stream (arrivals ++ later) := by
  fun_induction ofArrivals arrivals with
  | case2 data rest inductionHypothesis =>
      simp only [after, List.append_assoc, inductionHypothesis, List.cons_append, Arrival.stream]
  | case3 rest inductionHypothesis => exact inductionHypothesis
  | case1 | case4 | case5 | case6 => rfl

/-- After the end was found, no more bytes wait. -/
theorem stream_waiting_of_ended
    {arrivals : List Arrival}
    (found : (ofArrivals arrivals).ended = true)
    (later : List Arrival) :
    Arrival.stream ((ofArrivals arrivals).waiting ++ later) = [] := by
  fun_induction ofArrivals arrivals with
  | case2 data rest inductionHypothesis => exact inductionHypothesis found
  | case3 rest inductionHypothesis => exact inductionHypothesis found
  | case6 rest => rfl
  | case1 | case4 | case5 => simp [none] at found

end Intake

namespace Socket

/-- Whether the connection is in order as far as the arrivals go. -/
def IsOrderly (socket : Socket) : Prop :=
  ∀ arrival ∈ socket.arrivals, arrival.IsOrderly

/-- What a read of at most `count` bytes answers and leaves. -/
def Yields (socket : Socket) (count : Nat) : SocketAnswer Bytes × Socket → Prop
  | (.done [], next) =>
      next = socket ∧
        Intake.ofArrivals socket.arrivals =
          { taken := [], ended := true, waiting := socket.arrivals }
  | (.done (byte :: rest), next) =>
      (byte :: rest).length ≤ count ∧
        next.IsOrderly ∧
        Intake.ofArrivals socket.arrivals =
          (Intake.ofArrivals next.arrivals).after (byte :: rest)
  | (.wouldBlock, next) =>
      next.IsOrderly ∧ Intake.ofArrivals socket.arrivals = Intake.none next.arrivals
  | (.interrupted, next) =>
      next.IsOrderly ∧ Intake.ofArrivals socket.arrivals = Intake.ofArrivals next.arrivals
  | (.failed _, _) => False

/-- Taking part of a piece changes nothing of what a pass takes. -/
theorem ofArrivals_afterTaking (data : Bytes) (count : Nat) (rest : List Arrival) :
    (Intake.ofArrivals (afterTaking data count rest)).after (data.take count) =
      (Intake.ofArrivals rest).after data := by
  unfold afterTaking
  split
  next all =>
    rw [List.take_of_length_le all]
  next part =>
    simp only [Intake.ofArrivals, Intake.after, ← List.append_assoc, List.take_append_drop]

theorem orderly_afterTaking
    {data : Bytes}
    {rest : List Arrival}
    (restOrderly : ∀ arrival ∈ rest, arrival.IsOrderly)
    (count : Nat) :
    ∀ arrival ∈ afterTaking data count rest, arrival.IsOrderly := by
  unfold afterTaking
  split
  next all => exact restOrderly
  next part =>
    rintro arrival (_ | ⟨_, member⟩)
    · intro nothing
      exact part (List.drop_eq_nil_iff.mp nothing)
    · exact restOrderly arrival member

/-- A read of an orderly socket takes bytes that a pass takes. -/
theorem receive_yields
    {socket : Socket}
    {count : Nat}
    (orderly : socket.IsOrderly)
    (positive : 0 < count) :
    socket.Yields count (socket.receive count) := by
  rcases socket with ⟨arrivals, grants, sent⟩
  cases arrivals with
  | nil => exact ⟨orderly, rfl⟩
  | cons arrival rest =>
      have restOrderly : ∀ later ∈ rest, later.IsOrderly :=
        fun later member => orderly later (List.mem_cons_of_mem arrival member)
      cases arrival with
      | wouldBlock => exact ⟨restOrderly, rfl⟩
      | interrupted => exact ⟨restOrderly, rfl⟩
      | endOfStream => exact ⟨rfl, rfl⟩
      | failure error => exact (orderly (.failure error) (by simp)).elim
      | bytes data =>
          have nonempty : data ≠ [] := orderly (.bytes data) (by simp)
          obtain ⟨byte, tail, rfl⟩ := List.exists_cons_of_ne_nil nonempty
          obtain ⟨room, rfl⟩ := Nat.exists_eq_add_of_lt positive
          simp only [receive, Nat.zero_add, List.take_succ_cons, Yields]
          refine ⟨?_, ?_, ?_⟩
          · rw [List.length_cons, List.length_take]
            omega
          · exact orderly_afterTaking restOrderly (room + 1)
          · exact (ofArrivals_afterTaking (byte :: tail) (room + 1) rest).symm

end Socket

end Gatehouse
