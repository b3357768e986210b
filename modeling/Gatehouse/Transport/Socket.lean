import Gatehouse.Bytes

namespace Gatehouse

/-!
# Sockets

A non-blocking socket as the services see it. What the other end and the
network will do is part of the socket: `arrivals` is what the coming reads find,
in whatever pieces, and `grants` is how much the coming writes may take. When
the arrivals run out a read would block; when the grants run out a write takes
everything.
-/

/-- Why an operation on a socket failed. -/
inductive SocketError where
  | connectionReset
  | brokenPipe
  | notConnected
  | writeZero
deriving DecidableEq, Repr

/-- What a read may find. -/
inductive Arrival where
  /-- Bytes; no bytes at all are the end of the stream. -/
  | bytes (data : Bytes)
  | wouldBlock
  | interrupted
  /-- The other end closed; every later read finds this again. -/
  | endOfStream
  | failure (error : SocketError)
deriving DecidableEq, Repr

/-- What a write may meet. -/
inductive Grant where
  /-- Room for at most this many bytes. -/
  | room (count : Nat)
  | wouldBlock
  | interrupted
  | failure (error : SocketError)
deriving DecidableEq, Repr

/-- A connected socket. -/
structure Socket where
  arrivals : List Arrival
  grants : List Grant
  /-- Bytes written so far. -/
  sent : Bytes
deriving DecidableEq, Repr

/-- What an operation on a socket answers. -/
inductive SocketAnswer (α : Type) where
  | done (value : α)
  | wouldBlock
  | interrupted
  | failed (error : SocketError)
deriving DecidableEq, Repr

namespace Arrival

/-- A measure of what an arrival has left to give. -/
def work : Arrival → Nat
  | .bytes data => data.length + 1
  | _ => 1

end Arrival

namespace Socket

/-- A socket on which nothing has happened yet. -/
def fresh : Socket where
  arrivals := []
  grants := []
  sent := []

/-- A measure of what the arrivals have left to give. -/
def work (socket : Socket) : Nat :=
  socket.arrivals.foldr (fun arrival rest => arrival.work + rest) 0

/-- More arrivals, after those that wait already. -/
def deliver (socket : Socket) (arrivals : List Arrival) : Socket :=
  { socket with arrivals := socket.arrivals ++ arrivals }

/-- The arrivals once `count` bytes of their first piece are taken. -/
def afterTaking (data : Bytes) (count : Nat) (rest : List Arrival) : List Arrival :=
  if data.length ≤ count then rest else .bytes (data.drop count) :: rest

/-- Read at most `count` bytes. -/
def receive (socket : Socket) (count : Nat) : SocketAnswer Bytes × Socket :=
  match socket.arrivals with
  | [] => (.wouldBlock, socket)
  | .bytes data :: rest =>
      (.done (data.take count), { socket with arrivals := afterTaking data count rest })
  | .wouldBlock :: rest => (.wouldBlock, { socket with arrivals := rest })
  | .interrupted :: rest => (.interrupted, { socket with arrivals := rest })
  | .endOfStream :: _ => (.done [], socket)
  | .failure error :: rest => (.failed error, { socket with arrivals := rest })

/-- Write bytes; answers how many were taken. -/
def send (socket : Socket) (data : Bytes) : SocketAnswer Nat × Socket :=
  match socket.grants with
  | [] => (.done data.length, { socket with sent := socket.sent ++ data })
  | .room count :: rest =>
      (.done (min count data.length),
        { socket with grants := rest, sent := socket.sent ++ data.take count })
  | .wouldBlock :: rest => (.wouldBlock, { socket with grants := rest })
  | .interrupted :: rest => (.interrupted, { socket with grants := rest })
  | .failure error :: rest => (.failed error, { socket with grants := rest })

/-- A read that takes bytes leaves less to give. -/
theorem work_receive_of_done
    {socket next : Socket}
    {count : Nat}
    {data : Bytes}
    (received : socket.receive count = (.done data, next))
    (nonempty : data ≠ []) :
    next.work < socket.work := by
  unfold receive at received
  split at received <;> simp only [Prod.mk.injEq, SocketAnswer.done.injEq, reduceCtorEq, false_and] at received
  next bytes rest arrivals =>
    obtain ⟨rfl, rfl⟩ := received
    have lengthBound : (bytes.take count).length ≠ 0 := by
      simpa [List.length_eq_zero_iff] using nonempty
    simp only [List.length_take] at lengthBound
    simp only [work, arrivals, List.foldr_cons, Arrival.work, afterTaking]
    split
    · omega
    · simp only [List.foldr_cons, List.length_drop]
      omega
  next => exact absurd received.1.symm nonempty

/-- An interrupted read leaves less to give. -/
theorem work_receive_of_interrupted
    {socket next : Socket}
    {count : Nat}
    (received : socket.receive count = (.interrupted, next)) :
    next.work < socket.work := by
  unfold receive at received
  split at received <;> simp only [Prod.mk.injEq, reduceCtorEq, false_and, true_and] at received
  next rest arrivals =>
    obtain rfl := received
    simp [work, arrivals, Arrival.work]

/-- An interrupted write leaves fewer grants. -/
theorem grants_send_of_interrupted
    {socket next : Socket}
    {data : Bytes}
    (sent : socket.send data = (.interrupted, next)) :
    next.grants.length < socket.grants.length := by
  unfold send at sent
  split at sent <;> simp only [Prod.mk.injEq, reduceCtorEq, false_and, true_and] at sent
  next rest grants =>
    obtain rfl := sent
    simp [grants]

end Socket

end Gatehouse
