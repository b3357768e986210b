import Gatehouse.Session.ConnectionProtocol
import Gatehouse.Proofs.Tables

namespace Gatehouse

/-!
# Runs of a service

A run is a sequence of calls of the operations that change the state of a
service, in any order and for any slots. What every call preserves holds after
every run.
-/

/-- An address that a client on the same machine connects from. -/
def SocketAddress.loopback : SocketAddress :=
  .overIPv4 { octet0 := 127, octet1 := 0, octet2 := 0, octet3 := 1 } 50000

/-- A call of an operation that changes the state of a service. -/
inductive ProtocolCall where
  | accept (slot : Nat) (peer : SocketAddress)
  | drop (slot : Nat)
  | read (slot : Nat) (message : Bytes)
  | produce (slot : Nat)
deriving DecidableEq, Repr

/-- The slot that a call is for. -/
def ProtocolCall.slot : ProtocolCall → Nat
  | .accept slot _ => slot
  | .drop slot => slot
  | .read slot _ => slot
  | .produce slot => slot

namespace ConnectionProtocol

/-- The state that a call leaves. -/
def perform (protocol : ConnectionProtocol σ) (state : σ) : ProtocolCall → Checked σ
  | .accept slot peer => protocol.accept state slot peer
  | .drop slot => protocol.drop state slot
  | .read slot message => return (← protocol.read state slot message).2
  | .produce slot => return (← protocol.produce state slot).2

/-- The state that a sequence of calls leaves. -/
def run (protocol : ConnectionProtocol σ) (state : σ) : List ProtocolCall → Checked σ
  | [] => .ok state
  | call :: rest => do protocol.run (← protocol.perform state call) rest

theorem run_append
    (protocol : ConnectionProtocol σ)
    (state : σ)
    (calls later : List ProtocolCall) :
    protocol.run state (calls ++ later) =
      protocol.run state calls >>= fun next => protocol.run next later := by
  induction calls generalizing state with
  | nil =>
      rfl
  | cons call rest inductionHypothesis =>
      simp only [List.cons_append, run, inductionHypothesis, bind_assoc]

/-- What every call of a run preserves holds after the run. -/
theorem run_meets
    {protocol : ConnectionProtocol σ}
    {allowed : Fault → Prop}
    {holds : σ → Prop}
    {calls : List ProtocolCall}
    {state : σ}
    (step :
      ∀ state call, call ∈ calls → holds state → (protocol.perform state call).Meets allowed holds)
    (start : holds state) :
    (protocol.run state calls).Meets allowed holds := by
  induction calls generalizing state with
  | nil =>
      exact start
  | cons call rest inductionHypothesis =>
      refine Checked.Meets.bind (step state call (by simp) start) ?_
      intro next kept
      exact inductionHypothesis
        (fun state later member => step state later (List.mem_cons_of_mem call member)) kept

end ConnectionProtocol

end Gatehouse
