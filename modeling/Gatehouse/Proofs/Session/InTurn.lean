import Gatehouse.Proofs.Session.Watching

namespace Gatehouse

/-!
# Calls in turn

A service is called in turn if for every slot connections come and go strictly
by turns, the first of them coming, and everything else is asked of a slot only
while it has a connection. A strict service keeps a record of its calls and
refuses whatever is out of turn, so that who is never refused calls in turn.
-/

namespace ProtocolCall

/-- Whether a call accepts a connection. -/
def isAccept : ProtocolCall → Bool
  | .accept _ _ => true
  | .drop _ | .read _ _ | .produce _ => false

/-- The slot whose connection a call drops. -/
def dropped? : ProtocolCall → Option Nat
  | .drop slot => some slot
  | .accept _ _ | .read _ _ | .produce _ => none

/-- Whether a slot has a connection after a call, if it had one `before` or not. -/
def connects (slot : Nat) (before : Bool) : ProtocolCall → Bool
  | .accept other _ => if other = slot then true else before
  | .drop other => if other = slot then false else before
  | .read _ _ | .produce _ => before

end ProtocolCall

/-- Whether a slot has a connection after some calls. -/
def isConnected (slot : Nat) (calls : List ProtocolCall) : Bool :=
  calls.foldl (ProtocolCall.connects slot) false

/-- A slot without a connection can only accept one; one with a connection can do the rest. -/
def InTurn (calls : List ProtocolCall) : Prop :=
  ∀ earlier call later,
    calls = earlier ++ call :: later → isConnected call.slot earlier = !call.isAccept

theorem isConnected_append_singleton
    (slot : Nat)
    (calls : List ProtocolCall)
    (call : ProtocolCall) :
    isConnected slot (calls ++ [call]) = call.connects slot (isConnected slot calls) := by
  simp [isConnected, List.foldl_append]

/-- Traffic neither makes a connection nor ends one. -/
theorem isConnected_append_of_traffic
    (slot : Nat)
    (calls : List ProtocolCall)
    {more : List ProtocolCall}
    (traffic : ∀ call ∈ more, call.isTraffic = true) :
    isConnected slot (calls ++ more) = isConnected slot calls := by
  induction more generalizing calls with
  | nil =>
      rw [List.append_nil]
  | cons call rest inductionHypothesis =>
      rw [List.append_cons, inductionHypothesis _ fun other member =>
        traffic other (List.mem_cons_of_mem call member), isConnected_append_singleton]
      have isTraffic := traffic call List.mem_cons_self
      cases call with
      | read | produce => rfl
      | accept | drop => cases isTraffic

theorem inTurn_nil : InTurn [] := by
  intro earlier call later cut
  simp at cut

theorem InTurn.of_append
    {calls more : List ProtocolCall}
    (inTurn : InTurn (calls ++ more)) :
    InTurn calls := by
  intro earlier call later cut
  exact inTurn earlier call (later ++ more) (by rw [cut, List.append_assoc, List.cons_append])

theorem inTurn_append_singleton
    {calls : List ProtocolCall}
    {call : ProtocolCall} :
    InTurn (calls ++ [call]) ↔ InTurn calls ∧ isConnected call.slot calls = !call.isAccept := by
  constructor
  · intro inTurn
    exact ⟨inTurn.of_append, inTurn calls call [] rfl⟩
  · rintro ⟨inTurn, isNext⟩ earlier other later cut
    rcases List.eq_nil_or_concat later with rfl | ⟨rest, last, rfl⟩
    · obtain ⟨rfl, same⟩ := List.append_inj' cut rfl
      cases same
      exact isNext
    · rw [List.concat_eq_append, ← List.cons_append, ← List.append_assoc] at cut
      exact inTurn earlier other rest (List.append_inj' cut rfl).1

namespace ConnectionProtocol

/-- Do what a call asks for and record the call, if it is in turn. -/
def record (calls : List ProtocolCall) (call : ProtocolCall) (operation : Checked α) :
    Checked (α × List ProtocolCall) :=
  if isConnected call.slot calls = !call.isAccept then do
    return (← operation, calls ++ [call])
  else
    .error .outOfRange

/-- Answer what is asked of a slot, if the slot has a connection. -/
def whileConnected (calls : List ProtocolCall) (slot : Nat) (question : Checked α) : Checked α :=
  if isConnected slot calls then question else .error .outOfRange

/-- The service that keeps a record of its calls and refuses what is out of turn. -/
def strict (protocol : ConnectionProtocol σ) : ConnectionProtocol (σ × List ProtocolCall) where
  accept := fun (state, calls) slot peer =>
    record calls (.accept slot peer) (protocol.accept state slot peer)
  drop := fun (state, calls) slot => record calls (.drop slot) (protocol.drop state slot)
  read := fun (state, calls) slot message => do
    let ((left, next), later) ← record calls (.read slot message) (protocol.read state slot message)
    return (left, next, later)
  produce := fun (state, calls) slot => do
    let ((length, next), later) ← record calls (.produce slot) (protocol.produce state slot)
    return (length, next, later)
  staged := fun (state, calls) slot => whileConnected calls slot (protocol.staged state slot)
  status := fun (state, calls) slot => whileConnected calls slot (protocol.status state slot)

theorem record_eq_ok
    {calls later : List ProtocolCall}
    {call : ProtocolCall}
    {operation : Checked α}
    {value : α} :
    record calls call operation = .ok (value, later) ↔
      isConnected call.slot calls = (!call.isAccept) ∧
        operation = .ok value ∧
        later = calls ++ [call] := by
  unfold record
  split
  next inTurn =>
    cases operation <;> simp [bind, Except.bind, pure, Except.pure, inTurn, eq_comm]
  next outOfTurn =>
    simp [outOfTurn]

theorem whileConnected_eq_ok
    {calls : List ProtocolCall}
    {slot : Nat}
    {question : Checked α}
    {value : α} :
    whileConnected calls slot question = .ok value ↔
      isConnected slot calls = true ∧ question = .ok value := by
  unfold whileConnected
  split <;> simp [*]

section Strict

variable {protocol : ConnectionProtocol σ} {before after : σ × List ProtocolCall} {slot : Nat}

theorem accept_strict_eq_ok
    {peer : SocketAddress} :
    protocol.strict.accept before slot peer = .ok after ↔
      isConnected slot before.2 = false ∧
        protocol.accept before.1 slot peer = .ok after.1 ∧
        after.2 = before.2 ++ [.accept slot peer] :=
  record_eq_ok

theorem drop_strict_eq_ok :
    protocol.strict.drop before slot = .ok after ↔
      isConnected slot before.2 = true ∧
        protocol.drop before.1 slot = .ok after.1 ∧
        after.2 = before.2 ++ [.drop slot] :=
  record_eq_ok

theorem read_strict_eq_ok
    {message left : Bytes} :
    protocol.strict.read before slot message = .ok (left, after) ↔
      isConnected slot before.2 = true ∧
        protocol.read before.1 slot message = .ok (left, after.1) ∧
        after.2 = before.2 ++ [.read slot message] := by
  simp only [strict, Checked.bind_eq_ok, pure, Except.pure, Except.ok.injEq, Prod.exists,
    record_eq_ok]
  constructor
  · rintro ⟨_, _, _, ⟨isNext, read, recorded⟩, rfl, rfl⟩
    exact ⟨isNext, read, recorded⟩
  · rintro ⟨isNext, read, recorded⟩
    exact ⟨left, after.1, after.2, ⟨isNext, read, recorded⟩, rfl⟩

theorem produce_strict_eq_ok
    {length : Nat} :
    protocol.strict.produce before slot = .ok (length, after) ↔
      isConnected slot before.2 = true ∧
        protocol.produce before.1 slot = .ok (length, after.1) ∧
        after.2 = before.2 ++ [.produce slot] := by
  simp only [strict, Checked.bind_eq_ok, pure, Except.pure, Except.ok.injEq, Prod.exists,
    record_eq_ok]
  constructor
  · rintro ⟨_, _, _, ⟨isNext, produced, recorded⟩, rfl, rfl⟩
    exact ⟨isNext, produced, recorded⟩
  · rintro ⟨isNext, produced, recorded⟩
    exact ⟨length, after.1, after.2, ⟨isNext, produced, recorded⟩, rfl⟩

theorem staged_strict_eq_ok
    {staged : Bytes} :
    protocol.strict.staged before slot = .ok staged ↔
      isConnected slot before.2 = true ∧ protocol.staged before.1 slot = .ok staged :=
  whileConnected_eq_ok

theorem status_strict_eq_ok
    {disposition : Disposition} :
    protocol.strict.status before slot = .ok disposition ↔
      isConnected slot before.2 = true ∧ protocol.status before.1 slot = .ok disposition :=
  whileConnected_eq_ok

end Strict

/-- What a strict service records leads to its state, and is in turn. -/
structure Replays
    (protocol : ConnectionProtocol σ)
    (start : σ)
    (state : σ × List ProtocolCall) : Prop where
  ran : protocol.run start state.2 = .ok state.1
  inTurn : InTurn state.2

theorem replays_nil (protocol : ConnectionProtocol σ) (start : σ) :
    protocol.Replays start (start, []) where
  ran := rfl
  inTurn := inTurn_nil

theorem Replays.append
    {protocol : ConnectionProtocol σ}
    {start state next : σ}
    {calls : List ProtocolCall}
    {call : ProtocolCall}
    (replays : protocol.Replays start (state, calls))
    (isNext : isConnected call.slot calls = !call.isAccept)
    (performed : protocol.perform state call = .ok next) :
    protocol.Replays start (next, calls ++ [call]) where
  ran := by
    rw [run_append, replays.ran]
    simp only [run, bind, Except.bind, performed]
  inTurn := inTurn_append_singleton.mpr ⟨replays.inTurn, isNext⟩

/-- A call that is not refused is recorded. -/
theorem Replays.perform
    {protocol : ConnectionProtocol σ}
    {start : σ}
    {before after : σ × List ProtocolCall}
    {call : ProtocolCall}
    (replays : protocol.Replays start before)
    (performed : protocol.strict.perform before call = .ok after) :
    protocol.Replays start after := by
  have recorded :
      isConnected call.slot before.2 = (!call.isAccept) ∧
        protocol.perform before.1 call = .ok after.1 ∧
        after.2 = before.2 ++ [call] := by
    cases call with
    | accept slot peer => exact accept_strict_eq_ok.mp performed
    | drop slot => exact drop_strict_eq_ok.mp performed
    | read slot message =>
        obtain ⟨⟨left, next⟩, read, answered⟩ := Checked.bind_eq_ok.mp performed
        cases answered
        obtain ⟨isNext, read, recorded⟩ := read_strict_eq_ok.mp read
        exact ⟨isNext, by simp only [ConnectionProtocol.perform, read]; rfl, recorded⟩
    | produce slot =>
        obtain ⟨⟨length, next⟩, produced, answered⟩ := Checked.bind_eq_ok.mp performed
        cases answered
        obtain ⟨isNext, produced, recorded⟩ := produce_strict_eq_ok.mp produced
        exact ⟨isNext, by simp only [ConnectionProtocol.perform, produced]; rfl, recorded⟩
  obtain ⟨isNext, done, recorded⟩ := recorded
  obtain ⟨state, calls⟩ := after
  subst recorded
  exact replays.append isNext done

end ConnectionProtocol

end Gatehouse
