import Gatehouse.Proofs.Session.InTurn

namespace Gatehouse

/-!
# What a service hands over

A service that stages steadily shows an output in full from the moment on at
which it says how long it is, until the slot is asked for the next one. The
buffers that are handed over to a connection are read off the run: they are
the outputs that were seen since the connection began.
-/

/-- At one slot, only messages are read. -/
def OnlyReads (slot : Nat) (calls : List ProtocolCall) : Prop :=
  ∀ call ∈ calls, call.slot = slot → call.message?.isSome = true

namespace ConnectionProtocol

/-- A slot shows one output until it is asked for the next one. -/
def Shows
    (protocol : ConnectionProtocol σ)
    (slot : Nat)
    (service : σ × List ProtocolCall)
    (staged : Bytes) : Prop :=
  ∀ (more : List ProtocolCall) (later : σ),
    OnlyReads slot more →
    InTurn (service.2 ++ more) →
    protocol.run service.1 more = .ok later →
    protocol.staged later slot = .ok staged

/-- Whenever a service says that it staged something, that long an output is shown. -/
def StagesSteadily (protocol : ConnectionProtocol σ) (start : σ) : Prop :=
  ∀ (calls : List ProtocolCall) (before after : σ) (slot length : Nat),
    protocol.run start calls = .ok before →
    InTurn (calls ++ [.produce slot]) →
    protocol.produce before slot = .ok (length, after) →
    length ≠ 0 →
    ∃ staged : Bytes,
      staged.length = length ∧ protocol.Shows slot (after, calls ++ [.produce slot]) staged

/--
The buffers that a service handed over to the connection of a slot: what it
showed after every output that was not empty, since the connection began.
-/
def HandsOver
    (protocol : ConnectionProtocol σ)
    (start : σ)
    (slot : Nat)
    (service : σ × List ProtocolCall)
    (buffers : List Bytes) : Prop :=
  ∃ earlier restart later fresh sights,
    SinceRestart slot service.2 earlier restart later ∧
      protocol.run start (earlier ++ [restart]) = .ok fresh ∧
      protocol.watch (protocol.outlet slot) slot fresh later = .ok (sights, service.1) ∧
      handedOver (outputsOf sights) = buffers.map Output.ofFrame

variable
  {protocol : ConnectionProtocol σ}
  {start state next : σ}
  {slot : Nat}
  {calls : List ProtocolCall}
  {call : ProtocolCall}
  {answer : ProtocolAnswer}

/-- What is shown stays shown while the slot is only read from. -/
theorem Shows.step
    {before after : σ × List ProtocolCall}
    {staged : Bytes}
    (shows : protocol.Shows slot before staged)
    (reads : call.slot = slot → call.message?.isSome = true)
    (performed : protocol.perform before.1 call = .ok after.1)
    (recorded : after.2 = before.2 ++ [call]) :
    protocol.Shows slot after staged := by
  intro more later onlyReads inTurn ran
  refine shows (call :: more) later ?_ ?_ ?_
  · intro other member here
    rcases List.mem_cons.mp member with rfl | isLater
    · exact reads here
    · exact onlyReads other isLater here
  · rwa [recorded, List.append_assoc] at inTurn
  · exact Checked.bind_eq_ok.mpr ⟨after.1, performed, ran⟩

theorem Shows.staged_eq
    {service : σ × List ProtocolCall}
    {staged : Bytes}
    (shows : protocol.Shows slot service staged)
    (inTurn : InTurn service.2) :
    protocol.staged service.1 slot = .ok staged :=
  shows [] service.1 (fun _ member => nomatch member) (by rwa [List.append_nil]) rfl

namespace HandsOver

variable {buffers : List Bytes}

/-- A connection that has just come or gone was handed over nothing. -/
theorem of_restart
    (ran : protocol.run start (calls ++ [call]) = .ok next)
    (restarts : call.isTraffic = false) :
    protocol.HandsOver start call.slot (next, calls ++ [call]) [] :=
  ⟨calls, call, [], next, [], ⟨rfl, rfl, restarts, fun _ member => nomatch member⟩, ran, rfl, rfl⟩

/-- A call adds what is seen of it, if it is for the slot. -/
theorem append
    {more : List Bytes}
    (handsOver : protocol.HandsOver start slot (state, calls) buffers)
    (responded : protocol.respond state call = .ok (answer, next))
    (traffic : call.slot = slot → call.isTraffic = true)
    (handed :
      handedOver
          (outputsOf (if call.slot = slot then [⟨answer, protocol.outlet slot next⟩] else [])) =
        more.map Output.ofFrame) :
    protocol.HandsOver start slot (next, calls ++ [call]) (buffers ++ more) := by
  obtain ⟨earlier, restart, later, fresh, sights, since, ran, watched, seen⟩ := handsOver
  refine ⟨earlier, restart, later ++ [call], fresh, _, ?_, ran,
    watch_append_singleton watched responded, ?_⟩
  · have cut : calls = earlier ++ restart :: later := since.calls_eq
    exact {
      calls_eq := by
        simp only [cut, List.append_assoc, List.cons_append]
      slot_eq := since.slot_eq
      restarts := since.restarts
      traffic := by
        intro other member here
        rcases List.mem_append.mp member with isEarlier | isLast
        · exact since.traffic other isEarlier here
        · cases List.mem_singleton.mp isLast
          exact traffic here
    }
  · rw [outputsOf, List.filterMap_append, handedOver_append, List.map_append, ← handed, ← seen]
    rfl

/-- What happens at other slots hands nothing over. -/
theorem elsewhere
    (handsOver : protocol.HandsOver start slot (state, calls) buffers)
    (responded : protocol.respond state call = .ok (answer, next))
    (elsewhere : call.slot ≠ slot) :
    protocol.HandsOver start slot (next, calls ++ [call]) buffers := by
  have appended : protocol.HandsOver start slot (next, calls ++ [call]) (buffers ++ []) :=
    handsOver.append responded (fun here => absurd here elsewhere)
      (by rw [if_neg elsewhere]; rfl)
  rwa [List.append_nil] at appended

/-- Reading a message hands nothing over. -/
theorem read
    {message left : Bytes}
    (handsOver : protocol.HandsOver start slot (state, calls) buffers)
    (handled : protocol.read state slot message = .ok (left, next)) :
    protocol.HandsOver start slot (next, calls ++ [.read slot message]) buffers := by
  have responded : protocol.respond state (.read slot message) = .ok (.message left, next) :=
    Checked.bind_eq_ok.mpr ⟨_, handled, rfl⟩
  have appended :
      protocol.HandsOver start slot (next, calls ++ [.read slot message]) (buffers ++ []) :=
    handsOver.append responded (fun _ => rfl) (by rw [ProtocolCall.slot, if_pos rfl]; rfl)
  rwa [List.append_nil] at appended

/-- No output hands nothing over. -/
theorem produceNothing
    (handsOver : protocol.HandsOver start slot (state, calls) buffers)
    (produced : protocol.produce state slot = .ok (0, next)) :
    protocol.HandsOver start slot (next, calls ++ [.produce slot]) buffers := by
  have responded : protocol.respond state (.produce slot) = .ok (.output 0, next) :=
    Checked.bind_eq_ok.mpr ⟨_, produced, rfl⟩
  have appended :
      protocol.HandsOver start slot (next, calls ++ [.produce slot]) (buffers ++ []) :=
    handsOver.append responded (fun _ => rfl) (by rw [ProtocolCall.slot, if_pos rfl]; rfl)
  rwa [List.append_nil] at appended

/-- An output is handed over as it is shown. -/
theorem produce
    {staged : Bytes}
    (handsOver : protocol.HandsOver start slot (state, calls) buffers)
    (produced : protocol.produce state slot = .ok (staged.length, next))
    (something : staged.length ≠ 0)
    (shown : protocol.staged next slot = .ok staged) :
    protocol.HandsOver start slot (next, calls ++ [.produce slot]) (buffers ++ [staged]) := by
  have responded : protocol.respond state (.produce slot) = .ok (.output staged.length, next) :=
    Checked.bind_eq_ok.mpr ⟨_, produced, rfl⟩
  refine handsOver.append responded (fun _ => rfl) ?_
  simp [ProtocolCall.slot, outputsOf, Sight.output?, outlet, handedOver, something, shown,
    Output.ofFrame]

end HandsOver

end ConnectionProtocol

end Gatehouse
