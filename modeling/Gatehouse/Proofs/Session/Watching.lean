import Gatehouse.Proofs.Session.Calls

namespace Gatehouse

/-!
# Watching one slot

A run can be watched at one slot: what every call for the slot answers, and
what the slot shows right afterwards. Watching does not change the run. When the
calls for the slot are answered alike in two services, and the calls for other
slots are not noticed, the slot shows the same with and without those.
-/

/-- What a call answers besides the state it leaves. -/
inductive ProtocolAnswer where
  | done
  /-- The message as the service leaves it. -/
  | message (left : Bytes)
  /-- So many bytes were staged. -/
  | output (length : Nat)
deriving DecidableEq, Repr

/-- What a call for a slot answered, and what the slot showed afterwards. -/
structure Sight (β : Type) where
  answer : ProtocolAnswer
  shown : β

/-- The calls for one slot. -/
def callsFor (slot : Nat) (calls : List ProtocolCall) : List ProtocolCall :=
  calls.filter fun call => call.slot = slot

/-- Whether a call is traffic of a connection that is there. -/
def ProtocolCall.isTraffic : ProtocolCall → Bool
  | .read _ _ | .produce _ => true
  | .accept _ _ | .drop _ => false

/-- The message that a call brings. -/
def ProtocolCall.message? : ProtocolCall → Option Bytes
  | .read _ message => some message
  | .accept _ _ | .drop _ | .produce _ => none

/-- The messages that a slot is given to read. -/
def messagesFor (slot : Nat) (calls : List ProtocolCall) : List Bytes :=
  (callsFor slot calls).filterMap ProtocolCall.message?

/-- A sequence of calls, cut where the connection of a slot last came or went. -/
structure SinceRestart
    (slot : Nat)
    (calls earlier : List ProtocolCall)
    (restart : ProtocolCall)
    (later : List ProtocolCall) : Prop where
  calls_eq : calls = earlier ++ restart :: later
  slot_eq : restart.slot = slot
  restarts : restart.isTraffic = false
  traffic : ∀ call ∈ later, call.slot = slot → call.isTraffic = true

/-- What the transport can ask of a slot at any time. -/
structure Outlet where
  staged : Checked Bytes
  status : Checked Disposition

/-- How many bytes were staged, and what was staged then. -/
structure Output where
  length : Nat
  staged : Checked Bytes

/-- The output that hands a frame over. -/
def Output.ofFrame (frame : Bytes) : Output where
  length := frame.length
  staged := .ok frame

/-- The output that was seen, if it was one. -/
def Sight.output? (sight : Sight Outlet) : Option Output :=
  match sight.answer with
  | .output length => some { length := length, staged := sight.shown.staged }
  | .done | .message _ => none

/-- The outputs among what was seen of a slot. -/
def outputsOf (sights : List (Sight Outlet)) : List Output :=
  sights.filterMap Sight.output?

/-- The outputs that hand something over. -/
def handedOver (outputs : List Output) : List Output :=
  outputs.filter fun output => output.length ≠ 0

theorem handedOver_append (outputs more : List Output) :
    handedOver (outputs ++ more) = handedOver outputs ++ handedOver more :=
  List.filter_append outputs more

theorem outputsOf_cons (sight : Sight Outlet) (sights : List (Sight Outlet)) :
    outputsOf (sight :: sights) = sight.output?.toList ++ outputsOf sights := by
  unfold outputsOf
  cases seen : sight.output? <;> simp [seen]

theorem messagesFor_cons_of_eq
    {slot : Nat}
    {call : ProtocolCall}
    (here : call.slot = slot)
    (rest : List ProtocolCall) :
    messagesFor slot (call :: rest) = call.message?.toList ++ messagesFor slot rest := by
  unfold messagesFor callsFor
  cases brought : call.message? <;> simp [here, brought]

theorem messagesFor_cons_of_ne
    {slot : Nat}
    {call : ProtocolCall}
    (elsewhere : call.slot ≠ slot)
    (rest : List ProtocolCall) :
    messagesFor slot (call :: rest) = messagesFor slot rest := by
  simp [messagesFor, callsFor, elsewhere]

/-- A slot whose connection came or went did so for a last time. -/
theorem exists_sinceRestart
    {slot : Nat}
    {calls : List ProtocolCall}
    (restarted : ∃ call ∈ calls, call.slot = slot ∧ call.isTraffic = false) :
    ∃ earlier restart later, SinceRestart slot calls earlier restart later := by
  induction calls with
  | nil =>
      obtain ⟨_, member, _⟩ := restarted
      cases member
  | cons call rest inductionHypothesis =>
      by_cases again : ∃ other ∈ rest, other.slot = slot ∧ other.isTraffic = false
      · obtain ⟨earlier, restart, later, since⟩ := inductionHypothesis again
        refine ⟨call :: earlier, restart, later, ?_, since.slot_eq, since.restarts, since.traffic⟩
        rw [since.calls_eq, List.cons_append]
      · obtain ⟨restart, member, here, restarts⟩ := restarted
        rcases List.mem_cons.mp member with isFirst | isLater
        · subst isFirst
          refine ⟨[], restart, rest, rfl, here, restarts, fun other isOther isHere => ?_⟩
          exact Bool.of_not_eq_false fun restartsToo =>
            again ⟨other, isOther, isHere, restartsToo⟩
        · exact absurd ⟨restart, isLater, here, restarts⟩ again

namespace ConnectionProtocol

/-- The outlet of a slot. -/
def outlet (protocol : ConnectionProtocol σ) (slot : Nat) (state : σ) : Outlet where
  staged := protocol.staged state slot
  status := protocol.status state slot

/-- Perform a call; answers what the call answers, and the state that it leaves. -/
def respond (protocol : ConnectionProtocol σ) (state : σ) :
    ProtocolCall → Checked (ProtocolAnswer × σ)
  | .accept slot peer => return (.done, ← protocol.accept state slot peer)
  | .drop slot => return (.done, ← protocol.drop state slot)
  | .read slot message => do
      let (left, next) ← protocol.read state slot message
      return (.message left, next)
  | .produce slot => do
      let (length, next) ← protocol.produce state slot
      return (.output length, next)

/-- Run a sequence of calls and watch one slot through a view of the state. -/
def watch (protocol : ConnectionProtocol σ) (view : σ → β) (slot : Nat) (state : σ) :
    List ProtocolCall → Checked (List (Sight β) × σ)
  | [] => .ok ([], state)
  | call :: rest => do
      let (answer, next) ← protocol.respond state call
      let (later, last) ← protocol.watch view slot next rest
      let sights := if call.slot = slot then { answer, shown := view next } :: later else later
      return (sights, last)

variable {protocol : ConnectionProtocol σ} {view : σ → β} {slot : Nat} {state : σ}

theorem perform_eq_respond (call : ProtocolCall) :
    protocol.perform state call = return (← protocol.respond state call).2 := by
  cases call <;> simp only [perform, respond, bind_assoc, pure_bind, bind_pure]

theorem watch_cons_eq_ok
    {call : ProtocolCall}
    {rest : List ProtocolCall}
    {sights : List (Sight β)}
    {last : σ} :
    protocol.watch view slot state (call :: rest) = .ok (sights, last) ↔
      ∃ answer next later,
        protocol.respond state call = .ok (answer, next) ∧
          protocol.watch view slot next rest = .ok (later, last) ∧
          sights =
            if call.slot = slot then { answer, shown := view next } :: later else later := by
  simp only [watch, Checked.bind_eq_ok, pure, Except.pure, Except.ok.injEq, Prod.mk.injEq,
    Prod.exists]
  constructor
  · intro watched
    rcases watched with ⟨answer, next, responded, later, _, continued, rfl, rfl⟩
    exact ⟨answer, next, later, responded, continued, rfl⟩
  · intro watched
    rcases watched with ⟨answer, next, later, responded, continued, rfl⟩
    exact ⟨answer, next, responded, later, last, continued, rfl, rfl⟩

/-- A call behind those that were watched is watched behind what was seen. -/
theorem watch_append_singleton
    {calls : List ProtocolCall}
    {call : ProtocolCall}
    {sights : List (Sight β)}
    {answer : ProtocolAnswer}
    {middle next : σ}
    (watched : protocol.watch view slot state calls = .ok (sights, middle))
    (responded : protocol.respond middle call = .ok (answer, next)) :
    protocol.watch view slot state (calls ++ [call]) =
      .ok (sights ++ if call.slot = slot then [⟨answer, view next⟩] else [], next) := by
  induction calls generalizing state sights with
  | nil =>
      cases watched
      refine watch_cons_eq_ok.mpr ⟨answer, next, [], responded, rfl, ?_⟩
      rw [List.nil_append]
  | cons first rest inductionHypothesis =>
      obtain ⟨firstAnswer, second, later, firstResponded, continued, sights_eq⟩ :=
        watch_cons_eq_ok.mp watched
      refine watch_cons_eq_ok.mpr
        ⟨firstAnswer, second, _, firstResponded, inductionHypothesis continued, ?_⟩
      rw [sights_eq]
      by_cases here : first.slot = slot
      · rw [if_pos here, if_pos here, List.cons_append]
      · rw [if_neg here, if_neg here]

/-- Watching a run leaves the state that the run leaves, or stops where the run stops. -/
theorem run_eq_watch (view : σ → β) (slot : Nat) (state : σ) (calls : List ProtocolCall) :
    protocol.run state calls = return (← protocol.watch view slot state calls).2 := by
  induction calls generalizing state with
  | nil =>
      rfl
  | cons call rest inductionHypothesis =>
      simp only [run, watch, perform_eq_respond, inductionHypothesis, bind_assoc, pure_bind]

/-- A run that answers can be watched. -/
theorem exists_watch_of_run
    {calls : List ProtocolCall}
    {last : σ}
    (ran : protocol.run state calls = .ok last)
    (view : σ → β)
    (slot : Nat) :
    ∃ sights, protocol.watch view slot state calls = .ok (sights, last) := by
  simp only [run_eq_watch view slot, Checked.bind_eq_ok, pure, Except.pure,
    Except.ok.injEq] at ran
  rcases ran with ⟨⟨sights, _⟩, watched, rfl⟩
  exact ⟨sights, watched⟩

/-- A run is watched since the connection of a slot came or went for the last time. -/
theorem exists_watch_sinceRestart
    {calls : List ProtocolCall}
    {last : σ}
    (ran : protocol.run state calls = .ok last)
    (restarted : ∃ call ∈ calls, call.slot = slot ∧ call.isTraffic = false)
    (view : σ → β) :
    ∃ earlier restart later fresh sights,
      SinceRestart slot calls earlier restart later ∧
        protocol.run state (earlier ++ [restart]) = .ok fresh ∧
        protocol.run fresh later = .ok last ∧
        protocol.watch view slot fresh later = .ok (sights, last) := by
  obtain ⟨earlier, restart, later, since⟩ := exists_sinceRestart restarted
  rw [since.calls_eq, List.append_cons, run_append] at ran
  obtain ⟨fresh, ranFresh, ranLater⟩ := Checked.bind_eq_ok.mp ran
  obtain ⟨sights, watched⟩ := exists_watch_of_run ranLater view slot
  exact ⟨earlier, restart, later, fresh, sights, since, ranFresh, ranLater, watched⟩

section Unnoticed

variable {allowed : Fault → Prop} {related : σ → σ → Prop}
  (here :
    ∀ mixed alone call answer next,
      related mixed alone →
      call.slot = slot →
      protocol.respond mixed call = .ok (answer, next) →
      (protocol.respond alone call).Meets allowed fun response =>
        response.1 = answer ∧ related next response.2)
  (elsewhere :
    ∀ mixed alone call answer next,
      related mixed alone →
      call.slot ≠ slot →
      protocol.respond mixed call = .ok (answer, next) →
      related next alone)
  (shown : ∀ mixed alone, related mixed alone → view alone = view mixed)
  {mixed alone last : σ} {sights : List (Sight β)}

include here elsewhere shown

/--
If calls for a slot are answered alike in services that are related, and calls
for other slots leave services related, the slot shows the same whether the
others are called or not.
-/
theorem watch_callsFor
    {calls : List ProtocolCall}
    (start : related mixed alone)
    (watched : protocol.watch view slot mixed calls = .ok (sights, last)) :
    (protocol.watch view slot alone (callsFor slot calls)).Meets allowed fun answer =>
      answer.1 = sights ∧ related last answer.2 := by
  induction calls generalizing mixed alone sights with
  | nil =>
      cases watched
      exact ⟨rfl, start⟩
  | cons call rest inductionHypothesis =>
      obtain ⟨answer, next, later, responded, continued, sights_eq⟩ :=
        watch_cons_eq_ok.mp watched
      by_cases isHere : call.slot = slot
      · have split : callsFor slot (call :: rest) = call :: callsFor slot rest := by
          simp [callsFor, isHere]
        rw [split, sights_eq, if_pos isHere]
        refine Checked.Meets.bind (here mixed alone call answer next start isHere responded) ?_
        intro response answered
        rcases response with ⟨sameAnswer, aloneNext⟩
        rcases answered with ⟨rfl, nextRelated⟩
        refine Checked.Meets.bind (inductionHypothesis nextRelated continued) ?_
        intro watchedAlone alike
        rcases watchedAlone with ⟨laterAlone, lastAlone⟩
        rcases alike with ⟨rfl, lastRelated⟩
        simp only [isHere, if_true, shown next aloneNext nextRelated]
        exact ⟨rfl, lastRelated⟩
      · have split : callsFor slot (call :: rest) = callsFor slot rest := by
          simp [callsFor, isHere]
        rw [split, sights_eq, if_neg isHere]
        exact inductionHypothesis (elsewhere mixed alone call answer next start isHere responded)
          continued

/-- If taking a slot over makes two services related, the slot shows the same from then on. -/
theorem watch_accept
    {mixedNext aloneNext : σ}
    {peer : SocketAddress}
    {calls : List ProtocolCall}
    (accepted : protocol.respond mixed (.accept slot peer) = .ok (.done, mixedNext))
    (aloneAccepted : protocol.respond alone (.accept slot peer) = .ok (.done, aloneNext))
    (start : related mixedNext aloneNext)
    (watched :
      protocol.watch view slot mixed (.accept slot peer :: calls) = .ok (sights, last)) :
    (protocol.watch view slot alone (.accept slot peer :: callsFor slot calls)).Meets allowed
      fun answer => answer.1 = sights ∧ related last answer.2 := by
  obtain ⟨answer, next, later, responded, continued, sights_eq⟩ := watch_cons_eq_ok.mp watched
  rw [accepted] at responded
  cases responded
  simp only [watch, aloneAccepted, bind, Except.bind]
  refine Checked.Meets.bind (watch_callsFor here elsewhere shown start continued) ?_
  intro watchedAlone alike
  rcases watchedAlone with ⟨laterAlone, lastAlone⟩
  rcases alike with ⟨rfl, lastRelated⟩
  simp only [ProtocolCall.slot, if_true] at sights_eq ⊢
  rw [sights_eq, shown _ _ start]
  exact ⟨rfl, lastRelated⟩

end Unnoticed

end ConnectionProtocol

end Gatehouse
