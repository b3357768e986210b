import Gatehouse.Transport.Switchboard
import Gatehouse.Proofs.Session.Watching

namespace Gatehouse

/-!
# What a switchboard can reach

A pass is made of moments: something that came is accepted or turned away,
readiness is noted, the connection of a slot gets its turn. Whatever the other
ends and the network do in between, everything that any number of passes leads
to is reached through such moments.
-/

/-- What the other ends send from now on, and what the network takes, for each slot. -/
structure Network where
  arrivals : Nat → List Arrival
  grants : Nat → List Grant

/-- Nothing was written to the socket of a connection that comes. -/
def Incoming.IsFresh : Incoming → Prop
  | .connection socket _ _ => socket.sent = []
  | .interrupted | .failed => True

namespace Switchboard

/-- The connections with other things to come. -/
def onNetwork (switchboard : Switchboard σ) (network : Network) : Switchboard σ :=
  { switchboard with
    channels := switchboard.channels.mapIdx fun slot channel =>
      { channel with
        socket? := channel.socket?.map fun socket =>
          { socket with arrivals := network.arrivals slot, grants := network.grants slot } } }

/-- The turn of a connection, at its start. -/
def turnOf (switchboard : Switchboard σ) (connection : Channel) : Turn σ where
  channel := connection
  service := switchboard.service
  counters := switchboard.counters

/-- The switchboard once a slot had its turn. -/
def afterTurn (switchboard : Switchboard σ) (slot : Nat) (turn : Turn σ) : Switchboard σ :=
  { switchboard with
    channels := switchboard.channels.set slot turn.channel
    service := turn.service
    counters := turn.counters }

/-- The switchboard once the connection of a slot ended. -/
def afterEnding
    (switchboard : Switchboard σ)
    (slot : Nat)
    (ending : Ending)
    (service : σ) :
    Switchboard σ :=
  { switchboard with
    channels := switchboard.channels.modify slot Channel.detach
    pool := (switchboard.pool.release slot).2
    service := service
    counters := switchboard.counters.countEnding ending }

/-- The switchboard once a connection was bound to a slot. -/
def afterAccepting
    (switchboard : Switchboard σ)
    (pool : IndexPool)
    (slot : Nat)
    (socket : Socket)
    (peer : SocketAddress)
    (now : Nat)
    (service : σ) :
    Switchboard σ :=
  { switchboard with
    channels := switchboard.channels.modify slot fun free => free.attach socket peer now
    pool := pool
    service := service
    counters :=
      { switchboard.counters with accepted := switchboard.counters.accepted + 1 } }

/-- The connection of a slot that ended in a turn. -/
def departureOf (slot : Nat) (turn : Turn σ) (ending : Ending) : Departure where
  slot := slot
  peer? := turn.channel.peer?
  socket? := turn.channel.socket?
  ending := ending

/-- What may become of something that is found when a connection is to be accepted. -/
inductive Accepts
    (protocol : ConnectionProtocol σ)
    (now : Nat)
    (before : Switchboard σ) :
    Incoming → Switchboard σ → Prop where
  | failed : Accepts protocol now before .failed before
  | interrupted : Accepts protocol now before .interrupted before
  | rejected
      {socket : Socket}
      {peer : SocketAddress}
      {watched : Bool}
      (full : before.pool.acquire? = none) :
      Accepts protocol now before (.connection socket peer watched) before.reject
  | admitted
      {socket : Socket}
      {peer : SocketAddress}
      {slot : Nat}
      {pool : IndexPool}
      {service : σ}
      (acquired : before.pool.acquire? = some (slot, pool))
      (told : protocol.accept before.service slot peer = .ok service) :
      Accepts protocol now before (.connection socket peer true)
        (before.afterAccepting pool slot socket peer now service)
  | givenUp
      {socket : Socket}
      {peer : SocketAddress}
      {slot : Nat}
      {pool : IndexPool}
      (acquired : before.pool.acquire? = some (slot, pool)) :
      Accepts protocol now before (.connection socket peer false)
        { before with pool := (pool.release slot).2 }

/-- What may become of a slot whose turn it is. -/
inductive Serves
    (protocol : ConnectionProtocol σ)
    (clock : PassClock)
    (slot : Nat)
    (before : Switchboard σ) :
    List Departure → Switchboard σ → Prop where
  | skipped
      (free : before.pool.isTaken slot = false) :
      Serves protocol clock slot before [] before
  | stayed
      {connection : Channel}
      {after : AfterTurn σ}
      (taken : before.pool.isTaken slot = true)
      (found : before.channels[slot]? = some connection)
      (turned :
        (before.turnOf connection).take protocol slot before.settings.idleLimit clock = .ok after)
      (goesOn : after.ending? = none) :
      Serves protocol clock slot before [] (before.afterTurn slot after.turn)
  | ended
      {connection : Channel}
      {after : AfterTurn σ}
      {ending : Ending}
      {service : σ}
      (taken : before.pool.isTaken slot = true)
      (found : before.channels[slot]? = some connection)
      (turned :
        (before.turnOf connection).take protocol slot before.settings.idleLimit clock = .ok after)
      (ends : after.ending? = some ending)
      (dropped : protocol.drop after.turn.service slot = .ok service) :
      Serves protocol clock slot before [departureOf slot after.turn ending]
        ((before.afterTurn slot after.turn).afterEnding slot ending service)

variable
  {protocol : ConnectionProtocol σ}
  {before after start : Switchboard σ}
  {departures departed : List Departure}

/-- A channel once a connection was bound to a slot. -/
theorem channel_of_afterAccepting
    {pool : IndexPool}
    {slot other now : Nat}
    {socket : Socket}
    {peer : SocketAddress}
    {service : σ}
    {channel : Channel}
    (found :
      (before.afterAccepting pool slot socket peer now service).channels[other]? = some channel) :
    (∃ former,
      slot = other ∧
        before.channels[other]? = some former ∧ channel = former.attach socket peer now) ∨
      slot ≠ other ∧ before.channels[other]? = some channel := by
  simp only [afterAccepting, List.getElem?_modify, Option.map_eq_map, Option.map_eq_some_iff]
    at found
  obtain ⟨former, wasThere, rfl⟩ := found
  by_cases here : slot = other
  · exact .inl ⟨former, here, wasThere, if_pos here⟩
  · exact .inr ⟨here, by rwa [if_neg here]⟩

/-- A channel once a slot had its turn. -/
theorem channel_of_afterTurn
    {slot other : Nat}
    {turn : Turn σ}
    {channel : Channel}
    (found : (before.afterTurn slot turn).channels[other]? = some channel) :
    slot = other ∧ channel = turn.channel ∨
      slot ≠ other ∧ before.channels[other]? = some channel := by
  simp only [afterTurn] at found
  by_cases here : slot = other
  · subst here
    rw [List.getElem?_set_self'] at found
    obtain ⟨_, -, rfl⟩ := Option.map_eq_some_iff.mp found
    exact .inl ⟨rfl, rfl⟩
  · rw [List.getElem?_set_ne here] at found
    exact .inr ⟨here, found⟩

/-- A channel once the connection of a slot ended. -/
theorem channel_of_afterEnding
    {slot other : Nat}
    {ending : Ending}
    {service : σ}
    {channel : Channel}
    (found : (before.afterEnding slot ending service).channels[other]? = some channel) :
    (∃ former, slot = other ∧ before.channels[other]? = some former ∧ channel = former.detach) ∨
      slot ≠ other ∧ before.channels[other]? = some channel := by
  simp only [afterEnding, List.getElem?_modify, Option.map_eq_map, Option.map_eq_some_iff]
    at found
  obtain ⟨former, wasThere, rfl⟩ := found
  by_cases here : slot = other
  · exact .inl ⟨former, here, wasThere, if_pos here⟩
  · exact .inr ⟨here, by rwa [if_neg here]⟩

theorem accept_singleton_eq_ok
    {now : Nat}
    {incoming : Incoming} :
    before.accept protocol now [incoming] = .ok after ↔
      Accepts protocol now before incoming after := by
  constructor
  · intro accepted
    cases incoming with
    | failed =>
        cases accepted
        exact .failed
    | interrupted =>
        cases accepted
        exact .interrupted
    | connection socket peer watched =>
        unfold Switchboard.accept at accepted
        split at accepted
        next full =>
          cases accepted
          exact .rejected full
        next slot pool acquired =>
          cases watched with
          | false =>
              cases accepted
              exact .givenUp acquired
          | true =>
              obtain ⟨_, admitted, answered⟩ := Checked.bind_eq_ok.mp accepted
              obtain ⟨service, told, bound⟩ := Checked.bind_eq_ok.mp admitted
              cases bound
              cases answered
              exact .admitted acquired told
  · intro accepts
    cases accepts with
    | failed | interrupted => rfl
    | rejected full => simp only [Switchboard.accept, full]
    | givenUp acquired => simp [Switchboard.accept, acquired]
    | admitted acquired told =>
        simp only [Switchboard.accept, acquired, if_true, admitTo, told, bind, Except.bind]
        rfl

theorem serveAll_singleton_eq_ok
    {clock : PassClock}
    {slot : Nat} :
    before.serveAll protocol clock [slot] = .ok (departures, after) ↔
      Serves protocol clock slot before departures after := by
  constructor
  · intro served
    simp only [serveAll] at served
    split at served
    next taken =>
      obtain ⟨connection, found, rest⟩ := Checked.bind_eq_ok.mp served
      obtain ⟨⟨departure?, left⟩, turn, answered⟩ := Checked.bind_eq_ok.mp rest
      obtain ⟨afterTurn, turned, ended⟩ := Checked.bind_eq_ok.mp turn
      have isThere := Checked.lookUp_eq_ok.mp found
      cases answered
      cases ends : afterTurn.ending? with
      | none =>
          simp only [ends] at ended
          cases ended
          exact .stayed taken isThere turned ends
      | some ending =>
          simp only [ends] at ended
          obtain ⟨_, tornDown, answered⟩ := Checked.bind_eq_ok.mp ended
          obtain ⟨service, dropped, cleared⟩ := Checked.bind_eq_ok.mp tornDown
          cases cleared
          cases answered
          exact .ended taken isThere turned ends dropped
    next free =>
      cases served
      exact .skipped (by simpa using free)
  · intro serves
    cases serves with
    | skipped free => simp [serveAll, free]
    | @stayed connection afterTurn taken found turned goesOn =>
        have served :
            before.serve protocol clock slot connection =
              .ok (none, before.afterTurn slot afterTurn.turn) := by
          refine Checked.bind_eq_ok.mpr ⟨afterTurn, turned, ?_⟩
          simp only [goesOn]
          rfl
        rw [serveAll, if_pos taken]
        exact Checked.bind_eq_ok.mpr ⟨connection, Checked.lookUp_of_getElem? found,
          Checked.bind_eq_ok.mpr ⟨_, served, rfl⟩⟩
    | @ended connection afterTurn ending service taken found turned ends dropped =>
        have served :
            before.serve protocol clock slot connection =
              .ok (some (departureOf slot afterTurn.turn ending),
                (before.afterTurn slot afterTurn.turn).afterEnding slot ending service) := by
          refine Checked.bind_eq_ok.mpr ⟨afterTurn, turned, ?_⟩
          simp only [ends, tearDown, dropped, bind, Except.bind]
          rfl
        rw [serveAll, if_pos taken]
        exact Checked.bind_eq_ok.mpr ⟨connection, Checked.lookUp_of_getElem? found,
          Checked.bind_eq_ok.mpr ⟨_, served, rfl⟩⟩

/-- Whatever is found but a failure, what is found behind it is accepted next. -/
theorem accept_cons
    {first : Incoming}
    (goesOn : first ≠ .failed)
    (now : Nat)
    (rest : List Incoming) :
    before.accept protocol now (first :: rest) =
      before.accept protocol now [first] >>= fun middle => middle.accept protocol now rest := by
  cases first with
  | failed => exact absurd rfl goesOn
  | interrupted => rfl
  | connection socket peer watched =>
      simp only [Switchboard.accept]
      split
      · rfl
      · split
        · rw [bind_assoc]
          rfl
        · rfl

theorem serveAll_cons (clock : PassClock) (slot : Nat) (rest : List Nat) :
    before.serveAll protocol clock (slot :: rest) =
      (do
        let (first, middle) ← before.serveAll protocol clock [slot]
        let (later, last) ← middle.serveAll protocol clock rest
        return (first ++ later, last)) := by
  have ok_bind
      (answer : List Departure × Switchboard σ)
      (next : List Departure × Switchboard σ → Checked (List Departure × Switchboard σ)) :
      (Except.ok answer >>= next) = next answer :=
    rfl
  simp only [serveAll]
  split
  next taken =>
    simp only [bind_assoc, ok_bind, pure_bind, List.append_nil]
  next free =>
    simp only [ok_bind, List.nil_append]
    exact (bind_pure _).symm

theorem length_noteReadiness (switchboard : Switchboard σ) (events : List Readiness) :
    (switchboard.noteReadiness events).channels.length = switchboard.channels.length := by
  unfold noteReadiness
  generalize switchboard.channels = channels
  induction events generalizing channels with
  | nil =>
      rfl
  | cons event rest inductionHypothesis =>
      exact (inductionHypothesis _).trans (List.length_modify _ _ _)

/-- A channel once readiness was noted, whatever was noted of it. -/
theorem channel_of_noteReadiness
    {events : List Readiness}
    {slot : Nat}
    {channel : Channel}
    (found : (before.noteReadiness events).channels[slot]? = some channel) :
    ∃ former readable writable,
      before.channels[slot]? = some former ∧ channel = former.noteReadiness readable writable := by
  unfold noteReadiness at found
  generalize before.channels = channels at found ⊢
  induction events generalizing channels with
  | nil =>
      exact ⟨channel, false, false, found, by simp [Channel.noteReadiness]⟩
  | cons event rest inductionHypothesis =>
      obtain ⟨noted, readable, writable, isNoted, rfl⟩ := inductionHypothesis _ found
      simp only [List.getElem?_modify, Option.map_eq_map, Option.map_eq_some_iff] at isNoted
      obtain ⟨former, wasThere, rfl⟩ := isNoted
      by_cases here : event.slot = slot
      · refine ⟨former, event.readable || readable, event.writable || writable, wasThere, ?_⟩
        simp [here, Channel.noteReadiness, Bool.or_assoc]
      · exact ⟨former, readable, writable, wasThere, by rw [if_neg here]⟩

/-- A channel once other things come to its socket. -/
theorem channel_of_onNetwork
    {network : Network}
    {slot : Nat}
    {channel : Channel}
    (found : (before.onNetwork network).channels[slot]? = some channel) :
    ∃ former,
      before.channels[slot]? = some former ∧
        channel =
          { former with
            socket? := former.socket?.map fun socket =>
              { socket with
                arrivals := network.arrivals slot
                grants := network.grants slot } } := by
  simp only [onNetwork, List.getElem?_mapIdx, Option.map_eq_some_iff] at found
  obtain ⟨former, wasThere, rfl⟩ := found
  exact ⟨former, wasThere, rfl⟩

/-- What passes of a switchboard may lead to, and the connections that ended till then. -/
inductive Reached
    (protocol : ConnectionProtocol σ)
    (start : Switchboard σ) :
    List Departure → Switchboard σ → Prop where
  | start : Reached protocol start [] start
  /-- The other ends and the network may do anything at any time. -/
  | network
      {departures : List Departure}
      {before : Switchboard σ}
      (reached : Reached protocol start departures before)
      (network : Network) :
      Reached protocol start departures (before.onNetwork network)
  | accept
      {departures : List Departure}
      {before after : Switchboard σ}
      {now : Nat}
      {incoming : Incoming}
      (reached : Reached protocol start departures before)
      (fresh : incoming.IsFresh)
      (accepted : before.accept protocol now [incoming] = .ok after) :
      Reached protocol start departures after
  | note
      {departures : List Departure}
      {before : Switchboard σ}
      (reached : Reached protocol start departures before)
      (events : List Readiness) :
      Reached protocol start departures (before.noteReadiness events)
  | serve
      {departures departed : List Departure}
      {before after : Switchboard σ}
      {clock : PassClock}
      {slot : Nat}
      (reached : Reached protocol start departures before)
      (served : before.serveAll protocol clock [slot] = .ok (departed, after)) :
      Reached protocol start (departures ++ departed) after

namespace Reached

theorem acceptAll
    {now : Nat}
    {incoming : List Incoming}
    (reached : Reached protocol start departures before)
    (fresh : ∀ found ∈ incoming, found.IsFresh)
    (accepted : before.accept protocol now incoming = .ok after) :
    Reached protocol start departures after := by
  induction incoming generalizing before with
  | nil =>
      cases accepted
      exact reached
  | cons first rest inductionHypothesis =>
      by_cases stops : first = .failed
      · subst stops
        cases accepted
        exact reached
      · rw [accept_cons stops] at accepted
        obtain ⟨middle, acceptedFirst, acceptedRest⟩ := Checked.bind_eq_ok.mp accepted
        exact inductionHypothesis
          (.accept reached (fresh first List.mem_cons_self) acceptedFirst)
          (fun found member => fresh found (List.mem_cons_of_mem first member)) acceptedRest

theorem serveAll
    {clock : PassClock}
    {slots : List Nat}
    (reached : Reached protocol start departures before)
    (served : before.serveAll protocol clock slots = .ok (departed, after)) :
    Reached protocol start (departures ++ departed) after := by
  induction slots generalizing before departures departed with
  | nil =>
      cases served
      rwa [List.append_nil]
  | cons slot rest inductionHypothesis =>
      rw [serveAll_cons] at served
      obtain ⟨⟨first, middle⟩, turn, others⟩ := Checked.bind_eq_ok.mp served
      obtain ⟨⟨later, last⟩, turns, answered⟩ := Checked.bind_eq_ok.mp others
      cases answered
      rw [← List.append_assoc]
      exact inductionHypothesis (.serve reached turn) turns

/-- What is reached before a pass leads to what is reached after it. -/
theorem pass
    {input : PassInput}
    {afterPass : AfterPass σ}
    (reached : Reached protocol start departures before)
    (fresh : ∀ found ∈ input.incoming, found.IsFresh)
    (passed : before.pass protocol input = .ok afterPass) :
    Reached protocol start (departures ++ afterPass.departures) afterPass.switchboard := by
  have ready
      {accepted : Switchboard σ}
      (reached : Reached protocol start departures accepted)
      (events : List Readiness)
      (served : accepted.serveReady protocol input.clock events = .ok afterPass) :
      Reached protocol start (departures ++ afterPass.departures) afterPass.switchboard := by
    obtain ⟨⟨departed, after⟩, turns, answered⟩ := Checked.bind_eq_ok.mp served
    cases answered
    exact serveAll (.note reached events) turns
  obtain ⟨accepted, accepting, rest⟩ := Checked.bind_eq_ok.mp passed
  have acceptedAll := reached.acceptAll fresh accepting
  cases told : input.report with
  | ready events =>
      rw [told] at rest
      exact ready acceptedAll events rest
  | interrupted =>
      rw [told] at rest
      exact ready acceptedAll [] rest
  | failed reason =>
      rw [told] at rest
      cases rest
      rwa [List.append_nil]

end Reached

end Switchboard

end Gatehouse
