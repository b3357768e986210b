import Gatehouse.Proofs.Session.InTurn
import Gatehouse.Proofs.Transport.Reached
import Gatehouse.Proofs.Transport.Reading

namespace Gatehouse

/-!
# A switchboard with a record

With the strict service in place of the plain one the same happens to every
connection, and nothing is refused, as long as the record agrees that the slot
has a connection.
-/

namespace Turn

/-- A turn of the strict service with its record. -/
def recorded (turn : Turn σ) (calls : List ProtocolCall) : Turn (σ × List ProtocolCall) where
  channel := turn.channel
  service := (turn.service, calls)
  counters := turn.counters

end Turn

/-- The end of a turn of the strict service with its record. -/
def AfterTurn.recorded
    (after : AfterTurn σ)
    (calls : List ProtocolCall) :
    AfterTurn (σ × List ProtocolCall) where
  ending? := after.ending?
  turn := after.turn.recorded calls

/-- A switchboard of the strict service with its record. -/
def Switchboard.recorded
    (switchboard : Switchboard σ)
    (calls : List ProtocolCall) :
    Switchboard (σ × List ProtocolCall) where
  settings := switchboard.settings
  channels := switchboard.channels
  pool := switchboard.pool
  service := (switchboard.service, calls)
  counters := switchboard.counters

section

variable
  {protocol : ConnectionProtocol σ}
  {index : Nat}
  {calls : List ProtocolCall}

namespace Turn

variable
  {turn : Turn σ}
  {after : AfterTurn σ}

theorem read_recorded_of_stop
    {now : Nat}
    {stop : ReadStop}
    (ready : (turn.channel.readable && !turn.channel.closing) = true)
    (stopped : (turn.channel.receiveMessage now).event = stop)
    (stops : ∀ length, stop ≠ .message length) :
    (turn.recorded calls).read protocol.strict index now =
      .ok {
        ending? := stop.ending?
        turn := (turn.afterRead (turn.channel.receiveMessage now)).recorded calls
      } := by
  subst stopped
  exact read_of_stop ready rfl stops

theorem read_recorded
    {now : Nat}
    (connected : isConnected index calls = true)
    (read : turn.read protocol index now = .ok after) :
    ∃ later,
      (turn.recorded calls).read protocol.strict index now = .ok (after.recorded later) ∧
        isConnected index later = true := by
  revert calls
  fun_induction Turn.read protocol index now turn with
  | case1 turn ready length whole turn' inductionHypothesis =>
      intro calls connected
      obtain ⟨message, sliced, rest⟩ := Checked.bind_eq_ok.mp read
      obtain ⟨⟨left, service⟩, handled, goesOn⟩ := Checked.bind_eq_ok.mp rest
      have recorded :
          protocol.strict.read (turn.service, calls) index message =
            .ok (left, service, calls ++ [.read index message]) :=
        ConnectionProtocol.read_strict_eq_ok.mpr ⟨connected, handled, rfl⟩
      have stillConnected : isConnected index (calls ++ [.read index message]) = true := by
        rw [isConnected_append_singleton]
        exact connected
      obtain ⟨later, readLater, connectedLater⟩ :=
        inductionHypothesis left service goesOn stillConnected
      have goesOnToo : (turn.recorded calls).read protocol.strict index now = _ :=
        read_of_message ready rfl whole
      refine ⟨later, goesOnToo.trans ?_, connectedLater⟩
      exact Checked.bind_eq_ok.mpr
        ⟨message, sliced, Checked.bind_eq_ok.mpr ⟨_, recorded, readLater⟩⟩
  | case2 turn ready waiting =>
      intro calls connected
      cases read
      exact ⟨calls, read_recorded_of_stop ready waiting (by simp), connected⟩
  | case3 turn ready ended =>
      intro calls connected
      cases read
      exact ⟨calls, read_recorded_of_stop ready ended (by simp), connected⟩
  | case4 turn ready length bad =>
      intro calls connected
      cases read
      exact ⟨calls, read_recorded_of_stop ready bad (by simp), connected⟩
  | case5 turn ready error failed =>
      intro calls connected
      cases read
      exact ⟨calls, read_recorded_of_stop ready failed (by simp), connected⟩
  | case6 turn notReady =>
      intro calls connected
      cases read
      refine ⟨calls, ?_, connected⟩
      rw [Turn.read]
      exact if_neg notReady

theorem stage_recorded
    {isStaged : Bool}
    {staging : Turn σ}
    (connected : isConnected index calls = true)
    (staged : turn.stage protocol index = .ok (isStaged, staging)) :
    ∃ later,
      (turn.recorded calls).stage protocol.strict index = .ok (isStaged, staging.recorded later) ∧
        isConnected index later = true := by
  unfold stage at staged ⊢
  split at staged
  next writing =>
    cases staged
    exact ⟨calls, if_pos writing, connected⟩
  next idle =>
    split at staged
    next closing =>
      cases staged
      exact ⟨calls, (if_neg idle).trans (if_pos closing), connected⟩
    next going =>
      obtain ⟨⟨length, service⟩, produced, answered⟩ := Checked.bind_eq_ok.mp staged
      have recorded :
          protocol.strict.produce (turn.service, calls) index =
            .ok (length, service, calls ++ [.produce index]) :=
        ConnectionProtocol.produce_strict_eq_ok.mpr ⟨connected, produced, rfl⟩
      refine ⟨calls ++ [.produce index], ?_, ?_⟩
      · refine (if_neg idle).trans ((if_neg going).trans ?_)
        refine Checked.bind_eq_ok.mpr ⟨_, recorded, ?_⟩
        dsimp only at answered ⊢
        split at answered
        next nothing =>
          cases answered
          exact if_pos nothing
        next something =>
          cases answered
          exact if_neg something
      · rw [isConnected_append_singleton]
        exact connected

theorem write_recorded
    {now : Nat}
    (connected : isConnected index calls = true)
    (written : turn.write protocol index now = .ok after) :
    ∃ later,
      (turn.recorded calls).write protocol.strict index now = .ok (after.recorded later) ∧
        isConnected index later = true := by
  unfold write at written ⊢
  split at written
  next blocked =>
    cases written
    exact ⟨calls, if_pos blocked, connected⟩
  next writable =>
    obtain ⟨⟨isStaged, staging⟩, staged, answered⟩ := Checked.bind_eq_ok.mp written
    obtain ⟨later, recorded, stillConnected⟩ := stage_recorded connected staged
    refine ⟨later, ?_, stillConnected⟩
    refine (if_neg writable).trans (Checked.bind_eq_ok.mpr ⟨_, recorded, ?_⟩)
    dsimp only at answered ⊢
    split at answered
    next nothing =>
      cases answered
      exact if_pos nothing
    next something =>
      obtain ⟨bytes, shown, transmitted⟩ := Checked.bind_eq_ok.mp answered
      cases transmitted
      have shownToo : protocol.strict.staged (staging.service, later) index = .ok bytes :=
        ConnectionProtocol.staged_strict_eq_ok.mpr ⟨stillConnected, shown⟩
      exact (if_neg something).trans (Checked.bind_eq_ok.mpr ⟨bytes, shownToo, rfl⟩)

theorem check_recorded
    {now timeout : Nat}
    (connected : isConnected index calls = true)
    (checked : turn.check protocol index now timeout = .ok after) :
    (turn.recorded calls).check protocol.strict index now timeout =
      .ok (after.recorded calls) := by
  unfold check at checked ⊢
  split at checked
  next closing =>
    cases checked
    exact if_pos closing
  next going =>
    obtain ⟨disposition, asked, answered⟩ := Checked.bind_eq_ok.mp checked
    have askedToo : protocol.strict.status (turn.service, calls) index = .ok disposition :=
      ConnectionProtocol.status_strict_eq_ok.mpr ⟨connected, asked⟩
    refine (if_neg going).trans (Checked.bind_eq_ok.mpr ⟨disposition, askedToo, ?_⟩)
    cases disposition <;> cases answered <;> rfl

/-- A turn of a connection is not refused. -/
theorem take_recorded
    {timeout : Nat}
    {clock : PassClock}
    (connected : isConnected index calls = true)
    (taken : turn.take protocol index timeout clock = .ok after) :
    ∃ later,
      (turn.recorded calls).take protocol.strict index timeout clock =
          .ok (after.recorded later) ∧
        isConnected index later = true := by
  obtain ⟨afterReading, read, rest⟩ := Checked.bind_eq_ok.mp taken
  obtain ⟨afterWriting, written, checked⟩ := Checked.bind_eq_ok.mp rest
  obtain ⟨readCalls, readToo, connectedReading⟩ := read_recorded connected read
  have writtenToo :
      ∃ later,
        orElse (afterReading.recorded readCalls) (Turn.write protocol.strict index clock.moving) =
            .ok (afterWriting.recorded later) ∧
          isConnected index later = true := by
    unfold orElse at written ⊢
    cases ended : afterReading.ending? with
    | some ending =>
        rw [ended] at written
        cases written
        exact ⟨readCalls, by simp [AfterTurn.recorded, ended], connectedReading⟩
    | none =>
        rw [ended] at written
        simpa [AfterTurn.recorded, ended] using write_recorded connectedReading written
  obtain ⟨writtenCalls, writtenToo, connectedWriting⟩ := writtenToo
  refine ⟨writtenCalls, ?_, connectedWriting⟩
  refine Checked.bind_eq_ok.mpr ⟨_, readToo, Checked.bind_eq_ok.mpr ⟨_, writtenToo, ?_⟩⟩
  unfold orElse at checked ⊢
  cases ended : afterWriting.ending? with
  | some ending =>
      rw [ended] at checked
      cases checked
      simp [AfterTurn.recorded, ended]
  | none =>
      rw [ended] at checked
      simpa [AfterTurn.recorded, ended] using check_recorded connectedWriting checked

end Turn

namespace Switchboard

variable {before after : Switchboard σ}

/-- Accepting is not refused if the record agrees on the slot that is free. -/
theorem accept_recorded
    {now : Nat}
    {incoming : Incoming}
    (free :
      ∀ slot pool, before.pool.acquire? = some (slot, pool) → isConnected slot calls = false)
    (accepted : before.accept protocol now [incoming] = .ok after) :
    ∃ later,
      (before.recorded calls).accept protocol.strict now [incoming] =
        .ok (after.recorded later) := by
  simp only [accept_singleton_eq_ok] at accepted ⊢
  cases accepted with
  | failed => exact ⟨calls, .failed⟩
  | interrupted => exact ⟨calls, .interrupted⟩
  | rejected full => exact ⟨calls, .rejected full⟩
  | givenUp acquired => exact ⟨calls, .givenUp acquired⟩
  | @admitted socket peer slot pool service acquired told =>
      exact ⟨calls ++ [.accept slot peer], .admitted acquired
        (ConnectionProtocol.accept_strict_eq_ok.mpr ⟨free slot pool acquired, told, rfl⟩)⟩

/-- A slot gets its turn unrefused if the record agrees that it is taken. -/
theorem serve_recorded
    {clock : PassClock}
    {slot : Nat}
    {departures : List Departure}
    (connected : before.pool.isTaken slot = true → isConnected slot calls = true)
    (served : before.serveAll protocol clock [slot] = .ok (departures, after)) :
    ∃ later,
      (before.recorded calls).serveAll protocol.strict clock [slot] =
        .ok (departures, after.recorded later) := by
  simp only [serveAll_singleton_eq_ok] at served ⊢
  cases served with
  | skipped free => exact ⟨calls, .skipped free⟩
  | @stayed connection afterTurn taken found turned goesOn =>
      obtain ⟨later, turnedToo, -⟩ := Turn.take_recorded (connected taken) turned
      have serves :
          Serves protocol.strict clock slot (before.recorded calls) []
            ((before.recorded calls).afterTurn slot (afterTurn.recorded later).turn) :=
        .stayed taken found turnedToo goesOn
      exact ⟨later, serves⟩
  | @ended connection afterTurn ending service taken found turned ends dropped =>
      obtain ⟨later, turnedToo, stillConnected⟩ := Turn.take_recorded (connected taken) turned
      have serves :
          Serves protocol.strict clock slot (before.recorded calls)
            [departureOf slot (afterTurn.recorded later).turn ending]
            (((before.recorded calls).afterTurn slot (afterTurn.recorded later).turn).afterEnding
              slot ending (service, later ++ [.drop slot])) :=
        .ended taken found turnedToo ends
          (ConnectionProtocol.drop_strict_eq_ok.mpr ⟨stillConnected, dropped, rfl⟩)
      exact ⟨later ++ [ProtocolCall.drop slot], serves⟩

end Switchboard

end

end Gatehouse
