import Gatehouse.Proofs.Transport.Steps

namespace Gatehouse.Turn

/-!
# Closing a connection

A connection is to be closed once the service says so, and stays so. Nothing
more is read from it or staged for it then, and it is closed only when nothing
is being written.
-/

variable
  {protocol : ConnectionProtocol σ}
  {index : Nat}
  {turn : Turn σ}
  {after : AfterTurn σ}

/-- The close is latched by the status of the service only, and stays latched. -/
theorem closing_of_step
    {before after : Turn σ}
    (step : Step protocol index before after) :
    (before.channel.closing = true → after.channel.closing = true) ∧
      (after.channel.closing = true →
        before.channel.closing = true ∧ after.service = before.service ∨
          protocol.status after.service index = .ok .closing) := by
  cases step with
  | receive now going =>
      have same := (before.channel.writesAlike_receiveMessage now).closing
      exact ⟨fun closing => same.trans closing, fun closing => .inl ⟨same.symm.trans closing, rfl⟩⟩
  | handle length going handled =>
      refine ⟨id, fun closing => ?_⟩
      exact absurd closing
        (by simpa [afterMessage, Channel.putMessage, Channel.awaitNext] using going)
  | produceNothing going idle produced =>
      exact ⟨id, fun closing => absurd closing (by simpa using going)⟩
  | produce going idle produced something =>
      exact ⟨id, fun closing => absurd closing (by simpa [Channel.startWriting] using going)⟩
  | @transmit staged now writing shown =>
      have same := (before.channel.readsAlike_transmit staged now).closing
      exact ⟨fun closing => same.trans closing, fun closing => .inl ⟨same.symm.trans closing, rfl⟩⟩
  | latch closes =>
      exact ⟨fun _ => rfl, fun _ => .inr closes⟩

theorem closing_of_take
    {timeout : Nat}
    {clock : PassClock}
    (taken : turn.take protocol index timeout clock = .ok after) :
    (turn.channel.closing = true → after.turn.channel.closing = true) ∧
      (after.turn.channel.closing = true →
        turn.channel.closing = true ∨
          protocol.status after.turn.service index = .ok .closing) := by
  refine @holds_of_take _ protocol index turn after
    (fun next =>
      (turn.channel.closing = true → next.channel.closing = true) ∧
        (next.channel.closing = true →
          turn.channel.closing = true ∨ protocol.status next.service index = .ok .closing))
    timeout clock ?_ ⟨id, .inl⟩ taken
  rintro before next step ⟨stays, latched⟩
  obtain ⟨kept, caused⟩ := closing_of_step step
  refine ⟨fun closing => kept (stays closing), fun closing => ?_⟩
  rcases caused closing with ⟨closingBefore, same⟩ | closes
  · rw [same]
    exact latched closingBefore
  · exact .inr closes

/-- Reading ends a connection only while it is not to be closed. -/
theorem closing_eq_false_of_read
    {now : Nat}
    {ending : Ending}
    (read : turn.read protocol index now = .ok after)
    (ends : after.ending? = some ending) :
    after.turn.channel.closing = false := by
  have stops {turn : Turn σ} (reads : (turn.channel.readable && !turn.channel.closing) = true) :
      (turn.afterRead (turn.channel.receiveMessage now)).channel.closing = false := by
    refine ((turn.channel.writesAlike_receiveMessage now).closing).trans ?_
    simpa using (Bool.and_eq_true_iff.mp reads).2
  fun_induction Turn.read protocol index now turn with
  | case1 turn ready length whole turn' inductionHypothesis =>
      obtain ⟨message, sliced, rest⟩ := Checked.bind_eq_ok.mp read
      obtain ⟨⟨left, service⟩, handled, goesOn⟩ := Checked.bind_eq_ok.mp rest
      exact inductionHypothesis left service goesOn
  | case2 turn ready waiting =>
      cases read
      cases ends
  | case3 turn ready ended =>
      cases read
      exact stops ready
  | case4 turn ready length bad =>
      cases read
      exact stops ready
  | case5 turn ready error failed =>
      cases read
      exact stops ready
  | case6 turn notReady =>
      cases read
      cases ends

/-- Writing ends a connection only by aborting it. -/
theorem ending_of_write
    {now : Nat}
    {ending : Ending}
    (written : turn.write protocol index now = .ok after)
    (ends : after.ending? = some ending) :
    ending = .aborted := by
  unfold write at written
  split at written
  next blocked =>
    cases written
    cases ends
  next writable =>
    obtain ⟨⟨isStaged, staging⟩, staged, answered⟩ := Checked.bind_eq_ok.mp written
    dsimp only at answered
    split at answered
    next nothing =>
      cases answered
      cases ends
    next something =>
      obtain ⟨bytes, shown, transmitted⟩ := Checked.bind_eq_ok.mp answered
      cases transmitted
      dsimp only at ends
      split at ends <;> cases ends
      rfl

/-- A connection that is to be closed is closed once nothing is being written. -/
theorem isWriting_eq_false_of_check
    {now timeout : Nat}
    (checked : turn.check protocol index now timeout = .ok after)
    (ends : after.ending? = some .closed) :
    after.turn.channel.isWriting = false := by
  have idle {channel : Channel} (ends : ending? channel now timeout = some .closed) :
      channel.isWriting = false := by
    unfold ending? at ends
    split at ends
    next isOver =>
      simpa using (Bool.and_eq_true_iff.mp isOver).2
    next going =>
      split at ends <;> cases ends
  unfold check at checked
  split at checked
  next closing =>
    cases checked
    exact idle ends
  next going =>
    obtain ⟨disposition, asked, answered⟩ := Checked.bind_eq_ok.mp checked
    cases disposition <;> cases answered <;> exact idle ends

/-- A turn that closes a connection which is to be closed leaves nothing to write. -/
theorem isWriting_eq_false_of_take
    {timeout : Nat}
    {clock : PassClock}
    (taken : turn.take protocol index timeout clock = .ok after)
    (ends : after.ending? = some .closed)
    (closing : after.turn.channel.closing = true) :
    after.turn.channel.isWriting = false := by
  obtain ⟨afterReading, read, rest⟩ := Checked.bind_eq_ok.mp taken
  obtain ⟨afterWriting, written, checked⟩ := Checked.bind_eq_ok.mp rest
  unfold orElse at written checked
  split at checked
  next ending ended =>
    cases checked
    split at written
    next endingReading endedReading =>
      cases written
      have going := closing_eq_false_of_read read endedReading
      rw [going] at closing
      cases closing
    next goesOn =>
      cases ending_of_write written ends
  next goesOn =>
    exact isWriting_eq_false_of_check checked ends

end Gatehouse.Turn
