import Gatehouse.Proofs.Session.Game.Progress
import Gatehouse.Proofs.Session.Game.Service

namespace Gatehouse

/-!
# A dismissal is the last reply

A session that dismisses its client generates no more replies, and its drafts
leave one by one. So as long as it dismisses, the reason waits at the end of its
newest draft.
-/

/-- The newest draft that waits ends with the last reply that was generated. -/
theorem Transcript.IsSplit.payload_newest
    {transcript : Transcript}
    {key : CipherKey}
    {size : Nat}
    {older : List FrameDraft}
    {newest : FrameDraft}
    {sent waiting : List (List GameReply)}
    {earlier : List GameReply}
    {last : GameReply}
    (split : transcript.IsSplit key size (older ++ [newest]) sent waiting)
    (filled : newest.payload ≠ [])
    (replies_eq : transcript.replies = earlier ++ [last]) :
    ∃ front bytes, last.packet.encoding? = some bytes ∧ newest.payload = front ++ bytes := by
  have spelled := split.waiting_spelled
  rw [List.map_append, List.map_eq_append_iff] at spelled
  rcases spelled with ⟨groups, newestGroup, rfl, _, newestSpelled⟩
  obtain ⟨group, rfl, groupSpelled⟩ := List.map_eq_singleton_iff.mp newestSpelled
  rcases List.eq_nil_or_concat group with none | ⟨front, reply, rfl⟩
  · subst none
    exact absurd (Option.some.inj groupSpelled).symm filled
  · have same : last = reply := by
      have ends := split.replies_eq
      rw [replies_eq, List.flatten_append, List.flatten_singleton, List.concat_eq_append,
        ← List.append_assoc, ← List.append_assoc] at ends
      exact List.singleton_inj.mp (List.append_inj_right' ends rfl)
    rw [List.concat_eq_append, GameReply.bytes?, List.flatMap_append] at groupSpelled
    obtain ⟨frontBytes, bytes, _, encoded, payload_eq⟩ :=
      Packet.encoding?_append_eq_some groupSpelled
    exact ⟨frontBytes, bytes, by simpa [same] using encoded, payload_eq⟩

namespace GameSession

variable {config : Configuration} {service : KeyPair} {session : GameSession}
  {transcript : Transcript}

/-- If a session dismisses its client, a draft waits and the reason was generated last. -/
def DismissesLast (session : GameSession) (transcript : Transcript) : Prop :=
  session.phase = .dismissing →
    session.queue.drafts ≠ [] ∧
      ∃ earlier reason, transcript.replies = earlier ++ [.dismissal reason]

theorem dismissesLast_of_ne (other : session.phase ≠ .dismissing) :
    session.DismissesLast transcript :=
  fun dismissing => absurd dismissing other

/-- A session that dismisses after a message did so before, or the reason is what it replies. -/
theorem reactTo_dismisses
    {message : Bytes}
    {reaction : GameReaction}
    (reacted : session.reactTo config service message = .ok reaction)
    (dismissing : reaction.session.phase = .dismissing) :
    (session.phase = .dismissing ∧ reaction.session = session ∧ reaction.reply? = none) ∨
      ∃ reason, reaction.reply? = some (.dismissal reason) := by
  cases reacts_of_reactTo reacted with
  | hangsUp =>
      cases dismissing
  | passesOver =>
      exact .inl ⟨dismissing, rfl, rfl⟩
  | dismisses =>
      exact .inr ⟨_, rfl⟩
  | serves phase | letsIn _ _ _ _ _ phase =>
      cases phase.symm.trans dismissing

/-- A session that dismisses after it took a message has sent the reason at last. -/
theorem DismissesLast.carryOut
    {message : Bytes}
    {reaction : GameReaction}
    {pool : BlockPool}
    {after : AfterRead}
    (dismisses : session.DismissesLast transcript)
    (reacted : session.reactTo config service message = .ok reaction)
    (done : reaction.carryOut pool = .ok after) :
    after.session.DismissesLast (transcript.extend reaction.event) := by
  intro dismissing
  unfold GameReaction.carryOut at done
  unfold GameReaction.event
  split at done
  next silent =>
    cases done
    rcases reactTo_dismisses reacted dismissing with ⟨was, same, _⟩ | ⟨reason, replied⟩
    · simp only [silent, same, Option.elim]
      exact dismisses was
    · rw [silent] at replied
      cases replied
  next reply replied =>
    obtain ⟨⟨sender, left⟩, sent, answered⟩ := Checked.bind_eq_ok.mp done
    cases answered
    rcases send_eq_ok sent with hungUp | ⟨queue, waiting, queued⟩
    · simp only [hungUp] at dismissing
      cases dismissing
    · subst queued
      refine ⟨waiting, ?_⟩
      rcases reactTo_dismisses reacted dismissing with
        ⟨_, _, silent⟩ | ⟨reason, isReason⟩
      · rw [silent] at replied
        cases replied
      · rw [replied] at isReason
        cases isReason
        simp only [replied, Option.elim]
        exact ⟨transcript.replies, reason, rfl⟩

/-- A session that still dismisses after an output keeps the newest draft for later. -/
theorem stageNext_dismisses
    {pool left : BlockPool}
    {length : Nat}
    {after : GameSession}
    (produced : session.stageNext pool = .ok (length, after, left))
    (dismissing : after.phase = .dismissing) :
    session.phase = .dismissing ∧ (session.queue.drafts ≠ [] → after.queue.drafts ≠ []) := by
  rw [stageNext_eq] at produced
  cases drafts_eq : session.queue.drafts with
  | nil =>
      simp only [drafts_eq] at produced
      cases produced
      exact ⟨dismissing, fun waiting => absurd rfl waiting⟩
  | cons oldest later =>
      simp only [drafts_eq] at produced
      obtain ⟨⟨outcome, message⟩, _, answered⟩ := Checked.bind_eq_ok.mp produced
      cases outcome with
      | error error =>
          cases answered
          cases dismissing
      | ok length =>
          cases answered
          simp only [phaseAfterStaging] at dismissing
          split at dismissing
          next last =>
            cases dismissing
          next more =>
            refine ⟨dismissing, fun _ empty => ?_⟩
            exact more ⟨dismissing, by simpa [FrameQueue.isEmpty] using empty⟩

/-- An output keeps the reason for the end where it is. -/
theorem DismissesLast.produce
    {pool left : BlockPool}
    {length : Nat}
    {after : GameSession}
    {event : GameEvent}
    (dismisses : session.DismissesLast transcript)
    (produced : session.produce pool = .ok (length, after, left))
    (shown : after.eventOfOutput length = .ok event) :
    after.DismissesLast (transcript.extend event) := by
  intro dismissing
  rw [replies_extend_of_output shown]
  unfold GameSession.produce at produced
  simp only at produced
  split at produced
  next phase =>
    cases produced
    cases dismissing
  next phase =>
    cases produced
    cases dismissing
  next phase =>
    cases phase.symm.trans (stageNext_dismisses produced dismissing).1
  next phase =>
    obtain ⟨waiting, last⟩ := dismisses phase
    exact ⟨(stageNext_dismisses produced dismissing).2 waiting, last⟩
  next phase =>
    cases produced
    cases dismissing
  next phase =>
    cases produced
    cases phase.symm.trans dismissing
  next phase =>
    cases produced
    cases phase.symm.trans dismissing

end GameSession

namespace GameService

/-- What is claimed of sessions that dismiss their clients holds along every run. -/
theorem dismissesLast_of_observeAll
    {service after : GameService}
    {ledger later : Ledger}
    {calls : List ProtocolCall}
    (dismisses :
      ∀ (slot : Nat) (session : GameSession),
        service.sessions[slot]? = some session → session.DismissesLast (ledger slot))
    (observed : service.observeAll ledger calls = .ok (after, later)) :
    ∀ (slot : Nat) (session : GameSession),
      after.sessions[slot]? = some session → session.DismissesLast (later slot) := by
  refine forall_of_observeAll ?_ ?_ ?_ dismisses observed
  · intro session peer?
    exact GameSession.dismissesLast_of_ne (by simp [GameSession.cleared])
  · intro config key session transcript message reaction pool after sessionDismisses reacted done
    exact sessionDismisses.carryOut reacted done
  · intro session transcript pool length after left event sessionDismisses produced shown
    exact sessionDismisses.produce produced shown

end GameService

end Gatehouse
