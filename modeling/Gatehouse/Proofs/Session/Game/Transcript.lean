import Gatehouse.Proofs.Session.Game.Soundness

namespace Gatehouse

/-!
# Transcripts of a connection

A transcript records the replies that a session generated for a connection and
the frames that it handed over after its challenge. As long as the session goes
on, the replies are split into groups, in order: one group for each frame that
was handed over, whose payload spells it, and one for each draft that waits.
-/

/-- What a call does for the transcript of its connection. -/
inductive GameEvent where
  /-- A connection came or went. -/
  | restarted
  /-- A reply was generated. -/
  | generated (reply : GameReply)
  /-- A frame other than the challenge was handed over. -/
  | sent (frame : Bytes)
  | quiet
deriving DecidableEq, Repr

/-- The replies generated for a connection, and the frames handed over to it. -/
structure Transcript where
  replies : List GameReply
  frames : List Bytes
deriving DecidableEq, Repr

namespace Transcript

/-- The transcript of a connection for which nothing happened. -/
def empty : Transcript where
  replies := []
  frames := []

/-- The transcript with one more event. -/
def extend (transcript : Transcript) : GameEvent → Transcript
  | .restarted => empty
  | .generated reply => { transcript with replies := transcript.replies ++ [reply] }
  | .sent frame => { transcript with frames := transcript.frames ++ [frame] }
  | .quiet => transcript

/-- The groups of replies that were sent and that wait, each spelled by one payload. -/
structure IsSplit
    (transcript : Transcript)
    (key : CipherKey)
    (size : Nat)
    (drafts : List FrameDraft)
    (sent waiting : List (List GameReply)) : Prop where
  replies_eq : transcript.replies = sent.flatten ++ waiting.flatten
  sent_spelled :
    ∃ payloads : List Bytes,
      sent.map GameReply.bytes? = payloads.map some ∧
        transcript.frames = payloads.map (Frame.frameAround key) ∧
        ∀ payload ∈ payloads, Frame.lengthAround payload.length ≤ size
  waiting_spelled : waiting.map GameReply.bytes? = drafts.map fun draft => some draft.payload

theorem isSplit_empty (key : CipherKey) (size : Nat) : empty.IsSplit key size [] [] [] :=
  ⟨rfl, ⟨[], rfl, rfl, by simp⟩, rfl⟩

namespace IsSplit

variable {transcript : Transcript} {key : CipherKey} {size : Nat}
  {sent waiting : List (List GameReply)}

/-- A reply that is collected joins the last group or opens a new one. -/
theorem collect
    {before after : FrameQueue}
    {added : Nat}
    {reply : GameReply}
    {bytes : Bytes}
    (split : transcript.IsSplit key size before.drafts sent waiting)
    (collected : FrameQueue.Collected size bytes before after added)
    (encoded : reply.packet.encoding? = some bytes) :
    ∃ waiting,
      (transcript.extend (.generated reply)).IsSplit key size after.drafts sent waiting := by
  have spelled := split.waiting_spelled
  cases collected with
  | @joined older newest longer drafts_eq sound payload_eq =>
      rw [drafts_eq, List.map_append, List.map_eq_append_iff] at spelled
      rcases spelled with ⟨earlier, last, rfl, earlierSpelled, lastSpelled⟩
      obtain ⟨group, rfl, groupSpelled⟩ := List.map_eq_singleton_iff.mp lastSpelled
      refine ⟨earlier ++ [group ++ [reply]], ?_, split.sent_spelled, ?_⟩
      · simp [extend, split.replies_eq]
      · have grown := GameReply.bytes?_append_singleton groupSpelled encoded
        simp only [List.map_append, List.map_cons, List.map_nil, earlierSpelled, grown, payload_eq]
  | @opened draft few sound payload_eq =>
      refine ⟨waiting ++ [[reply]], ?_, split.sent_spelled, ?_⟩
      · simp [extend, split.replies_eq]
      · have none : GameReply.bytes? [] = some [] := rfl
        have single : GameReply.bytes? [reply] = some bytes :=
          GameReply.bytes?_append_singleton none encoded
        simp only [List.map_append, List.map_cons, List.map_nil, spelled, single, payload_eq]

/-- The group of the oldest draft is sent in the frame around its payload. -/
theorem stage
    {oldest : FrameDraft}
    {later : List FrameDraft}
    (split : transcript.IsSplit key size (oldest :: later) sent waiting)
    (small : Frame.lengthAround oldest.payload.length ≤ size) :
    ∃ sent waiting,
      (transcript.extend (.sent (Frame.frameAround key oldest.payload))).IsSplit key size later
        sent waiting := by
  have spelled := split.waiting_spelled
  rw [List.map_cons, List.map_eq_cons_iff] at spelled
  rcases spelled with ⟨group, rest, rfl, groupSpelled, restSpelled⟩
  obtain ⟨payloads, sentSpelled, frames_eq, short⟩ := split.sent_spelled
  refine ⟨sent ++ [group], rest, ?_, ⟨payloads ++ [oldest.payload], ?_, ?_, ?_⟩, restSpelled⟩
  · simp [extend, split.replies_eq]
  · simp [sentSpelled, groupSpelled]
  · simp [extend, frames_eq]
  · intro payload member
    rcases List.mem_append.mp member with wasSent | isOldest
    · exact short payload wasSent
    · rw [List.mem_singleton.mp isOldest]
      exact small

end IsSplit

end Transcript

namespace GameReaction

/-- What a reaction does for the transcript. -/
def event (reaction : GameReaction) : GameEvent :=
  reaction.reply?.elim .quiet .generated

end GameReaction

namespace GameSession

/-- What an output of some length does for the transcript. -/
def eventOfOutput (session : GameSession) (length : Nat) : Checked GameEvent := do
  if length = 0 ∨ session.challengeStaged then
    return .quiet
  return .sent (← session.staged)

/-- An output generates no reply. -/
theorem replies_extend_of_output
    {session : GameSession}
    {length : Nat}
    {event : GameEvent}
    (shown : session.eventOfOutput length = .ok event)
    (transcript : Transcript) :
    (transcript.extend event).replies = transcript.replies := by
  unfold eventOfOutput at shown
  split at shown
  next silent =>
    cases shown
    rfl
  next loud =>
    obtain ⟨frame, _, sent⟩ := Checked.bind_eq_ok.mp shown
    cases sent
    rfl

/-- A transcript that a session lives up to. -/
structure Follows (size : Nat) (session : GameSession) (transcript : Transcript) : Prop where
  greeting_empty : session.phase.isGreeting = true → transcript = .empty
  split :
    session.phase ≠ .ended →
      ∃ sent waiting, transcript.IsSplit session.key size session.queue.drafts sent waiting

theorem follows_empty
    {session : GameSession}
    (idle : session.queue.drafts = [])
    (size : Nat) :
    session.Follows size .empty := by
  refine ⟨fun _ => rfl, fun _ => ⟨[], [], ?_⟩⟩
  rw [idle]
  exact Transcript.isSplit_empty session.key size

/-- Nothing is claimed of a session that has ended. -/
theorem follows_of_hangUp (session : GameSession) (size : Nat) (transcript : Transcript) :
    session.hangUp.Follows size transcript :=
  ⟨fun greeting => Bool.noConfusion greeting, fun going => absurd rfl going⟩

namespace Follows

variable {size : Nat} {session : GameSession} {transcript : Transcript}
  (follows : session.Follows size transcript)

include follows

/-- A proper reaction leaves what was generated and sent before. -/
theorem of_reactsProperly
    {game : GameSection}
    {after : GameSession}
    {reply? : Option GameReply}
    (sound : session.IsSound game)
    (proper : session.ReactsProperly after reply?) :
    after.Follows size transcript := by
  refine ⟨?_, ?_⟩
  · intro greeting
    rw [proper.greeted] at greeting
    cases greeting
  · intro going
    rw [proper.queue_eq]
    rcases proper.key_eq with ended | greeting | same
    · exact absurd ended going
    · rw [follows.greeting_empty greeting, sound.greeting_empty greeting]
      exact ⟨[], [], Transcript.isSplit_empty after.key size⟩
    · rw [same]
      exact follows.split (proper.not_ended going)

/-- A reply that was sent is recorded. -/
theorem of_sent
    {after : GameSession}
    {reply : GameReply}
    {bytes : Bytes}
    {added : Nat}
    (sent : Sent size bytes session after added)
    (encoded : reply.packet.encoding? = some bytes)
    (greeted : session.phase.isGreeting = false) :
    after.Follows size (transcript.extend (.generated reply)) := by
  cases sent with
  | refused full =>
      exact follows_of_hangUp session size _
  | queued collected =>
      refine ⟨?_, ?_⟩
      · intro greeting
        rw [greeted] at greeting
        cases greeting
      · intro going
        obtain ⟨sent, waiting, split⟩ := follows.split going
        exact ⟨sent, split.collect collected encoded⟩

theorem of_same
    {after : GameSession}
    (key_eq : after.key = session.key)
    (queue_eq : after.queue = session.queue)
    (greeting_of : after.phase.isGreeting = true → session.phase.isGreeting = true)
    (going_of : after.phase ≠ .ended → session.phase ≠ .ended) :
    after.Follows size transcript := by
  refine ⟨fun greeting => follows.greeting_empty (greeting_of greeting), ?_⟩
  intro going
  rw [key_eq, queue_eq]
  exact follows.split (going_of going)

end Follows

theorem isGreeting_phaseAfterStaging
    {phase : GamePhase}
    (greeted : phase.isGreeting = false)
    (queue : FrameQueue) :
    (phaseAfterStaging phase queue).isGreeting = false := by
  rcases phaseAfterStaging_eq phase queue with same | ⟨_, last⟩
  · rw [same]
    exact greeted
  · rw [last]
    rfl

theorem ne_ended_of_phaseAfterStaging
    {phase : GamePhase}
    {queue : FrameQueue}
    (going : phaseAfterStaging phase queue ≠ .ended) :
    phase ≠ .ended := by
  rcases phaseAfterStaging_eq phase queue with same | ⟨was, _⟩
  · rw [← same]
    exact going
  · simp [was]

namespace IsSound

variable {game : GameSection} {session : GameSession} (sound : session.IsSound game)

include sound

/-- Carrying a proper reaction out keeps a session sound and records the reply. -/
theorem carryOut_meets
    {allowed : Fault → Prop}
    {most rest : Nat}
    {books : Nat → BlockPool → Prop}
    (contract : BlockPool.Contract allowed game.outputBufferSize most books)
    (large : Protocol.minOutboundCapacity ≤ game.outputBufferSize)
    {pool : BlockPool}
    {reaction : GameReaction}
    (balanced : books (rest + session.held) pool)
    (spare : rest + (game.maxQueuedMessages + 1) ≤ most)
    (proper : session.ReactsProperly reaction.session reaction.reply?) :
    (reaction.carryOut pool).Meets allowed fun after =>
      after.session.IsSound game ∧
        books (rest + after.session.held) after.pool ∧
        ∀ transcript,
          session.Follows game.outputBufferSize transcript →
          after.session.Follows game.outputBufferSize (transcript.extend reaction.event) := by
  obtain ⟨reacted, held_eq⟩ := sound.of_reactsProperly proper
  rw [← held_eq] at balanced
  unfold GameReaction.carryOut GameReaction.event
  cases replied : reaction.reply? with
  | none =>
      exact ⟨reacted, balanced, fun _ follows => follows.of_reactsProperly sound proper⟩
  | some reply =>
      have modest := proper.reply_modest reply replied
      obtain ⟨bytes, encoded, nonempty, _⟩ := GameReply.encoding?_of_isModest modest
      refine Checked.Meets.bind
        (reacted.send_meets contract large balanced spare modest encoded) ?_
      intro answer answered
      rcases answer with ⟨after, pool⟩
      rcases answered with ⟨added, sent, kept⟩
      obtain ⟨afterSound, afterHeld⟩ := reacted.of_sent sent nonempty proper.greeted
      rw [Nat.add_assoc, ← afterHeld] at kept
      exact ⟨afterSound, kept, fun _ follows =>
        (follows.of_reactsProperly sound proper).of_sent sent encoded proper.greeted⟩

/-- Staging the oldest message never fails, and hands over the frame around its payload. -/
theorem stageNext_meets
    {allowed : Fault → Prop}
    {most rest : Nat}
    {books : Nat → BlockPool → Prop}
    (contract : BlockPool.Contract allowed game.outputBufferSize most books)
    (small : game.outputBufferSize ≤ 65535)
    {pool : BlockPool}
    (balanced : books (rest + session.held) pool)
    (greeted : session.phase.isGreeting = false)
    (plain : session.challengeStaged = false) :
    (session.stageNext pool).Meets allowed fun answer =>
      answer.2.1.IsSound game ∧
        books (rest + answer.2.1.held) answer.2.2 ∧
        ∃ event,
          answer.2.1.eventOfOutput answer.1 = .ok event ∧
            ∀ transcript,
              session.Follows game.outputBufferSize transcript →
              answer.2.1.Follows game.outputBufferSize (transcript.extend event) := by
  obtain ⟨middle, released, kept⟩ := sound.releaseStaged_eq contract balanced
  unfold stageNext
  rw [released]
  simp only [FrameQueue.pop?]
  cases drafts_eq : session.queue.drafts with
  | nil =>
      refine ⟨?_, ?_, .quiet, rfl, fun _ follows => follows.of_same rfl rfl id id⟩
      · exact ⟨sound.limit_eq, sound.length_le, sound.drafts_sound, by simp,
          sound.character_short, sound.greeting_empty⟩
      · simpa [held] using kept
  | cons oldest later =>
      have drafts_sound := sound.drafts_sound
      have length_le := sound.length_le
      rw [FrameQueue.length, drafts_eq, List.length_cons] at length_le kept
      rw [drafts_eq] at drafts_sound
      obtain ⟨oldestSound, filled⟩ := drafts_sound oldest (by simp)
      obtain ⟨message, done, shows⟩ :=
        oldestSound.sealWith_eq session.key (Nat.le_trans small (by decide)) filled
      have positive : Frame.lengthAround oldest.payload.length ≠ 0 := by
        simp [Frame.lengthAround, Frame.sealedStart]
      have pastGreeting :
          (phaseAfterStaging session.phase { session.queue with drafts := later }).isGreeting ≠
            true := by
        rw [isGreeting_phaseAfterStaging greeted]
        exact Bool.false_ne_true
      simp only [done, bind, Except.bind]
      refine ⟨?_, ?_, .sent (Frame.frameAround session.key oldest.payload), ?_, ?_⟩
      · refine ⟨sound.limit_eq, by simp only [FrameQueue.length]; omega,
          fun draft member => drafts_sound draft (List.mem_cons_of_mem _ member), ?_,
          sound.character_short, fun greeting => absurd greeting pastGreeting⟩
        intro other same
        cases same
        exact shows.block_length
      · simpa [held, FrameQueue.length, Nat.add_assoc] using kept
      · simp only [eventOfOutput, positive, plain, or_self, if_false, staged, shows.frame_eq, bind,
          Except.bind, Bool.false_eq_true]
        rfl
      · intro transcript follows
        refine ⟨fun greeting => absurd greeting pastGreeting, ?_⟩
        intro going
        obtain ⟨sent, waiting, split⟩ := follows.split (ne_ended_of_phaseAfterStaging going)
        rw [drafts_eq] at split
        exact split.stage oldestSound.lengthAround_le

/-- Producing output keeps a session sound and records the frame. -/
theorem produce_meets
    {allowed : Fault → Prop}
    {most rest : Nat}
    {books : Nat → BlockPool → Prop}
    (contract : BlockPool.Contract allowed game.outputBufferSize most books)
    (small : game.outputBufferSize ≤ 65535)
    {pool : BlockPool}
    (balanced : books (rest + session.held) pool) :
    (session.produce pool).Meets allowed fun answer =>
      answer.2.1.IsSound game ∧
        books (rest + answer.2.1.held) answer.2.2 ∧
        ∃ event,
          answer.2.1.eventOfOutput answer.1 = .ok event ∧
            ∀ transcript,
              session.Follows game.outputBufferSize transcript →
              answer.2.1.Follows game.outputBufferSize (transcript.extend event) := by
  have plainSound : { session with challengeStaged := false }.IsSound game :=
    ⟨sound.limit_eq, sound.length_le, sound.drafts_sound, sound.staged_block,
      sound.character_short, sound.greeting_empty⟩
  have plainFollows (transcript : Transcript)
      (follows : session.Follows game.outputBufferSize transcript) :
      { session with challengeStaged := false }.Follows game.outputBufferSize transcript :=
    follows.of_same rfl rfl id id
  unfold produce
  simp only
  split
  next phase =>
    have idle := sound.greeting_empty (by rw [phase]; rfl)
    refine ⟨⟨sound.limit_eq, sound.length_le, sound.drafts_sound, sound.staged_block,
      sound.character_short, fun _ => idle⟩, balanced, .quiet, rfl, ?_⟩
    intro transcript follows
    exact follows.of_same rfl rfl (by simp [phase, GamePhase.isGreeting]) (by simp [phase])
  next phase =>
    have idle := sound.greeting_empty (by rw [phase]; rfl)
    refine ⟨⟨sound.limit_eq, sound.length_le, sound.drafts_sound, sound.staged_block,
      sound.character_short, fun _ => idle⟩, balanced, .quiet, rfl, ?_⟩
    intro transcript follows
    exact follows.of_same rfl rfl (by simp [phase, GamePhase.isGreeting]) (by simp [phase])
  next phase =>
    refine (plainSound.stageNext_meets contract small balanced (by rw [phase]; rfl) rfl).weaken ?_
    intro answer answered
    rcases answered with ⟨afterSound, kept, event, shown, follows⟩
    exact ⟨afterSound, kept, event, shown, fun transcript before =>
      follows transcript (plainFollows transcript before)⟩
  next phase =>
    refine (plainSound.stageNext_meets contract small balanced (by rw [phase]; rfl) rfl).weaken ?_
    intro answer answered
    rcases answered with ⟨afterSound, kept, event, shown, follows⟩
    exact ⟨afterSound, kept, event, shown, fun transcript before =>
      follows transcript (plainFollows transcript before)⟩
  next phase =>
    exact ⟨plainSound.hangUp, balanced, .quiet, rfl, fun transcript _ =>
      follows_of_hangUp _ game.outputBufferSize transcript⟩
  next phase =>
    exact ⟨plainSound, balanced, .quiet, rfl, plainFollows⟩
  next phase =>
    exact ⟨plainSound, balanced, .quiet, rfl, plainFollows⟩

end IsSound

end GameSession

end Gatehouse
