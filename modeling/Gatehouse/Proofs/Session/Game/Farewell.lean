import Gatehouse.Proofs.Frame.RoundTrip
import Gatehouse.Proofs.Hello.Block
import Gatehouse.Proofs.Session.Game.Admission
import Gatehouse.Proofs.Session.Game.Dismissal

namespace Gatehouse

/-!
# A dismissed client is told why before its connection closes

Once a session dismisses its client no message changes it any more. Its drafts
are handed over one after another, the reason in the last of them; the output
after that is empty and lets the connection close. The frames that are still to
come say where the session stands on this way.
-/

/--
Outputs on the way from the frames still to come to those that are to come
after them; none at all are to come once the connection closes.
-/
inductive Farewell : Option (List Bytes) → List Output → Option (List Bytes) → Prop
  | start {remaining : Option (List Bytes)} : Farewell remaining [] remaining
  | frame
      {frame : Bytes}
      {rest : List Bytes}
      {outputs : List Output}
      {last : Option (List Bytes)}
      (later : Farewell (some rest) outputs last) :
      Farewell (some (frame :: rest)) (.ofFrame frame :: outputs) last
  | closing
      {output : Output}
      {outputs : List Output}
      {last : Option (List Bytes)}
      (silent : output.length = 0)
      (later : Farewell none outputs last) :
      Farewell (some []) (output :: outputs) last
  | closed
      {output : Output}
      {outputs : List Output}
      {last : Option (List Bytes)}
      (silent : output.length = 0)
      (later : Farewell none outputs last) :
      Farewell none (output :: outputs) last

namespace Farewell

theorem of_none
    {outputs : List Output}
    {last : Option (List Bytes)}
    (farewell : Farewell none outputs last) :
    (∀ output ∈ outputs, output.length = 0) ∧ last = none := by
  induction outputs with
  | nil =>
      cases farewell
      exact ⟨by simp, rfl⟩
  | cons output rest inductionHypothesis =>
      cases farewell with
      | closed silent later =>
          obtain ⟨silentRest, last_eq⟩ := inductionHypothesis later
          exact ⟨by simpa using ⟨silent, silentRest⟩, last_eq⟩

/-- The frames come first and in order, what comes after them is empty. -/
theorem of_some
    {frames : List Bytes}
    {outputs : List Output}
    {last : Option (List Bytes)}
    (farewell : Farewell (some frames) outputs last) :
    outputs.take frames.length = (frames.map Output.ofFrame).take outputs.length ∧
      (∀ output ∈ outputs.drop frames.length, output.length = 0) ∧
      (last.isSome = true ↔ outputs.length ≤ frames.length) := by
  induction outputs generalizing frames with
  | nil =>
      cases farewell
      exact ⟨by simp, by simp, by simp⟩
  | cons output rest inductionHypothesis =>
      cases farewell with
      | frame later =>
          obtain ⟨first, silent, open_iff⟩ := inductionHypothesis later
          refine ⟨by simpa using first, by simpa using silent, ?_⟩
          rw [open_iff, List.length_cons, List.length_cons, Nat.add_le_add_iff_right]
      | closing silent later =>
          obtain ⟨silentRest, last_eq⟩ := of_none later
          exact ⟨by simp, by simpa using ⟨silent, silentRest⟩, by simp [last_eq]⟩

end Farewell

namespace GameSession

/-- A session that is about to hand the given frames over and then to close. -/
inductive Leaves (size : Nat) (session : GameSession) : Option (List Bytes) → Prop
  | dismissing
      (phase : session.phase = .dismissing)
      (waiting : session.queue.drafts ≠ [])
      (sound : ∀ draft ∈ session.queue.drafts, draft.IsSound size ∧ draft.payload ≠ []) :
      Leaves size session
        (some ((session.queue.drafts.map FrameDraft.payload).map (Frame.frameAround session.key)))
  | dismissed (phase : session.phase = .dismissed) : Leaves size session (some [])
  | ended (phase : session.phase = .ended) : Leaves size session none

namespace Leaves

variable {size : Nat} {session : GameSession} {remaining : Option (List Bytes)}
  (leaves : session.Leaves size remaining)

include leaves

/-- The connection closes when nothing is to come any more. -/
theorem status_eq :
    session.status = if remaining.isSome = true then .isOpen else .closing := by
  unfold status
  cases leaves with
  | dismissing phase =>
      simp [phase]
  | dismissed phase =>
      simp [phase]
  | ended phase =>
      simp [phase]

/-- A message changes nothing. -/
theorem read
    (config : Configuration)
    (service : KeyPair)
    (pool : BlockPool)
    (message : Bytes) :
    session.read config service pool message =
      .ok { message := message, session := session, pool := pool } := by
  cases leaves with
  | dismissing phase =>
      simp only [GameSession.read, phase]
  | dismissed phase =>
      simp only [GameSession.read, phase]
  | ended phase =>
      have same : session.hangUp = session := by
        rw [hangUp, ← phase]
      simp only [GameSession.read, phase, same]

/-- The next output is the next frame, and an empty one when there is none. -/
theorem produce (small : size ≤ Frame.maxLength) (pool : BlockPool) :
    ∃ length after left next,
      session.produce pool = .ok (length, after, left) ∧
        after.Leaves size next ∧
        ∀ outputs last,
          Farewell next outputs last →
          Farewell remaining ({ length := length, staged := after.staged } :: outputs) last := by
  cases leaves with
  | dismissed phase =>
      refine ⟨0, { session with challengeStaged := false }.hangUp, pool, none, ?_, .ended rfl,
        fun outputs last later => .closing rfl later⟩
      simp only [GameSession.produce, phase]
  | ended phase =>
      refine ⟨0, { session with challengeStaged := false }, pool, none, ?_, .ended phase,
        fun outputs last later => .closed rfl later⟩
      simp only [GameSession.produce, phase]
  | dismissing phase waiting sound =>
      obtain ⟨oldest, later, drafts_eq⟩ := List.exists_cons_of_ne_nil waiting
      rw [drafts_eq] at sound ⊢
      obtain ⟨oldestSound, filled⟩ := sound oldest (by simp)
      obtain ⟨message, done, shows⟩ := oldestSound.sealWith_eq session.key small filled
      have showsFrame :
          ({ length := Frame.lengthAround oldest.payload.length, staged := message.frame } :
              Output) =
            .ofFrame (Frame.frameAround session.key oldest.payload) := by
        rw [shows.frame_eq, Output.ofFrame, Frame.length_frameAround]
      refine ⟨Frame.lengthAround oldest.payload.length, { session with
        challengeStaged := false
        queue := { session.queue with drafts := later }
        staged? := some message
        phase := phaseAfterStaging .dismissing { session.queue with drafts := later } },
        (GameSession.releaseStaged { session with challengeStaged := false } pool).2,
        some ((later.map FrameDraft.payload).map (Frame.frameAround session.key)), ?_, ?_, ?_⟩
      · simp only [GameSession.produce, phase, stageNext_eq, drafts_eq, done, bind, Except.bind,
          pure, Except.pure]
      · cases later with
        | nil =>
            exact .dismissed rfl
        | cons next rest =>
            exact .dismissing rfl (by simp)
              fun draft member => sound draft (List.mem_cons_of_mem _ member)
      · intro outputs last farewell
        simp only [staged, Bool.false_eq_true, if_false, showsFrame]
        exact .frame farewell

/-- Traffic is answered, and brings the session at most one output further. -/
theorem respond
    (small : size ≤ Frame.maxLength)
    (config : Configuration)
    (service : KeyPair)
    (pool : BlockPool)
    {call : ProtocolCall}
    (isTraffic : call.isTraffic = true) :
    ∃ answer after left next,
      session.respond config service pool call = .ok (answer, after, left) ∧
        after.Leaves size next ∧
        ∀ sights last,
          Farewell next (outputsOf sights) last →
          Farewell remaining
            (outputsOf
              ({ answer, shown := { staged := after.staged, status := .ok after.status } } ::
                sights))
            last := by
  cases call with
  | accept slot peer =>
      cases isTraffic
  | drop slot =>
      cases isTraffic
  | read slot message =>
      refine ⟨.message message, session, pool, remaining, ?_, leaves, fun _ _ later => later⟩
      simp only [GameSession.respond, leaves.read config service pool message, bind, Except.bind]
      rfl
  | produce slot =>
      obtain ⟨length, after, left, next, produced, nextLeaves, farewell⟩ :=
        leaves.produce small pool
      refine ⟨.output length, after, left, next, ?_, nextLeaves, fun sights last later =>
        farewell _ last later⟩
      simp only [GameSession.respond, produced, bind, Except.bind]
      rfl

end Leaves

end GameSession

namespace GameService

/-- Whatever comes, a session that leaves hands its frames over and then closes. -/
theorem watch_leaves
    {size slot : Nat}
    (small : size ≤ Frame.maxLength)
    {service after : GameService}
    {session : GameSession}
    {remaining : Option (List Bytes)}
    {later : List ProtocolCall}
    {sights : List (Sight Outlet)}
    (found : service.sessions[slot]? = some session)
    (leaves : session.Leaves size remaining)
    (traffic : ∀ call ∈ later, call.slot = slot → call.isTraffic = true)
    (watched :
      protocol.watch (protocol.outlet slot) slot service later = .ok (sights, after)) :
    ∃ last final,
      after.sessions[slot]? = some final ∧
        final.Leaves size last ∧
        Farewell remaining (outputsOf sights) last := by
  induction later generalizing service session remaining sights with
  | nil =>
      cases watched
      exact ⟨remaining, session, found, leaves, .start⟩
  | cons call rest inductionHypothesis =>
      have restTraffic := fun other member => traffic other (List.mem_cons_of_mem call member)
      obtain ⟨answer, next, laterSights, responded, continued, sights_eq⟩ :=
        ConnectionProtocol.watch_cons_eq_ok.mp watched
      obtain ⟨before, after, pool, isThere, answered, rfl⟩ := respond_eq_ok.mp responded
      by_cases here : call.slot = slot
      · subst here
        rw [found] at isThere
        cases isThere
        obtain ⟨_, _, _, following, sameAnswer, followingLeaves, farewell⟩ :=
          leaves.respond small service.config service.key service.pool (traffic call (by simp) rfl)
        rw [answered] at sameAnswer
        cases sameAnswer
        have foundNext := getElem?_withSession found after pool
        obtain ⟨last, final, finalThere, finalLeaves, rest⟩ :=
          inductionHypothesis foundNext followingLeaves restTraffic continued
        rw [sights_eq, if_pos rfl, outlet_eq foundNext]
        exact ⟨last, final, finalThere, finalLeaves, farewell _ _ rest⟩
      · rw [sights_eq, if_neg here]
        have foundNext :
            (service.withSession call.slot after pool).sessions[slot]? = some session := by
          rw [getElem?_withSession_of_ne here, found]
        exact inductionHypothesis foundNext leaves restTraffic continued

/--
Whatever messages come for a slot and whatever happens in others, the next
outputs of the slot are the given frames, the one after them is empty, and from
then on the connection is closing. Until then the slot answers all traffic.
-/
def FlushesAndCloses (service : GameService) (slot : Nat) (frames : List Bytes) : Prop :=
  ∀ later sights after,
    (∀ call ∈ later, call.slot = slot → call.isTraffic = true) →
    protocol.watch (protocol.outlet slot) slot service later = .ok (sights, after) →
    (outputsOf sights).take frames.length =
        (frames.map Output.ofFrame).take (outputsOf sights).length ∧
      (∀ output ∈ (outputsOf sights).drop frames.length, output.length = 0) ∧
      protocol.status after slot =
        .ok (if (outputsOf sights).length ≤ frames.length then .isOpen else .closing) ∧
      ∀ call,
        call.slot = slot →
        call.isTraffic = true →
        ∃ answer next, protocol.respond after call = .ok (answer, next)

theorem flushesAndCloses_of_leaves
    {size slot : Nat}
    (small : size ≤ Frame.maxLength)
    {service : GameService}
    {session : GameSession}
    {frames : List Bytes}
    (found : service.sessions[slot]? = some session)
    (leaves : session.Leaves size (some frames)) :
    service.FlushesAndCloses slot frames := by
  intro later sights after traffic watched
  obtain ⟨last, final, isThere, finalLeaves, farewell⟩ :=
    watch_leaves small found leaves traffic watched
  obtain ⟨first, silent, open_iff⟩ := farewell.of_some
  refine ⟨first, silent, ?_, ?_⟩
  · have status_eq := congrArg Outlet.status (outlet_eq isThere)
    simp only [finalLeaves.status_eq, open_iff] at status_eq
    exact status_eq
  · intro call here isTraffic
    subst here
    obtain ⟨answer, next, pool, _, answered, _, _⟩ :=
      finalLeaves.respond small after.config after.key after.pool isTraffic
    exact ⟨answer, _, respond_eq_ok.mpr ⟨final, next, pool, isThere, answered, rfl⟩⟩

/--
In every state that a service reaches under a validated configuration, a session
that dismisses its client has a draft that waits, and the newest of them ends
with the reason, which was generated last. Whatever comes for its slot, the next
outputs are one frame for each draft, each opening under the session's key to
the draft's payload; then comes an empty output, and the connection closes.
-/
theorem dismissal_flushed_before_close
    {config : Configuration}
    {arena : Arena}
    {key : KeyPair}
    {start before : GameService}
    {calls : List ProtocolCall}
    {slot : Nat}
    {session : GameSession}
    (valid : config.problems = .ok [])
    (started : ofArena arena key config = .ok start)
    (ran : protocol.run start calls = .ok before)
    (found : before.sessions[slot]? = some session)
    (dismissing : session.phase = .dismissing) :
    0 < session.queue.length ∧
      (∃ ledger earlier reason front bytes,
        start.observeAll .empty calls = .ok (before, ledger) ∧
          (ledger slot).replies = earlier ++ [.dismissal reason] ∧
          Packet.encoding? [.uint8 0x14, .string (Bytes.ofText reason)] = some bytes ∧
          (session.queue.drafts.map FrameDraft.payload).getLast? = some (front ++ bytes)) ∧
      ∃ frames,
        frames.map (Frame.opened? session.key) =
            (session.queue.drafts.map FrameDraft.payload).map some ∧
          (∀ frame ∈ frames, frame ≠ []) ∧
          before.FlushesAndCloses slot frames := by
  have accepted := Configuration.accepted_of_problems valid
  have small : config.game.outputBufferSize ≤ Frame.maxLength :=
    Nat.le_trans accepted.output_le (by decide)
  obtain ⟨sound, follows⟩ := isSound_ofArena started (BlockPool.Balanced.ofArena arena _)
  have kept :=
    sound.run_meets accepted (BlockPool.balanced_contract _ _) (.inl trivial) calls
      (.inl trivial) follows
  obtain ⟨beforeSound, ledger, observed, beforeFollows⟩ := kept.of_eq_ok ran
  have drafts_sound :=
    (beforeSound.sessions_sound session (List.mem_of_getElem? found)).drafts_sound
  have startedIdle :
      ∀ (slot : Nat) (session : GameSession),
        start.sessions[slot]? = some session → session.DismissesLast (Ledger.empty slot) := by
    intro slot session isThere
    rw [ofArena_eq_ok started] at isThere
    rw [List.eq_of_mem_replicate (List.mem_of_getElem? isThere)]
    exact GameSession.dismissesLast_of_ne (by simp [GameSession.unused])
  obtain ⟨waiting, earlier, reason, replies_eq⟩ :=
    dismissesLast_of_observeAll startedIdle observed slot session found dismissing
  refine ⟨List.length_pos_iff.mpr waiting, ?_, _, ?_, ?_,
    flushesAndCloses_of_leaves small found (.dismissing dismissing waiting drafts_sound)⟩
  · rcases List.eq_nil_or_concat session.queue.drafts with empty | ⟨older, newest, drafts_eq⟩
    · exact absurd empty waiting
    · rw [List.concat_eq_append] at drafts_eq
      obtain ⟨sent, groups, split⟩ := (beforeFollows slot session found).split (by simp [dismissing])
      rw [drafts_eq] at split
      obtain ⟨front, bytes, encoded, payload_eq⟩ :=
        split.payload_newest (drafts_sound newest (by simp [drafts_eq])).2 replies_eq
      refine ⟨ledger, earlier, reason, front, bytes, observed, replies_eq, encoded, ?_⟩
      rw [drafts_eq, List.map_append, List.map_singleton, List.getLast?_concat, payload_eq]
  · simp only [List.map_map]
    apply List.map_congr_left
    intro draft member
    have fits := (drafts_sound draft member).1.lengthAround_le
    exact Frame.opened?_frameAround session.key (Nat.le_trans fits small)
  · intro frame member
    obtain ⟨payload, _, rfl⟩ := List.mem_map.mp member
    rw [← List.length_pos_iff, Frame.length_frameAround, Frame.lengthAround_eq]
    simp only [Frame.headerLength]
    omega

/-- A client whose account the default book does not list is dismissed. -/
theorem default_stranger_told_before_close :
    ∃ key start calls before session,
      ofArena Configuration.defaultArena key {} = .ok start ∧
        protocol.run start calls = .ok before ∧
        before.sessions[0]? = some session ∧
        session.phase = .dismissing ∧
        0 < session.queue.length ∧
        ∃ frames,
          frames.map (Frame.opened? session.key) =
              (session.queue.drafts.map FrameDraft.payload).map some ∧
            before.FlushesAndCloses 0 frames := by
  have valid : Configuration.problems {} = .ok [] := by
    decide +kernel
  obtain ⟨key, start, _, before, session, payload, _, started, ran, found, verdict⟩ :=
    @default_service_decides (Bytes.ofText "stranger") [] [] (by decide) (by decide)
  have unlisted : ¬Configuration.Admits {} (Bytes.ofText "stranger") [] [] := by
    rintro ⟨account, member, ⟨same, _⟩, _⟩
    simp at member
    subst member
    revert same
    decide
  have dismissing := verdict.dismissing_iff.mpr unlisted
  obtain ⟨waits, _, frames, opened, _, farewell⟩ :=
    dismissal_flushed_before_close valid started ran found dismissing
  exact ⟨key, start, _, before, session, started, ran, found, dismissing, waits, frames, opened,
    farewell⟩

end GameService

end Gatehouse
