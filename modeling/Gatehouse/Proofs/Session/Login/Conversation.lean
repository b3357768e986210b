import Gatehouse.Proofs.Configuration.Reservation
import Gatehouse.Proofs.Session.Login.Admission
import Gatehouse.Proofs.Session.Login.Response

namespace Gatehouse

/-!
# A login session answers once, and only its first message

What a session does is settled by the messages that it read: the reply to a
first message that is a handshake, unless the reply does not fit or a second
message comes before it is handed over, and otherwise silence. Either way the
session ends, and nothing brings an ended session back but a new connection.
-/

namespace LoginSession

/-- What the client of a handshake reads in the frame that the handshake is due. -/
inductive ReplyDue (config : Configuration) (handshake : LoginHello) (frame : Bytes) : Prop
  | otherVersion
      (other : handshake.version ≠ Protocol.acceptedVersion)
      (read :
        Frame.opened? handshake.key frame =
          some (0x0A :: 41 :: 0 :: Bytes.ofText "This server requires client version 8.60."))
  | noAccount
      (accepted : handshake.version = Protocol.acceptedVersion)
      (unfound : ∀ account, ¬config.Finds handshake.account.bytes handshake.password.bytes account)
      (read :
        Frame.opened? handshake.key frame =
          some (0x0A :: 33 :: 0 :: Bytes.ofText "Invalid account name or password."))
  | account
      {account : Account}
      (accepted : handshake.version = Protocol.acceptedVersion)
      (found : config.Finds handshake.account.bytes handshake.password.bytes account)
      (read : Frame.rosterIn? handshake.key frame = some (config.rosterOf account))
      (sized : config.loginReplyLength account = .ok frame.length)

/-- There is something to read. -/
theorem ReplyDue.frame_ne_nil
    {config : Configuration}
    {handshake : LoginHello}
    {frame : Bytes}
    (isDue : ReplyDue config handshake frame) :
    frame ≠ [] := by
  rintro rfl
  cases isDue with
  | otherVersion _ read | noAccount _ _ read | account _ _ read =>
      cases read

/--
The reply to a handshake fits the buffer of a session. Every refusal does, and
the characters of an account do if the length that validation computes does.
-/
def ReplyFits (config : Configuration) (handshake : LoginHello) : Prop :=
  handshake.version = Protocol.acceptedVersion →
  ∀ account,
    config.Finds handshake.account.bytes handshake.password.bytes account →
    ∃ length, config.loginReplyLength account = .ok length ∧ length ≤ 512

/-- The packet that a handshake is answered with. -/
def replyPacket (config : Configuration) (handshake : LoginHello) : Packet :=
  if handshake.version = Protocol.acceptedVersion then
    replyTo config handshake.account handshake.password
  else
    Packet.loginDisconnect (Bytes.ofText Protocol.wrongVersion)

theorem exists_fits_replyPacket_iff
    {config : Configuration}
    {handshake : LoginHello} :
    (∃ bytes, Fits (replyPacket config handshake) bytes) ↔ ReplyFits config handshake := by
  unfold replyPacket ReplyFits
  simp only [← Configuration.accountOpenedBy?_iff_finds]
  by_cases accepted : handshake.version = Protocol.acceptedVersion
  · rw [if_pos accepted, replyTo]
    cases opened : config.accountOpenedBy? handshake.account handshake.password with
    | some account =>
        simp only [accepted, forall_const, Option.some.injEq, forall_eq']
        exact fits_characterList_iff
    | none =>
        exact iff_of_true (fits_loginDisconnect (by decide)) (by simp)
  · rw [if_neg accepted]
    exact iff_of_true (fits_loginDisconnect (by decide)) fun same => absurd same accepted

/-- In the frame around the reply to a handshake its client reads what it is due. -/
theorem replyDue_frameAround
    {config : Configuration}
    {handshake : LoginHello}
    {bytes : Bytes}
    (fits : Fits (replyPacket config handshake) bytes) :
    ReplyDue config handshake (Frame.frameAround handshake.key bytes) := by
  unfold replyPacket replyTo at fits
  split at fits
  next accepted =>
    split at fits
    next account opened =>
      obtain ⟨length, computed, _⟩ := fits_characterList_iff.mp ⟨bytes, fits⟩
      have found := Configuration.accountOpenedBy?_iff_finds.mp opened
      refine .account accepted found (Frame.rosterIn?_frameAround fits _) ?_
      rw [computed, fits.loginReplyLength_eq computed, Frame.length_frameAround]
    next unopened =>
      obtain rfl := Option.some.inj (fits.encoded.symm.trans encoding?_wrongCredentials)
      have unfound := Configuration.accountOpenedBy?_eq_none_iff_finds.mp unopened
      exact .noAccount accepted unfound (fits.opened?_eq _)
  next other =>
    obtain rfl := Option.some.inj (fits.encoded.symm.trans encoding?_wrongVersion)
    exact .otherVersion other (fits.opened?_eq _)

/-- The messages are a single handshake, and the reply to it fits. -/
structure Earns
    (config : Configuration)
    (service : KeyPair)
    (messages : List Bytes)
    (handshake : LoginHello) : Prop where
  only :
    ∃ message left,
      messages = [message] ∧
        Hello.readLogin service message = .ok { outcome := .ok handshake, buffer := left }
  fits : ReplyFits config handshake

/-- Nothing is earned by a message that is not the first. -/
theorem Earns.first
    {config : Configuration}
    {service : KeyPair}
    {messages : List Bytes}
    {message : Bytes}
    {handshake : LoginHello}
    (earned : Earns config service (messages ++ [message]) handshake) :
    messages = [] := by
  obtain ⟨other, _, same, _⟩ := earned.only
  have count := congrArg List.length same
  simpa using count

/--
A session that has staged the frame that a handshake is due. It has the
credentials of the handshake, and none if the handshake is of another version.
-/
structure Tells
    (session : LoginSession)
    (config : Configuration)
    (handshake : LoginHello)
    (frame : Bytes) : Prop where
  due : ReplyDue config handshake frame
  staged_eq : session.staged = .ok frame
  length_eq : session.replyLength = frame.length
  unstored :
    handshake.version ≠ Protocol.acceptedVersion →
    session.account = .empty ∧ session.password = .empty

namespace IsSound

variable {session : LoginSession} (sound : session.IsSound)

include sound

/-- Sending replies if the packet fits, and otherwise ends the connection. -/
theorem send_cases (packet : Packet) :
    (∃ bytes, Fits packet bytes ∧ session.send packet = .ok (session.answeredWith bytes)) ∨
      (∀ bytes, ¬Fits packet bytes) ∧
        ∃ after, session.send packet = .ok after ∧ after.phase = .ended := by
  by_cases fits : ∃ bytes, Fits packet bytes
  · obtain ⟨bytes, bytesFit⟩ := fits
    exact .inl ⟨bytes, bytesFit, sound.send_of_fits bytesFit⟩
  · have unfit : ∀ bytes, ¬Fits packet bytes := fun bytes bytesFit => fits ⟨bytes, bytesFit⟩
    obtain ⟨after, sent, _⟩ := sound.exists_send packet
    refine .inr ⟨unfit, after, sent, ?_⟩
    unfold send at sent
    obtain ⟨payloadLength, payloadLength_eq, sent⟩ := Checked.bind_eq_ok.mp sent
    split at sent
    next spoiled =>
      cases sent
      rfl
    next unspoiled =>
      obtain ⟨attempt, done, sent⟩ := Checked.bind_eq_ok.mp sent
      split at sent
      next error refused =>
        cases sent
        rfl
      next length isSealed =>
        -- What is sealed fits, so this does not happen.
        exfalso
        have intact :
            ((Writer.startingAt session.reply.bytes Frame.headerLength).packet packet).intact =
              true := by
          simpa using unspoiled
        have long : Frame.headerLength ≤ session.reply.bytes.length := by
          rw [sound]
          decide
        obtain ⟨bytes, encoded, _, wrote⟩ := Writer.hasWritten_of_intact intact
        obtain ⟨kept, _, _⟩ := Writer.length_buffer_packet long packet
        have room := wrote.room_eq
        have holds : Frame.headerLength + bytes.length ≤ session.reply.bytes.length := by
          simp only [Writer.startingAt, List.length_drop] at room
          omega
        obtain ⟨_, position_eq, _⟩ := Writer.startingAt_packet encoded holds
        rw [position_eq, Size.sub_eq_ok, Nat.add_sub_cancel_left] at payloadLength_eq
        rw [payloadLength_eq.2] at done
        obtain ⟨nonempty, framed⟩ := Frame.fits_of_sealPayload done isSealed
        rw [kept, sound] at framed
        exact unfit bytes ⟨encoded, by simpa using nonempty, framed⟩

/-- A handshake is answered with the frame that it is due, or with silence if that does not fit. -/
theorem answer_cases
    (noAccount : session.account = .empty)
    (noPassword : session.password = .empty)
    (config : Configuration)
    (handshake : LoginHello) :
    ∃ after,
      session.answer config handshake = .ok after ∧
        (ReplyFits config handshake ∧
            after.phase = .replying ∧ (∃ frame, after.Tells config handshake frame) ∨
          ¬ReplyFits config handshake ∧ after.phase = .ended) := by
  have sends
      {keyed : LoginSession}
      (keyedSound : keyed.IsSound)
      (key_eq : keyed.key = handshake.key)
      (unstored :
        handshake.version ≠ Protocol.acceptedVersion →
        keyed.account = .empty ∧ keyed.password = .empty) :
      ∃ after,
        keyed.send (replyPacket config handshake) = .ok after ∧
          (ReplyFits config handshake ∧
              after.phase = .replying ∧ (∃ frame, after.Tells config handshake frame) ∨
            ¬ReplyFits config handshake ∧ after.phase = .ended) := by
    rw [← exists_fits_replyPacket_iff]
    rcases keyedSound.send_cases (replyPacket config handshake) with
      ⟨bytes, fits, sent⟩ | ⟨unfit, after, sent, isOver⟩
    · have staged_eq := staged_answeredWith keyed bytes
      rw [key_eq] at staged_eq
      exact ⟨_, sent, .inl ⟨⟨bytes, fits⟩, rfl, _, replyDue_frameAround fits, staged_eq,
        (Frame.length_frameAround _ _).symm, unstored⟩⟩
    · exact ⟨after, sent, .inr ⟨fun ⟨bytes, fits⟩ => unfit bytes fits, isOver⟩⟩
  have keyed : { session with key := handshake.key }.IsSound := sound
  have presented :
      { session with
        key := handshake.key
        account := handshake.account
        password := handshake.password }.IsSound := sound
  by_cases accepted : handshake.version = Protocol.acceptedVersion
  · have acceptsVersion : Hello.acceptsVersion handshake.version = true := by
      simp [Hello.acceptsVersion, accepted]
    have answered := sends presented rfl fun other => absurd accepted other
    rw [replyPacket, if_pos accepted] at answered
    simpa only [answer, acceptsVersion, if_true] using answered
  · have rejectsVersion : Hello.acceptsVersion handshake.version = false := by
      simp [Hello.acceptsVersion, accepted]
    have answered := sends keyed rfl fun _ => ⟨noAccount, noPassword⟩
    rw [replyPacket, if_neg accepted] at answered
    simpa only [answer, rejectsVersion, Bool.false_eq_true, if_false] using answered

end IsSound

/-- How far a session came with the messages that it read and the outputs that it gave. -/
inductive Converses
    (config : Configuration)
    (service : KeyPair)
    (session : LoginSession)
    (messages : List Bytes)
    (outputs : List Output) : Prop
  | listening
      (phase : session.phase = .awaitingHello)
      (unread : messages = [])
      (silent : handedOver outputs = [])
      (noAccount : session.account = .empty)
      (noPassword : session.password = .empty)
  | replying
      {handshake : LoginHello}
      {frame : Bytes}
      (phase : session.phase = .replying)
      (earned : Earns config service messages handshake)
      (silent : handedOver outputs = [])
      (tells : session.Tells config handshake frame)
  | replied
      (phase : session.phase = .replied ∨ session.phase = .ended)
      (once : (handedOver outputs).length = 1)
  | refused
      (phase : session.phase = .ended)
      (heard : messages ≠ [])
      (silent : handedOver outputs = [])
      (unearned : ∀ handshake, ¬Earns config service messages handshake)

namespace Converses

variable {config : Configuration} {service : KeyPair} {session after : LoginSession}
  {messages : List Bytes} {outputs : List Output}
  (converses : session.Converses config service messages outputs)

include converses

theorem handedOver_le : (handedOver outputs).length ≤ 1 := by
  cases converses with
  | listening _ _ silent | replying _ _ silent | refused _ _ silent =>
      simp [silent]
  | replied _ once =>
      exact Nat.le_of_eq once

/-- An output hands something over if and only if the only message earned it just before. -/
theorem produce_ne_zero :
    session.produce.1 ≠ 0 ↔
      handedOver outputs = [] ∧ ∃ handshake, Earns config service messages handshake := by
  cases converses with
  | listening phase unread =>
      subst unread
      have none : session.produce.1 = 0 := by
        simp only [produce, phase]
      refine iff_of_false (absurd none) ?_
      rintro ⟨_, _, earned⟩
      obtain ⟨_, _, impossible, _⟩ := earned.only
      cases impossible
  | replying phase earned silent tells =>
      have some : session.produce.1 ≠ 0 := by
        simp [produce, phase, tells.length_eq, tells.due.frame_ne_nil]
      exact iff_of_true some ⟨silent, _, earned⟩
  | replied phase once =>
      have none : session.produce.1 = 0 := by
        rcases phase with phase | phase <;> simp only [produce, phase]
      refine iff_of_false (absurd none) ?_
      rintro ⟨silent, _⟩
      simp [silent] at once
  | refused phase heard silent unearned =>
      have none : session.produce.1 = 0 := by
        simp only [produce, phase]
      refine iff_of_false (absurd none) ?_
      rintro ⟨_, handshake, earned⟩
      exact unearned handshake earned

/-- What an output hands over is the reply that was earned. -/
theorem produce_tells (handsOver : session.produce.1 ≠ 0) :
    ∃ handshake frame,
      Earns config service messages handshake ∧
        session.produce.1 = frame.length ∧
        session.produce.2.Tells config handshake frame := by
  cases converses with
  | @replying handshake frame phase earned silent tells =>
      refine ⟨handshake, frame, earned, ?_, ?_⟩
      · simp only [produce, phase, tells.length_eq]
      · simp only [produce, phase]
        exact ⟨tells.due, tells.staged_eq, tells.length_eq, tells.unstored⟩
  | listening phase | refused phase =>
      simp [produce, phase] at handsOver
  | replied phase =>
      rcases phase with phase | phase <;> simp [produce, phase] at handsOver

/-- The output after the reply is empty and ends the connection. -/
theorem produce_after_reply (told : handedOver outputs ≠ []) :
    session.produce.1 = 0 ∧ session.produce.2.status = .closing := by
  cases converses with
  | listening _ _ silent | replying _ _ silent | refused _ _ silent =>
      exact absurd silent told
  | replied phase =>
      rcases phase with phase | phase
      · simp [produce, phase, status, hangUp]
      · simp [produce, phase, status]

/-- An output brings the conversation further. -/
theorem produce :
    session.produce.2.Converses config service messages
      (outputs ++ [{ length := session.produce.1, staged := session.produce.2.staged }]) := by
  have silently (none : session.produce.1 = 0) :
      handedOver
          (outputs ++ [{ length := session.produce.1, staged := session.produce.2.staged }]) =
        handedOver outputs := by
    simp [handedOver, none]
  cases converses with
  | listening phase unread silent noAccount noPassword =>
      have same : session.produce = (0, session) := by
        simp only [LoginSession.produce, phase]
      rw [same] at silently ⊢
      exact .listening phase unread ((silently rfl).trans silent) noAccount noPassword
  | replying phase earned silent tells =>
      refine .replied (.inl ?_) ?_
      · simp only [LoginSession.produce, phase]
      · have some : session.produce.1 ≠ 0 := by
          simp [LoginSession.produce, phase, tells.length_eq, tells.due.frame_ne_nil]
        rw [handedOver_append, silent]
        simp [handedOver, some]
  | replied phase once =>
      rcases phase with phase | phase
      · have none : session.produce.1 = 0 := by
          simp only [LoginSession.produce, phase]
        refine .replied (.inr ?_) ((congrArg List.length (silently none)).trans once)
        simp only [LoginSession.produce, phase, hangUp]
      · have same : session.produce = (0, session) := by
          simp only [LoginSession.produce, phase]
        rw [same] at silently ⊢
        exact .replied (.inr phase) ((congrArg List.length (silently rfl)).trans once)
  | refused phase heard silent unearned =>
      have same : session.produce = (0, session) := by
        simp only [LoginSession.produce, phase]
      rw [same] at silently ⊢
      exact .refused phase heard ((silently rfl).trans silent) unearned

/-- A message brings the conversation further. -/
theorem read
    (sound : session.IsSound)
    {message left : Bytes}
    (taken : session.read config service message = .ok (left, after)) :
    after.Converses config service (messages ++ [message]) outputs := by
  unfold LoginSession.read at taken
  by_cases late : session.phase ≠ .awaitingHello
  · rw [if_pos late] at taken
    cases taken
    cases converses with
    | listening phase =>
        exact absurd phase late
    | replying _ earned silent =>
        refine .refused rfl (by simp) silent fun _ second => ?_
        obtain ⟨_, _, heard, _⟩ := earned.only
        simp [second.first] at heard
    | refused _ heard silent =>
        exact .refused rfl (by simp) silent fun _ second => heard second.first
    | replied _ once =>
        exact .replied (.inr rfl) once
  · rw [if_neg late] at taken
    cases converses with
    | replying phase | refused phase =>
        simp [phase] at late
    | replied phase =>
        rcases phase with phase | phase <;> simp [phase] at late
    | listening _ unread silent noAccount noPassword =>
        subst unread
        obtain ⟨attempt, decoded, taken⟩ := Checked.bind_eq_ok.mp taken
        rcases attempt with ⟨outcome, buffer⟩
        cases outcome with
        | error error =>
            cases taken
            refine .refused rfl (by simp) silent fun handshake earned => ?_
            obtain ⟨_, _, same, isHandshake⟩ := earned.only
            cases same
            rw [decoded] at isHandshake
            cases isHandshake
        | ok handshake =>
            obtain ⟨last, answered, outcome⟩ :=
              sound.answer_cases noAccount noPassword config handshake
            simp only [answered, bind, Except.bind] at taken
            cases taken
            have only :
                [message] = [message] ∧
                  Hello.readLogin service message =
                    .ok { outcome := .ok handshake, buffer := left } :=
              ⟨rfl, decoded⟩
            rcases outcome with ⟨fits, phase, frame, tells⟩ | ⟨unfit, isOver⟩
            · exact .replying phase ⟨⟨message, left, only⟩, fits⟩ silent tells
            · refine .refused isOver (by simp) silent fun other earned => ?_
              obtain ⟨_, _, same, isHandshake⟩ := earned.only
              cases same
              rw [decoded] at isHandshake
              cases isHandshake
              exact unfit earned.fits

/-- All traffic brings the conversation further. -/
theorem respond
    (sound : session.IsSound)
    {call : ProtocolCall}
    (isTraffic : call.isTraffic = true)
    {answer : ProtocolAnswer}
    (responded : session.respond config service call = .ok (answer, after))
    (status : Checked Disposition) :
    after.Converses config service (messages ++ call.message?.toList)
      (outputs ++
        (Sight.output? { answer, shown := { staged := after.staged, status } }).toList) := by
  cases call with
  | accept slot peer | drop slot =>
      cases isTraffic
  | produce slot =>
      cases responded
      rw [ProtocolCall.message?, Option.toList_none, List.append_nil]
      exact converses.produce
  | read slot message =>
      obtain ⟨⟨left, last⟩, taken, responded⟩ := Checked.bind_eq_ok.mp responded
      cases responded
      rw [Sight.output?, Option.toList_none, List.append_nil]
      exact converses.read sound taken

end Converses

/-- A session that was just accepted listens. -/
theorem converses_accepted
    (config : Configuration)
    (service : KeyPair)
    (peer : SocketAddress)
    (address : Nat) :
    ((accepted peer).movedTo address).Converses config service [] [] :=
  .listening rfl rfl rfl rfl rfl

/-- Traffic does not bring an ended session back. -/
theorem phase_respond_of_ended
    {config : Configuration}
    {service : KeyPair}
    {session after : LoginSession}
    {call : ProtocolCall}
    {answer : ProtocolAnswer}
    (isOver : session.phase = .ended)
    (isTraffic : call.isTraffic = true)
    (responded : session.respond config service call = .ok (answer, after)) :
    after.phase = .ended := by
  cases call with
  | accept slot peer | drop slot =>
      cases isTraffic
  | produce slot =>
      cases responded
      simp only [produce, isOver]
  | read slot message =>
      have late : session.phase ≠ .awaitingHello := by
        simp [isOver]
      rw [respond, LoginSession.read, if_pos late] at responded
      cases responded
      rfl

end LoginSession

namespace LoginService

variable {config : Configuration} {key : KeyPair} {service after : LoginService} {slot : Nat}
  {session : LoginSession} {later : List ProtocolCall}

/-- Whatever comes for a slot and for others, its session goes on with its conversation. -/
theorem watch_converses
    {messages : List Bytes}
    {outputs : List Output}
    {sights : List (Sight Outlet)}
    (whole : service.IsWhole config key)
    (found : service.sessions[slot]? = some session)
    (converses : session.Converses config key messages outputs)
    (traffic : ∀ call ∈ later, call.slot = slot → call.isTraffic = true)
    (watched : protocol.watch (protocol.outlet slot) slot service later = .ok (sights, after)) :
    after.IsWhole config key ∧
      ∃ final,
        after.sessions[slot]? = some final ∧
          final.Converses config key (messages ++ messagesFor slot later)
            (outputs ++ outputsOf sights) := by
  induction later generalizing service session messages outputs sights with
  | nil =>
      cases watched
      refine ⟨whole, session, found, ?_⟩
      simpa [messagesFor, callsFor, outputsOf] using converses
  | cons call rest inductionHypothesis =>
      have restTraffic := fun other member => traffic other (List.mem_cons_of_mem call member)
      obtain ⟨answer, next, laterSights, responded, continued, sights_eq⟩ :=
        ConnectionProtocol.watch_cons_eq_ok.mp watched
      have nextWhole := whole.respond responded
      obtain ⟨before, last, isThere, answered, rfl⟩ := respond_eq_ok.mp responded
      by_cases here : call.slot = slot
      · subst here
        rw [found] at isThere
        cases isThere
        have isSound : session.IsSound :=
          (whole.sessions_whole session (List.mem_of_getElem? found)).reply_length
        rw [whole.config_eq, whole.key_eq] at answered
        have foundNext := getElem?_withSession found last
        have further :=
          converses.respond isSound (traffic call (by simp) rfl) answered (.ok last.status)
        rw [sights_eq, if_pos rfl, outlet_eq foundNext, messagesFor_cons_of_eq rfl, outputsOf_cons,
          ← List.append_assoc, ← List.append_assoc]
        exact inductionHypothesis nextWhole foundNext further restTraffic continued
      · have foundNext : (service.withSession call.slot last).sessions[slot]? = some session := by
          rw [getElem?_withSession_of_ne here, found]
        rw [sights_eq, if_neg here, messagesFor_cons_of_ne here]
        exact inductionHypothesis nextWhole foundNext converses restTraffic continued

/-- A session that is closing is closing for as long as its connection lasts. -/
theorem status_run_of_closing
    (found : service.sessions[slot]? = some session)
    (isOver : session.phase = .ended)
    (traffic : ∀ call ∈ later, call.slot = slot → call.isTraffic = true)
    (ran : protocol.run service later = .ok after) :
    protocol.status after slot = .ok .closing := by
  obtain ⟨final, isFinal, stillOver⟩ :=
    exists_session_of_run found
      (fun _ _ _ _ isOver isTraffic responded =>
        LoginSession.phase_respond_of_ended isOver isTraffic responded)
      isOver traffic ran
  have status_eq := congrArg Outlet.status (outlet_eq isFinal)
  rw [LoginSession.status, if_pos stillOver] at status_eq
  exact status_eq

/-- What the next output of a slot says, by how far its conversation came. -/
theorem produce_of_converses
    {messages : List Bytes}
    {outputs : List Output}
    (found : service.sessions[slot]? = some session)
    (converses : session.Converses config key messages outputs) :
    ∃ length next,
      protocol.produce service slot = .ok (length, next) ∧
        (length ≠ 0 ↔
          handedOver outputs = [] ∧
            ∃ handshake, LoginSession.Earns config key messages handshake) ∧
        (length ≠ 0 →
          ∃ handshake frame last,
            LoginSession.Earns config key messages handshake ∧
              protocol.staged next slot = .ok frame ∧
              frame.length = length ∧
              LoginSession.ReplyDue config handshake frame ∧
              next.sessions[slot]? = some last ∧
              (handshake.version ≠ Protocol.acceptedVersion →
                last.account = .empty ∧ last.password = .empty)) ∧
        (handedOver outputs ≠ [] →
          length = 0 ∧ protocol.status next slot = .ok .closing) := by
  have foundNext := getElem?_withSession found session.produce.2
  have outlet := outlet_eq foundNext
  refine ⟨session.produce.1, service.withSession slot session.produce.2, ?_,
    converses.produce_ne_zero, ?_, ?_⟩
  · simp only [protocol, produce, Checked.lookUp_of_getElem? found, bind, Except.bind]
    rfl
  · intro handsOver
    obtain ⟨handshake, frame, earned, length_eq, tells⟩ := converses.produce_tells handsOver
    exact ⟨handshake, frame, _, earned, (congrArg Outlet.staged outlet).trans tells.staged_eq,
      length_eq.symm, tells.due, foundNext, tells.unstored⟩
  · intro told
    obtain ⟨silent, closing⟩ := converses.produce_after_reply told
    refine ⟨silent, (congrArg Outlet.status outlet).trans ?_⟩
    rw [closing]

/--
After every run of a login service that was started, a slot that is taken over
hands over at most one output, whatever messages come for it in whatever order
and whatever happens in other slots. The next output hands something over if and
only if none did yet and the slot read exactly one message, which is a handshake
whose reply fits. What is staged then is as long as it says, and the client reads
in it, under the key in the handshake, the reply that is due: a refusal of any
other version, which leaves no credentials behind, or of the credentials, or else
the message of the day and the characters of the account that they open, in a
frame of the length that validation computes for that account. After the reply
the next output is empty and the connection closes; a connection that closes
does so until the slot is taken over or dropped. No message stops the service if
the key was made.
-/
theorem login_answers_first_message_once
    {arena rest : Arena}
    {start free accepted before : LoginService}
    {earlier : List ProtocolCall}
    {peer : SocketAddress}
    {sights : List (Sight Outlet)}
    (started : ofArena arena key config = .ok (start, rest))
    (ran : protocol.run start earlier = .ok free)
    (taken : protocol.accept free slot peer = .ok accepted)
    (traffic : ∀ call ∈ later, call.slot = slot → call.isTraffic = true)
    (watched :
      protocol.watch (protocol.outlet slot) slot accepted later = .ok (sights, before)) :
    (handedOver (outputsOf sights)).length ≤ 1 ∧
      (∃ length after,
        protocol.produce before slot = .ok (length, after) ∧
          (length ≠ 0 ↔
            handedOver (outputsOf sights) = [] ∧
              ∃ handshake, LoginSession.Earns config key (messagesFor slot later) handshake) ∧
          (length ≠ 0 →
            ∃ handshake frame session,
              LoginSession.Earns config key (messagesFor slot later) handshake ∧
                protocol.staged after slot = .ok frame ∧
                frame.length = length ∧
                LoginSession.ReplyDue config handshake frame ∧
                after.sessions[slot]? = some session ∧
                (handshake.version ≠ Protocol.acceptedVersion →
                  session.account = .empty ∧ session.password = .empty)) ∧
          (handedOver (outputsOf sights) ≠ [] →
            length = 0 ∧ protocol.status after slot = .ok .closing)) ∧
      (protocol.status before slot = .ok .closing →
        ∀ more final,
          (∀ call ∈ more, call.slot = slot → call.isTraffic = true) →
          protocol.run before more = .ok final →
          protocol.status final slot = .ok .closing) ∧
      ∀ firstPrime secondPrime exponent message,
        KeyPair.ofPrimes firstPrime secondPrime exponent = .ok key →
        ∃ left next, protocol.read before slot message = .ok (left, next) := by
  have freeWhole := (isWhole_ofArena started).run ran
  have responded : protocol.respond free (.accept slot peer) = .ok (.done, accepted) := by
    simp only [ConnectionProtocol.respond, taken, bind, Except.bind]
    rfl
  obtain ⟨old, _, found, _, _⟩ := respond_eq_ok.mp responded
  have isThere : free.sessions[slot]? = some old := found
  have acceptedWhole := freeWhole.respond responded
  rw [freeWhole.respond_accept isThere peer] at responded
  cases responded
  obtain ⟨beforeWhole, session, found, converses⟩ :=
    watch_converses acceptedWhole (getElem?_withSession isThere _)
      (LoginSession.converses_accepted config key peer old.reply.address) traffic watched
  rw [List.nil_append, List.nil_append] at converses
  refine ⟨converses.handedOver_le, produce_of_converses found converses, ?_, ?_⟩
  · intro closing more final moreTraffic ranMore
    have status_eq := congrArg Outlet.status (outlet_eq found)
    have isOver : session.phase = .ended := by
      have both := status_eq.symm.trans closing
      by_contra other
      simp [LoginSession.status, other] at both
    exact status_run_of_closing found isOver moreTraffic ranMore
  · intro firstPrime secondPrime exponent message made
    have fitting := Hello.fitsBlock_of_isMade (KeyPair.isMade_of_ofPrimes made).1
    have isSound : session.IsSound :=
      (beforeWhole.sessions_whole session (List.mem_of_getElem? found)).reply_length
    have answers : (session.read config key message).Meets (fun _ => False) _ :=
      isSound.read_meets (.inr fitting) config message
    obtain ⟨⟨left, last⟩, answered, _⟩ := answers.exists_eq_ok
    refine ⟨left, before.withSession slot last, ?_⟩
    simp only [protocol, LoginService.read, Checked.lookUp_of_getElem? found,
      beforeWhole.config_eq, beforeWhole.key_eq, answered, bind, Except.bind]
    rfl

/-- The default service answers the handshake of the default account with its characters. -/
theorem default_login_answers_once :
    ∃ key start accepted message before sights rest,
      ofArena Configuration.defaultArena key {} = .ok (start, rest) ∧
        protocol.accept start 0 .loopback = .ok accepted ∧
        protocol.watch (protocol.outlet 0) 0 accepted [.read 0 message, .read 1 message] =
          .ok (sights, before) ∧
        ∃ length after frame,
          protocol.produce before 0 = .ok (length, after) ∧
            length ≠ 0 ∧
            protocol.staged after 0 = .ok frame ∧
            frame.length = length ∧
            Frame.rosterIn? Hello.sampleKey frame = some (Configuration.rosterOf {} {}) := by
  have valid : Configuration.Accepted {} :=
    Configuration.accepted_of_problems (by decide +kernel)
  obtain ⟨key, made, wide⟩ := Hello.exists_isWideKey
  obtain ⟨message, left, _, readBack⟩ :=
    @Hello.readLogin_of_writeLogin key Hello.sampleKey (Bytes.ofText "account") [] wide (by decide)
      (by decide)
  have starts :
      ∃ start rest accepted,
        ofArena Configuration.defaultArena key {} = .ok (start, rest) ∧
          protocol.accept start 0 .loopback = .ok accepted :=
    ⟨_, _, _, rfl, rfl⟩
  obtain ⟨start, rest, accepted, started, taken⟩ := starts
  have accepting : (protocol.perform start (.accept 0 .loopback)).Meets (fun _ => True) _ :=
    (isSound_ofArena started).1.perform_meets (.inl trivial) (.accept 0 .loopback) (.inl trivial)
  have acceptedSound := accepting.of_eq_ok taken
  have answers :
      (protocol.run accepted [.read 0 message, .read 1 message]).Meets (fun _ => False) _ :=
    acceptedSound.run_meets (.inr (Hello.fitsBlock_of_isMade wide.made))
      (.inr (by simp [ProtocolCall.slot]))
  obtain ⟨before, ran, _⟩ := answers.exists_eq_ok
  obtain ⟨sights, watched⟩ := ConnectionProtocol.exists_watch_of_run ran (protocol.outlet 0) 0
  let presented := Hello.loginHelloOf Hello.sampleKey (Bytes.ofText "account") []
  have isDefault : Configuration.Finds {} presented.account.bytes presented.password.bytes {} :=
    ⟨⟨[], [], rfl, by simp⟩, by decide, .inl rfl⟩
  have earned : LoginSession.Earns {} key [message] presented :=
    ⟨⟨message, left, rfl, readBack⟩, fun _ account found => valid.reply_fits account found.mem⟩
  obtain ⟨_, ⟨length, after, produced, handsOver, told, _⟩, _⟩ :=
    login_answers_first_message_once started (show protocol.run start [] = .ok start from rfl) taken
      (by simp [ProtocolCall.isTraffic]) watched
  have silent : handedOver (outputsOf sights) = [] := by
    obtain ⟨_, _, _, first, watchedRest, rfl⟩ := ConnectionProtocol.watch_cons_eq_ok.mp watched
    obtain ⟨_, _, _, _, watchedNone, rfl⟩ := ConnectionProtocol.watch_cons_eq_ok.mp watchedRest
    obtain ⟨_, _, same⟩ := Checked.bind_eq_ok.mp first
    cases same
    cases watchedNone
    rfl
  have positive := handsOver.mpr ⟨silent, _, earned⟩
  obtain ⟨handshake, frame, _, earnedToo, staged, length_eq, isDue, _⟩ := told positive
  obtain ⟨_, _, same, isHandshake⟩ := earnedToo.only
  cases same
  rw [readBack] at isHandshake
  cases isHandshake
  refine ⟨key, start, accepted, message, before, sights, rest, started, taken, watched, length,
    after, frame, produced, positive, staged, length_eq, ?_⟩
  cases isDue with
  | otherVersion other =>
      exact absurd rfl other
  | noAccount _ unfound =>
      exact absurd isDefault (unfound {})
  | account _ found read =>
      obtain rfl := List.mem_singleton.mp found.mem
      exact read

end LoginService

end Gatehouse
