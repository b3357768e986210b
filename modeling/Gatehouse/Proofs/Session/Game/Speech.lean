import Gatehouse.Proofs.Frame.AllOrNothing
import Gatehouse.Proofs.LeadingInteger
import Gatehouse.Proofs.Packet.Extent
import Gatehouse.Proofs.Session.Game.Admission

namespace Gatehouse

/-!
# Numbers that are said

A client in the world may say a text. The number at its front, modulo 2¹⁶,
decides what the text is replied: an item, a prompt, a dismissal or nothing. The
bytes of the reply go behind those of the newest draft if it has the room that is
asked for, else into a draft of their own, and if there may be no more drafts
the connection ends instead. A text that is too long or cut off says nothing.
-/

/-- The payload of a client that says something. -/
def Frame.saying (speech : Bytes) : Bytes :=
  0x96 :: 0x01 :: speech

/--
What a number is replied when it is said: the bytes, the room that is asked for
them, and the phase of the session afterwards.
-/
inductive SpeechReply (number : Nat) : (bytes : Bytes) → (room : Nat) → GamePhase → Prop where
  | item
      (large : 100 ≤ number) :
      SpeechReply number [0x78, 6, UInt8.ofNat (number % 256), UInt8.ofNat (number / 256)] 4
        .inWorld
  | relogin
      (same : number = 15) :
      SpeechReply number [0x28] 1 .inWorld
  | dismissal
      (same : number = 14) :
      SpeechReply number (0x14 :: 4 :: 0 :: Bytes.ofText "test") 256 .dismissing

namespace GameCommand

theorem ofPayload_saying (speech : Bytes) :
    ofPayload (Frame.saying speech) =
      .say (valueOf (((Read.string 256).run { position := 2, rest := speech }).1.getD [])) := by
  rfl

/-- A text of up to 255 bytes is said, whatever comes behind it. -/
theorem ofPayload_of_short
    {text : Bytes}
    (short : text.length ≤ 255)
    (rest : Bytes) :
    ofPayload (Frame.saying (Bytes.ofUInt16 (UInt16.ofNat text.length) ++ (text ++ rest))) =
      .say (valueOf text) := by
  have taken := @Read.Takes.string text (by omega) 256 2 rest
  rw [List.append_assoc, if_pos (Nat.lt_succ_of_le short)] at taken
  rw [ofPayload_saying, taken]
  rfl

/-- A longer text counts as none. -/
theorem ofPayload_of_long
    {text : Bytes}
    (long : 256 ≤ text.length)
    (expressible : text.length ≤ 65535)
    (rest : Bytes) :
    ofPayload (Frame.saying (Bytes.ofUInt16 (UInt16.ofNat text.length) ++ (text ++ rest))) =
      .say 0 := by
  have taken := @Read.Takes.string text expressible 256 2 rest
  rw [List.append_assoc, if_neg (Nat.not_lt.mpr long)] at taken
  rw [ofPayload_saying, taken]
  rfl

/-- A text that is cut off counts as none. -/
theorem ofPayload_of_cutOff
    {speech : Bytes}
    (cutOff : speech.length < Read.stringExtent speech) :
    ofPayload (Frame.saying speech) = .say 0 := by
  rw [ofPayload_saying, (Read.Consumes.string 256 2 speech).2 cutOff]
  rfl

end GameCommand

namespace GameSession

/-- What is said is replied as its number demands. -/
theorem serve_of_reply
    {session : GameSession}
    {value : UInt16}
    {bytes : Bytes}
    {room : Nat}
    {phase : GamePhase}
    (inside : session.phase = .inWorld)
    (replied : SpeechReply value.toNat bytes room phase)
    (pool : BlockPool) :
    ∃ reply : GameReply,
      session.serve pool (.say value) = { session with phase := phase }.send pool reply ∧
        reply.packet.encoding? = some bytes ∧
        reply.reservation = room ∧
        0 < room ∧
        room ≤ 256 ∧
        bytes.length ≤ room := by
  have same : { session with phase := .inWorld } = session := by
    rw [← inside]
  cases replied with
  | item large =>
      have isLarge : 100 ≤ value := large
      refine ⟨.item saidItemSlot value, ?_, ?_, rfl, by decide, by decide, Nat.le_refl _⟩
      · rw [same]
        simp only [serve, if_pos isLarge]
      · have low : UInt8.ofNat (value.toNat % 256) = UInt8.ofNat value.toNat := by
          apply UInt8.toNat_inj.mp
          simp
        rw [low]
        rfl
  | relogin isFifteen =>
      have value_eq : value = 15 := UInt16.toNat_inj.mp isFifteen
      refine ⟨.reloginPrompt, ?_, rfl, rfl, by decide, by decide, by decide⟩
      rw [same, value_eq]
      rfl
  | dismissal isFourteen =>
      have value_eq : value = 14 := UInt16.toNat_inj.mp isFourteen
      refine ⟨.dismissal "test", ?_, by decide, rfl, by decide, by decide, by decide⟩
      rw [value_eq]
      rfl

/-- A number that demands nothing changes nothing. -/
theorem serve_of_silence
    {value : UInt16}
    (small : value.toNat < 100)
    (noDismissal : value.toNat ≠ 14)
    (noRelogin : value.toNat ≠ 15)
    (session : GameSession)
    (pool : BlockPool) :
    session.serve pool (.say value) = .ok (session, pool) := by
  have isSmall : ¬100 ≤ value := Nat.not_le.mpr small
  have notFourteen : value ≠ 14 := fun same => noDismissal (by rw [same]; rfl)
  have notFifteen : value ≠ 15 := fun same => noRelogin (by rw [same]; rfl)
  simp only [serve, if_neg isSmall, if_neg notFourteen, if_neg notFifteen]

/--
What becomes of a session and the pool once bytes were appended to its queue, with
some room asked for them in blocks of some size.
-/
structure Appends
    (size : Nat)
    (bytes : Bytes)
    (room : Nat)
    (session : GameSession)
    (pool : BlockPool)
    (outcome : Checked (GameSession × BlockPool)) : Prop where
  /-- The newest draft has the room, and its packets are followed by the bytes. -/
  joined :
    ∀ older newest,
      session.queue.drafts = older ++ [newest] →
      newest.length + room + FrameDraft.maxPadding ≤ size →
      ∃ longer : FrameDraft,
        longer.IsSound size ∧
          longer.payload = newest.payload ++ bytes ∧
          outcome =
            .ok ({ session with queue := { session.queue with drafts := older ++ [longer] } },
              pool)
  /-- The bytes start a draft of their own. -/
  opened :
    ¬session.queue.Reuses size room →
    session.queue.length < session.queue.limit →
    ∀ block left,
      pool.acquire = .ok (block, left) →
      ∃ draft : FrameDraft,
        draft.IsSound size ∧
          draft.payload = bytes ∧
          outcome =
            .ok
              ({ session with
                  queue :=
                    { session.queue with drafts := session.queue.drafts ++ [draft] } },
                left)
  /-- A full queue is left as it is, and the session ends. -/
  refused :
    ¬session.queue.Reuses size room →
    session.queue.limit ≤ session.queue.length →
    outcome = .ok ({ session with phase := .ended }, pool)
  /-- Without a block there is no draft. -/
  stopped :
    ¬session.queue.Reuses size room →
    session.queue.length < session.queue.limit →
    ∀ fault, pool.acquire = .error fault → outcome = .error fault

theorem appends_send
    {size room : Nat}
    {bytes : Bytes}
    {session : GameSession}
    {pool : BlockPool}
    {reply : GameReply}
    (sound : ∀ draft ∈ session.queue.drafts, draft.IsSound size)
    (granted : ∀ block left, pool.acquire = .ok (block, left) → block.length = size)
    (encoded : reply.packet.encoding? = some bytes)
    (reserved : reply.reservation = room)
    (positive : 0 < room)
    (within : bytes.length ≤ room)
    (fits : Frame.headerLength + room + FrameDraft.maxPadding ≤ size)
    (isSize : room + FrameDraft.maxPadding < Size.limit) :
    session.Appends size bytes room pool (session.send pool reply) := by
  subst reserved
  constructor
  · intro older newest drafts_eq enough
    have reuses : session.queue.Reuses size reply.reservation :=
      ⟨Nat.ne_of_gt positive, older, newest, drafts_eq, enough⟩
    have newestSound := sound newest (by simp [drafts_eq])
    obtain ⟨longerSound, payload_eq⟩ := newestSound.append encoded (by omega)
    refine ⟨newest.append reply.packet, longerSound, payload_eq, ?_⟩
    rw [send, FrameQueue.ensureRoom_of_reuses sound isSize reuses]
    simp only [bind, Except.bind, FrameQueue.append_of_drafts drafts_eq]
    rfl
  · intro opens few block left acquired
    have blockSound := FrameDraft.isSound_ofBlock (granted block left acquired) (by omega)
    have length_eq := blockSound.length_eq
    rw [FrameDraft.payload_ofBlock, List.length_nil] at length_eq
    obtain ⟨longerSound, payload_eq⟩ := blockSound.append encoded (by omega)
    rw [FrameDraft.payload_ofBlock, List.nil_append] at payload_eq
    refine ⟨_, longerSound, payload_eq, ?_⟩
    rw [send, FrameQueue.ensureRoom_of_not_reuses sound isSize opens,
      if_neg (Nat.not_le.mpr few), acquired]
    simp only [bind, Except.bind, pure, Except.pure, FrameQueue.append,
      FrameQueue.changeLast_append]
  · intro opens full
    rw [send, FrameQueue.ensureRoom_of_not_reuses sound isSize opens, if_pos full]
    rfl
  · intro opens few fault exhausted
    rw [send, FrameQueue.ensureRoom_of_not_reuses sound isSize opens,
      if_neg (Nat.not_le.mpr few), exhausted]
    rfl

end GameSession

namespace GameService

variable {config : Configuration} {key : KeyPair} {service : GameService} {slot : Nat}
  {session : GameSession}

/-- A command of a client in the world is served as its payload demands. -/
theorem read_of_payload
    {message payload left : Bytes}
    (found : service.sessions[slot]? = some session)
    (inside : session.phase = .inWorld)
    (opened : Frame.extract message session.key = .ok { outcome := .ok payload, buffer := left }) :
    protocol.read service slot message =
      session.serve service.pool (.ofPayload payload) >>= fun after =>
        .ok (left, service.withSession slot after.1 after.2) := by
  simp only [protocol, read, Checked.lookUp_of_getElem? found, GameSession.read, inside,
    GameSession.readCommand, opened, bind, Except.bind]
  cases session.serve service.pool (.ofPayload payload) <;> rfl

/-- A frame that was enclosed for a client in the world is served as its payload demands. -/
theorem read_of_enclose
    {payload buffer sealed : Bytes}
    {total : Nat}
    (found : service.sessions[slot]? = some session)
    (inside : session.phase = .inWorld)
    (enclosed :
      Frame.enclose payload session.key buffer = .ok { outcome := .ok total, buffer := sealed }) :
    ∃ left,
      protocol.read service slot ((sealed.take total).drop 2) =
        session.serve service.pool (.ofPayload payload) >>= fun after =>
          .ok (left, service.withSession slot after.1 after.2) := by
  obtain ⟨frame_eq, small⟩ := Frame.frame_of_enclose enclosed
  have opened := Frame.extract_bodyAround session.key small
  rw [← Frame.drop_frameAround, ← frame_eq] at opened
  exact ⟨_, read_of_payload found inside opened⟩

/--
Under a configuration without problems, a client in the world may say anything in
a frame that is enclosed under its key, whatever came before. A text of up to 255
bytes spells an integer, and only one; the number that it is modulo 2¹⁶ decides.
Below 100 it changes nothing, apart from 14 and 15. Otherwise the bytes that it
is replied are appended: to the newest draft if that has the room asked for, else
as a new draft, unless the queue is full, which is left as it is and ends the
session. A text that is longer or cut off changes nothing. While the arena has a
place for every outbound buffer, a new draft never lacks its block.
-/
theorem said_number_replied
    {arena : Arena}
    {start : GameService}
    {calls : List ProtocolCall}
    {speech buffer sealed : Bytes}
    {total : Nat}
    (valid : config.problems = .ok [])
    (started : ofArena arena key config = .ok start)
    (ran : protocol.run start calls = .ok service)
    (found : service.sessions[slot]? = some session)
    (inside : session.phase = .inWorld)
    (enclosed :
      Frame.enclose (Frame.saying speech) session.key buffer =
        .ok { outcome := .ok total, buffer := sealed }) :
    ∃ left,
      (∀ text rest,
        speech = Bytes.ofUInt16 (UInt16.ofNat text.length) ++ (text ++ rest) →
        text.length ≤ 255 →
        ∃ value number,
          LeadingInteger.Spells LeadingInteger.isBlank text value ∧
            (∀ other,
              LeadingInteger.Spells LeadingInteger.isBlank text other → other = value) ∧
            ((number : Nat) : Int) = value % 65536 ∧
            (number < 100 →
              number ≠ 14 →
              number ≠ 15 →
              protocol.read service slot ((sealed.take total).drop 2) = .ok (left, service)) ∧
            ∀ bytes room phase,
              SpeechReply number bytes room phase →
              ∃ outcome,
                GameSession.Appends config.game.outputBufferSize bytes room
                    { session with phase := phase } service.pool outcome ∧
                  protocol.read service slot ((sealed.take total).drop 2) =
                    outcome >>= fun after =>
                      .ok (left, service.withSession slot after.1 after.2)) ∧
        (∀ text rest,
          speech = Bytes.ofUInt16 (UInt16.ofNat text.length) ++ (text ++ rest) →
          256 ≤ text.length →
          text.length ≤ 65535 →
          protocol.read service slot ((sealed.take total).drop 2) = .ok (left, service)) ∧
        (speech.length < Read.stringExtent speech →
          protocol.read service slot ((sealed.take total).drop 2) = .ok (left, service)) ∧
        (arena.IsPlaced →
          Arena.cursorAfter config.game.outputBufferSize config.outboundCount arena.used ≤
            arena.reserved →
          session.queue.length < session.queue.limit →
          ∃ granted, service.pool.acquire = .ok granted) := by
  have accepted := Configuration.accepted_of_problems valid
  have serviceSound := isSound_of_run accepted started ran
  have sessionSound := serviceSound.sessions_sound session (List.mem_of_getElem? found)
  obtain ⟨left, answered⟩ := read_of_enclose found inside enclosed
  have silent {value : UInt16}
      (said : GameCommand.ofPayload (Frame.saying speech) = .say value)
      (small : value.toNat < 100)
      (noDismissal : value.toNat ≠ 14)
      (noRelogin : value.toNat ≠ 15) :
      protocol.read service slot ((sealed.take total).drop 2) = .ok (left, service) := by
    rw [answered, said, GameSession.serve_of_silence small noDismissal noRelogin]
    simp only [bind, Except.bind, withSession_self found]
  refine ⟨left, ?_, ?_, ?_, ?_⟩
  · rintro text rest rfl short
    obtain ⟨value, spells⟩ := LeadingInteger.exists_spells LeadingInteger.isBlank text
    have said := GameCommand.ofPayload_of_short short rest
    refine ⟨value, (GameCommand.valueOf text).toNat, spells, fun other => spells.unique,
      GameCommand.toNat_valueOf spells, silent said, ?_⟩
    intro bytes room phase replied
    obtain ⟨reply, served, encoded, reserved, positive, little, within⟩ :=
      GameSession.serve_of_reply inside replied service.pool
    rw [answered, said, served]
    have large := accepted.output_ge
    simp only [Protocol.minOutboundCapacity] at large
    refine ⟨_, GameSession.appends_send ?_ ?_ encoded reserved positive within ?_ ?_, rfl⟩
    · exact fun draft member => (sessionSound.drafts_sound draft member).1
    · exact fun block left acquired => serviceSound.balanced.length_of_acquire acquired
    · simp only [Frame.headerLength, FrameDraft.maxPadding]
      omega
    · simp only [FrameDraft.maxPadding, Size.limit]
      omega
  · rintro text rest rfl long expressible
    exact silent (GameCommand.ofPayload_of_long long expressible rest) (by decide) (by decide)
      (by decide)
  · intro cutOff
    exact silent (GameCommand.ofPayload_of_cutOff cutOff) (by decide) (by decide) (by decide)
  · intro placed roomy few
    rw [sessionSound.limit_eq] at few
    exact exists_acquire_of_run accepted started ran placed roomy found few

/-- The default player says "-65436", which is 100 modulo 2¹⁶, and is given an item. -/
theorem default_player_given_item :
    ∃ key start body service session sealed left after given snapshot,
      ofArena Configuration.defaultArena key {} = .ok start ∧
        protocol.run start [.accept 0 .loopback, .produce 0, .read 0 body] = .ok service ∧
        service.sessions[0]? = some session ∧
        session.phase = .inWorld ∧
        Packet.encoding? (World.snapshot (Bytes.ofText "Player")) = some snapshot ∧
        session.queue.drafts.map FrameDraft.payload = [snapshot] ∧
        Frame.enclose (Frame.saying ([7, 0] ++ Bytes.ofText " -65436")) session.key
            (Bytes.zeros 32) =
          .ok { outcome := .ok 22, buffer := sealed } ∧
        protocol.read service 0 ((sealed.take 22).drop 2) = .ok (left, after) ∧
        after.sessions[0]? = some given ∧
        given.phase = .inWorld ∧
        given.queue.drafts.map FrameDraft.payload = [snapshot ++ [0x78, 6, 100, 0]] := by
  have valid : Configuration.problems {} = .ok [] := by
    decide +kernel
  obtain ⟨key, start, body, service, session, snapshot, _, started, ran, found, verdict⟩ :=
    @default_service_decides (Bytes.ofText "account") (Bytes.ofText "Player") [] (by decide)
      (by decide)
  have admits : Configuration.Admits {} (Bytes.ofText "account") (Bytes.ofText "Player") [] := by
    refine
      ⟨{ name := "account", characters := ["Player"] }, ?_, ⟨rfl, .inl rfl⟩, "Player", ?_, rfl⟩
    · simp
    · simp
  have inside := verdict.inWorld_iff.mpr admits
  have spelled : LeadingInteger.Spells LeadingInteger.isBlank (Bytes.ofText " -65436") (-65436) :=
    .intro [32] .minus [54, 53, 52, 51, 54] [] (by simp [LeadingInteger.isBlank])
      (by simp [LeadingInteger.Sign.bytes, LeadingInteger.isBlank]) (by simp)
      (by simp [LeadingInteger.isDigit]) (by simp)
  have enclosed :=
    @Frame.enclose_of_fits (Bytes.zeros 32) (Frame.saying ([7, 0] ++ Bytes.ofText " -65436"))
      session.key (by simp [Frame.saying]) (by decide) (by decide)
  obtain ⟨left, replied, _⟩ := said_number_replied valid started ran found inside enclosed
  obtain ⟨value, number, _, unique, number_eq, _, appended⟩ :=
    replied (Bytes.ofText " -65436") [] (by decide) (by decide)
  have isHundred : number = 100 := by
    have same := unique _ spelled
    omega
  subst isHundred
  obtain ⟨outcome, appends, answered⟩ := appended _ _ _ (.item (Nat.le_refl _))
  obtain ⟨newest, drafts_eq, payload_eq⟩ := List.map_eq_singleton_iff.mp verdict.waiting_eq
  have fits : newest.length + 4 + FrameDraft.maxPadding ≤ 16384 := by
    have serviceSound := isSound_of_run (Configuration.accepted_of_problems valid) started ran
    have sessionSound := serviceSound.sessions_sound session (List.mem_of_getElem? found)
    have length_eq := (sessionSound.drafts_sound newest (by simp [drafts_eq])).1.length_eq
    obtain ⟨bytes, encoded, _, _, short⟩ :=
      @GameReply.encoding?_of_isModest (.world (Bytes.ofText "Player")) (by decide)
    have same : bytes = snapshot :=
      Option.some.inj (encoded.symm.trans (verdict.welcomed admits))
    simp only [Protocol.minOutboundCapacity] at short
    rw [length_eq, payload_eq, ← same]
    simp only [Frame.headerLength, FrameDraft.maxPadding]
    omega
  obtain ⟨longer, _, longer_eq, isGiven⟩ := appends.joined [] newest drafts_eq fits
  rw [isGiven] at answered
  refine ⟨key, start, body, service, session, _, left, _, _, snapshot, started, ran, found, inside,
    verdict.welcomed admits, verdict.waiting_eq, enclosed, answered,
    getElem?_withSession found _ _, rfl, ?_⟩
  rw [List.nil_append, List.map_singleton, longer_eq, payload_eq]
  rfl

end GameService

end Gatehouse
