import Gatehouse.Proofs.Frame.RoundTrip
import Gatehouse.Proofs.Hello.Reading
import Gatehouse.Proofs.Session.Calls
import Gatehouse.Proofs.Session.Login.Reply
import Gatehouse.Proofs.Storage.Carving

namespace Gatehouse

/-!
# Sound login services

Every session of a sound service keeps a reply buffer of the full length. So
sending never stops the program, a reply that fits is staged as the frame around
its bytes, and a run stops only for a slot that does not exist or a key whose
results are too wide.
-/

namespace LoginSession

/-- A session whose reply buffer has its full length. -/
def IsSound (session : LoginSession) : Prop :=
  session.reply.bytes.length = Protocol.loginReplyCapacity

/-- The session once a reply of the given bytes was sealed. -/
def answeredWith (session : LoginSession) (bytes : Bytes) : LoginSession :=
  { session with
    phase := .replying
    reply := { session.reply with
      bytes :=
        Frame.frameAround session.key bytes ++
          session.reply.bytes.drop (Frame.lengthAround bytes.length) }
    replyLength := Frame.lengthAround bytes.length }

theorem staged_answeredWith (session : LoginSession) (bytes : Bytes) :
    (session.answeredWith bytes).staged = .ok (Frame.frameAround session.key bytes) := by
  have front :
      (Frame.frameAround session.key bytes ++
        session.reply.bytes.drop (Frame.lengthAround bytes.length)).take
          (Frame.lengthAround bytes.length) =
        Frame.frameAround session.key bytes :=
    List.take_left' (Frame.length_frameAround _ _)
  rw [staged, answeredWith, Bytes.slice_eq_ok]
  refine ⟨⟨Nat.zero_le _, ?_⟩, ?_⟩
  · rw [List.length_append, Frame.length_frameAround]
    exact Nat.le_add_right _ _
  · rw [List.drop_zero, Nat.sub_zero]
    exact front.symm

namespace IsSound

variable {session : LoginSession} (sound : session.IsSound)

include sound

theorem clear : session.clear.IsSound := by
  rw [IsSound, LoginSession.clear, Block.wipe, Block.fill, List.length_replicate]
  exact sound

theorem withPeer (peer? : Option SocketAddress) : { session with peer? := peer? }.IsSound :=
  sound

/-- Sending a packet keeps the reply buffer and never stops the program. -/
theorem exists_send (packet : Packet) :
    ∃ after, session.send packet = .ok after ∧ after.IsSound := by
  have long : Frame.headerLength ≤ session.reply.bytes.length := by
    rw [sound]
    decide
  obtain ⟨kept, from_, to_⟩ := Writer.length_buffer_packet long packet
  have sub := Size.sub_eq_ok.mpr ⟨from_, rfl⟩
  have inside :
      Frame.headerLength +
          (((Writer.startingAt session.reply.bytes Frame.headerLength).packet packet).position -
            Frame.headerLength) ≤
        ((Writer.startingAt session.reply.bytes Frame.headerLength).packet packet).buffer.length := by
    omega
  have isSize :
      ((Writer.startingAt session.reply.bytes Frame.headerLength).packet packet).buffer.length +
          CipherKey.blockLength < Size.limit := by
    rw [kept, sound]
    decide
  obtain ⟨attempt, done, length_eq⟩ := Frame.exists_sealPayload session.key inside isSize
  simp only [send, sub, bind, Except.bind]
  split
  next spoiled =>
    exact ⟨_, rfl, kept.trans sound⟩
  next intact =>
    simp only [done]
    have whole := length_eq.trans (kept.trans sound)
    split
    next refused =>
      exact ⟨_, rfl, whole⟩
    next length isSealed =>
      exact ⟨_, rfl, whole⟩

theorem send_of_fits
    {packet : Packet}
    {bytes : Bytes}
    (fits : Fits packet bytes) :
    session.send packet = .ok (session.answeredWith bytes) := by
  have balance := Frame.lengthAround_eq bytes.length
  have framed : Frame.lengthAround bytes.length ≤ session.reply.bytes.length := by
    rw [sound]
    exact fits.framed
  have holds : Frame.headerLength + bytes.length ≤ session.reply.bytes.length := by
    omega
  obtain ⟨intact, position_eq, written⟩ := Writer.startingAt_packet fits.encoded holds
  have sub :
      Size.sub (Frame.headerLength + bytes.length) Frame.headerLength = .ok bytes.length :=
    Size.sub_eq_ok.mpr ⟨Nat.le_add_right _ _, (Nat.add_sub_cancel_left _ _).symm⟩
  have expressible : Frame.lengthAround bytes.length ≤ Frame.maxLength :=
    Nat.le_trans fits.framed (by decide)
  have behind :
      (session.reply.bytes.overwrite Frame.headerLength bytes).drop
          (Frame.lengthAround bytes.length) =
        session.reply.bytes.drop (Frame.lengthAround bytes.length) := by
    rw [balance, ← List.drop_drop, Bytes.drop_overwrite holds, List.drop_drop]
  have done :=
    Frame.sealPayload_of_fits session.key (Bytes.slice_overwrite holds) fits.nonempty
      (by rw [Bytes.length_overwrite]; exact framed) expressible
  rw [behind] at done
  simp only [send, position_eq, sub, intact, written, done, bind, Except.bind, Bool.not_true,
    Bool.false_eq_true, if_false]
  rfl

theorem exists_answer (config : Configuration) (handshake : LoginHello) :
    ∃ after, session.answer config handshake = .ok after ∧ after.IsSound := by
  have keyed : { session with key := handshake.key }.IsSound := sound
  have presented :
      { session with
        key := handshake.key
        account := handshake.account
        password := handshake.password }.IsSound := sound
  unfold answer
  simp only
  split
  next accepted =>
    exact presented.exists_send _
  next other =>
    exact keyed.exists_send _

/-- Reading a message keeps the reply buffer, and stops only if the key is too wide. -/
theorem read_meets
    {allowed : Fault → Prop}
    {service : KeyPair}
    (keyed : allowed .brokenKey ∨ Hello.FitsBlock service)
    (config : Configuration)
    (message : Bytes) :
    (session.read config service message).Meets allowed fun after => after.2.IsSound := by
  unfold LoginSession.read
  split
  next late =>
    exact sound
  next first =>
    refine Checked.Meets.bind (Hello.readLogin_meets keyed message) ?_
    intro attempt _
    cases attempt.outcome with
    | error error =>
        exact sound
    | ok handshake =>
        obtain ⟨after, answered, kept⟩ := exists_answer sound config handshake
        simp only [answered, bind, Except.bind]
        exact kept

theorem produce : session.produce.2.IsSound := by
  unfold LoginSession.produce
  cases session.phase <;> exact sound

end IsSound

end LoginSession

namespace LoginService

/-- A service of sound sessions for a configuration and a key. -/
structure IsSound (config : Configuration) (key : KeyPair) (service : LoginService) : Prop where
  config_eq : service.config = config
  key_eq : service.key = key
  count_eq : service.sessions.length = config.login.maxConnections
  sessions_sound : ∀ session ∈ service.sessions, session.IsSound

namespace IsSound

variable {config : Configuration} {key : KeyPair} {service : LoginService}
  (sound : service.IsSound config key)

include sound

theorem withSession
    {session : LoginSession}
    (sessionSound : session.IsSound)
    (slot : Nat) :
    (service.withSession slot session).IsSound config key := by
  refine ⟨sound.config_eq, sound.key_eq, ?_, ?_⟩
  · rw [LoginService.withSession, List.length_set]
    exact sound.count_eq
  · intro other member
    rcases List.mem_or_eq_of_mem_set member with wasThere | isNew
    · exact sound.sessions_sound other wasThere
    · rw [isNew]
      exact sessionSound

theorem lookUp_meets
    {allowed : Fault → Prop}
    {slot : Nat}
    (inside : allowed .outOfRange ∨ slot < config.login.maxConnections) :
    (Checked.lookUp service.sessions slot).Meets allowed LoginSession.IsSound := by
  rw [← sound.count_eq] at inside
  refine (Checked.lookUp_meets inside).weaken ?_
  intro session found
  exact sound.sessions_sound session (List.mem_of_getElem? found)

/-- Every call keeps a service sound, unless it stops for an allowed reason. -/
theorem perform_meets
    {allowed : Fault → Prop}
    (keyed : allowed .brokenKey ∨ Hello.FitsBlock key)
    (call : ProtocolCall)
    (inside : allowed .outOfRange ∨ call.slot < config.login.maxConnections) :
    (protocol.perform service call).Meets allowed (IsSound config key) := by
  cases call with
  | accept slot peer =>
      refine Checked.Meets.bind (sound.lookUp_meets inside) ?_
      intro session isSound
      exact sound.withSession (isSound.clear.withPeer (some peer)) slot
  | drop slot =>
      refine Checked.Meets.bind (sound.lookUp_meets inside) ?_
      intro session isSound
      exact sound.withSession isSound.clear slot
  | read slot message =>
      simp only [ConnectionProtocol.perform, protocol, read, bind_assoc, pure_bind]
      refine Checked.Meets.bind (sound.lookUp_meets inside) ?_
      intro session isSound
      rw [sound.config_eq, sound.key_eq]
      refine Checked.Meets.bind (isSound.read_meets keyed config message) ?_
      intro answer kept
      rcases answer with ⟨left, after⟩
      exact sound.withSession kept slot
  | produce slot =>
      simp only [ConnectionProtocol.perform, protocol, produce, bind_assoc, pure_bind]
      refine Checked.Meets.bind (sound.lookUp_meets inside) ?_
      intro session isSound
      exact sound.withSession isSound.produce slot

/-- Every run keeps a service sound, unless it stops for an allowed reason. -/
theorem run_meets
    {allowed : Fault → Prop}
    (keyed : allowed .brokenKey ∨ Hello.FitsBlock key)
    {calls : List ProtocolCall}
    (inside : allowed .outOfRange ∨ ∀ call ∈ calls, call.slot < config.login.maxConnections) :
    (protocol.run service calls).Meets allowed (IsSound config key) := by
  apply ConnectionProtocol.run_meets _ sound
  intro state call member isSound
  exact isSound.perform_meets keyed call (inside.imp_right fun all => all call member)

end IsSound

/-- A service that starts is sound, and all its sessions await a handshake. -/
theorem isSound_ofArena
    {config : Configuration}
    {arena after : Arena}
    {key : KeyPair}
    {service : LoginService}
    (started : ofArena arena key config = .ok (service, after)) :
    service.IsSound config key ∧
      ∀ session ∈ service.sessions, session.phase = .awaitingHello := by
  simp only [ofArena, Checked.bind_eq_ok] at started
  rcases started with ⟨_, _, ⟨blocks, last⟩, carved, same⟩
  cases same
  obtain ⟨count_eq, zero⟩ := Arena.blocks_of_carveMany_eq_ok carved
  refine ⟨⟨rfl, rfl, ?_, ?_⟩, ?_⟩
  · rw [List.length_map]
    exact count_eq
  · intro session member
    obtain ⟨block, isBlock, rfl⟩ := List.mem_map.mp member
    simp only [LoginSession.IsSound, LoginSession.ofBlock, zero block isBlock, Bytes.length_zeros]
  · intro session member
    obtain ⟨block, _, rfl⟩ := List.mem_map.mp member
    rfl

end LoginService

end Gatehouse
