import Gatehouse.Proofs.Configuration.Reservation
import Gatehouse.Proofs.Session.Login.Conversation

namespace Gatehouse

/-!
# The character list as its client reads it

A session of a new connection sends the character list of an account if and only
if the length that validation computes for the reply is at most the length of
the reply buffer. Then the frame has exactly that length, and the client reads
in it what the configuration says of the account, and nothing else. Otherwise
the session ends without a reply.
-/

namespace LoginSession

/-- The session of a connection that presented nothing yet. -/
structure IsFresh (session : LoginSession) : Prop where
  phase_eq : session.phase = .awaitingHello
  unsent : session.replyLength = 0
  sound : session.IsSound

/-- A session replies with the roster of an account, in a frame of this length under the key. -/
structure Lists
    (config : Configuration)
    (account : Account)
    (key : CipherKey)
    (length : Nat)
    (session : LoginSession) : Prop where
  phase_eq : session.phase = .replying
  length_eq : session.produce.1 = length
  shown :
    ∃ frame,
      session.staged = .ok frame ∧
        frame.length = length ∧
        Frame.rosterIn? key frame = some (config.rosterOf account)

/-- A session is over and has no reply. -/
structure IsSilenced (session : LoginSession) : Prop where
  phase_eq : session.phase = .ended
  produce_eq : session.produce = (0, session)
  staged_eq : session.staged = .ok []

/-- A reply that fits lists the account at the length that validation computes. -/
theorem lists_answeredWith
    {config : Configuration}
    {account : Account}
    {length : Nat}
    {bytes : Bytes}
    (session : LoginSession)
    (fits : Fits (characterList config account) bytes)
    (computed : config.loginReplyLength account = .ok length) :
    (session.answeredWith bytes).Lists config account session.key length := by
  rw [fits.loginReplyLength_eq computed]
  exact ⟨rfl, rfl, _, staged_answeredWith session bytes, Frame.length_frameAround _ _,
    Frame.rosterIn?_frameAround fits _⟩

/-- Only a reply changes the length of what is staged. -/
theorem replyLength_of_send
    {session after : LoginSession}
    {packet : Packet}
    (sent : session.send packet = .ok after)
    (isOver : after.phase = .ended) :
    after.replyLength = session.replyLength := by
  obtain ⟨_, _, sent⟩ := Checked.bind_eq_ok.mp sent
  split at sent
  next spoiled =>
    cases sent
    rfl
  next intact =>
    obtain ⟨_, _, sent⟩ := Checked.bind_eq_ok.mp sent
    split at sent
    next error refused =>
      cases sent
      rfl
    next length isSealed =>
      cases sent
      cases isOver

theorem isSilenced_of_send
    {session after : LoginSession}
    {packet : Packet}
    (unsent : session.replyLength = 0)
    (sent : session.send packet = .ok after)
    (isOver : after.phase = .ended) :
    after.IsSilenced := by
  refine ⟨isOver, ?_, ?_⟩
  · simp only [produce, isOver]
  · rw [staged, replyLength_of_send sent isOver, unsent]
    exact Bytes.slice_eq_ok.mpr ⟨⟨Nat.le_refl 0, Nat.zero_le _⟩, rfl⟩

/-- A session that is sound replies with a character list if validation says that it fits. -/
theorem IsSound.send_lists
    {session : LoginSession}
    {config : Configuration}
    {account : Account}
    {length : Nat}
    (sound : session.IsSound)
    (computed : config.loginReplyLength account = .ok length)
    (framed : length ≤ Protocol.loginReplyCapacity) :
    ∃ after,
      session.send (characterList config account) = .ok after ∧
        after.Lists config account session.key length := by
  obtain ⟨bytes, fits⟩ := fits_characterList_iff.mpr ⟨length, computed, framed⟩
  exact ⟨_, sound.send_of_fits fits, lists_answeredWith session fits computed⟩

/-- A handshake that opens an account is answered with its roster if validation accepted. -/
theorem IsFresh.read_lists
    {session : LoginSession}
    {config : Configuration}
    {account : Account}
    {service : KeyPair}
    {message left : Bytes}
    {handshake : LoginHello}
    (fresh : session.IsFresh)
    (valid : config.Accepted)
    (readBack :
      Hello.readLogin service message = .ok { outcome := .ok handshake, buffer := left })
    (versionAccepted : Hello.acceptsVersion handshake.version = true)
    (opened : config.accountOpenedBy? handshake.account handshake.password = some account) :
    ∃ after length,
      session.read config service message = .ok (left, after) ∧
        config.loginReplyLength account = .ok length ∧
        after.Lists config account handshake.key length := by
  obtain ⟨length, computed, framed⟩ :=
    valid.reply_fits account (Configuration.mem_of_accountOpenedBy? opened)
  have presentedSound : (session.presented handshake).IsSound := fresh.sound
  obtain ⟨after, sent, lists⟩ := presentedSound.send_lists computed framed
  refine ⟨after, length, read_of_readLogin fresh.phase_eq readBack versionAccepted ?_, computed,
    lists⟩
  rw [replyTo, opened]
  exact sent

end LoginSession

/-- A slot that is taken over has a new session, whatever the service was called for before. -/
theorem LoginService.exists_isFresh_of_accept
    {config : Configuration}
    {key : KeyPair}
    {arena rest : Arena}
    {start free accepted : LoginService}
    {earlier : List ProtocolCall}
    {slot : Nat}
    {peer : SocketAddress}
    (started : LoginService.ofArena arena key config = .ok (start, rest))
    (ran : LoginService.protocol.run start earlier = .ok free)
    (taken : LoginService.protocol.accept free slot peer = .ok accepted) :
    ∃ session, accepted.sessions[slot]? = some session ∧ session.IsFresh := by
  have freeWhole := (LoginService.isWhole_ofArena started).run ran
  obtain ⟨old, found, same⟩ := Checked.bind_eq_ok.mp taken
  have isThere := Checked.lookUp_eq_ok.mp found
  have oldWhole := freeWhole.sessions_whole old (List.mem_of_getElem? isThere)
  cases same
  refine ⟨_, LoginService.getElem?_withSession isThere _, rfl, rfl, ?_⟩
  exact oldWhole.clear.reply_length

namespace LoginSession

/--
A new session that builds the character list of an account under a cipher key
always answers. Whatever the configuration and the account are, it replies if
and only if the length that validation computes for the reply is at most 512.
The frame is then exactly that long, and what it opens to under the key is read
as the roster of the account without a byte left over; otherwise the session is
over and has no reply. So in a configuration to which validation objects
nothing, a handshake that opens an account is never met with silence.
-/
theorem character_list_sent_iff_length_fits
    {session : LoginSession}
    (fresh : session.IsFresh)
    (config : Configuration)
    (account : Account)
    (key : CipherKey) :
    (∃ after,
      { session with key := key }.send (characterList config account) = .ok after ∧
        (after.phase = .replying ↔
          ∃ length, config.loginReplyLength account = .ok length ∧ length ≤ 512) ∧
        (∀ length,
          config.loginReplyLength account = .ok length →
          length ≤ 512 →
          after.Lists config account key length) ∧
        (after.phase ≠ .replying → after.IsSilenced)) ∧
      (config.problems = .ok [] →
        ∀ service message left handshake,
          Hello.readLogin service message = .ok { outcome := .ok handshake, buffer := left } →
          Hello.acceptsVersion handshake.version = true →
          config.accountOpenedBy? handshake.account handshake.password = some account →
          ∃ after length,
            session.read config service message = .ok (left, after) ∧
              config.loginReplyLength account = .ok length ∧
              after.Lists config account handshake.key length) := by
  refine ⟨?_, fun none service message left handshake readBack versionAccepted opened =>
    fresh.read_lists (Configuration.accepted_of_problems none) readBack versionAccepted opened⟩
  have keyedSound : { session with key := key }.IsSound := fresh.sound
  rcases keyedSound.send_cases (characterList config account) with
    ⟨bytes, fits, sent⟩ | ⟨unfit, after, sent, isOver⟩
  · have sized := fits_characterList_iff.mp ⟨bytes, fits⟩
    have replies : ({ session with key := key }.answeredWith bytes).phase = .replying := rfl
    refine ⟨_, sent, iff_of_true replies sized, ?_, fun other => absurd replies other⟩
    intro length computed _
    exact lists_answeredWith { session with key := key } fits computed
  · have unsized :
        ¬∃ length, config.loginReplyLength account = .ok length ∧ length ≤ 512 := by
      intro sized
      obtain ⟨bytes, fits⟩ := fits_characterList_iff.mpr sized
      exact unfit bytes fits
    have unreplying : after.phase ≠ .replying := by
      rw [isOver]
      decide
    have unsent : { session with key := key }.replyLength = 0 := fresh.unsent
    refine ⟨after, sent, iff_of_false unreplying unsized, ?_,
      fun _ => isSilenced_of_send unsent sent isOver⟩
    intro length computed framed
    exact absurd ⟨length, computed, framed⟩ unsized

/-- The default service lists the character of the default account to a new connection. -/
theorem default_account_listed :
    ∃ key start rest accepted session after,
      LoginService.ofArena Configuration.defaultArena key {} = .ok (start, rest) ∧
        LoginService.protocol.accept start 0 .loopback = .ok accepted ∧
        accepted.sessions[0]? = some session ∧
        { session with key := Hello.sampleKey }.send (characterList {} {}) = .ok after ∧
        after.Lists {} {} Hello.sampleKey 62 := by
  obtain ⟨key, _, _⟩ := Hello.exists_isWideKey
  have starts :
      ∃ start rest accepted,
        LoginService.ofArena Configuration.defaultArena key {} = .ok (start, rest) ∧
          LoginService.protocol.accept start 0 .loopback = .ok accepted :=
    ⟨_, _, _, rfl, rfl⟩
  obtain ⟨start, rest, accepted, started, taken⟩ := starts
  have uncalled : LoginService.protocol.run start [] = .ok start := rfl
  obtain ⟨session, found, fresh⟩ :=
    LoginService.exists_isFresh_of_accept started uncalled taken
  obtain ⟨⟨after, sent, _, lists, _⟩, _⟩ :=
    character_list_sent_iff_length_fits fresh {} {} Hello.sampleKey
  exact ⟨key, start, rest, accepted, session, after, started, taken, found, sent,
    lists 62 (by decide +kernel) (by decide)⟩

end LoginSession

end Gatehouse
