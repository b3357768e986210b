import Gatehouse.Proofs.Configuration.AccountBook
import Gatehouse.Proofs.Session.Login.Roster
import Gatehouse.Proofs.Session.Login.Service

namespace Gatehouse

/-!
# What the login service decides

A handshake that a client writes for the service key is answered with the
message of the day and the character list of the account that the account book
opens, or with a refusal if it opens none.
-/

namespace LoginSession

/-- What a client reads in a frame under its key about a name and a password. -/
structure Verdict
    (config : Configuration)
    (key : CipherKey)
    (name password frame : Bytes) : Prop where
  listed :
    ∀ account ∈ config.accounts,
      account.IsOpenedWith name password →
      Frame.rosterIn? key frame = some (config.rosterOf account)
  refused :
    ¬config.Opens name password →
    Frame.opened? key frame =
      some (0x0A :: 33 :: 0 :: Bytes.ofText "Invalid account name or password.")
  listed_iff :
    (∃ account ∈ config.accounts,
        Frame.rosterIn? key frame = some (config.rosterOf account)) ↔
      config.Opens name password

/-- Either way there is something to read. -/
theorem Verdict.frame_ne_nil
    {config : Configuration}
    {key : CipherKey}
    {name password frame : Bytes}
    (verdict : Verdict config key name password frame) :
    frame ≠ [] := by
  rintro rfl
  by_cases opens : config.Opens name password
  · obtain ⟨account, _, listed⟩ := verdict.listed_iff.mpr opens
    cases listed
  · have refused := verdict.refused opens
    cases refused

/-- The reply to the credentials of a client fits, and is the verdict of the account book. -/
theorem verdict_replyTo
    {config : Configuration}
    (accepted : config.Accepted)
    (name password : Bytes) :
    ∃ payload,
      Fits (replyTo config (Hello.credentialOf name) (Hello.credentialOf password)) payload ∧
        ∀ key, Verdict config key name password (Frame.frameAround key payload) := by
  unfold replyTo
  cases opened :
      config.accountOpenedBy? (Hello.credentialOf name) (Hello.credentialOf password) with
  | some account =>
      obtain ⟨member, isOpened⟩ := (Configuration.accountOpenedBy?_eq_some accepted).mp opened
      have opens : config.Opens name password := ⟨account, member, isOpened⟩
      obtain ⟨payload, fits⟩ := fits_characterList accepted member
      refine ⟨payload, fits, fun key => ⟨?_, ?_, ?_⟩⟩
      · intro other otherMember otherOpened
        have same :=
          (Configuration.accountOpenedBy?_eq_some accepted).mpr ⟨otherMember, otherOpened⟩
        rw [opened] at same
        cases same
        exact Frame.rosterIn?_frameAround fits key
      · intro refused
        exact absurd opens refused
      · exact ⟨fun _ => opens, fun _ => ⟨account, member, Frame.rosterIn?_frameAround fits key⟩⟩
  | none =>
      have opensNone := (Configuration.accountOpenedBy?_eq_none accepted).mp opened
      have short : wrongCredentials.utf8ByteSize ≤ 400 := by
        decide
      obtain ⟨payload, fits⟩ := fits_loginDisconnect short
      obtain rfl := Option.some.inj (fits.encoded.symm.trans encoding?_wrongCredentials)
      refine ⟨_, fits, fun key => ⟨?_, fun _ => fits.opened?_eq key, ?_⟩⟩
      · intro account member isOpened
        exact absurd ⟨account, member, isOpened⟩ opensNone
      · constructor
        · intro listing
          rcases listing with ⟨account, _, listed⟩
          exact absurd listed
            (Frame.rosterIn?_ne_rosterOf (fits.opened?_eq key) (by decide) config account)
        · intro opens
          exact absurd opens opensNone

/-- A session with the key and the credentials of a client. -/
def presented (session : LoginSession) (handshake : LoginHello) : LoginSession :=
  { session with
    key := handshake.key
    account := handshake.account
    password := handshake.password }

/-- The first handshake of the accepted version is replied to. -/
theorem read_of_readLogin
    {config : Configuration}
    {service : KeyPair}
    {session after : LoginSession}
    {message left : Bytes}
    {handshake : LoginHello}
    (fresh : session.phase = .awaitingHello)
    (readBack :
      Hello.readLogin service message = .ok { outcome := .ok handshake, buffer := left })
    (versionAccepted : Hello.acceptsVersion handshake.version = true)
    (sent :
      (session.presented handshake).send (replyTo config handshake.account handshake.password) =
        .ok after) :
    session.read config service message = .ok (left, after) := by
  have awaiting : ¬session.phase ≠ .awaitingHello := not_not_intro fresh
  have answered : session.answer config handshake = .ok after := by
    simp only [answer, versionAccepted, if_true]
    exact sent
  simp only [LoginSession.read, awaiting, if_false, readBack, answered, bind, Except.bind]
  rfl

end LoginSession

namespace LoginService

/--
A slot answers the handshake that a client writes for the service key with a
frame in which the client reads, under its cipher key, the verdict of the account book.
-/
def DecidesByBook
    (before : LoginService)
    (slot : Nat)
    (config : Configuration)
    (service : KeyPair)
    (sessionKey : CipherKey)
    (name password : Bytes) : Prop :=
  ∃ body message answered length staging frame,
    Hello.writeLogin service Protocol.acceptedVersion sessionKey name password = .ok body ∧
      before.read slot body = .ok (message, answered) ∧
      answered.produce slot = .ok (length, staging) ∧
      staging.staged slot = .ok frame ∧
      length = frame.length ∧
      LoginSession.Verdict config sessionKey name password frame

/-- A session that awaits a handshake decides by the account book. -/
theorem decidesByBook_of_awaiting
    {config : Configuration}
    {service : KeyPair}
    {sessionKey : CipherKey}
    {name password : Bytes}
    (accepted : config.Accepted)
    (key : Hello.IsWideKey service)
    (low : sessionKey.word0.toUInt8 ≠ 0)
    (fits : 16 + (2 + name.length) + (2 + password.length) ≤ Protocol.keyPlaintextLength)
    {before : LoginService}
    {slot : Nat}
    {session : LoginSession}
    (sound : before.IsSound config service)
    (found : before.sessions[slot]? = some session)
    (fresh : session.phase = .awaitingHello) :
    before.DecidesByBook slot config service sessionKey name password := by
  obtain ⟨body, left, written, readBack⟩ := Hello.readLogin_of_writeLogin key low fits
  obtain ⟨payload, replyFits, verdict⟩ := LoginSession.verdict_replyTo accepted name password
  let presented := session.presented (Hello.loginHelloOf sessionKey name password)
  have presentedSound : presented.IsSound :=
    sound.sessions_sound session (List.mem_of_getElem? found)
  let answered := presented.answeredWith payload
  have taken : session.read config service body = .ok (left, answered) :=
    LoginSession.read_of_readLogin fresh readBack rfl (presentedSound.send_of_fits replyFits)
  have within : slot < before.sessions.length := (List.getElem?_eq_some_iff.mp found).1
  have isThere (after : LoginService) (inside : slot < after.sessions.length)
      (other : LoginSession) :
      Checked.lookUp (after.withSession slot other).sessions slot = .ok other := by
    apply Checked.lookUp_of_getElem?
    simp [withSession, inside]
  let staging : LoginSession := { answered with phase := .replied }
  have staged : staging.staged = .ok (Frame.frameAround sessionKey payload) :=
    LoginSession.staged_answeredWith presented payload
  refine ⟨body, left, before.withSession slot answered, Frame.lengthAround payload.length,
    (before.withSession slot answered).withSession slot staging,
    Frame.frameAround sessionKey payload, written, ?_, ?_, ?_, ?_, verdict sessionKey⟩
  · simp only [read, Checked.lookUp_of_getElem? found, sound.config_eq, sound.key_eq, taken, bind,
      Except.bind]
    rfl
  · simp only [produce, isThere before within, bind, Except.bind]
    rfl
  · have stillWithin : slot < (before.withSession slot answered).sessions.length := by
      rw [withSession, List.length_set]
      exact within
    simp only [LoginService.staged, isThere _ stillWithin, bind, Except.bind]
    exact staged
  · exact (Frame.length_frameAround _ _).symm

end LoginService

end Gatehouse
