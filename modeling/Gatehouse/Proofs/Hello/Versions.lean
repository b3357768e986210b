import Gatehouse.Proofs.Hello.RoundTrip

namespace Gatehouse.Hello

/-!
# Handshakes of every version

What the services read of the handshakes that a client writes under a wide key,
whatever its version is. A credential shows only under the accepted version,
and only if it is short enough; the other fields of the handshake do not depend
on that. A cipher key with a zero low byte makes the plaintext start with zero,
and the block of such a handshake is refused.
-/

/-- The bytes that a service reads of a credential that a client of a version presents. -/
def shownUnder (version : UInt16) (value : Bytes) : Bytes :=
  if version = Protocol.acceptedVersion ∧ value.length ≤ Credential.maxLength then value else []

/-- A login handshake holds the version, the key and the credentials that were presented. -/
structure ShowsLogin
    (version : UInt16)
    (key : CipherKey)
    (account password : Bytes)
    (handshake : LoginHello) :
    Prop where
  system_eq : handshake.system = 2
  version_eq : handshake.version = version
  key_eq : handshake.key = key
  account_eq : handshake.account.bytes = shownUnder version account
  password_eq : handshake.password.bytes = shownUnder version password

/-- A game handshake holds the version, the key and the credentials that were presented. -/
structure ShowsGame
    (version : UInt16)
    (key : CipherKey)
    (account character password : Bytes)
    (handshake : GameHello) :
    Prop where
  system_eq : handshake.system = 2
  version_eq : handshake.version = version
  key_eq : handshake.key = key
  account_eq : handshake.account.bytes = shownUnder version account
  character_eq : handshake.character.bytes = shownUnder version character
  password_eq : handshake.password.bytes = shownUnder version password

/-- Reading what was written answers a handshake that shows what was presented. -/
def ReadsBack
    (written : Except KeyError Bytes)
    (read : Bytes → Checked (Attempt HelloError α))
    (shows : α → Prop) :
    Prop :=
  ∃ body left handshake,
    written = .ok body ∧
      read body = .ok { outcome := .ok handshake, buffer := left } ∧ shows handshake

/-- Reading what was written refuses its block, which decrypts to too few bytes. -/
def IsRefused
    (written : Except KeyError Bytes)
    (read : Bytes → Checked (Attempt HelloError α)) :
    Prop :=
  ∃ body left length,
    written = .ok body ∧
      length < 127 ∧ read body = .ok { outcome := .error (.blockLength length), buffer := left }

theorem bytes_credentialUnder (version : UInt16) (value : Bytes) :
    (credentialUnder version value).bytes = shownUnder version value := by
  unfold credentialUnder shownUnder
  by_cases accepted : version = Protocol.acceptedVersion
  · simp [accepted, acceptsVersion, bytes_credentialOf]
  · simp only [accepted, acceptsVersion, decide_false, false_and, if_false]
    rfl

theorem showsLogin_loginHelloUnder
    (version : UInt16)
    (key : CipherKey)
    (account password : Bytes) :
    ShowsLogin version key account password
      (loginHelloUnder { system := declaredSystem, version := version } key account password) :=
  ⟨rfl, rfl, rfl, bytes_credentialUnder version account, bytes_credentialUnder version password⟩

theorem showsGame_gameHelloUnder
    (version : UInt16)
    (key : CipherKey)
    (account character password : Bytes) :
    ShowsGame version key account character password
      (gameHelloUnder { system := declaredSystem, version := version } key account character
        password) :=
  ⟨rfl, rfl, rfl, bytes_credentialUnder version account, bytes_credentialUnder version character,
    bytes_credentialUnder version password⟩

/-- Whatever follows a cipher key with a zero low byte, the handshake is refused for its block. -/
theorem isRefused_of_low_zero
    {layout : HelloLayout}
    {service : KeyPair}
    {sessionKey : CipherKey}
    (key : IsWideKey service)
    (headed : 9 ≤ layout.blockOffset)
    (shaped : layout.length = layout.blockOffset + Protocol.keyBlockLength)
    (low : sessionKey.word0.toUInt8 = 0)
    (version : UInt16)
    (fields : Packet)
    (read : HelloHeader → Read α) :
    IsRefused (writeWith layout service version (keyFields sessionKey ++ fields))
      (readWith layout read service) := by
  obtain ⟨body, block, around⟩ :=
    exists_writtenAround key headed shaped version (keyFields sessionKey ++ fields)
  have leading : (plaintextOf (keyFields sessionKey ++ fields)).head? = some 0 := by
    rw [head?_plaintextOf, low]
  obtain ⟨length, left, short, refused⟩ := around.refused leading read
  exact ⟨body, left, length, around.written, short, refused⟩

/--
Both services read every handshake back that a client writes for a wide key,
with the credentials that its version and their lengths let show, if the low
byte of the cipher key is not zero; and refuse the block of each if it is.
-/
theorem handshakes_read_back
    {firstPrime secondPrime exponent : Nat}
    {service : KeyPair}
    (made : KeyPair.ofPrimes firstPrime secondPrime exponent = .ok service)
    (firstIsPrime : firstPrime.Prime)
    (secondIsPrime : secondPrime.Prime)
    (firstOdd : firstPrime ≠ 2)
    (secondOdd : secondPrime ≠ 2)
    (different : firstPrime ≠ secondPrime)
    (wide : 2 ^ 1016 < firstPrime * secondPrime)
    (version : UInt16)
    (sessionKey : CipherKey) :
    (sessionKey.word0.toUInt8 ≠ 0 →
      (∀ account password : Bytes,
        20 + (account.length + password.length) ≤ 127 →
        ReadsBack (writeLogin service version sessionKey account password) (readLogin service)
          (ShowsLogin version sessionKey account password)) ∧
        ∀ account character password : Bytes,
          23 + (account.length + character.length + password.length) ≤ 127 →
          ReadsBack (writeGame service version sessionKey account character password)
            (readGame service) (ShowsGame version sessionKey account character password)) ∧
      (sessionKey.word0.toUInt8 = 0 →
        (∀ account password : Bytes,
          IsRefused (writeLogin service version sessionKey account password)
            (readLogin service)) ∧
          ∀ account character password : Bytes,
            IsRefused (writeGame service version sessionKey account character password)
              (readGame service)) := by
  have key : IsWideKey service :=
    isWideKey_of_ofPrimes made firstIsPrime secondIsPrime firstOdd secondOdd different wide
  refine ⟨fun low => ⟨?_, ?_⟩, fun low => ⟨?_, ?_⟩⟩
  · intro account password fits
    have roomy :
        16 + (2 + account.length) + (2 + password.length) ≤ Protocol.keyPlaintextLength := by
      simp only [Protocol.keyPlaintextLength]
      omega
    obtain ⟨body, left, written, readBack⟩ :=
      readLogin_of_writeLogin_under key low roomy version
    exact ⟨body, left, _, written, readBack, showsLogin_loginHelloUnder _ _ _ _⟩
  · intro account character password fits
    have roomy :
        16 + 1 + (2 + account.length) + (2 + character.length) + (2 + password.length) ≤
          Protocol.keyPlaintextLength := by
      simp only [Protocol.keyPlaintextLength]
      omega
    obtain ⟨body, left, written, readBack⟩ := readGame_of_writeGame_under key low roomy version
    exact ⟨body, left, _, written, readBack, showsGame_gameHelloUnder _ _ _ _ _⟩
  · intro account password
    exact isRefused_of_low_zero key (by decide : 9 ≤ HelloLayout.login.blockOffset) rfl low version
      _ loginPlaintext
  · intro account character password
    exact isRefused_of_low_zero key (by decide : 9 ≤ HelloLayout.game.blockOffset) rfl low version
      _ gamePlaintext

/-- A cipher key whose low byte is zero. -/
def lowZeroKey : CipherKey where
  word0 := 256
  word1 := 2
  word2 := 3
  word3 := 4

/--
A password shows behind an account name of 40 bytes, which does not; a client of
another version shows no character; and a low byte of zero is refused.
-/
theorem handshakes_of_wide_key_read_back :
    ∃ service,
      KeyPair.ofPrimes widePrimes.1 widePrimes.2 65537 = .ok service ∧
        ReadsBack
          (writeLogin service 860 sampleKey (List.replicate 40 97) [115, 51])
          (readLogin service)
          (fun handshake =>
            handshake.account.bytes = [] ∧ handshake.password.bytes = [115, 51]) ∧
        ReadsBack
          (writeGame service 854 sampleKey [97] [98] [99])
          (readGame service)
          (fun handshake => handshake.version = 854 ∧ handshake.character.bytes = []) ∧
        IsRefused (writeLogin service 860 lowZeroKey [97] [115]) (readLogin service) := by
  obtain ⟨service, made, _⟩ := exists_isWideKey
  have readBack :=
    handshakes_read_back made prime_widePrimes_fst prime_widePrimes_snd (by decide +kernel)
      (by decide +kernel) (by decide +kernel) (by decide +kernel)
  obtain ⟨loginBody, loginLeft, loginHello, loginWritten, loginRead, loginShows⟩ :=
    ((readBack 860 sampleKey).1 (by decide)).1 (List.replicate 40 97) [115, 51] (by decide)
  obtain ⟨gameBody, gameLeft, gameHello, gameWritten, gameRead, gameShows⟩ :=
    ((readBack 854 sampleKey).1 (by decide)).2 [97] [98] [99] (by decide)
  refine ⟨service, made, ⟨loginBody, loginLeft, loginHello, loginWritten, loginRead, ?_, ?_⟩,
    ⟨gameBody, gameLeft, gameHello, gameWritten, gameRead, gameShows.version_eq, ?_⟩,
    ((readBack 860 lowZeroKey).2 (by decide)).1 [97] [115]⟩
  · exact loginShows.account_eq.trans (by decide)
  · exact loginShows.password_eq.trans (by decide)
  · exact gameShows.character_eq.trans (by decide)

end Gatehouse.Hello
