import Gatehouse.Proofs.Frame.RoundTrip
import Gatehouse.Proofs.Packet.ReadingBack
import Gatehouse.Proofs.Session.Login.Reply

namespace Gatehouse

/-!
# Replies of the login service as a client reads them

A client opens the frame of a reply under its key and reads what it opens to,
field by field. Around a character list it reads what the configuration says of
the account, and nothing else. A refusal is spelled by its tag, the length of
the reason and the reason, and so is not read as any account's characters.
-/

/-- What a client reads of a reply that lists characters. -/
structure Roster where
  motdTag : UInt8
  motd : Bytes
  listTag : UInt8
  count : UInt8
  characters : List CharacterListing
  premiumDays : UInt16
deriving DecidableEq, Repr

/-- What a configuration says of an account. -/
def Configuration.rosterOf (config : Configuration) (account : Account) : Roster where
  motdTag := 0x14
  motd := Bytes.ofText config.login.motd
  listTag := 0x64
  count := UInt8.ofNat account.characters.length
  characters :=
    account.characters.map fun name =>
      { name := Bytes.ofText name
        world := Bytes.ofText config.login.worldName
        host := config.login.gameHost
        port := config.login.gamePort }
  premiumDays := account.premiumDays

namespace Read

/-- Take the four octets of an address. -/
def host : Read IPv4 := do
  let octet0 ← uint8
  let octet1 ← uint8
  let octet2 ← uint8
  let octet3 ← uint8
  return { octet0, octet1, octet2, octet3 }

/-- Take a character, and where to play it. -/
def listing : Read CharacterListing := do
  let name ← string 65536
  let world ← string 65536
  let host ← host
  let port ← uint16
  return { name, world, host, port }

/-- Take the message of the day and as many characters as the reply counts. -/
def roster : Read Roster := do
  let motdTag ← uint8
  let motd ← string 65536
  let listTag ← uint8
  let count ← uint8
  let characters ← listing.times count.toNat
  let premiumDays ← uint16
  return { motdTag, motd, listTag, count, characters, premiumDays }

theorem host_takes (address : IPv4) : Takes host address.octets address :=
  (Takes.uint8 _).bind ((Takes.uint8 _).bind ((Takes.uint8 _).bind ((Takes.uint8 _).map _)))

theorem listing_readsBack (entry : CharacterListing) :
    ReadsBack listing (Packet.characterEntry entry) entry := by
  have ofHost : ReadsBack host [.bytes entry.host.octets] entry.host := by
    apply ReadsBack.of_field
    intro bytes encoded
    cases encoded
    exact host_takes entry.host
  exact (ReadsBack.string entry.name).bind
    ((ReadsBack.string entry.world).bind (ofHost.bind ((ReadsBack.uint16 entry.port).map _)))

/-- A client reads back the characters that were counted. -/
theorem roster_readsBack
    {config : Configuration}
    {account : Account}
    (few : account.characters.length ≤ 255) :
    ReadsBack roster (LoginSession.characterList config account) (config.rosterOf account) := by
  have entries :=
    ReadsBack.times listing_readsBack (LoginSession.characterEntries config account)
  have counted :
      (UInt8.ofNat account.characters.length).toNat =
        (LoginSession.characterEntries config account).length := by
    rw [LoginSession.characterEntries, List.length_map]
    exact UInt8.toNat_ofNat_of_lt' (Nat.lt_succ_of_le few)
  rw [← counted] at entries
  have packet_eq :
      LoginSession.characterList config account =
        [Field.uint8 0x14] ++
          ([Field.string (Bytes.ofText config.login.motd)] ++
            ([Field.uint8 0x64] ++
              ([Field.uint8 (UInt8.ofNat account.characters.length)] ++
                ((LoginSession.characterEntries config account).flatMap Packet.characterEntry ++
                  [Field.uint16 account.premiumDays])))) := by
    simp [LoginSession.characterList, LoginSession.characterEntries, Packet.motd,
      Packet.characterList, few, Tag.motd, Tag.characterList]
  rw [packet_eq]
  refine (ReadsBack.uint8 0x14).bind ?_
  refine (ReadsBack.string _).bind ?_
  refine (ReadsBack.uint8 0x64).bind ?_
  refine (ReadsBack.uint8 _).bind ?_
  exact entries.bind ((ReadsBack.uint16 _).map _)

/-- The tag of a roster is the first byte that is read. -/
theorem motdTag_of_roster
    {tag : UInt8}
    {rest : Bytes}
    {answer : Roster}
    (answered : (roster.run (.ofBytes (tag :: rest))).1 = some answer) :
    answer.motdTag = tag := by
  have first := Takes.uint8 tag 0 rest
  rw [roster, run_bind, Reader.ofBytes, ← List.singleton_append, first] at answered
  refine (?_ : Answers (fun roster : Roster => roster.motdTag = tag) _) _ _ answered
  exact (Answers.trivial _).bind fun _ _ =>
    (Answers.trivial _).bind fun _ _ =>
      (Answers.trivial _).bind fun _ _ =>
        (Answers.trivial _).bind fun _ _ => (Answers.trivial _).bind fun _ _ => .pure rfl

end Read

/-- The roster that a client reads in a frame under its key, if the frame opens to just that. -/
def Frame.rosterIn? (key : CipherKey) (frame : Bytes) : Option Roster := do
  let payload ← Frame.opened? key frame
  let (roster?, left) := Read.roster.run (.ofBytes payload)
  if left.rest = [] then roster? else none

/-- A client opens the frame around a reply that fits to the bytes of the reply. -/
theorem LoginSession.Fits.opened?_eq
    {reply : Packet}
    {bytes : Bytes}
    (fits : LoginSession.Fits reply bytes)
    (key : CipherKey) :
    Frame.opened? key (Frame.frameAround key bytes) = some bytes :=
  Frame.opened?_frameAround key (Nat.le_trans fits.framed (by decide))

/-- A client reads in the frame around a character list what the configuration says. -/
theorem Frame.rosterIn?_frameAround
    {config : Configuration}
    {account : Account}
    {bytes : Bytes}
    (fits : LoginSession.Fits (LoginSession.characterList config account) bytes)
    (key : CipherKey) :
    Frame.rosterIn? key (Frame.frameAround key bytes) = some (config.rosterOf account) := by
  have takes :=
    Read.roster_readsBack (LoginSession.count_le_of_encoding? fits.encoded) bytes fits.encoded 0 []
  rw [List.append_nil] at takes
  simp only [rosterIn?, fits.opened?_eq, Reader.ofBytes, takes, Option.bind_eq_bind, Option.bind_some,
    if_true]

/-- What starts with another tag is not the roster of an account. -/
theorem Frame.rosterIn?_ne_rosterOf
    {key : CipherKey}
    {frame rest : Bytes}
    {tag : UInt8}
    (opened : Frame.opened? key frame = some (tag :: rest))
    (other : tag ≠ 0x14)
    (config : Configuration)
    (account : Account) :
    Frame.rosterIn? key frame ≠ some (config.rosterOf account) := by
  intro read
  simp only [rosterIn?, opened, Option.bind_eq_bind, Option.bind_some] at read
  split at read
  next whole =>
    exact other (Read.motdTag_of_roster read).symm
  next cut =>
    cases read

namespace LoginSession

/-- The refusal of credentials, in bytes. -/
theorem encoding?_wrongCredentials :
    Packet.encoding? (Packet.loginDisconnect (Bytes.ofText wrongCredentials)) =
      some (0x0A :: 33 :: 0 :: Bytes.ofText "Invalid account name or password.") :=
  Packet.encoding?_tagged (by decide) Tag.loginDisconnect

/-- The refusal of another version, in bytes. -/
theorem encoding?_wrongVersion :
    Packet.encoding? (Packet.loginDisconnect (Bytes.ofText Protocol.wrongVersion)) =
      some (0x0A :: 41 :: 0 :: Bytes.ofText "This server requires client version 8.60.") :=
  Packet.encoding?_tagged (by decide) Tag.loginDisconnect

end LoginSession

end Gatehouse
