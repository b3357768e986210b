import Gatehouse.Session.Login
import Gatehouse.Proofs.Bytes.Text
import Gatehouse.Proofs.Configuration.Accepted
import Gatehouse.Proofs.Configuration.Totality
import Gatehouse.Proofs.Frame.Layout
import Gatehouse.Proofs.Packet.Size

namespace Gatehouse.LoginSession

/-!
# Replies of the login service

The length that validation computes for the reply of an account is that of the
sealed reply, and the reply fits the buffer of a session if and only if that
length does: more characters than can be counted, or a longer text than can be
written, do not fit either. So in an accepted configuration the character list
of every account fits; so does each reason for a refusal.
-/

/-- A reply has the given bytes, and the frame around them fits the buffer of a session. -/
structure Fits (reply : Packet) (bytes : Bytes) : Prop where
  encoded : reply.encoding? = some bytes
  nonempty : bytes ≠ []
  framed : Frame.lengthAround bytes.length ≤ Protocol.loginReplyCapacity

theorem fits_of_size
    {reply : Packet}
    (encodable : reply.IsEncodable)
    (positive : 0 < reply.size)
    (framed : Frame.lengthAround reply.size ≤ Protocol.loginReplyCapacity) :
    ∃ bytes, Fits reply bytes := by
  obtain ⟨bytes, encoded, length_eq⟩ := Packet.encoding?_of_isEncodable encodable
  refine ⟨bytes, encoded, ?_, ?_⟩
  · rw [← List.length_pos_iff, length_eq]
    exact positive
  · rw [length_eq]
    exact framed

/-- Validation computes the length of a reply whose characters can be counted. -/
theorem replyBytes_eq
    {config : Configuration}
    {account : Account}
    (few : account.characters.length ≤ 255) :
    config.replyBytes account = Frame.lengthAround (characterList config account).size := by
  have entrySize (name : String) :
      Packet.size (Packet.characterEntry
        { name := Bytes.ofText name
          world := Bytes.ofText config.login.worldName
          host := config.login.gameHost
          port := config.login.gamePort }) =
        10 + name.utf8ByteSize + config.login.worldName.utf8ByteSize := by
    simp only [Packet.characterEntry, Packet.size_cons, Packet.size_nil, Field.size,
      Bytes.length_ofText, IPv4.octets, List.length_cons, List.length_nil]
    omega
  rw [Configuration.replyBytes]
  congr 1
  simp only [characterList, characterEntries, Packet.characterList, List.length_map, few, if_true,
    Packet.size_append, Packet.size_flatMap, List.map_map, Function.comp_def, entrySize]
  rw [← Configuration.listedBytes]
  simp only [Packet.motd, Packet.size_cons, Packet.size_nil, Field.size, Bytes.length_ofText]
  omega

/-- A reply of 502 bytes fits; with one more its padding needs another block, and it does not. -/
theorem replyBytes_le_capacity_iff
    {config : Configuration}
    {account : Account} :
    config.replyBytes account ≤ Protocol.loginReplyCapacity ↔
      3 + config.login.motd.utf8ByteSize + config.listedBytes account.characters + 4 ≤ 502 := by
  simp only [Configuration.replyBytes, Frame.lengthAround, Frame.sealedStart,
    Protocol.loginReplyCapacity]
  omega

/-- Characters that fit a reply can be counted, for each takes at least ten bytes. -/
theorem count_le_of_replyBytes
    {config : Configuration}
    {account : Account}
    (framed : config.replyBytes account ≤ Protocol.loginReplyCapacity) :
    account.characters.length ≤ 255 := by
  have each (names : List String) : 10 * names.length ≤ config.listedBytes names := by
    induction names with
    | nil =>
        exact Nat.zero_le _
    | cons name rest inductionHypothesis =>
        simp only [Configuration.listedBytes, List.map_cons, List.sum_cons,
          List.length_cons] at inductionHypothesis ⊢
        omega
  have all := each account.characters
  have short := replyBytes_le_capacity_iff.mp framed
  omega

/-- Characters that cannot be counted have no encoding. -/
theorem count_le_of_encoding?
    {config : Configuration}
    {account : Account}
    {bytes : Bytes}
    (encoded : (characterList config account).encoding? = some bytes) :
    account.characters.length ≤ 255 := by
  by_contra many
  have encodable := (Packet.isEncodable_of_encoding? encoded).1
  simp [characterList, characterEntries, Packet.characterList, many, Field.IsEncodable] at encodable

/-- The reply with an account's characters fits if and only if validation says so. -/
theorem fits_characterList_iff
    {config : Configuration}
    {account : Account} :
    (∃ bytes, Fits (characterList config account) bytes) ↔
      ∃ length,
        config.loginReplyLength account = .ok length ∧ length ≤ Protocol.loginReplyCapacity := by
  constructor
  · rintro ⟨bytes, fits⟩
    have sized : config.replyBytes account = Frame.lengthAround bytes.length := by
      rw [replyBytes_eq (count_le_of_encoding? fits.encoded),
        (Packet.isEncodable_of_encoding? fits.encoded).2]
    have framed := fits.framed
    rw [← sized] at framed
    exact ⟨_, Configuration.loginReplyLength_eq_ok.mpr
      ⟨Nat.lt_of_le_of_lt framed (by decide), rfl⟩, framed⟩
  · rintro ⟨length, computed, framed⟩
    rw [(Configuration.loginReplyLength_eq_ok.mp computed).2] at framed
    have few := count_le_of_replyBytes framed
    rw [replyBytes_eq few] at framed
    have short : (characterList config account).size ≤ 65535 := by
      simp only [Frame.lengthAround, Frame.sealedStart, Protocol.loginReplyCapacity] at framed
      omega
    have expressible : Field.unencodable ∉ characterList config account := by
      simp [characterList, characterEntries, Packet.characterList, few, Packet.motd,
        Packet.characterEntry]
    have positive : 0 < (characterList config account).size := by
      simp only [characterList, Packet.motd, Packet.size_append, Packet.size_cons, Field.size]
      omega
    exact fits_of_size (Packet.isEncodable_of_size_le expressible short) positive framed

/-- A reply that fits is as long as validation says. -/
theorem Fits.loginReplyLength_eq
    {config : Configuration}
    {account : Account}
    {bytes : Bytes}
    {length : Nat}
    (fits : Fits (characterList config account) bytes)
    (computed : config.loginReplyLength account = .ok length) :
    length = Frame.lengthAround bytes.length := by
  rw [(Configuration.loginReplyLength_eq_ok.mp computed).2,
    replyBytes_eq (count_le_of_encoding? fits.encoded),
    (Packet.isEncodable_of_encoding? fits.encoded).2]

/-- The reply with an account's characters fits if validation accepts the account. -/
theorem fits_characterList
    {config : Configuration}
    {account : Account}
    (accepted : config.Accepted)
    (member : account ∈ config.accounts) :
    ∃ bytes, Fits (characterList config account) bytes :=
  fits_characterList_iff.mpr (accepted.reply_fits account member)

theorem fits_loginDisconnect
    {reason : String}
    (short : reason.utf8ByteSize ≤ 400) :
    ∃ bytes, Fits (Packet.loginDisconnect (Bytes.ofText reason)) bytes := by
  have size_eq :
      Packet.size (Packet.loginDisconnect (Bytes.ofText reason)) = 3 + reason.utf8ByteSize := by
    simp only [Packet.loginDisconnect, Packet.size_cons, Packet.size_nil, Field.size,
      Bytes.length_ofText]
    omega
  apply fits_of_size
  · apply Packet.isEncodable_of_size_le
    · simp [Packet.loginDisconnect]
    · omega
  · omega
  · rw [size_eq]
    simp only [Frame.lengthAround, Frame.sealedStart, Protocol.loginReplyCapacity]
    omega

/-- A character list is not a refusal: they start with different tags. -/
theorem characterList_ne_loginDisconnect
    {config : Configuration}
    {account : Account}
    {reason listed refused : Bytes}
    (ofList : Packet.encoding? (characterList config account) = some listed)
    (ofRefusal : Packet.encoding? (Packet.loginDisconnect reason) = some refused) :
    listed ≠ refused := by
  have first : listed.head? = some Tag.motd := by
    simp only [characterList, Packet.motd, List.cons_append, Packet.encoding?, Field.encoding?,
      Option.bind_eq_bind, Option.bind_some, Option.bind_eq_some_iff, Option.pure_def,
      Option.some.injEq] at ofList
    rcases ofList with ⟨_, _, rfl⟩
    rfl
  have second : refused.head? = some Tag.loginDisconnect := by
    simp only [Packet.loginDisconnect, Packet.encoding?, Field.encoding?,
      Option.bind_eq_bind, Option.bind_some, Option.bind_eq_some_iff, Option.pure_def,
      Option.some.injEq] at ofRefusal
    rcases ofRefusal with ⟨_, _, rfl⟩
    rfl
  intro same
  rw [same, second] at first
  exact absurd first (by decide)

end Gatehouse.LoginSession
