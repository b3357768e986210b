import Gatehouse.Proofs.Packet.Reading
import Gatehouse.Proofs.Packet.Size

namespace Gatehouse.Read

/-!
# Packets that are read back

A client reads a packet field by field. A read answers a value for a packet if
it answers it for the bytes of the packet, whatever follows them, and takes just
these; of a packet without bytes nothing is said. Reads in a row answer for
packets in a row.
-/

/-- Perform a read again and again. -/
def times (read : Read α) : Nat → Read (List α)
  | 0 => return []
  | count + 1 => do
      let first ← read
      let rest ← times read count
      return first :: rest

/-- A read takes the bytes of a packet, if there are any, and answers a value. -/
def ReadsBack (read : Read α) (packet : Packet) (value : α) : Prop :=
  ∀ bytes, packet.encoding? = some bytes → Takes read bytes value

namespace ReadsBack

theorem pure (value : α) : ReadsBack (Pure.pure value) [] value := by
  intro bytes encoded
  cases encoded
  exact .pure value

theorem bind
    {first : Read α}
    {next : α → Read β}
    {front back : Packet}
    {middle : α}
    {value : β}
    (ofFirst : ReadsBack first front middle)
    (ofNext : ReadsBack (next middle) back value) :
    ReadsBack (first >>= next) (front ++ back) value := by
  intro bytes encoded
  obtain ⟨frontBytes, backBytes, frontEncoded, backEncoded, rfl⟩ :=
    Packet.encoding?_append_eq_some encoded
  exact (ofFirst frontBytes frontEncoded).bind (ofNext backBytes backEncoded)

theorem map
    {first : Read α}
    {packet : Packet}
    {middle : α}
    (ofFirst : ReadsBack first packet middle)
    (answer : α → β) :
    ReadsBack (first >>= fun value => Pure.pure (answer value)) packet (answer middle) :=
  fun bytes encoded => (ofFirst bytes encoded).map answer

/-- A field is read as its bytes are. -/
theorem of_field
    {read : Read α}
    {field : Field}
    {value : α}
    (takes : ∀ bytes, field.encoding? = some bytes → Takes read bytes value) :
    ReadsBack read [field] value := by
  intro bytes encoded
  simp only [Packet.encoding?, Option.bind_eq_bind, Option.bind_eq_some_iff, Option.pure_def,
    Option.some.injEq] at encoded
  obtain ⟨fieldBytes, fieldEncoded, _, rfl, rfl⟩ := encoded
  rw [List.append_nil]
  exact takes fieldBytes fieldEncoded

theorem uint8 (value : UInt8) : ReadsBack Read.uint8 [.uint8 value] value := by
  apply of_field
  intro bytes encoded
  cases encoded
  exact .uint8 value

theorem uint16 (value : UInt16) : ReadsBack Read.uint16 [.uint16 value] value := by
  apply of_field
  intro bytes encoded
  cases encoded
  exact .uint16 value

theorem uint32 (value : UInt32) : ReadsBack Read.uint32 [.uint32 value] value := by
  apply of_field
  intro bytes encoded
  cases encoded
  exact .uint32 value

theorem bytes (value : Bytes) : ReadsBack (Read.bytes value.length) [.bytes value] value := by
  apply of_field
  intro bytes encoded
  cases encoded
  exact .bytes value

/-- A string that could be written at all is read whole, or as empty from the limit on. -/
theorem stringUnder (limit : Nat) (value : Bytes) :
    ReadsBack (Read.string limit) [.string value]
      (if value.length < limit then value else []) := by
  apply of_field
  intro bytes encoded
  by_cases expressible : value.length ≤ 65535
  · rw [Field.encoding?, if_pos expressible] at encoded
    cases encoded
    exact .string expressible limit
  · rw [Field.encoding?, if_neg expressible] at encoded
    cases encoded

/-- There is no string to which a limit of 65536 bytes applies. -/
theorem string (value : Bytes) : ReadsBack (Read.string 65536) [.string value] value := by
  intro bytes encoded
  have short : value.length ≤ 65535 :=
    (Packet.isEncodable_of_encoding? encoded).1 (.string value) (List.mem_singleton.mpr rfl)
  have under := stringUnder 65536 value bytes encoded
  rwa [if_pos (Nat.lt_succ_of_le short)] at under

/-- What is read of packets of one kind in a row is what each of them says. -/
theorem times
    {read : Read α}
    {packetOf : α → Packet}
    (ofEach : ∀ item, ReadsBack read (packetOf item) item)
    (items : List α) :
    ReadsBack (read.times items.length) (items.flatMap packetOf) items := by
  induction items with
  | nil =>
      exact .pure []
  | cons item rest inductionHypothesis =>
      exact (ofEach item).bind (inductionHypothesis.map fun others => item :: others)

end ReadsBack

end Gatehouse.Read
