import Gatehouse.Proofs.Packet.Size

namespace Gatehouse

/-!
# Packets that do not fit

A writer that is spoiled stays as it is. So of any packet exactly the fields in
front of the first that fails are in the buffer, and a single look at the end
tells whether that is all of them.
-/

/-- A packet has an encoding if nothing in it is inexpressible and no string is too long. -/
theorem Packet.isEncodable_iff {packet : Packet} :
    packet.IsEncodable ↔
      .unencodable ∉ packet ∧ ∀ value, .string value ∈ packet → value.length ≤ 65535 := by
  constructor
  · intro encodable
    exact ⟨fun member => encodable .unencodable member,
      fun value member => encodable (.string value) member⟩
  · rintro ⟨expressible, short⟩ field member
    cases field with
    | string value =>
        exact short value member
    | unencodable =>
        exact absurd member expressible
    | uint8 | uint16 | uint32 | bytes =>
        trivial

namespace Writer

variable {writer : Writer}

theorem spoil_of_spoiled (spoiled : writer.intact = false) : writer.spoil = writer := by
  cases writer
  cases spoiled
  rfl

/-- A spoiled writer writes no field, even one that would fit. -/
theorem field_of_spoiled (spoiled : writer.intact = false) (field : Field) :
    writer.field field = writer := by
  have refuses (bytes : Bytes) : writer.append bytes = writer := by
    rw [append, dif_neg (by simp [spoiled]), spoil_of_spoiled spoiled]
  unfold Writer.field
  split
  next bytes encoded =>
    exact refuses bytes
  next inexpressible =>
    exact spoil_of_spoiled spoiled

/-- A spoiled writer writes no packet. -/
theorem packet_of_spoiled (spoiled : writer.intact = false) (packet : Packet) :
    writer.packet packet = writer := by
  induction packet with
  | nil =>
      rfl
  | cons field rest inductionHypothesis =>
      calc
        writer.packet (field :: rest)
            = (writer.field field).packet rest := rfl
        _ = writer.packet rest := by rw [field_of_spoiled spoiled]
        _ = writer := inductionHypothesis

/-- A field that fails spoils the writer and does nothing else. -/
theorem field_of_failed
    {field : Field}
    (failed : (writer.field field).intact = false) :
    writer.field field = writer.spoil := by
  unfold Writer.field at failed ⊢
  split at failed
  next bytes encoded =>
    have full : ¬(writer.intact = true ∧ bytes.length ≤ writer.room) := by
      intro fits
      rw [append, dif_pos fits, fits.1] at failed
      cases failed
    rw [append, dif_neg full]
  next inexpressible =>
    rfl

/-- A packet leaves a writer intact if it was so, and all fields have encodings, which fit. -/
theorem intact_packet_iff {packet : Packet} :
    (writer.packet packet).intact = true ↔
      writer.intact = true ∧ packet.IsEncodable ∧ packet.size ≤ writer.remaining := by
  constructor
  · intro intact
    obtain ⟨bytes, encoded, intactBefore, wrote⟩ := hasWritten_of_intact intact
    obtain ⟨encodable, length_eq⟩ := Packet.isEncodable_of_encoding? encoded
    have room := wrote.room_eq
    refine ⟨intactBefore, encodable, ?_⟩
    rw [remaining, ← room, ← length_eq]
    exact Nat.le_add_left _ _
  · rintro ⟨intact, encodable, fits⟩
    obtain ⟨bytes, encoded, length_eq⟩ := Packet.encoding?_of_isEncodable encodable
    rw [← length_eq] at fits
    exact (packet_of_fits intact encoded fits).intact

/-- How many fields of a packet succeed before one fails, and the bytes that they add. -/
structure Stops (writer : Writer) (packet : Packet) (succeeded : Nat) (bytes : Bytes) : Prop where
  within : succeeded ≤ packet.length
  intact_iff :
    ∀ count,
      0 < count →
      count ≤ packet.length →
      ((writer.packet (packet.take count)).intact = true ↔ count ≤ succeeded)
  encoded : Packet.encoding? (packet.take succeeded) = some bytes
  adds : writer.Adds bytes (writer.packet packet)

/-- A field that fails is where a writer stops. -/
theorem stops_of_failed
    {field : Field}
    (failed : (writer.field field).intact = false)
    (rest : Packet) :
    writer.Stops (field :: rest) 0 [] := by
  have same (packet : Packet) : writer.packet (field :: packet) = writer.spoil := by
    rw [← field_of_failed failed]
    exact packet_of_spoiled failed packet
  refine ⟨Nat.zero_le _, ?_, rfl, ?_⟩
  · intro count positive _
    obtain ⟨before, rfl⟩ := Nat.exists_eq_succ_of_ne_zero (Nat.ne_of_gt positive)
    rw [List.take_succ_cons, same]
    simp [spoil]
  · rw [same]
    exact ⟨rfl, rfl, (List.append_nil _).symm⟩

/-- A field that succeeds is added in front of those that succeed after it. -/
theorem Stops.cons
    {field : Field}
    {rest : Packet}
    {succeeded : Nat}
    {bytes : Bytes}
    (stops : (writer.field field).Stops rest succeeded bytes)
    (intact : (writer.field field).intact = true) :
    ∃ added, writer.Stops (field :: rest) (succeeded + 1) added := by
  obtain ⟨fieldBytes, encoded, _, wrote⟩ := hasWritten_of_intact_field intact
  refine ⟨fieldBytes ++ bytes, Nat.succ_le_succ stops.within, ?_, ?_, ?_⟩
  · intro count positive within
    obtain ⟨before, rfl⟩ := Nat.exists_eq_succ_of_ne_zero (Nat.ne_of_gt positive)
    rw [Nat.succ_le_succ_iff]
    rcases Nat.eq_zero_or_pos before with rfl | later
    · exact ⟨fun _ => Nat.zero_le _, fun _ => intact⟩
    · exact stops.intact_iff before later (Nat.le_of_succ_le_succ within)
  · simp [Packet.encoding?, encoded, stops.encoded]
  · exact wrote.adds.trans stops.adds

/-- Every writer stops somewhere in every packet. -/
theorem exists_stops (writer : Writer) (packet : Packet) :
    ∃ succeeded bytes, writer.Stops packet succeeded bytes := by
  -- A field that succeeds leaves another writer to the fields behind it.
  induction packet generalizing writer with
  | nil =>
      refine ⟨0, [], Nat.zero_le _, ?_, rfl, .refl writer⟩
      intro count positive within
      exact absurd positive (Nat.not_lt.mpr within)
  | cons field rest inductionHypothesis =>
      cases intact : (writer.field field).intact with
      | true =>
          obtain ⟨succeeded, bytes, stops⟩ := inductionHypothesis (writer.field field)
          exact ⟨succeeded + 1, stops.cons intact⟩
      | false =>
          exact ⟨0, [], stops_of_failed intact rest⟩

end Writer

end Gatehouse
