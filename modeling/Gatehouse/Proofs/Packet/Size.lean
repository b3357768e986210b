import Mathlib.Algebra.Ring.Nat
import Gatehouse.Proofs.Packet.Writing

namespace Gatehouse

/-!
# Sizes of packets

A packet whose fields all have an encoding has one too, and its length is the
sum of the sizes of its fields.
-/

namespace Field

/-- Bytes of a field that has an encoding. -/
def size : Field → Nat
  | .uint8 _ => 1
  | .uint16 _ => 2
  | .uint32 _ => 4
  | .bytes value => value.length
  | .string value => 2 + value.length
  | .unencodable => 0

/-- Whether a field has an encoding. -/
def IsEncodable : Field → Prop
  | .string value => value.length ≤ 65535
  | .unencodable => False
  | .uint8 _ | .uint16 _ | .uint32 _ | .bytes _ => True

theorem encoding?_of_isEncodable
    {field : Field}
    (encodable : field.IsEncodable) :
    ∃ bytes, field.encoding? = some bytes ∧ bytes.length = field.size := by
  cases field with
  | uint8 value =>
      exact ⟨_, rfl, rfl⟩
  | uint16 value =>
      exact ⟨_, rfl, Bytes.length_ofUInt16 value⟩
  | uint32 value =>
      exact ⟨_, rfl, Bytes.length_ofUInt32 value⟩
  | bytes value =>
      exact ⟨_, rfl, rfl⟩
  | string value =>
      exact ⟨_, if_pos encodable, by simp [size]⟩
  | unencodable =>
      exact absurd encodable id

theorem isEncodable_of_encoding?
    {field : Field}
    {bytes : Bytes}
    (encoded : field.encoding? = some bytes) :
    field.IsEncodable := by
  cases field with
  | string value =>
      by_contra long
      have none : (Field.string value).encoding? = none := if_neg long
      rw [none] at encoded
      cases encoded
  | unencodable =>
      cases encoded
  | uint8 | uint16 | uint32 | bytes =>
      trivial

end Field

namespace Packet

/-- Bytes of a packet that has an encoding. -/
def size (packet : Packet) : Nat :=
  (packet.map Field.size).sum

/-- Whether every field of a packet has an encoding. -/
def IsEncodable (packet : Packet) : Prop :=
  ∀ field ∈ packet, field.IsEncodable

@[simp]
theorem size_nil : size [] = 0 :=
  rfl

@[simp]
theorem size_cons (field : Field) (rest : Packet) :
    size (field :: rest) = field.size + size rest := by
  simp [size]

@[simp]
theorem size_append (first second : Packet) :
    size (first ++ second) = size first + size second := by
  simp [size]

@[simp]
theorem size_flatMap (items : List α) (packetOf : α → Packet) :
    size (items.flatMap packetOf) = (items.map fun item => size (packetOf item)).sum := by
  induction items with
  | nil =>
      rfl
  | cons item rest inductionHypothesis =>
      rw [List.flatMap_cons, size_append, inductionHypothesis, List.map_cons, List.sum_cons]

@[simp]
theorem isEncodable_nil : IsEncodable [] := by
  simp [IsEncodable]

@[simp]
theorem isEncodable_cons (field : Field) (rest : Packet) :
    IsEncodable (field :: rest) ↔ field.IsEncodable ∧ IsEncodable rest :=
  List.forall_mem_cons

@[simp]
theorem isEncodable_append (first second : Packet) :
    IsEncodable (first ++ second) ↔ IsEncodable first ∧ IsEncodable second :=
  List.forall_mem_append

@[simp]
theorem isEncodable_flatMap (items : List α) (packetOf : α → Packet) :
    IsEncodable (items.flatMap packetOf) ↔ ∀ item ∈ items, IsEncodable (packetOf item) := by
  simp only [IsEncodable, List.mem_flatMap]
  constructor
  · intro all item member field inItem
    exact all field ⟨item, member, inItem⟩
  · intro all field inside
    rcases inside with ⟨item, member, inItem⟩
    exact all item member field inItem

theorem encoding?_of_isEncodable
    {packet : Packet}
    (encodable : packet.IsEncodable) :
    ∃ bytes, packet.encoding? = some bytes ∧ bytes.length = packet.size := by
  induction packet with
  | nil =>
      exact ⟨[], rfl, rfl⟩
  | cons field rest inductionHypothesis =>
      obtain ⟨ofField, ofRest⟩ := (isEncodable_cons field rest).mp encodable
      obtain ⟨fieldBytes, fieldEncoded, fieldSize⟩ := Field.encoding?_of_isEncodable ofField
      obtain ⟨restBytes, restEncoded, restSize⟩ := inductionHypothesis ofRest
      refine ⟨fieldBytes ++ restBytes, ?_, ?_⟩
      · simp [encoding?, fieldEncoded, restEncoded]
      · rw [List.length_append, fieldSize, restSize, size_cons]

/-- A packet that has an encoding is as long as its fields, which have one too. -/
theorem isEncodable_of_encoding?
    {packet : Packet}
    {bytes : Bytes}
    (encoded : packet.encoding? = some bytes) :
    packet.IsEncodable ∧ bytes.length = packet.size := by
  have encodable : packet.IsEncodable := by
    induction packet generalizing bytes with
    | nil =>
        exact isEncodable_nil
    | cons field rest inductionHypothesis =>
        simp only [encoding?, Option.bind_eq_bind, Option.bind_eq_some_iff] at encoded
        obtain ⟨_, fieldEncoded, _, restEncoded, _⟩ := encoded
        exact (isEncodable_cons field rest).mpr
          ⟨Field.isEncodable_of_encoding? fieldEncoded, inductionHypothesis restEncoded⟩
  obtain ⟨same, sameEncoded, length_eq⟩ := encoding?_of_isEncodable encodable
  rw [encoded] at sameEncoded
  cases sameEncoded
  exact ⟨encodable, length_eq⟩

theorem size_le_of_mem
    {packet : Packet}
    {field : Field}
    (member : field ∈ packet) :
    field.size ≤ packet.size := by
  induction packet with
  | nil =>
      cases member
  | cons first rest inductionHypothesis =>
      rw [size_cons]
      rcases List.mem_cons.mp member with isFirst | inRest
      · rw [isFirst]
        exact Nat.le_add_right _ _
      · exact Nat.le_trans (inductionHypothesis inRest) (Nat.le_add_left _ _)

/-- In a packet that is short, only values that cannot be expressed have no encoding. -/
theorem isEncodable_of_size_le
    {packet : Packet}
    (expressible : .unencodable ∉ packet)
    (short : packet.size ≤ 65535) :
    packet.IsEncodable := by
  intro field member
  have within := size_le_of_mem member
  cases field with
  | string value =>
      simp only [Field.size] at within
      simp only [Field.IsEncodable]
      omega
  | unencodable =>
      exact absurd member expressible
  | uint8 | uint16 | uint32 | bytes =>
      trivial

end Packet

end Gatehouse
