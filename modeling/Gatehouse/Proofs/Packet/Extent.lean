import Gatehouse.Proofs.Packet.Reading

namespace Gatehouse.Read

/-!
# How far reads reach

How many bytes a read takes is decided by the bytes that are left: a fixed
number for a field of fixed width, the length in front and as many bytes as it
says for a string. The read answers exactly if that many bytes are there, so
what a sequence of reads needs is found part by part.
-/

/-- A read takes the bytes that an extent counts in what is left, and answers if they are there. -/
def Consumes (read : Read α) (extent : Bytes → Nat) : Prop :=
  ∀ position rest,
    (extent rest ≤ rest.length →
      ∃ value,
        run read { position := position, rest := rest } =
          (some value,
            { position := position + extent rest, rest := rest.drop (extent rest) })) ∧
      (rest.length < extent rest →
        (run read { position := position, rest := rest }).1 = none)

/-- A read answers exactly if what is left meets a condition. -/
def AnswersExactly (read : Read α) (condition : Bytes → Prop) : Prop :=
  ∀ position rest,
    (run read { position := position, rest := rest }).1.isSome ↔ condition rest

/-- The bytes of the string that a byte string starts with, its length included. -/
def stringExtent (bytes : Bytes) : Nat :=
  2 + (Bytes.toUInt16 bytes).toNat

theorem run_bytes_of_le
    {count : Nat}
    {rest : Bytes}
    (enough : count ≤ rest.length)
    (position : Nat) :
    run (Read.bytes count) { position := position, rest := rest } =
      (some (rest.take count), { position := position + count, rest := rest.drop count }) := by
  simp only [run, Read.bytes, OptionT.run, OptionT.mk, StateT.run, enough, if_true]

theorem run_bytes_of_lt
    {count : Nat}
    {rest : Bytes}
    (short : rest.length < count)
    (position : Nat) :
    run (Read.bytes count) { position := position, rest := rest } =
      (none, { position := position, rest := rest }) := by
  simp only [run, Read.bytes, OptionT.run, OptionT.mk, StateT.run, Nat.not_le.mpr short, if_false]

/-- The number read is the one that all of what is left starts with. -/
theorem run_uint16_of_le
    {rest : Bytes}
    (enough : 2 ≤ rest.length)
    (position : Nat) :
    run Read.uint16 { position := position, rest := rest } =
      (some (Bytes.toUInt16 rest), { position := position + 2, rest := rest.drop 2 }) := by
  have same : Bytes.toUInt16 (rest.take 2) = Bytes.toUInt16 rest := by
    rw [Bytes.toUInt16, Bytes.toUInt16, List.take_take, Nat.min_self]
  rw [Read.uint16, run_bind, run_bytes_of_le enough, ← same]
  rfl

/-- A sequence answers nothing if its first part does not. -/
theorem run_bind_of_none
    {first : Read α}
    {reader : Reader}
    (failed : (run first reader).1 = none)
    (next : α → Read β) :
    (run (first >>= next) reader).1 = none := by
  rw [run_bind]
  split
  next value later ran =>
    rw [ran] at failed
    cases failed
  next later ran =>
    rfl

namespace Consumes

theorem bytes (count : Nat) : Consumes (Read.bytes count) fun _ => count := by
  intro position rest
  refine ⟨fun enough => ⟨_, run_bytes_of_le enough position⟩, fun short => ?_⟩
  rw [run_bytes_of_lt short]

theorem map
    {first : Read α}
    {extent : Bytes → Nat}
    (ofFirst : Consumes first extent)
    (answer : α → β) :
    Consumes (first >>= fun value => Pure.pure (answer value)) extent := by
  intro position rest
  obtain ⟨answers, fails⟩ := ofFirst position rest
  constructor
  · intro enough
    obtain ⟨value, ran⟩ := answers enough
    exact ⟨answer value, by rw [run_bind, ran]; rfl⟩
  · intro short
    exact run_bind_of_none (fails short) _

/-- Reads of fixed extents in a row. -/
theorem bind
    {first : Read α}
    {next : α → Read β}
    {front back : Nat}
    (ofFirst : Consumes first fun _ => front)
    (ofNext : ∀ value, Consumes (next value) fun _ => back) :
    Consumes (first >>= next) fun _ => front + back := by
  intro position rest
  obtain ⟨answers, fails⟩ := ofFirst position rest
  simp only at answers fails ⊢
  by_cases enough : front ≤ rest.length
  · obtain ⟨value, ran⟩ := answers enough
    obtain ⟨nextAnswers, nextFails⟩ := ofNext value (position + front) (rest.drop front)
    simp only [List.length_drop] at nextAnswers nextFails
    rw [run_bind, ran]
    refine ⟨fun both => ?_, fun short => nextFails (by omega)⟩
    obtain ⟨last, nextRan⟩ := nextAnswers (by omega)
    exact ⟨last, by simp only [nextRan, List.drop_drop, Nat.add_assoc]⟩
  · exact ⟨fun both => absurd (Nat.le_of_add_right_le both) enough,
      fun _ => run_bind_of_none (fails (Nat.not_le.mp enough)) next⟩

theorem uint8 : Consumes Read.uint8 fun _ => 1 :=
  (bytes 1).map fun taken => UInt8.ofNat (Bytes.ofLittleEndian taken)

theorem uint16 : Consumes Read.uint16 fun _ => 2 :=
  (bytes 2).map Bytes.toUInt16

theorem uint32 : Consumes Read.uint32 fun _ => 4 :=
  (bytes 4).map Bytes.toUInt32

theorem skip (count : Nat) : Consumes (Read.skip count) fun _ => count :=
  (bytes count).map fun _ => ()

theorem string (limit : Nat) : Consumes (Read.string limit) stringExtent := by
  intro position rest
  by_cases prefixed : 2 ≤ rest.length
  · have behind := (bytes (Bytes.toUInt16 rest).toNat).map
      (fun taken => if (Bytes.toUInt16 rest).toNat < limit then taken else [])
      (position + 2) (rest.drop 2)
    rw [List.length_drop] at behind
    rw [Read.string, run_bind, run_uint16_of_le prefixed]
    simp only [stringExtent]
    refine ⟨fun enough => ?_, fun short => behind.2 (by omega)⟩
    obtain ⟨value, answered⟩ := behind.1 (by omega)
    exact ⟨value, by rw [answered, List.drop_drop, Nat.add_assoc]⟩
  · exact ⟨fun enough => absurd (Nat.le_of_add_right_le enough) prefixed,
      fun _ => run_bind_of_none ((uint16 position rest).2 (Nat.not_le.mp prefixed)) _⟩

end Consumes

namespace AnswersExactly

theorem pure (value : α) : AnswersExactly (Pure.pure value) fun _ => True := by
  intro position rest
  simp

/-- A sequence answers exactly if its first part finds its bytes and the next answers behind. -/
theorem bind
    {first : Read α}
    {next : α → Read β}
    {extent : Bytes → Nat}
    {condition : Bytes → Prop}
    (ofFirst : Consumes first extent)
    (ofNext : ∀ value, AnswersExactly (next value) condition) :
    AnswersExactly (first >>= next) fun rest =>
      extent rest ≤ rest.length ∧ condition (rest.drop (extent rest)) := by
  intro position rest
  obtain ⟨answers, fails⟩ := ofFirst position rest
  by_cases enough : extent rest ≤ rest.length
  · obtain ⟨value, ran⟩ := answers enough
    rw [run_bind, ran]
    simp only [enough, true_and]
    exact ofNext value _ _
  · rw [run_bind_of_none (fails (Nat.not_le.mp enough)) next]
    simp [enough]

end AnswersExactly

end Gatehouse.Read
