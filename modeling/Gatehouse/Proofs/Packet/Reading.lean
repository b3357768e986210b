import Gatehouse.Packet.Reader
import Gatehouse.Proofs.Bytes.Words

namespace Gatehouse.Read

/-!
# Running reads

A sequence of reads runs one read after another and stops at the first that
answers nothing. What every answer satisfies is found part by part, and so is
what a read makes of the bytes that it was written for.
-/

@[simp]
theorem run_pure (value : α) (reader : Reader) :
    run (pure value) reader = (some value, reader) :=
  rfl

theorem run_bind (first : Read α) (next : α → Read β) (reader : Reader) :
    run (first >>= next) reader =
      match run first reader with
      | (some value, later) => run (next value) later
      | (none, later) => (none, later) := by
  simp only [run, OptionT.run, StateT.run, bind, OptionT.bind, OptionT.mk, StateT.bind]
  cases first reader with
  | mk answer later =>
      cases answer <;> rfl

/-- All answers of a read satisfy a predicate. -/
def Answers (holds : α → Prop) (read : Read α) : Prop :=
  ∀ reader value, (run read reader).1 = some value → holds value

namespace Answers

theorem pure
    {holds : α → Prop}
    {value : α}
    (satisfied : holds value) :
    Answers holds (Pure.pure value) := by
  intro reader answer answered
  cases answered
  exact satisfied

theorem bind
    {middle : α → Prop}
    {holds : β → Prop}
    {first : Read α}
    {next : α → Read β}
    (ofFirst : Answers middle first)
    (ofNext : ∀ value, middle value → Answers holds (next value)) :
    Answers holds (first >>= next) := by
  intro reader answer answered
  rw [run_bind] at answered
  split at answered
  next value later ran =>
    exact ofNext value (ofFirst reader value (by rw [ran])) later answer answered
  next later ran =>
    cases answered

theorem trivial (read : Read α) : Answers (fun _ => True) read :=
  fun _ _ _ => True.intro

end Answers

/-- A read takes some bytes, whatever follows them, and answers a value. -/
def Takes (read : Read α) (taken : Bytes) (value : α) : Prop :=
  ∀ position rest,
    run read { position := position, rest := taken ++ rest } =
      (some value, { position := position + taken.length, rest := rest })

namespace Takes

theorem pure (value : α) : Takes (Pure.pure value) [] value :=
  fun _ _ => rfl

theorem bind
    {first : Read α}
    {next : α → Read β}
    {front back : Bytes}
    {middle : α}
    {value : β}
    (ofFirst : Takes first front middle)
    (ofNext : Takes (next middle) back value) :
    Takes (first >>= next) (front ++ back) value := by
  intro position rest
  rw [run_bind, List.append_assoc, ofFirst position (back ++ rest)]
  simp only
  rw [ofNext, List.length_append, Nat.add_assoc]

theorem map
    {first : Read α}
    {front : Bytes}
    {middle : α}
    (ofFirst : Takes first front middle)
    (answer : α → β) :
    Takes (first >>= fun value => Pure.pure (answer value)) front (answer middle) := by
  have both :
      Takes (first >>= fun value => Pure.pure (answer value)) (front ++ []) (answer middle) :=
    ofFirst.bind (pure _)
  rwa [List.append_nil] at both

theorem bytes (taken : Bytes) : Takes (Read.bytes taken.length) taken taken := by
  intro position rest
  have enough : taken.length ≤ (taken ++ rest).length := by
    rw [List.length_append]
    exact Nat.le_add_right _ _
  simp only [run, Read.bytes, OptionT.run, OptionT.mk, StateT.run, enough, if_true,
    List.take_left' rfl, List.drop_left' rfl]

theorem skip_one (byte : UInt8) : Takes (Read.skip 1) [byte] () :=
  (bytes [byte]).map fun _ => ()

theorem uint8 (byte : UInt8) : Takes Read.uint8 [byte] byte := by
  have taken := (bytes [byte]).map fun taken => UInt8.ofNat (Bytes.ofLittleEndian taken)
  have same : UInt8.ofNat (Bytes.ofLittleEndian [byte]) = byte := by
    simp [Bytes.ofLittleEndian]
  rw [same] at taken
  exact taken

theorem uint16 (value : UInt16) : Takes Read.uint16 (Bytes.ofUInt16 value) value := by
  have taken := (bytes (Bytes.ofUInt16 value)).map Bytes.toUInt16
  rw [Bytes.length_ofUInt16, Bytes.toUInt16_ofUInt16] at taken
  exact taken

theorem uint32 (value : UInt32) : Takes Read.uint32 (Bytes.ofUInt32 value) value := by
  have taken := (bytes (Bytes.ofUInt32 value)).map Bytes.toUInt32
  rw [Bytes.length_ofUInt32, Bytes.toUInt32_ofUInt32] at taken
  exact taken

/-- A string is taken whole, and reads as empty from the limit on. -/
theorem string
    {value : Bytes}
    (expressible : value.length ≤ 65535)
    (limit : Nat) :
    Takes (Read.string limit) (Bytes.ofUInt16 (UInt16.ofNat value.length) ++ value)
      (if value.length < limit then value else []) := by
  have length_eq : (UInt16.ofNat value.length).toNat = value.length :=
    UInt16.toNat_ofNat_of_lt' (Nat.lt_succ_of_le expressible)
  refine (uint16 (UInt16.ofNat value.length)).bind ?_
  rw [length_eq]
  exact (bytes value).map fun taken => if value.length < limit then taken else []

end Takes

end Gatehouse.Read
