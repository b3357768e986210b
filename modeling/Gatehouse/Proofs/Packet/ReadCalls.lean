import Gatehouse.Packet.Writer
import Gatehouse.Proofs.Packet.Extent

namespace Gatehouse

/-!
# Reads in any order

The reads that a reader offers, as values, so that any sequence of them can be
spoken about. Every read that answers passes over exactly the bytes of what it
asks for and ends inside the buffer. One that does not answer passes over
nothing, except that a string whose bytes are cut off leaves the reader behind
its length.
-/

/-- A read, by what it asks for. -/
inductive ReadCall where
  | uint8
  | uint16
  | uint32
  | bytes (count : Nat)
  /-- A string, which reads as empty if it is not shorter than the limit. -/
  | string (limit : Nat)
  | skip (count : Nat)
deriving DecidableEq, Repr

namespace ReadCall

/-- Perform a read. It answers with the field that it read, or with none if it skipped bytes. -/
def read : ReadCall → Read Packet
  | .uint8 => do return [.uint8 (← Read.uint8)]
  | .uint16 => do return [.uint16 (← Read.uint16)]
  | .uint32 => do return [.uint32 (← Read.uint32)]
  | .bytes count => do return [.bytes (← Read.bytes count)]
  | .string limit => do return [.string (← Read.string limit)]
  | .skip count => do
      Read.skip count
      return []

/-- The bytes of what a read asks for, given what is left; a string says its own length. -/
def extent : ReadCall → Bytes → Nat
  | .uint8, _ => 1
  | .uint16, _ => 2
  | .uint32, _ => 4
  | .bytes count, _ => count
  | .string _, rest => Read.stringExtent rest
  | .skip count, _ => count

/-- Whether a read asks for a string that is cut off behind its length. -/
def IsCutOff : ReadCall → Bytes → Prop
  | .string _, rest => 2 ≤ rest.length ∧ rest.length < Read.stringExtent rest
  | _, _ => False

/--
Whether a read passes over what it asks for and answers, inside the buffer, or
passes over nothing and does not answer.
-/
def IsAllOrNothing (call : ReadCall) (buffer : Bytes) (reader : Reader) : Prop :=
  (∃ fields,
      (call.read.run reader).1 = some fields ∧
        (call.read.run reader).2.position = reader.position + call.extent reader.rest ∧
        (call.read.run reader).2.position ≤ buffer.length) ∨
    ((call.read.run reader).1 = none ∧
      (call.read.run reader).2.position = reader.position ∧
      (call.read.run reader).2.remaining = reader.remaining)

end ReadCall

/-- A reader after reads in turn, whatever they answered. -/
def Reader.after (reader : Reader) (calls : List ReadCall) : Reader :=
  calls.foldl (fun reader call => (call.read.run reader).2) reader

namespace Read

/-- A read that answers nothing leaves the reader where it was. -/
def FailsInPlace (read : Read α) : Prop :=
  ∀ reader, (run read reader).1 = none → (run read reader).2 = reader

namespace FailsInPlace

theorem bytes (count : Nat) : FailsInPlace (Read.bytes count) := by
  intro reader failed
  rcases Nat.lt_or_ge reader.rest.length count with short | enough
  · rw [run_bytes_of_lt short]
  · rw [run_bytes_of_le enough] at failed
    cases failed

theorem map
    {first : Read α}
    (ofFirst : FailsInPlace first)
    (answer : α → β) :
    FailsInPlace (first >>= fun value => Pure.pure (answer value)) := by
  intro reader failed
  rw [run_bind] at failed ⊢
  cases ran : run first reader with
  | mk answered later =>
      rw [ran] at failed
      cases answered with
      | some value =>
          cases failed
      | none =>
          have kept := ofFirst reader (by rw [ran])
          rw [ran] at kept
          exact kept

theorem uint16 : FailsInPlace Read.uint16 :=
  (bytes 2).map Bytes.toUInt16

end FailsInPlace

/-- A string whose length is cut off leaves the reader where it was. -/
theorem run_string_of_unprefixed
    {rest : Bytes}
    (short : rest.length < 2)
    (limit position : Nat) :
    run (Read.string limit) { position := position, rest := rest } =
      (none, { position := position, rest := rest }) := by
  have failed := (Consumes.uint16 position rest).2 short
  have kept := FailsInPlace.uint16 _ failed
  rw [Read.string, run_bind, ← Prod.eta (run Read.uint16 _), failed, kept]

/-- A string whose bytes are cut off leaves the reader behind its length. -/
theorem run_string_of_cutOff
    {rest : Bytes}
    (prefixed : 2 ≤ rest.length)
    (short : rest.length < stringExtent rest)
    (limit position : Nat) :
    run (Read.string limit) { position := position, rest := rest } =
      (none, { position := position + 2, rest := rest.drop 2 }) := by
  have behind : (rest.drop 2).length < (Bytes.toUInt16 rest).toNat := by
    rw [stringExtent] at short
    rw [List.length_drop]
    omega
  rw [Read.string, run_bind, run_uint16_of_le prefixed]
  simp only
  rw [run_bind, run_bytes_of_lt behind]

end Read

namespace ReadCall

/-- Every read takes what it asks for, and answers if it is there. -/
theorem consumes (call : ReadCall) : Read.Consumes call.read call.extent := by
  cases call with
  | uint8 =>
      exact Read.Consumes.uint8.map fun value => [Field.uint8 value]
  | uint16 =>
      exact Read.Consumes.uint16.map fun value => [Field.uint16 value]
  | uint32 =>
      exact Read.Consumes.uint32.map fun value => [Field.uint32 value]
  | bytes count =>
      exact (Read.Consumes.bytes count).map fun value => [Field.bytes value]
  | string limit =>
      exact (Read.Consumes.string limit).map fun value => [Field.string value]
  | skip count =>
      exact (Read.Consumes.skip count).map fun _ => ([] : Packet)

/-- Every read but that of a string fails in place. -/
theorem failsInPlace
    {call : ReadCall}
    (noString : ∀ limit, call ≠ .string limit) :
    Read.FailsInPlace call.read := by
  cases call with
  | uint8 =>
      exact ((Read.FailsInPlace.bytes 1).map _).map fun value => [Field.uint8 value]
  | uint16 =>
      exact Read.FailsInPlace.uint16.map fun value => [Field.uint16 value]
  | uint32 =>
      exact ((Read.FailsInPlace.bytes 4).map Bytes.toUInt32).map fun value => [Field.uint32 value]
  | bytes count =>
      exact (Read.FailsInPlace.bytes count).map fun value => [Field.bytes value]
  | string limit =>
      exact absurd rfl (noString limit)
  | skip count =>
      exact ((Read.FailsInPlace.bytes count).map fun _ => ()).map fun _ => ([] : Packet)

/-- A read that finds too little fails in place, unless it asks for a string that is cut off. -/
theorem run_of_short
    {call : ReadCall}
    {reader : Reader}
    (short : reader.remaining < call.extent reader.rest)
    (notCutOff : ¬call.IsCutOff reader.rest) :
    call.read.run reader = (none, reader) := by
  have failed := (call.consumes reader.position reader.rest).2 short
  have kept : (call.read.run reader).2 = reader := by
    cases call with
    | string limit =>
        have unprefixed : reader.rest.length < 2 := by
          by_contra enough
          exact notCutOff ⟨Nat.not_lt.mp enough, short⟩
        have ran := Read.run_string_of_unprefixed unprefixed limit reader.position
        rw [read, Read.run_bind, ran]
    | uint8 | uint16 | uint32 | bytes | skip =>
        exact failsInPlace (by simp) reader failed
  exact Prod.ext failed kept

theorem run_of_cutOff
    {call : ReadCall}
    {reader : Reader}
    (cutOff : call.IsCutOff reader.rest) :
    call.read.run reader =
      (none, { position := reader.position + 2, rest := reader.rest.drop 2 }) := by
  cases call with
  | string limit =>
      have ran := Read.run_string_of_cutOff cutOff.1 cutOff.2 limit reader.position
      rw [read, Read.run_bind, ran]
  | uint8 | uint16 | uint32 | bytes | skip =>
      exact absurd cutOff id

theorem lt_extent_of_isCutOff
    {call : ReadCall}
    {rest : Bytes}
    (cutOff : call.IsCutOff rest) :
    2 ≤ rest.length ∧ rest.length < call.extent rest := by
  cases call with
  | string limit =>
      exact cutOff
  | uint8 | uint16 | uint32 | bytes | skip =>
      exact absurd cutOff id

/-- All that a read can do: answer, fail in place, or fail behind the length of a string. -/
theorem read_cases (call : ReadCall) (reader : Reader) :
    (call.extent reader.rest ≤ reader.remaining ∧
        ∃ fields,
          call.read.run reader =
            (some fields,
              { position := reader.position + call.extent reader.rest
                rest := reader.rest.drop (call.extent reader.rest) })) ∨
      (reader.remaining < call.extent reader.rest ∧
        ¬call.IsCutOff reader.rest ∧
        call.read.run reader = (none, reader)) ∨
      (call.IsCutOff reader.rest ∧
        call.read.run reader =
          (none, { position := reader.position + 2, rest := reader.rest.drop 2 })) := by
  rcases Nat.lt_or_ge reader.remaining (call.extent reader.rest) with short | enough
  · by_cases cutOff : call.IsCutOff reader.rest
    · exact .inr (.inr ⟨cutOff, run_of_cutOff cutOff⟩)
    · exact .inr (.inl ⟨short, cutOff, run_of_short short cutOff⟩)
  · exact .inl ⟨enough, (call.consumes reader.position reader.rest).1 enough⟩

end ReadCall

namespace Reader

/-- A reader inside a byte string, in front of the rest of it. -/
structure StandsIn (buffer : Bytes) (reader : Reader) : Prop where
  position_le : reader.position ≤ buffer.length
  rest_eq : reader.rest = buffer.drop reader.position

theorem standsIn_ofBytes (buffer : Bytes) : (ofBytes buffer).StandsIn buffer :=
  ⟨Nat.zero_le _, rfl⟩

namespace StandsIn

variable {buffer : Bytes} {reader : Reader} (stands : reader.StandsIn buffer)

include stands

theorem remaining_eq : reader.position + reader.remaining = buffer.length := by
  rw [remaining, stands.rest_eq, List.length_drop]
  exact Nat.add_sub_cancel' stands.position_le

theorem pass
    {count : Nat}
    (enough : count ≤ reader.remaining) :
    StandsIn buffer
      { position := reader.position + count
        rest := reader.rest.drop count } where
  position_le := by
    have whole := stands.remaining_eq
    simp only
    omega
  rest_eq := by
    rw [stands.rest_eq, List.drop_drop]

/-- A read, whether it answers or not, leaves the reader inside the same byte string. -/
theorem read (call : ReadCall) : (call.read.run reader).2.StandsIn buffer := by
  rcases call.read_cases reader with ⟨enough, fields, ran⟩ | ⟨_, _, ran⟩ | ⟨cutOff, ran⟩
  · rw [ran]
    exact stands.pass enough
  · rw [ran]
    exact stands
  · rw [ran]
    exact stands.pass (ReadCall.lt_extent_of_isCutOff cutOff).1

theorem after (calls : List ReadCall) : (reader.after calls).StandsIn buffer := by
  induction calls generalizing reader with
  | nil =>
      exact stands
  | cons call rest inductionHypothesis =>
      exact inductionHypothesis (stands.read call)

end StandsIn

end Reader

namespace ReadCall

variable {buffer : Bytes} {call : ReadCall} {reader : Reader}

/-- A read answers if and only if all that it asks for is left. -/
theorem exists_answer_iff :
    (∃ fields, (call.read.run reader).1 = some fields) ↔
      call.extent reader.rest ≤ reader.remaining := by
  obtain ⟨answers, fails⟩ := call.consumes reader.position reader.rest
  constructor
  · rintro ⟨fields, answered⟩
    by_contra short
    have failed := fails (Nat.not_le.mp short)
    rw [failed] at answered
    cases answered
  · intro enough
    obtain ⟨fields, ran⟩ := answers enough
    exact ⟨fields, congrArg Prod.fst ran⟩

/-- Of a string that is cut off, the length is passed over without an answer. -/
theorem length_lost_of_cutOff (cutOff : call.IsCutOff reader.rest) :
    (call.read.run reader).1 = none ∧
      (call.read.run reader).2.position = reader.position + 2 ∧
      (call.read.run reader).2.remaining + 2 = reader.remaining := by
  have prefixed := (lt_extent_of_isCutOff cutOff).1
  rw [run_of_cutOff cutOff]
  refine ⟨rfl, rfl, ?_⟩
  rw [Reader.remaining, Reader.remaining, List.length_drop]
  exact Nat.sub_add_cancel prefixed

/-- Only a string that is cut off keeps a read from being all or nothing. -/
theorem isAllOrNothing_iff (stands : reader.StandsIn buffer) :
    call.IsAllOrNothing buffer reader ↔ ¬call.IsCutOff reader.rest := by
  constructor
  · rintro allOrNothing cutOff
    obtain ⟨failed, moved, _⟩ := length_lost_of_cutOff cutOff
    rcases allOrNothing with ⟨fields, answered, _⟩ | ⟨_, kept, _⟩
    · rw [failed] at answered
      cases answered
    · omega
  · intro whole
    have later := stands.read call
    rcases call.read_cases reader with ⟨_, fields, ran⟩ | ⟨_, _, ran⟩ | ⟨cutOff, _⟩
    · rw [ran] at later
      rw [IsAllOrNothing, ran]
      exact .inl ⟨fields, rfl, rfl, later.position_le⟩
    · rw [IsAllOrNothing, ran]
      exact .inr ⟨rfl, rfl, rfl⟩
    · exact absurd cutOff whole

/--
Wherever reads in turn have left a reader, it is inside the byte string, and the next
read answers if and only if all that it asks for is left. It is all or nothing if and
only if it does not ask for a string that is cut off behind its length; of such a string
it passes over the length without an answer.
-/
theorem all_or_nothing_iff_not_cut_off
    {earlier : List ReadCall}
    (reached : (Reader.ofBytes buffer).after earlier = reader)
    (call : ReadCall) :
    reader.position ≤ buffer.length ∧
      reader.rest = buffer.drop reader.position ∧
      ((∃ fields, (call.read.run reader).1 = some fields) ↔
        call.extent reader.rest ≤ reader.remaining) ∧
      (call.IsAllOrNothing buffer reader ↔ ¬call.IsCutOff reader.rest) ∧
      (call.IsCutOff reader.rest →
        (call.read.run reader).1 = none ∧
          (call.read.run reader).2.position = reader.position + 2 ∧
          (call.read.run reader).2.remaining + 2 = reader.remaining) := by
  have stands : reader.StandsIn buffer := by
    rw [← reached]
    exact (Reader.standsIn_ofBytes buffer).after earlier
  exact ⟨stands.position_le, stands.rest_eq, exists_answer_iff, isAllOrNothing_iff stands,
    length_lost_of_cutOff⟩

/-- Of two strings the first is read whole, and of the second only the length. -/
theorem second_string_cut_off :
    ∃ reader,
      (Reader.ofBytes [1, 0, 0x61, 3, 0, 0x62]).after [.string 32] = reader ∧
        reader.position = 3 ∧
        IsAllOrNothing (.bytes 4) [1, 0, 0x61, 3, 0, 0x62] reader ∧
        ¬IsAllOrNothing (.string 32) [1, 0, 0x61, 3, 0, 0x62] reader ∧
        ((ReadCall.string 32).read.run reader).2.position = 5 := by
  have reached :
      (Reader.ofBytes [1, 0, 0x61, 3, 0, 0x62]).after [.string 32] =
        { position := 3, rest := [3, 0, 0x62] } :=
    rfl
  have cutOff : (ReadCall.string 32).IsCutOff [3, 0, 0x62] := ⟨by decide, by decide⟩
  obtain ⟨_, _, _, bytes_iff, _⟩ := all_or_nothing_iff_not_cut_off reached (.bytes 4)
  obtain ⟨_, _, _, string_iff, lost⟩ := all_or_nothing_iff_not_cut_off reached (.string 32)
  exact ⟨_, reached, rfl, bytes_iff.mpr id, fun whole => string_iff.mp whole cutOff,
    (lost cutOff).2.1⟩

/-- Of a string of ten bytes only one is left, so none is read, but its length is passed over. -/
theorem length_of_cut_off_string_lost :
    (ReadCall.string 32).read.run (Reader.ofBytes [10, 0, 0x61]) =
        (none, { position := 2, rest := [0x61] }) ∧
      ¬IsAllOrNothing (.string 32) [10, 0, 0x61] (Reader.ofBytes [10, 0, 0x61]) := by
  refine ⟨rfl, ?_⟩
  rintro (⟨_, answered, _⟩ | ⟨_, kept, _⟩)
  · cases answered
  · cases kept

end ReadCall

end Gatehouse
