import Gatehouse.Checksum.WordSums
import Gatehouse.Proofs.Checksum
import Gatehouse.Proofs.Checksum.Detection

namespace Gatehouse.Checksum

/-!
# Summing in words is summing byte by byte

The sums in words stand for plain sums, and follow them byte by byte as long as
the most that a run can come to keeps to 32 bits. That is so for sums below 2¹⁶
at the start of a run, reduced or not. Blocks, the rest of a run and the ends of
chunks therefore leave no trace in the outcome.
-/

namespace Sums

/-- Adding bytes comes to no more than adding as many of 255. -/
theorem worst_foldl (room : Nat) (sums : Sums) (bytes : Bytes) :
    worst room (bytes.foldl step sums) ≤ worst (bytes.length + room) sums := by
  induction bytes generalizing sums with
  | nil =>
      rw [List.length_nil, Nat.zero_add, List.foldl_nil]
  | cons byte rest inductionHypothesis =>
      rw [List.foldl_cons, List.length_cons, Nat.add_right_comm]
      exact Nat.le_trans (inductionHypothesis (sums.step byte)) (worst_step _ sums byte)

/-- With less room the sums come to no more. -/
theorem worst_le_of_le
    {few many : Nat}
    (fewer : few ≤ many)
    (sums : Sums) :
    worst few sums ≤ worst many sums := by
  obtain ⟨more, rfl⟩ := Nat.exists_eq_add_of_le fewer
  have ofFew := two_mul_worst few sums
  have ofMany := two_mul_worst (few + more) sums
  have products : 2 * (few + more) * sums.low = 2 * few * sums.low + 2 * more * sums.low := by
    ring
  have squares :
      255 * (few + more) * (few + more + 1) =
        255 * few * (few + 1) + 255 * (2 * few * more + more * more + more) := by
    ring
  omega

/-- Data that is cut in two is absorbed as in one piece. -/
theorem absorb_append (sums : Sums) (front back : Bytes) :
    sums.absorb (front ++ back) = (sums.absorb front).absorb back := by
  cases front with
  | nil =>
      rfl
  | cons byte rest =>
      have inFront : sums.absorb (byte :: rest) = ((byte :: rest).foldl step sums).reduce :=
        absorbRuns_eq runLength sums (byte :: rest)
      have inAll :
          sums.absorb (byte :: rest ++ back) = ((byte :: rest ++ back).foldl step sums).reduce :=
        absorbRuns_eq runLength sums (byte :: rest ++ back)
      rw [inFront, inAll, List.foldl_append]
      cases back with
      | nil =>
          rfl
      | cons next later =>
          exact ((absorbRuns_eq runLength _ (next :: later)).trans
            (reduce_foldl_step_reduce _ (next :: later))).symm

/-- What is absorbed is reduced, unless it is nothing. -/
theorem absorb_of_ne_nil {bytes : Bytes} (nonempty : bytes ≠ []) (sums : Sums) :
    sums.absorb bytes = (bytes.foldl step sums).reduce := by
  cases bytes with
  | nil =>
      exact absurd rfl nonempty
  | cons byte rest =>
      exact absorbRuns_eq runLength sums (byte :: rest)

/-- After a chunk there is room for a run again. -/
theorem worst_absorb
    {sums : Sums}
    (fits : worst runLength sums < wordLimit)
    (bytes : Bytes) :
    worst runLength (sums.absorb bytes) < wordLimit := by
  cases bytes with
  | nil =>
      exact fits
  | cons byte rest =>
      rw [absorb_of_ne_nil (List.cons_ne_nil byte rest)]
      exact worst_reduce _

/-- The halves of 32 bits, which need not be reduced, leave room for a run. -/
theorem worst_ofValue (value : UInt32) : worst runLength (ofValue value) < wordLimit := by
  have value_lt : value.toNat < 4294967296 := value.toNat_lt
  apply worst_of_halves
  · exact Nat.mod_lt _ (by decide)
  · simp only [ofValue]
    omega

end Sums

namespace WordSums

/-- The plain sums that words stand for. -/
def plain (sums : WordSums) : Sums where
  low := sums.low.toNat
  high := sums.high.toNat

/-- A computation answers words that stand for the given sums. -/
def Answers (computed : Checked WordSums) (expected : Sums) : Prop :=
  ∃ sums, computed = .ok sums ∧ sums.plain = expected

/-- A computation that goes on from words answers what it answers from the sums they stand for. -/
theorem Answers.bind
    {computed : Checked WordSums}
    {next : WordSums → Checked WordSums}
    {middle expected : Sums}
    (answers : Answers computed middle)
    (goesOn : ∀ sums : WordSums, sums.plain = middle → Answers (next sums) expected) :
    Answers (computed >>= next) expected := by
  obtain ⟨sums, rfl, stands⟩ := answers
  exact goesOn sums stands

theorem addWords_of_fits
    {left right : UInt32}
    (fits : left.toNat + right.toNat < wordLimit) :
    addWords left right = .ok (left + right) ∧
      (left + right).toNat = left.toNat + right.toNat := by
  constructor
  · exact if_pos fits
  · rw [UInt32.toNat_add]
    exact Nat.mod_eq_of_lt fits

/-- A byte is added if the sums have room for it. -/
theorem addByte_answers
    {sums : WordSums}
    {room : Nat}
    (fits : Sums.worst (room + 1) sums.plain < wordLimit)
    (byte : UInt8) :
    Answers (sums.addByte byte) (sums.plain.step byte) := by
  have high_lt : (sums.plain.step byte).high < wordLimit :=
    Nat.lt_of_le_of_lt
      (Nat.le_trans (Sums.high_le_worst room _) (Sums.worst_step room sums.plain byte)) fits
  have low_le : (sums.plain.step byte).low ≤ (sums.plain.step byte).high := Nat.le_add_left _ _
  have low_eq : (sums.plain.step byte).low = sums.low.toNat + byte.toUInt32.toNat := by
    rw [UInt8.toNat_toUInt32]
    rfl
  obtain ⟨lowAdded, low_toNat⟩ :=
    addWords_of_fits (low_eq ▸ Nat.lt_of_le_of_lt low_le high_lt)
  have high_eq :
      (sums.plain.step byte).high = sums.high.toNat + (sums.low + byte.toUInt32).toNat := by
    rw [low_toNat, ← low_eq]
    rfl
  obtain ⟨highAdded, high_toNat⟩ := addWords_of_fits (high_eq ▸ high_lt)
  have added :
      sums.addByte byte =
        .ok { low := sums.low + byte.toUInt32
              high := sums.high + (sums.low + byte.toUInt32) } := by
    simp only [addByte, lowAdded, highAdded, bind, Except.bind]
    rfl
  refine ⟨_, added, ?_⟩
  rw [plain, low_toNat, high_toNat, ← low_eq, ← high_eq]

/-- A byte is added and leaves room for the bytes behind it. -/
theorem addByte_bind_answers
    {sums : WordSums}
    {room : Nat}
    {next : WordSums → Checked WordSums}
    {expected : Sums}
    (fits : Sums.worst (room + 1) sums.plain < wordLimit)
    (byte : UInt8)
    (goesOn :
      ∀ after : WordSums,
        after.plain = sums.plain.step byte →
        Sums.worst room after.plain < wordLimit →
        Answers (next after) expected) :
    Answers (sums.addByte byte >>= next) expected := by
  refine (addByte_answers fits byte).bind fun after stands => goesOn after stands ?_
  rw [stands]
  exact Nat.lt_of_le_of_lt (Sums.worst_step room sums.plain byte) fits

/-- Bytes one by one. -/
theorem foldlM_addByte_answers
    {sums : WordSums}
    {bytes : Bytes}
    (fits : Sums.worst bytes.length sums.plain < wordLimit) :
    Answers (bytes.foldlM addByte sums) (bytes.foldl Sums.step sums.plain) := by
  induction bytes generalizing sums with
  | nil =>
      exact ⟨sums, rfl, rfl⟩
  | cons byte rest inductionHypothesis =>
      rw [List.foldlM_cons, List.foldl_cons]
      refine addByte_bind_answers fits byte fun after stands afterFits => ?_
      rw [← stands]
      exact inductionHypothesis afterFits

/-- A block of whole steps. -/
theorem addBlock_answers
    {sums : WordSums}
    {block : Bytes}
    (whole : block.length % 4 = 0)
    (fits : Sums.worst block.length sums.plain < wordLimit) :
    Answers (sums.addBlock block) (block.foldl Sums.step sums.plain) := by
  fun_induction addBlock sums block with
  | case1 sums first second third fourth rest inductionHypothesis =>
      simp only [List.length_cons] at whole fits
      refine addByte_bind_answers fits first fun afterFirst ofFirst fits => ?_
      refine addByte_bind_answers fits second fun afterSecond ofSecond fits => ?_
      refine addByte_bind_answers fits third fun afterThird ofThird fits => ?_
      refine addByte_bind_answers fits fourth fun afterFourth ofFourth fits => ?_
      simp only [List.foldl_cons, ← ofFirst, ← ofSecond, ← ofThird, ← ofFourth]
      exact inductionHypothesis afterFourth (by omega) fits
  | case2 rest sums short =>
      match rest, whole with
      | [], _ => exact ⟨sums, rfl, rfl⟩
      | first :: second :: third :: fourth :: rest, _ => exact (short _ _ _ _ _ rfl).elim

/-- Blocks and what is behind them. -/
theorem addBlocks_answers
    {count : Nat}
    {sums : WordSums}
    {run : Bytes}
    (inside : count * blockLength ≤ run.length)
    (fits : Sums.worst run.length sums.plain < wordLimit) :
    Answers (addBlocks count sums run) (run.foldl Sums.step sums.plain) := by
  induction count generalizing sums run with
  | zero =>
      exact foldlM_addByte_answers fits
  | succ count inductionHypothesis =>
      rw [Nat.succ_mul] at inside
      have taken : (run.take blockLength).length = blockLength :=
        List.length_take_of_le (by omega)
      have together :
          (run.take blockLength).length + (run.drop blockLength).length = run.length := by
        rw [← List.length_append, List.take_append_drop]
      have folded :
          run.foldl Sums.step sums.plain =
            (run.drop blockLength).foldl Sums.step
              ((run.take blockLength).foldl Sums.step sums.plain) := by
        rw [← List.foldl_append, List.take_append_drop]
      have blockFits : Sums.worst (run.take blockLength).length sums.plain < wordLimit :=
        Nat.lt_of_le_of_lt (Sums.worst_le_of_le (by omega) sums.plain) fits
      rw [addBlocks]
      refine (addBlock_answers (by rw [taken]; rfl) blockFits).bind fun after stands => ?_
      rw [folded, ← stands]
      refine inductionHypothesis (by omega) ?_
      rw [stands]
      refine Nat.lt_of_le_of_lt (Sums.worst_foldl _ _ _) ?_
      rwa [together]

/-- The whole blocks of a run and the rest of it. -/
theorem addRun_answers
    {sums : WordSums}
    {run : Bytes}
    (fits : Sums.worst run.length sums.plain < wordLimit) :
    Answers (sums.addRun run) (run.foldl Sums.step sums.plain) :=
  addBlocks_answers (Nat.div_mul_le_self run.length blockLength) fits

@[simp]
theorem plain_reduce (sums : WordSums) : sums.reduce.plain = sums.plain.reduce := by
  simp only [reduce, plain, Sums.reduce, UInt32.toNat_mod]
  rfl

/-- Run by run, chunks of any length are absorbed. -/
theorem update_answers
    {sums : WordSums}
    (fits : Sums.worst runLength sums.plain < wordLimit)
    (chunk : Bytes) :
    Answers (sums.update chunk) (sums.plain.absorb chunk) := by
  fun_induction update sums chunk with
  | case1 sums =>
      exact ⟨sums, rfl, rfl⟩
  | case2 sums chunk nonempty inductionHypothesis =>
      have taken : (chunk.take runLength).length ≤ runLength := List.length_take_le _ _
      have runFits : Sums.worst (chunk.take runLength).length sums.plain < wordLimit :=
        Nat.lt_of_le_of_lt (Sums.worst_le_of_le taken sums.plain) fits
      have someTaken : chunk.take runLength ≠ [] := by
        simpa [runLength] using nonempty
      have cut :
          sums.plain.absorb chunk =
            ((chunk.take runLength).foldl Sums.step sums.plain).reduce.absorb
              (chunk.drop runLength) := by
        rw [← Sums.absorb_of_ne_nil someTaken, ← Sums.absorb_append, List.take_append_drop]
      refine (addRun_answers runFits).bind fun summed stands => ?_
      rw [cut, ← stands, ← plain_reduce]
      apply inductionHypothesis
      rw [plain_reduce]
      exact Sums.worst_reduce summed.plain

/-- Chunks one after another are absorbed as in one piece. -/
theorem foldlM_update_answers
    {sums : WordSums}
    (fits : Sums.worst runLength sums.plain < wordLimit)
    (chunks : List Bytes) :
    Answers (chunks.foldlM update sums) (sums.plain.absorb chunks.flatten) := by
  induction chunks generalizing sums with
  | nil =>
      exact ⟨sums, rfl, rfl⟩
  | cons chunk rest inductionHypothesis =>
      rw [List.foldlM_cons, List.flatten_cons, Sums.absorb_append]
      refine (update_answers fits chunk).bind fun after stands => ?_
      rw [← stands]
      apply inductionHypothesis
      rw [stands]
      exact Sums.worst_absorb fits chunk

/-- Words that stand for the same sums are the same. -/
theorem plain_inj {sums other : WordSums} : sums.plain = other.plain ↔ sums = other := by
  constructor
  · intro same
    rcases sums with ⟨low, high⟩
    rcases other with ⟨otherLow, otherHigh⟩
    rw [plain, plain, Sums.mk.injEq] at same
    rw [mk.injEq]
    exact ⟨UInt32.toNat_inj.mp same.1, UInt32.toNat_inj.mp same.2⟩
  · rintro rfl
    rfl

theorem finish_eq (sums : WordSums) : sums.finish = sums.plain.combined := by
  have low_lt : sums.low.toNat < 2 ^ 32 := sums.low.toNat_lt
  apply UInt32.toNat_inj.mp
  simp only [finish, plain, Sums.combined, UInt32.toNat_or, UInt32.toNat_shiftLeft,
    UInt32.toNat_ofNat', Nat.or_mod_two_pow, Nat.mod_eq_of_lt low_lt]
  rfl

@[simp]
theorem plain_ofValue (value : UInt32) : (ofValue value).plain = .ofValue value := by
  simp only [ofValue, plain, Sums.ofValue, UInt32.toNat_and, UInt32.toNat_shiftRight,
    Sums.mk.injEq]
  exact ⟨Nat.and_two_pow_sub_one_eq_mod _ 16, Nat.shiftRight_eq_div_pow _ 16⟩

/-- The halves of a checksum are the sums that it packs. -/
theorem halves_finish
    {sums : WordSums}
    (low_lt : sums.plain.low < 65536)
    (high_lt : sums.plain.high < 65536) :
    (sums.finish &&& 0xFFFF).toNat = sums.plain.low ∧
      (sums.finish >>> 16).toNat = sums.plain.high := by
  have packed := Sums.toNat_combined low_lt high_lt
  rw [← finish_eq] at packed
  have lower : (sums.finish &&& 0xFFFF).toNat = sums.finish.toNat % 65536 :=
    (UInt32.toNat_and _ _).trans (Nat.and_two_pow_sub_one_eq_mod _ 16)
  have upper : (sums.finish >>> 16).toNat = sums.finish.toNat / 65536 :=
    (UInt32.toNat_shiftRight _ _).trans (Nat.shiftRight_eq_div_pow _ 16)
  omega

/-- Before any byte, the checksum is the value that summing started from. -/
theorem finish_ofValue (value : UInt32) : (ofValue value).finish = value := by
  have value_lt : value.toNat < 4294967296 := value.toNat_lt
  apply UInt32.toNat_inj.mp
  rw [finish_eq, plain_ofValue, Sums.toNat_combined] <;> simp only [Sums.ofValue] <;> omega

/--
From whatever 32 bits summing starts, and however the data is cut into chunks,
no addition leaves 32 bits, and the sums are those of the data in one piece: the
ones that the plain sums absorb. The halves of the checksum of some data are the
sums taken byte by byte, modulo 65521; that of no data is where it started.
-/
theorem chunks_summed_byte_by_byte (value : UInt32) (chunks : List Bytes) :
    ∃ sums,
      chunks.foldlM update (ofValue value) = .ok sums ∧
        (∀ others : List Bytes,
          others.flatten = chunks.flatten → others.foldlM update (ofValue value) = .ok sums) ∧
        sums.finish = ((Sums.ofValue value).absorb chunks.flatten).combined ∧
        (chunks.flatten = [] → sums.finish = value) ∧
        (chunks.flatten ≠ [] →
          (sums.finish &&& 0xFFFF).toNat =
              (chunks.flatten.foldl Sums.step (.ofValue value)).low % modulus ∧
            (sums.finish >>> 16).toNat =
              (chunks.flatten.foldl Sums.step (.ofValue value)).high % modulus) := by
  have fits : Sums.worst runLength (ofValue value).plain < wordLimit := by
    rw [plain_ofValue]
    exact Sums.worst_ofValue value
  obtain ⟨sums, summed, stands⟩ := foldlM_update_answers fits chunks
  refine ⟨sums, summed, ?_, ?_, ?_, ?_⟩
  · intro others same
    obtain ⟨otherSums, otherSummed, otherStands⟩ := foldlM_update_answers fits others
    rw [same, ← stands] at otherStands
    rw [otherSummed, plain_inj.mp otherStands]
  · rw [finish_eq, stands, plain_ofValue]
  · intro empty
    rw [empty] at stands
    rw [plain_inj.mp stands, finish_ofValue]
  · intro nonempty
    rw [Sums.absorb_of_ne_nil nonempty, plain_ofValue] at stands
    obtain ⟨low_lt, high_lt⟩ :=
      Sums.reduce_lt (chunks.flatten.foldl Sums.step (.ofValue value))
    rw [← stands] at low_lt high_lt
    obtain ⟨lower, upper⟩ := halves_finish low_lt high_lt
    rw [lower, upper, stands]
    exact ⟨rfl, rfl⟩

/-- Two chunks with nothing between them, summed from a value of which neither half is reduced. -/
theorem unreduced_value_summed :
    ∃ sums,
      [[0xFF], [], [0x01]].foldlM update (ofValue 0xFFFFFFFF) = .ok sums ∧
        [[0xFF, 0x01]].foldlM update (ofValue 0xFFFFFFFF) = .ok sums ∧
        (sums.finish &&& 0xFFFF).toNat = 270 ∧
        (sums.finish >>> 16).toNat = 553 := by
  obtain ⟨sums, summed, cut, _, _, halves⟩ :=
    chunks_summed_byte_by_byte 0xFFFFFFFF [[0xFF], [], [0x01]]
  obtain ⟨lower, upper⟩ := halves (by decide)
  exact ⟨sums, summed, cut [[0xFF, 0x01]] rfl, lower, upper⟩

end WordSums

end Gatehouse.Checksum
