import Mathlib.Data.List.Induction
import Mathlib.Data.List.TakeWhile
import Mathlib.Data.Nat.Digits.Defs
import Gatehouse.Session.Game.Command

namespace Gatehouse

/-!
# What integer a text starts with

A text spells an integer by its front: all blanks there, one sign if there is
any, and all digits that follow, however many. Every text spells just one. It is
read with 32 bits, and what a command makes of it are the lowest 16: both wrap
around, so that they are the integer modulo 2³² and 2¹⁶. What counts as blank
matters: a vertical tab is space to others but no blank here, and whatever
stands behind one is not read.
-/

namespace LeadingInteger

/-- The sign in front of digits, if there is one. -/
inductive Sign where
  | absent
  | plus
  | minus
deriving DecidableEq, Repr

namespace Sign

def bytes : Sign → Bytes
  | .absent => []
  | .plus => [43]
  | .minus => [45]

def apply (magnitude : Nat) : Sign → Int
  | .absent | .plus => magnitude
  | .minus => -magnitude

end Sign

/-- The number that digits write in base ten; none write zero. -/
def number (digits : Bytes) : Nat :=
  Nat.ofDigits 10 (digits.reverse.map fun digit => digit.toNat - 48)

/-- A text spells the integer at its front, behind all that counts as blank. -/
inductive Spells (blank : UInt8 → Bool) : Bytes → Int → Prop where
  | intro
      (blanks : Bytes)
      (sign : Sign)
      (digits rest : Bytes)
      (areBlank : ∀ byte ∈ blanks, blank byte = true)
      (noMoreBlanks : ∀ byte ∈ (sign.bytes ++ (digits ++ rest)).head?, blank byte = false)
      (noMoreSign :
        sign = .absent → ∀ byte ∈ (digits ++ rest).head?, byte ≠ 43 ∧ byte ≠ 45)
      (areDigits : ∀ byte ∈ digits, isDigit byte = true)
      (noMoreDigits : ∀ byte ∈ rest.head?, isDigit byte = false) :
      Spells blank (blanks ++ (sign.bytes ++ (digits ++ rest))) (sign.apply (number digits))

theorem number_append_singleton (digits : Bytes) (digit : UInt8) :
    number (digits ++ [digit]) = 10 * number digits + (digit.toNat - 48) := by
  rw [number, List.reverse_append, List.reverse_singleton, List.singleton_append, List.map_cons,
    Nat.ofDigits_cons, number, Nat.add_comm]

/-- What a digit adds is the number that it is. -/
theorem toUInt32_digit
    {digit : UInt8}
    (isOne : isDigit digit = true) :
    48 ≤ digit.toNat ∧ (digit - 48).toUInt32 = UInt32.ofNat (digit.toNat - 48) := by
  simp only [isDigit, Bool.and_eq_true, decide_eq_true_eq] at isOne
  refine ⟨isOne.1, ?_⟩
  apply UInt32.toNat_inj.mp
  rw [UInt8.toNat_toUInt32, UInt8.toNat_sub_of_le _ _ isOne.1, UInt32.toNat_ofNat']
  have small := digit.toNat_lt
  have fits : digit.toNat - 48 < 2 ^ 32 := by
    omega
  rw [Nat.mod_eq_of_lt fits]
  rfl

/-- Digits are added up modulo 2³². -/
theorem digitsValue_eq
    {digits : Bytes}
    (areDigits : ∀ byte ∈ digits, isDigit byte = true) :
    digitsValue digits = UInt32.ofNat (number digits) := by
  induction digits using List.reverseRecOn with
  | nil =>
      rfl
  | append_singleton earlier digit inductionHypothesis =>
      have earlierDigits : ∀ byte ∈ earlier, isDigit byte = true :=
        fun byte member => areDigits byte (List.mem_append_left _ member)
      have digit_eq := (toUInt32_digit (areDigits digit (by simp))).2
      rw [digitsValue, List.foldl_append, ← digitsValue, inductionHypothesis earlierDigits,
        List.foldl_cons, List.foldl_nil, digit_eq, number_append_singleton, UInt32.ofNat_add,
        UInt32.ofNat_mul, UInt32.mul_comm]
      rfl

/-- Bytes of one kind up to the first of another kind are those that are taken off the front. -/
theorem span_of_head?
    {kind : UInt8 → Bool}
    {front back : Bytes}
    (ofKind : ∀ byte ∈ front, kind byte = true)
    (noMore : ∀ byte ∈ back.head?, kind byte = false) :
    (front ++ back).takeWhile kind = front ∧ (front ++ back).dropWhile kind = back := by
  rw [List.takeWhile_append_of_pos ofKind, List.dropWhile_append_of_pos ofKind]
  cases back with
  | nil =>
      simp
  | cons byte rest =>
      have differs : kind byte = false := noMore byte rfl
      simp [differs]

theorem eq_false_of_mem_head?_dropWhile (kind : UInt8 → Bool) (text : Bytes) :
    ∀ byte ∈ (text.dropWhile kind).head?, kind byte = false := by
  intro byte isFirst
  have stopped := List.head?_dropWhile_not kind text
  rw [isFirst] at stopped
  exact stopped

theorem splitSign_of_sign
    {sign : Sign}
    {rest : Bytes}
    (noMoreSign : sign = .absent → ∀ byte ∈ rest.head?, byte ≠ 43 ∧ byte ≠ 45) :
    splitSign (sign.bytes ++ rest) = (decide (sign = .minus), rest) := by
  cases sign with
  | absent =>
      cases rest with
      | nil =>
          rfl
      | cons byte rest =>
          obtain ⟨notPlus, notMinus⟩ := noMoreSign rfl byte rfl
          simp [Sign.bytes, splitSign, notPlus, notMinus]
  | plus =>
      rfl
  | minus =>
      rfl

namespace Spells

variable {blank : UInt8 → Bool} {text : Bytes} {value : Int}

/-- What a text spells is found part by part, from the front on. -/
theorem value_eq (spells : Spells blank text value) :
    value =
      if (splitSign (text.dropWhile blank)).1 then
        -(number ((splitSign (text.dropWhile blank)).2.takeWhile isDigit) : Int)
      else
        number ((splitSign (text.dropWhile blank)).2.takeWhile isDigit) := by
  obtain ⟨blanks, sign, digits, rest, areBlank, noMoreBlanks, noMoreSign, areDigits,
    noMoreDigits⟩ := spells
  rw [(span_of_head? areBlank noMoreBlanks).2, splitSign_of_sign noMoreSign,
    (span_of_head? areDigits noMoreDigits).1]
  cases sign <;> rfl

theorem unique
    {other : Int}
    (spells : Spells blank text value)
    (spellsToo : Spells blank text other) :
    other = value :=
  spellsToo.value_eq.trans spells.value_eq.symm

/-- A text is read as the integer that it spells, modulo 2³². -/
theorem ofBytes_eq (spells : Spells isBlank text value) : ofBytes text = Int32.ofInt value := by
  have areDigits :
      ∀ byte ∈ (splitSign (text.dropWhile isBlank)).2.takeWhile isDigit, isDigit byte = true :=
    fun _ member => List.mem_takeWhile_imp member
  have magnitude_eq (count : Nat) : (UInt32.ofNat count).toInt32 = Int32.ofInt count :=
    rfl
  rw [spells.value_eq, ofBytes]
  simp only [digitsValue_eq areDigits, magnitude_eq]
  split
  next negative =>
    rw [Int32.ofInt_neg]
  next positive =>
    rfl

end Spells

/-- A sign, if there is one, is taken off the front of every text. -/
theorem exists_sign (text : Bytes) :
    ∃ (sign : Sign) (rest : Bytes),
      text = sign.bytes ++ rest ∧
        (sign = .absent → ∀ byte ∈ rest.head?, byte ≠ 43 ∧ byte ≠ 45) := by
  cases text with
  | nil =>
      exact ⟨.absent, [], rfl, by simp⟩
  | cons byte rest =>
      by_cases isPlus : byte = 43
      · exact ⟨.plus, rest, by rw [isPlus]; rfl, by simp⟩
      · by_cases isMinus : byte = 45
        · exact ⟨.minus, rest, by rw [isMinus]; rfl, by simp⟩
        · exact ⟨.absent, byte :: rest, rfl, by simp [isPlus, isMinus]⟩

/-- Every text spells an integer. -/
theorem exists_spells (blank : UInt8 → Bool) (text : Bytes) :
    ∃ value, Spells blank text value := by
  obtain ⟨sign, signless, signed, noMoreSign⟩ := exists_sign (text.dropWhile blank)
  have text_eq :
      text =
        text.takeWhile blank ++
          (sign.bytes ++ (signless.takeWhile isDigit ++ signless.dropWhile isDigit)) := by
    rw [List.takeWhile_append_dropWhile, ← signed, List.takeWhile_append_dropWhile]
  rw [text_eq]
  refine ⟨_, .intro _ sign _ _ ?_ ?_ ?_ ?_ ?_⟩
  · exact fun _ member => List.mem_takeWhile_imp member
  · rw [List.takeWhile_append_dropWhile, ← signed]
    exact eq_false_of_mem_head?_dropWhile blank text
  · rw [List.takeWhile_append_dropWhile]
    exact noMoreSign
  · exact fun _ member => List.mem_takeWhile_imp member
  · exact eq_false_of_mem_head?_dropWhile isDigit signless

/-! ## Digit by digit -/

theorem foldlM_appendDigit
    {digits : Bytes}
    (areDigits : ∀ byte ∈ digits, isDigit byte = true)
    (value : UInt32) :
    digits.foldlM appendDigit value.toInt32 =
      .ok (digits.foldl (fun value digit => value * 10 + (digit - 48).toUInt32) value).toInt32 := by
  induction digits generalizing value with
  | nil =>
      rfl
  | cons digit rest inductionHypothesis =>
      obtain ⟨large, digit_eq⟩ := toUInt32_digit (areDigits digit (by simp))
      have answered : Size.sub digit.toNat 48 = .ok (digit.toNat - 48) :=
        Size.sub_eq_ok.mpr ⟨large, rfl⟩
      have appended :
          appendDigit value.toInt32 digit =
            .ok (value * 10 + (digit - 48).toUInt32).toInt32 := by
        rw [digit_eq]
        simp only [appendDigit, digitValue, answered, bind, Except.bind]
        rfl
      rw [List.foldlM_cons, appended]
      exact inductionHypothesis (fun byte member => areDigits byte (by simp [member])) _

/-- No step overflows, and the digits come to the value of all of them. -/
theorem scan_eq (text : Bytes) : scan text = .ok (ofBytes text) := by
  have areDigits :
      ∀ byte ∈ (splitSign (text.dropWhile isBlank)).2.takeWhile isDigit, isDigit byte = true :=
    fun _ member => List.mem_takeWhile_imp member
  have added := foldlM_appendDigit areDigits 0
  have zero_eq : (0 : UInt32).toInt32 = 0 := rfl
  rw [zero_eq] at added
  simp only [scan, added, bind, Except.bind]
  rfl

/-! ## Space that is no blank -/

/-- Space, or a byte from tab up to carriage return. -/
def isSpace (byte : UInt8) : Bool :=
  byte = 32 || (9 ≤ byte && byte ≤ 13)

def verticalTab : UInt8 := 11

/-- A vertical tab is the only space that is no blank. -/
theorem isSpace_iff {byte : UInt8} :
    isSpace byte = true ↔ isBlank byte = true ∨ byte = verticalTab := by
  simp only [isSpace, isBlank, verticalTab, Bool.or_eq_true, Bool.and_eq_true, decide_eq_true_eq,
    UInt8.le_iff_toNat_le, ← UInt8.toNat_inj, UInt8.reduceToNat]
  omega

/-- What is spelled behind spaces without a vertical tab is spelled behind blanks. -/
theorem Spells.of_isSpace
    {text : Bytes}
    {value : Int}
    (spells : Spells isSpace text value)
    (noTab : verticalTab ∉ text.takeWhile isSpace) :
    Spells isBlank text value := by
  obtain ⟨blanks, sign, digits, rest, areSpace, noMoreSpace, noMoreSign, areDigits,
    noMoreDigits⟩ := spells
  rw [(span_of_head? areSpace noMoreSpace).1] at noTab
  refine .intro blanks sign digits rest ?_ ?_ noMoreSign areDigits noMoreDigits
  · intro byte member
    rcases isSpace_iff.mp (areSpace byte member) with blank | isTab
    · exact blank
    · exact absurd (isTab ▸ member) noTab
  · intro byte isFirst
    have noSpace := noMoreSpace byte isFirst
    by_contra blank
    rw [isSpace_iff.mpr (.inl (Bool.eq_true_of_not_eq_false blank))] at noSpace
    cases noSpace

/-- Reading stops at a vertical tab. -/
theorem exists_dropWhile_isBlank
    {text : Bytes}
    (tab : verticalTab ∈ text.takeWhile isSpace) :
    ∃ rest, text.dropWhile isBlank = verticalTab :: rest := by
  induction text with
  | nil =>
      cases tab
  | cons byte rest inductionHypothesis =>
      have space : isSpace byte = true := by
        by_contra other
        rw [List.takeWhile_cons_of_neg other] at tab
        cases tab
      rw [List.takeWhile_cons_of_pos space] at tab
      rcases isSpace_iff.mp space with blank | rfl
      · have notTab : verticalTab ≠ byte := by
          rintro rfl
          cases blank
        rw [List.dropWhile_cons_of_pos blank]
        exact inductionHypothesis ((List.mem_cons.mp tab).resolve_left notTab)
      · exact ⟨rest, rfl⟩

theorem ofBytes_of_verticalTab
    {text : Bytes}
    (tab : verticalTab ∈ text.takeWhile isSpace) :
    ofBytes text = 0 := by
  obtain ⟨rest, stopped⟩ := exists_dropWhile_isBlank tab
  rw [ofBytes, stopped]
  rfl

/--
Every text spells just one integer behind its spaces. Its digits are read
without any step overflowing. What is read is that integer, reduced modulo 2³² to
32 bits with a sign, if there is no vertical tab among the spaces, and otherwise
zero. So it is read as it is spelled exactly if there is no vertical tab among
the spaces, or the integer is a multiple of 2³² all the same.
-/
theorem read_as_spelled_iff (text : Bytes) :
    ∃ value,
      Spells isSpace text value ∧
        (∀ other, Spells isSpace text other → other = value) ∧
        scan text = .ok (ofBytes text) ∧
        (ofBytes text).toInt =
          (if verticalTab ∈ text.takeWhile isSpace then 0 else value.bmod (2 ^ 32)) ∧
        ((ofBytes text).toInt = value.bmod (2 ^ 32) ↔
          verticalTab ∉ text.takeWhile isSpace ∨ (2 ^ 32 : Int) ∣ value) := by
  obtain ⟨value, spells⟩ := exists_spells isSpace text
  refine ⟨value, spells, fun other spellsToo => spells.unique spellsToo, scan_eq text, ?_⟩
  by_cases tab : verticalTab ∈ text.takeWhile isSpace
  · have zero : (ofBytes text).toInt = 0 := by
      rw [ofBytes_of_verticalTab tab]
      rfl
    rw [zero, if_pos tab]
    refine ⟨rfl, ?_⟩
    constructor
    · intro same
      exact .inr (Int.dvd_iff_bmod_eq_zero.mpr same.symm)
    · rintro (noTab | multiple)
      · exact absurd tab noTab
      · exact (Int.dvd_iff_bmod_eq_zero.mp multiple).symm
  · have wrapped : (ofBytes text).toInt = value.bmod (2 ^ 32) := by
      rw [(spells.of_isSpace tab).ofBytes_eq, Int32.toInt_ofInt]
      rfl
    rw [if_neg tab]
    exact ⟨wrapped, fun _ => .inl tab, fun _ => wrapped⟩

/-- Behind a vertical tab, the text 42 is not read. -/
theorem number_behind_vertical_tab_unread :
    Spells isSpace [11, 52, 50] 42 ∧
      scan [11, 52, 50] = .ok 0 ∧
      (ofBytes [11, 52, 50]).toInt ≠ Int.bmod 42 (2 ^ 32) := by
  refine ⟨.intro [11] .absent [52, 50] [] ?_ ?_ ?_ ?_ ?_, rfl, by decide⟩
  · simp [isSpace]
  · simp [Sign.bytes, isSpace]
  · simp
  · simp [isDigit]
  · simp

end LeadingInteger

/-- What a command makes of a text is the integer that it spells, modulo 2¹⁶. -/
theorem GameCommand.toNat_valueOf
    {text : Bytes}
    {value : Int}
    (spells : LeadingInteger.Spells LeadingInteger.isBlank text value) :
    ((valueOf text).toNat : Int) = value % 65536 := by
  have bits : (Int32.ofInt value).toUInt32.toNat = (value % 4294967296).toNat :=
    BitVec.toNat_ofInt value
  rw [valueOf, spells.ofBytes_eq, UInt32.toNat_toUInt16, bits]
  omega

end Gatehouse
