import Gatehouse.FixedText
import Gatehouse.Proofs.Bytes.Pieces

namespace Gatehouse

/-!
# What a fixed text holds

A value that fits is what the text holds from then on; one that is too long
leaves nothing. So whatever was set, the text is never longer than its
capacity. Whatever was set and wiped before, the storage holds the value that
was left last and zeros behind it; so a text shows nothing of its past, and
texts that show the same bytes are the same.
-/

namespace FixedText

theorem length_bytes_set_le (text : FixedText size) (value : Bytes) :
    (text.set value).bytes.length ≤ capacity size := by
  unfold set
  simp only
  split
  next fits =>
    exact Nat.le_trans (List.length_take_le _ _) fits
  next tooLong =>
    simp [clear, bytes]

/-- A text in storage of its full size, inside which it ends. -/
structure IsWhole (text : FixedText size) : Prop where
  storage_length : text.storage.length = size
  length_le : text.length ≤ text.storage.length

theorem isWhole_empty (size : Nat) : (empty size).IsWhole :=
  ⟨Bytes.length_zeros size, Nat.zero_le _⟩

namespace IsWhole

variable {text : FixedText size} (whole : text.IsWhole)

include whole

/-- Nothing is left of a text that is wiped. -/
theorem clear_eq : text.clear = empty size := by
  rw [clear, whole.storage_length, empty]

theorem set (value : Bytes) : (text.set value).IsWhole := by
  unfold FixedText.set
  rw [whole.clear_eq]
  simp only
  split
  next fits =>
    have length_eq : ((empty size).storage.overwrite 0 value).length = size := by
      rw [Bytes.length_overwrite, empty, Bytes.length_zeros]
    simp only [capacity] at fits
    exact ⟨length_eq, by simp only [length_eq]; omega⟩
  next tooLong =>
    exact isWhole_empty size

end IsWhole

/-- A text that was set holds the value, or nothing if the value is too long. -/
theorem bytes_set
    {size : Nat}
    {text : FixedText size}
    {value : Bytes}
    (whole : text.storage.length = size) :
    (text.set value).bytes = if value.length ≤ capacity size then value else [] := by
  unfold set
  simp only
  split
  next fits =>
    simp only [capacity] at fits
    have inside : value.length ≤ text.clear.storage.length := by
      simp only [clear, Bytes.length_zeros, whole]
      omega
    rw [bytes, Bytes.overwrite_front inside]
    exact List.take_left' rfl
  next tooLong =>
    simp [clear, bytes]

/-! ## Changes in turn -/

/-- A change of a fixed text. -/
inductive Change where
  | set (value : Bytes)
  | clear
deriving DecidableEq, Repr

/-- Make a change. -/
def change (text : FixedText size) : Change → FixedText size
  | .set value => text.set value
  | .clear => text.clear

/-- Make changes in turn. -/
def changeAll (text : FixedText size) (changes : List Change) : FixedText size :=
  changes.foldl change text

/-- The text that holds a value and zeros behind it. -/
def holding (size : Nat) (value : Bytes) : FixedText size where
  storage := value ++ Bytes.zeros (size - value.length)
  length := value.length

/-- What a change leaves in a text, whatever it held. -/
def Change.left (size : Nat) : Change → Bytes
  | .set value => if value.length ≤ capacity size then value else []
  | .clear => []

theorem empty_eq_holding (size : Nat) : empty size = holding size [] :=
  rfl

@[simp]
theorem bytes_holding (size : Nat) (value : Bytes) : (holding size value).bytes = value :=
  List.take_left' rfl

theorem length_left_le (size : Nat) (change : Change) :
    (change.left size).length ≤ capacity size := by
  cases change with
  | set value =>
      simp only [Change.left]
      split
      next fits =>
        exact fits
      next tooLong =>
        exact Nat.zero_le _
  | clear =>
      exact Nat.zero_le _

namespace IsWhole

variable {text : FixedText size} (whole : text.IsWhole)

include whole

/-- A change leaves its own value and zeros behind it, whatever the text held. -/
theorem change_eq (change : Change) : text.change change = holding size (change.left size) := by
  cases change with
  | clear =>
      exact whole.clear_eq
  | set value =>
      simp only [FixedText.change, FixedText.set, Change.left, whole.clear_eq]
      split
      next fits =>
        have inside : value.length ≤ (empty size).storage.length := by
          simp only [capacity, empty, Bytes.length_zeros] at fits ⊢
          omega
        rw [Bytes.overwrite_front inside, holding, empty, Bytes.zeros, List.drop_replicate,
          Bytes.zeros]
      next tooLong =>
        rfl

theorem change (change : Change) : (text.change change).IsWhole := by
  cases change with
  | set value =>
      exact whole.set value
  | clear =>
      rw [FixedText.change, whole.clear_eq]
      exact isWhole_empty size

theorem changeAll (changes : List Change) : (text.changeAll changes).IsWhole := by
  induction changes generalizing text with
  | nil =>
      exact whole
  | cons first rest inductionHypothesis =>
      exact inductionHypothesis (whole.change first)

end IsWhole

/-- After changes in turn, a text holds what the last of them left. -/
theorem changeAll_append_singleton (size : Nat) (earlier : List Change) (last : Change) :
    (empty size).changeAll (earlier ++ [last]) = holding size (last.left size) := by
  rw [changeAll, List.foldl_append, ← changeAll]
  exact ((isWhole_empty size).changeAll earlier).change_eq last

theorem exists_changeAll_eq_holding (size : Nat) (changes : List Change) :
    ∃ value, value.length ≤ capacity size ∧ (empty size).changeAll changes = holding size value := by
  rcases List.eq_nil_or_concat changes with rfl | ⟨earlier, last, rfl⟩
  · exact ⟨[], Nat.zero_le _, rfl⟩
  · rw [List.concat_eq_append]
    exact ⟨_, length_left_le size last, changeAll_append_singleton size earlier last⟩

/--
Whatever a text was changed to before, it is the same, in all of its storage, as
one to which only the last change was made. Its length is at most the capacity,
and all of its storage behind that is zero. Texts that were changed in any two
ways are the same exactly if they show the same bytes. A value that fits is held
once it was set, and a longer one leaves the text empty.
-/
theorem changes_leave_no_history (size : Nat) :
    (∀ earlier last,
        (empty size).changeAll (earlier ++ [last]) = (empty size).change last) ∧
      (∀ changes,
        ((empty size).changeAll changes).storage.length = size ∧
          ((empty size).changeAll changes).length ≤ capacity size ∧
          ((empty size).changeAll changes).storage.drop ((empty size).changeAll changes).length =
            Bytes.zeros (size - ((empty size).changeAll changes).length)) ∧
      (∀ changes others,
        (empty size).changeAll changes = (empty size).changeAll others ↔
          ((empty size).changeAll changes).bytes = ((empty size).changeAll others).bytes) ∧
      ∀ earlier value,
        (empty size).changeAll (earlier ++ [.set value]) =
          if value.length ≤ capacity size then holding size value else empty size := by
  refine ⟨?_, ?_, ?_, ?_⟩
  · intro earlier last
    rw [changeAll_append_singleton, (isWhole_empty size).change_eq]
  · intro changes
    have whole := (isWhole_empty size).changeAll changes
    obtain ⟨value, fits, changed⟩ := exists_changeAll_eq_holding size changes
    refine ⟨whole.storage_length, ?_, ?_⟩
    · rw [changed]
      exact fits
    · rw [changed]
      exact List.drop_left' rfl
  · intro changes others
    obtain ⟨value, _, changed⟩ := exists_changeAll_eq_holding size changes
    obtain ⟨other, _, changedToo⟩ := exists_changeAll_eq_holding size others
    rw [changed, changedToo, bytes_holding, bytes_holding]
    constructor
    · intro same
      have sameBytes := congrArg bytes same
      rw [bytes_holding, bytes_holding] at sameBytes
      exact sameBytes
    · intro same
      rw [same]
  · intro earlier value
    rw [changeAll_append_singleton]
    simp only [Change.left, apply_ite (holding size), empty_eq_holding]

end FixedText

namespace Credential

/-- A credential that was set holds the value, or nothing if the value is too long. -/
theorem bytes_set (value : Bytes) :
    (Credential.empty.set value).bytes = if value.length ≤ maxLength then value else [] :=
  FixedText.bytes_set rfl

end Credential

end Gatehouse
