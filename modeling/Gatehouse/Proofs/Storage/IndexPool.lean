import Mathlib.Data.Bool.Count
import Gatehouse.Storage.IndexPool

namespace Gatehouse.IndexPool

/-!
# Soundness of an index pool

The free indices of a pool are exactly those that are not taken, each listed
once. Acquiring takes a free index and releasing frees a taken one; neither
touches any other index, and acquiring fails only when every index is taken.
-/

/-- The free indices are those that are not taken, each listed once. -/
structure IsSound (pool : IndexPool) : Prop where
  distinct : pool.free.Nodup
  mem_free : ∀ index, index ∈ pool.free ↔ pool.taken[index]? = some false
  spareCount_eq : pool.spareCount = pool.taken.count false

theorem isTaken_eq_true_iff
    {pool : IndexPool}
    {index : Nat} :
    pool.isTaken index = true ↔ pool.taken[index]? = some true := by
  unfold isTaken
  cases pool.taken[index]? <;> simp

theorem isTaken_eq_false_of_getElem?
    {pool : IndexPool}
    {index : Nat}
    (free : pool.taken[index]? = some false) :
    pool.isTaken index = false := by
  simp [isTaken, free]

theorem lt_capacity_of_isTaken
    {pool : IndexPool}
    {index : Nat}
    (taken : pool.isTaken index = true) :
    index < pool.capacity :=
  (List.getElem?_eq_some_iff.mp (isTaken_eq_true_iff.mp taken)).1

/-- A pool at its start, in which nothing is taken. -/
theorem isSound_ofCapacity
    {capacity : Nat}
    {pool : IndexPool}
    (made : ofCapacity capacity = .ok pool) :
    pool.IsSound ∧
      pool.capacity = capacity ∧
      pool.takenCount = 0 ∧
      ∀ index, pool.isTaken index = false := by
  unfold ofCapacity at made
  split at made
  next none =>
    cases made
  next some =>
    obtain ⟨_, _, answered⟩ := Checked.bind_eq_ok.mp made
    cases answered
    refine ⟨⟨List.nodup_range, fun index => ?_, ?_⟩, ?_, ?_, fun index => ?_⟩
    · simp [List.getElem?_replicate]
    · simp [spareCount]
    · simp [IndexPool.capacity]
    · simp [takenCount, IndexPool.capacity, spareCount]
    · simp only [isTaken, List.getElem?_replicate]
      split <;> rfl

/-- An index that was free is taken, and nothing else has changed. -/
structure Acquired (before : IndexPool) (index : Nat) (after : IndexPool) : Prop where
  sound : after.IsSound
  wasFree : before.taken[index]? = some false
  isTaken_eq : ∀ other, after.isTaken other = (decide (other = index) || before.isTaken other)
  capacity_eq : after.capacity = before.capacity
  takenCount_eq : after.takenCount = before.takenCount + 1

/-- An index that was taken is free, and nothing else has changed. -/
structure Released (before : IndexPool) (index : Nat) (after : IndexPool) : Prop where
  sound : after.IsSound
  isTaken_eq : ∀ other, after.isTaken other = (!decide (other = index) && before.isTaken other)
  capacity_eq : after.capacity = before.capacity
  takenCount_eq : after.takenCount + 1 = before.takenCount

/-- Setting an index leaves the others alone. -/
theorem isTaken_set
    {pool : IndexPool}
    {index : Nat}
    (inside : index < pool.capacity)
    (state : Bool)
    (free : List Nat)
    (other : Nat) :
    isTaken { taken := pool.taken.set index state, free := free } other =
      if other = index then state else pool.isTaken other := by
  unfold isTaken
  by_cases same : other = index
  · subst same
    have within : other < pool.taken.length := inside
    simp [within]
  · simp [same, Ne.symm same]

namespace IsSound

variable {pool : IndexPool} (sound : pool.IsSound)

include sound

/-- The indices that are not free are the taken ones. -/
theorem takenCount_eq : pool.takenCount = pool.taken.count true := by
  have all := List.count_not_add_count pool.taken true
  have spare := sound.spareCount_eq
  simp only [Bool.not_true] at all
  simp only [takenCount, capacity]
  omega

theorem takenCount_add_spareCount : pool.takenCount + pool.spareCount = pool.capacity := by
  have all := List.count_not_add_count pool.taken true
  rw [sound.takenCount_eq, sound.spareCount_eq, Nat.add_comm]
  exact all

theorem acquired_of_acquire?
    {index : Nat}
    {after : IndexPool}
    (acquired : pool.acquire? = some (index, after)) :
    Acquired pool index after := by
  unfold acquire? at acquired
  split at acquired
  next full =>
    cases acquired
  next _ free stack =>
    cases acquired
    have distinct := sound.distinct
    have spare := sound.spareCount_eq
    rw [stack, List.nodup_cons] at distinct
    have wasFree : pool.taken[index]? = some false := by
      rw [← sound.mem_free, stack]
      exact List.mem_cons_self
    obtain ⟨inside, isFalse⟩ := List.getElem?_eq_some_iff.mp wasFree
    have fewer : free.length + 1 = pool.taken.count false := by
      rw [← spare, spareCount, stack, List.length_cons]
    have afterSound : IsSound { taken := pool.taken.set index true, free := free } := by
      refine ⟨distinct.2, fun other => ?_, ?_⟩
      · by_cases same : other = index
        · subst same
          simp [distinct.1, inside]
        · have listed := sound.mem_free other
          simp only [stack, List.mem_cons, same, false_or] at listed
          simp [listed, Ne.symm same]
      · simp only [spareCount, List.count_set inside, isFalse]
        simp only [beq_self_eq_true, if_true, Bool.true_beq, Bool.false_eq_true, if_false]
        omega
    refine ⟨afterSound, wasFree, fun other => ?_, ?_, ?_⟩
    · rw [isTaken_set inside]
      by_cases same : other = index <;> simp [same]
    · simp [capacity]
    · have total := sound.takenCount_add_spareCount
      have totalAfter := afterSound.takenCount_add_spareCount
      simp only [spareCount, capacity, List.length_set, stack, List.length_cons] at total totalAfter
      omega

/-- Nothing is left to acquire only once every index is taken. -/
theorem isTaken_of_acquire?_eq_none
    (full : pool.acquire? = none)
    {index : Nat}
    (inside : index < pool.capacity) :
    pool.isTaken index = true := by
  unfold acquire? at full
  split at full
  next none =>
    have unlisted := (sound.mem_free index).not.mp (by simp [none])
    rw [isTaken_eq_true_iff, List.getElem?_eq_getElem inside]
    rw [List.getElem?_eq_getElem inside] at unlisted
    simpa using unlisted
  next some =>
    cases full

theorem released_of_isTaken
    {index : Nat}
    (taken : pool.isTaken index = true) :
    Released pool index (pool.release index).2 := by
  have inside : index < pool.taken.length := lt_capacity_of_isTaken taken
  have isTrue : pool.taken[index] = true :=
    (List.getElem?_eq_some_iff.mp (isTaken_eq_true_iff.mp taken)).2
  have unlisted : index ∉ pool.free := by
    rw [sound.mem_free, isTaken_eq_true_iff.mp taken]
    simp
  simp only [release, taken, if_true]
  have afterSound :
      IsSound { taken := pool.taken.set index false, free := index :: pool.free } := by
    refine ⟨List.nodup_cons.mpr ⟨unlisted, sound.distinct⟩, fun other => ?_, ?_⟩
    · by_cases same : other = index
      · subst same
        simp [inside]
      · simp [same, sound.mem_free other, Ne.symm same]
    · have spare := sound.spareCount_eq
      simp only [spareCount] at spare
      simp only [spareCount, List.length_cons, List.count_set inside, isTrue, spare]
      simp
  refine ⟨afterSound, fun other => ?_, ?_, ?_⟩
  · rw [isTaken_set inside]
    by_cases same : other = index <;> simp [same]
  · simp [capacity]
  · have total := sound.takenCount_add_spareCount
    have totalAfter := afterSound.takenCount_add_spareCount
    simp only [spareCount, capacity, List.length_set, List.length_cons] at total totalAfter
    omega

/-- An index that goes back right away leaves no trace. -/
theorem release_of_acquire?
    {index : Nat}
    {after : IndexPool}
    (acquired : pool.acquire? = some (index, after)) :
    (after.release index).2 = pool := by
  have wasFree := (sound.acquired_of_acquire? acquired).wasFree
  have taken : after.isTaken index = true := by
    rw [(sound.acquired_of_acquire? acquired).isTaken_eq]
    simp
  unfold acquire? at acquired
  split at acquired
  next full =>
    cases acquired
  next _ free stack =>
    cases acquired
    obtain ⟨inside, isFalse⟩ := List.getElem?_eq_some_iff.mp wasFree
    have restored : pool.taken.set index false = pool.taken := by
      rw [← isFalse, List.set_getElem_self]
    simp [release, taken, restored, ← stack]

end IsSound

end Gatehouse.IndexPool
