import Mathlib.Data.Finset.Card
import Gatehouse.Proofs.Storage.IndexPool

namespace Gatehouse

/-!
# Index pools over whole runs

Indices are acquired and released in any order; some are released twice, and
some were never handed out. What became of every call tells which indices are
held: those that were acquired and not released since. A pool shows just this
set, in its flags, in its free indices and in its counts, and answers by it.
-/

/-- What is asked of an index pool. -/
inductive IndexCall where
  | acquire
  | release (index : Nat)
deriving DecidableEq, Repr

/-- What becomes of a call. -/
inductive IndexEvent where
  | acquired (index : Nat)
  /-- There was no index left to acquire. -/
  | full
  | released (index : Nat)
  /-- The index that was to be released was not taken. -/
  | refused (index : Nat)
deriving DecidableEq, Repr

namespace IndexEvent

/-- The indices that are held after an event. -/
def heldAfter (held : Finset Nat) : IndexEvent → Finset Nat
  | .acquired index => insert index held
  | .released index => held.erase index
  | .full | .refused _ => held

/-- The indices that were acquired and not released since. -/
def held (events : List IndexEvent) : Finset Nat :=
  events.foldl heldAfter ∅

theorem held_append_singleton (events : List IndexEvent) (event : IndexEvent) :
    held (events ++ [event]) = heldAfter (held events) event := by
  rw [held, List.foldl_append]
  rfl

end IndexEvent

namespace IndexPool

open IndexEvent

def perform (pool : IndexPool) : IndexCall → IndexEvent × IndexPool
  | .acquire =>
      match pool.acquire? with
      | none => (.full, pool)
      | some (index, after) => (.acquired index, after)
  | .release index =>
      match pool.release index with
      | (true, after) => (.released index, after)
      | (false, after) => (.refused index, after)

/-- Perform calls in turn, and collect what becomes of them. -/
def run (pool : IndexPool) : List IndexCall → List IndexEvent × IndexPool
  | [] => ([], pool)
  | call :: rest =>
      let (event, next) := pool.perform call
      let (events, last) := next.run rest
      (event :: events, last)

theorem run_append_singleton (pool : IndexPool) (calls : List IndexCall) (call : IndexCall) :
    pool.run (calls ++ [call]) =
      ((pool.run calls).1 ++ [((pool.run calls).2.perform call).1],
        ((pool.run calls).2.perform call).2) := by
  induction calls generalizing pool with
  | nil =>
      rfl
  | cons first rest inductionHypothesis =>
      simp only [List.cons_append, run, inductionHypothesis]

/-- What some indices being held below a capacity looks like. -/
structure Shows (capacity : Nat) (held : Finset Nat) (pool : IndexPool) : Prop where
  capacity_eq : pool.capacity = capacity
  isTaken_iff : ∀ index, pool.isTaken index = true ↔ index ∈ held
  free_distinct : pool.free.Nodup
  mem_free_iff : ∀ index, index ∈ pool.free ↔ index < capacity ∧ index ∉ held
  takenCount_eq : pool.takenCount = held.card
  counts_add : pool.takenCount + pool.spareCount = capacity
  takenIndices_ascending : pool.takenIndices.Pairwise (· < ·)
  mem_takenIndices_iff : ∀ index, index ∈ pool.takenIndices ↔ index ∈ held

/-- How a pool answers while some indices are held below a capacity. -/
structure AnswersBy (capacity : Nat) (held : Finset Nat) (pool : IndexPool) : Prop where
  full_iff : pool.acquire? = none ↔ held = Finset.range capacity
  acquires :
    ∀ index after, pool.acquire? = some (index, after) → index < capacity ∧ index ∉ held
  releases_iff : ∀ index, (pool.release index).1 = true ↔ index ∈ held
  refuses : ∀ index, index ∉ held → (pool.release index).2 = pool

/-- A sound pool of some capacity in which just the given indices are taken. -/
structure Tracks (capacity : Nat) (held : Finset Nat) (pool : IndexPool) : Prop where
  sound : pool.IsSound
  capacity_eq : pool.capacity = capacity
  isTaken_iff : ∀ index, pool.isTaken index = true ↔ index ∈ held
  takenCount_eq : pool.takenCount = held.card

/-- A pool of at least one index is made wherever its indices can be listed. -/
theorem ofCapacity_eq_ok {capacity : Nat} {pool : IndexPool} :
    ofCapacity capacity = .ok pool ↔
      (0 < capacity ∧ capacity * indexSize ≤ Size.maxPiece) ∧
        pool = { taken := List.replicate capacity false, free := List.range capacity } := by
  constructor
  · intro made
    unfold ofCapacity at made
    split at made
    next none =>
      cases made
    next some =>
      obtain ⟨_, listed, answered⟩ := Checked.bind_eq_ok.mp made
      cases answered
      exact ⟨⟨Nat.pos_of_ne_zero some, Size.checkTable_eq_ok.mp listed⟩, rfl⟩
  · rintro ⟨⟨positive, small⟩, rfl⟩
    have listed := Size.checkTable_eq_ok.mpr small
    simp only [ofCapacity, if_neg (Nat.ne_of_gt positive), listed, bind, Except.bind]
    rfl

theorem mem_takenIndices_iff_isTaken {pool : IndexPool} {index : Nat} :
    index ∈ pool.takenIndices ↔ pool.isTaken index = true := by
  rw [isTaken_eq_true_iff, takenIndices, List.mem_filterMap]
  constructor
  · rintro ⟨⟨state, place⟩, listed, kept⟩
    cases state with
    | false =>
        cases kept
    | true =>
        cases kept
        exact List.mem_zipIdx_iff_getElem?.mp listed
  · intro taken
    exact ⟨(true, index), List.mem_zipIdx_iff_getElem?.mpr taken, rfl⟩

/-- The taken indices are listed as the flags are, in ascending order. -/
theorem pairwise_takenIndices (pool : IndexPool) : pool.takenIndices.Pairwise (· < ·) := by
  have places : (pool.taken.zipIdx.map Prod.snd).Pairwise (· < ·) := by
    rw [List.zipIdx_map_snd]
    exact List.pairwise_lt_range'
  rw [takenIndices, List.pairwise_filterMap]
  refine (List.pairwise_map.mp places).imp ?_
  rintro ⟨state, place⟩ ⟨laterState, later⟩ ordered index kept other keptToo
  cases state <;> cases laterState <;> cases kept <;> cases keptToo
  exact ordered

namespace Tracks

variable {capacity : Nat} {held : Finset Nat} {pool : IndexPool}
  (tracks : pool.Tracks capacity held)

include tracks

theorem lt_capacity {index : Nat} (member : index ∈ held) : index < capacity := by
  rw [← tracks.capacity_eq]
  exact lt_capacity_of_isTaken ((tracks.isTaken_iff index).mpr member)

/-- An index is free if it lies below the capacity and is not held. -/
theorem free_iff {index : Nat} :
    pool.taken[index]? = some false ↔ index < capacity ∧ index ∉ held := by
  rw [← tracks.isTaken_iff, isTaken_eq_true_iff, ← tracks.capacity_eq, IndexPool.capacity,
    List.getElem?_eq_some_iff, List.getElem?_eq_some_iff]
  constructor
  · rintro ⟨inside, isFalse⟩
    refine ⟨inside, ?_⟩
    rintro ⟨_, isTrue⟩
    rw [isFalse] at isTrue
    cases isTrue
  · rintro ⟨inside, notTrue⟩
    exact ⟨inside, Bool.eq_false_iff.mpr fun isTrue => notTrue ⟨inside, isTrue⟩⟩

theorem shows : pool.Shows capacity held where
  capacity_eq := tracks.capacity_eq
  isTaken_iff := tracks.isTaken_iff
  free_distinct := tracks.sound.distinct
  mem_free_iff := fun index => (tracks.sound.mem_free index).trans tracks.free_iff
  takenCount_eq := tracks.takenCount_eq
  counts_add := tracks.sound.takenCount_add_spareCount.trans tracks.capacity_eq
  takenIndices_ascending := pool.pairwise_takenIndices
  mem_takenIndices_iff := fun index =>
    mem_takenIndices_iff_isTaken.trans (tracks.isTaken_iff index)

theorem acquired
    {index : Nat}
    {after : IndexPool}
    (acquired : pool.acquire? = some (index, after)) :
    index < capacity ∧ index ∉ held ∧ after.Tracks capacity (insert index held) := by
  have taking := tracks.sound.acquired_of_acquire? acquired
  obtain ⟨inside, unheld⟩ := tracks.free_iff.mp taking.wasFree
  refine ⟨inside, unheld, taking.sound, taking.capacity_eq.trans tracks.capacity_eq, ?_, ?_⟩
  · intro other
    rw [taking.isTaken_eq, Bool.or_eq_true, decide_eq_true_eq, tracks.isTaken_iff,
      Finset.mem_insert]
  · rw [taking.takenCount_eq, tracks.takenCount_eq, Finset.card_insert_of_notMem unheld]

theorem released
    {index : Nat}
    (member : index ∈ held) :
    (pool.release index).2.Tracks capacity (held.erase index) := by
  have freeing := tracks.sound.released_of_isTaken ((tracks.isTaken_iff index).mpr member)
  refine ⟨freeing.sound, freeing.capacity_eq.trans tracks.capacity_eq, ?_, ?_⟩
  · intro other
    rw [freeing.isTaken_eq, Bool.and_eq_true, Bool.not_eq_true', decide_eq_false_iff_not,
      tracks.isTaken_iff, Finset.mem_erase]
  · have fewer := freeing.takenCount_eq
    have known := tracks.takenCount_eq
    rw [Finset.card_erase_of_mem member]
    omega

theorem answersBy : pool.AnswersBy capacity held where
  full_iff := by
    constructor
    · intro full
      ext index
      rw [Finset.mem_range]
      refine ⟨tracks.lt_capacity, fun inside => ?_⟩
      rw [← tracks.capacity_eq] at inside
      exact (tracks.isTaken_iff index).mp (tracks.sound.isTaken_of_acquire?_eq_none full inside)
    · intro all
      cases granted : pool.acquire? with
      | none =>
          rfl
      | some grant =>
          obtain ⟨inside, unheld, _⟩ := tracks.acquired granted
          rw [all, Finset.mem_range] at unheld
          exact absurd inside unheld
  acquires := fun index after granted =>
    ⟨(tracks.acquired granted).1, (tracks.acquired granted).2.1⟩
  releases_iff := fun index => by
    rw [← tracks.isTaken_iff, release]
    split <;> simp [*]
  refuses := fun index unheld => by
    have free : ¬pool.isTaken index = true := fun taken =>
      unheld ((tracks.isTaken_iff index).mp taken)
    rw [release, if_neg free]

/-- Every call leaves a pool in which just those indices are taken that are held after it. -/
theorem perform (call : IndexCall) :
    (pool.perform call).2.Tracks capacity (heldAfter held (pool.perform call).1) := by
  cases call with
  | acquire =>
      simp only [IndexPool.perform]
      cases granted : pool.acquire? with
      | none =>
          exact tracks
      | some grant =>
          exact (tracks.acquired granted).2.2
  | release index =>
      have answers := tracks.answersBy
      simp only [IndexPool.perform]
      by_cases member : index ∈ held
      · have wasTaken := (answers.releases_iff index).mpr member
        rw [← Prod.mk.eta (p := pool.release index), wasTaken]
        exact tracks.released member
      · have refused : (pool.release index).1 = false :=
          Bool.eq_false_iff.mpr fun wasTaken => member ((answers.releases_iff index).mp wasTaken)
        rw [← Prod.mk.eta (p := pool.release index), refused, answers.refuses index member]
        exact tracks

theorem run (calls : List IndexCall) :
    (pool.run calls).2.Tracks capacity ((pool.run calls).1.foldl heldAfter held) := by
  induction calls generalizing pool held with
  | nil =>
      exact tracks
  | cons call rest inductionHypothesis =>
      exact inductionHypothesis (tracks.perform call)

end Tracks

/-- In a pool at its start no index is held. -/
theorem tracks_ofCapacity
    {capacity : Nat}
    {pool : IndexPool}
    (made : ofCapacity capacity = .ok pool) :
    pool.Tracks capacity ∅ := by
  obtain ⟨sound, capacity_eq, takenCount_eq, noneTaken⟩ := isSound_ofCapacity made
  exact ⟨sound, capacity_eq, by simp [noneTaken], takenCount_eq⟩

theorem tracks_of_run
    {capacity : Nat}
    {pool : IndexPool}
    (made : ofCapacity capacity = .ok pool)
    (calls : List IndexCall) :
    (pool.run calls).2.Tracks capacity (held (pool.run calls).1) :=
  (tracks_ofCapacity made).run calls

/--
A pool is made of any number of indices, at least one, that can be listed. After
every run of calls, whatever they ask to release, it shows just those indices
that were acquired and not released since: the free indices are the others, each
listed once, the two counts add up to the capacity, and the taken indices are
listed in ascending order. A next acquisition fails exactly if all indices are
held, and otherwise answers one that is not; a next release succeeds exactly if
the index is held, and otherwise changes nothing.
-/
theorem pool_shows_held_indices (capacity : Nat) :
    ((∃ pool, ofCapacity capacity = .ok pool) ↔
      1 ≤ capacity ∧ capacity * indexSize ≤ Size.maxPiece) ∧
      ∀ pool,
        ofCapacity capacity = .ok pool →
        ∀ calls events after,
          pool.run calls = (events, after) →
          after.Shows capacity (held events) ∧
            after.AnswersBy capacity (held events) ∧
            ∀ call event next,
              after.perform call = (event, next) →
              next.Shows capacity (heldAfter (held events) event) := by
  constructor
  · constructor
    · rintro ⟨pool, made⟩
      exact (ofCapacity_eq_ok.mp made).1
    · intro admitted
      exact ⟨_, ofCapacity_eq_ok.mpr ⟨admitted, rfl⟩⟩
  · intro pool made calls events after ran
    have tracks := tracks_of_run made calls
    rw [ran] at tracks
    refine ⟨tracks.shows, tracks.answersBy, ?_⟩
    intro call event next performed
    have tracksNext := tracks.perform call
    rw [performed] at tracksNext
    exact tracksNext.shows

/-- Of three indices, two are held after one was released twice and one beyond the capacity once. -/
theorem three_indices_shown :
    ∃ pool events after,
      ofCapacity 3 = .ok pool ∧
        pool.run [.acquire, .acquire, .acquire, .acquire, .release 1, .release 1, .release 99] =
          (events, after) ∧
        events =
          [.acquired 0, .acquired 1, .acquired 2, .full, .released 1, .refused 1, .refused 99] ∧
        after.Shows 3 {0, 2} ∧
        after.AnswersBy 3 {0, 2} := by
  have held_eq :
      held [.acquired 0, .acquired 1, .acquired 2, .full, .released 1, .refused 1, .refused 99] =
        {0, 2} := by
    decide
  obtain ⟨_, shown⟩ := pool_shows_held_indices 3
  obtain ⟨shows, answers, _⟩ :=
    shown _ rfl [.acquire, .acquire, .acquire, .acquire, .release 1, .release 1, .release 99] _ _
      rfl
  rw [← held_eq]
  exact ⟨_, _, _, rfl, rfl, rfl, shows, answers⟩

end IndexPool

end Gatehouse
