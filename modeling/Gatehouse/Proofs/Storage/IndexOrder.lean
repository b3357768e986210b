import Mathlib.Order.Bounds.Basic
import Gatehouse.Proofs.Storage.IndexRuns

namespace Gatehouse

/-!
# The order in which indices are acquired

Free indices form a stack: those that were released and not acquired since, the
last one released on top, and below them those that were never acquired, in
ascending order. So the least free index is the next one only as long as every
release frees an index below all that are free.
-/

namespace IndexEvent

/-- The indices that were released and not acquired since, once more happened. -/
def returnedAfter (returned : List Nat) : IndexEvent → List Nat
  | .acquired index => returned.erase index
  | .released index => index :: returned
  | .full | .refused _ => returned

/-- The indices that were released and not acquired since, the last one released first. -/
def returned (events : List IndexEvent) : List Nat :=
  events.foldl returnedAfter []

/-- The indices below a capacity that were never acquired, in ascending order. -/
def untouched (capacity : Nat) (events : List IndexEvent) : List Nat :=
  (List.range capacity).filter fun index => .acquired index ∉ events

theorem returned_append_singleton (events : List IndexEvent) (event : IndexEvent) :
    returned (events ++ [event]) = returnedAfter (returned events) event := by
  rw [returned, List.foldl_append]
  rfl

/-- Only an acquisition makes an index one that was acquired. -/
theorem untouched_append_singleton
    (capacity : Nat)
    (events : List IndexEvent)
    (event : IndexEvent) :
    untouched capacity (events ++ [event]) =
      (untouched capacity events).filter fun index => .acquired index ≠ event := by
  rw [untouched, untouched, List.filter_filter]
  apply List.filter_congr
  intro index _
  by_cases same : event = .acquired index
  · simp [same]
  · simp [Ne.symm same]

/-- What is done to indices that were acquired before leaves the others untouched. -/
theorem untouched_eq_of_forall_ne
    {capacity : Nat}
    {events : List IndexEvent}
    {event : IndexEvent}
    (differs : ∀ index ∈ untouched capacity events, .acquired index ≠ event) :
    untouched capacity (events ++ [event]) = untouched capacity events := by
  rw [untouched_append_singleton, List.filter_eq_self]
  intro index member
  exact decide_eq_true (differs index member)

end IndexEvent

namespace IndexPool

open IndexEvent

variable {capacity : Nat} {pool : IndexPool}

/-- Whether the least free index is acquired next, if there is any. -/
def AcquiresLeast (pool : IndexPool) : Prop :=
  (∃ free, free < pool.capacity ∧ pool.isTaken free = false) →
    ∃ index after,
      pool.acquire? = some (index, after) ∧
        IsLeast {free | free < pool.capacity ∧ pool.isTaken free = false} index

/-- A pool in which the free indices are stacked as some events left them. -/
structure IsStacked (capacity : Nat) (events : List IndexEvent) (pool : IndexPool) : Prop where
  tracks : pool.Tracks capacity (held events)
  free_eq : pool.free = returned events ++ untouched capacity events
  /-- What is held or was returned was acquired before. -/
  acquired_of_mem :
    ∀ index, index ∈ held events ∨ index ∈ returned events → .acquired index ∈ events

theorem Tracks.mem_free_iff_isTaken
    {held : Finset Nat}
    (tracks : pool.Tracks capacity held)
    (index : Nat) :
    index ∈ pool.free ↔ index < pool.capacity ∧ pool.isTaken index = false := by
  rw [tracks.shows.mem_free_iff, tracks.capacity_eq, Bool.eq_false_iff, ne_eq,
    tracks.isTaken_iff]

/-- The least free index is acquired next if it lies on top of the others. -/
theorem Tracks.acquiresLeast_iff
    {held : Finset Nat}
    (tracks : pool.Tracks capacity held) :
    pool.AcquiresLeast ↔
      ∀ top rest, pool.free = top :: rest → ∀ other ∈ rest, top < other := by
  simp only [AcquiresLeast, ← tracks.mem_free_iff_isTaken, acquire?]
  cases stack : pool.free with
  | nil =>
      simp
  | cons top rest =>
      have distinct := tracks.sound.distinct
      rw [stack, List.nodup_cons] at distinct
      constructor
      · intro least first others same other member
        cases same
        obtain ⟨index, _, acquired, _, below⟩ := least ⟨top, List.mem_cons_self⟩
        cases acquired
        have notAbove : top ≤ other := below (List.mem_cons_of_mem top member)
        exact Nat.lt_of_le_of_ne notAbove fun same => distinct.1 (same ▸ member)
      · intro onTop _
        refine ⟨top, _, rfl, List.mem_cons_self, ?_⟩
        intro other member
        rcases List.mem_cons.mp member with same | below
        · exact Nat.le_of_eq same.symm
        · exact Nat.le_of_lt (onTop top rest rfl other below)

namespace IsStacked

variable {events : List IndexEvent} (stacked : pool.IsStacked capacity events)

include stacked

/-- An acquisition takes the index that was returned last, or the least that was never acquired. -/
theorem acquired
    {top : Nat}
    {rest : List Nat}
    (stack : pool.free = top :: rest) :
    rest =
      returned (events ++ [.acquired top]) ++
        untouched capacity (events ++ [.acquired top]) := by
  have distinct := stacked.tracks.sound.distinct
  have free_eq := stacked.free_eq
  rw [stack, List.nodup_cons] at distinct
  rw [stack] at free_eq
  rw [returned_append_singleton, returnedAfter]
  cases isReturned : returned events with
  | nil =>
      rw [isReturned, List.nil_append] at free_eq
      rw [untouched_append_singleton, ← free_eq, List.filter_cons_of_neg (by simp),
        List.erase_nil, List.nil_append, List.filter_eq_self.mpr]
      intro other member
      have differ : other ≠ top := fun same => distinct.1 (same ▸ member)
      simpa using differ
  | cons last earlier =>
      rw [isReturned, List.cons_append, List.cons.injEq] at free_eq
      obtain ⟨rfl, rest_eq⟩ := free_eq
      have wasAcquired := stacked.acquired_of_mem top (.inr (by simp [isReturned]))
      rw [List.erase_cons_head, rest_eq, untouched_eq_of_forall_ne]
      rintro other member same
      cases same
      exact of_decide_eq_true (List.mem_filter.mp member).2 wasAcquired

/-- Every call leaves the free indices stacked as it and the calls before left them. -/
theorem perform (call : IndexCall) :
    (pool.perform call).2.IsStacked capacity (events ++ [(pool.perform call).1]) := by
  have tracks := stacked.tracks.perform call
  rw [← held_append_singleton] at tracks
  have acquired_of_mem := stacked.acquired_of_mem
  cases call with
  | acquire =>
      simp only [IndexPool.perform, acquire?] at tracks ⊢
      cases stack : pool.free with
      | nil =>
          rw [stack] at tracks
          refine ⟨tracks, ?_, ?_⟩
          · rw [returned_append_singleton, untouched_eq_of_forall_ne (by simp)]
            exact stacked.free_eq
          · intro index member
            rw [held_append_singleton, returned_append_singleton] at member
            exact List.mem_append_left _ (acquired_of_mem index member)
      | cons top rest =>
          rw [stack] at tracks
          refine ⟨tracks, stacked.acquired stack, ?_⟩
          intro index member
          rw [held_append_singleton, returned_append_singleton, heldAfter, returnedAfter,
            Finset.mem_insert] at member
          rcases member with (rfl | isHeld) | isReturned
          · exact List.mem_append_right _ List.mem_cons_self
          · exact List.mem_append_left _ (acquired_of_mem index (.inl isHeld))
          · exact List.mem_append_left _
              (acquired_of_mem index (.inr (List.mem_of_mem_erase isReturned)))
  | release freed =>
      simp only [IndexPool.perform, release] at tracks ⊢
      by_cases taken : pool.isTaken freed = true
      · rw [if_pos taken] at tracks ⊢
        refine ⟨tracks, ?_, ?_⟩
        · rw [returned_append_singleton, untouched_eq_of_forall_ne (by simp), returnedAfter,
            List.cons_append, ← stacked.free_eq]
        · intro index member
          have isHeld := (stacked.tracks.isTaken_iff freed).mp taken
          rw [held_append_singleton, returned_append_singleton, heldAfter, returnedAfter,
            Finset.mem_erase, List.mem_cons] at member
          apply List.mem_append_left
          rcases member with ⟨_, stillHeld⟩ | rfl | isReturned
          · exact acquired_of_mem index (.inl stillHeld)
          · exact acquired_of_mem index (.inl isHeld)
          · exact acquired_of_mem index (.inr isReturned)
      · rw [if_neg taken] at tracks ⊢
        refine ⟨tracks, ?_, ?_⟩
        · rw [returned_append_singleton, untouched_eq_of_forall_ne (by simp)]
          exact stacked.free_eq
        · intro index member
          rw [held_append_singleton, returned_append_singleton] at member
          exact List.mem_append_left _ (acquired_of_mem index member)

theorem run (calls : List IndexCall) :
    (pool.run calls).2.IsStacked capacity (events ++ (pool.run calls).1) := by
  induction calls generalizing pool events with
  | nil =>
      rw [IndexPool.run, List.append_nil]
      exact stacked
  | cons call rest inductionHypothesis =>
      have later := inductionHypothesis (stacked.perform call)
      rw [List.append_assoc] at later
      exact later

end IsStacked

theorem isStacked_of_run
    (made : ofCapacity capacity = .ok pool)
    (calls : List IndexCall) :
    (pool.run calls).2.IsStacked capacity (pool.run calls).1 := by
  have atStart : pool.IsStacked capacity [] := by
    refine ⟨tracks_ofCapacity made, ?_, by simp [held, returned]⟩
    rw [(ofCapacity_eq_ok.mp made).2]
    simp [returned, untouched]
  exact atStart.run calls

/-- Every release of a taken index frees one below all that are free at that moment. -/
def ReleasesBelow (pool : IndexPool) (calls : List IndexCall) : Prop :=
  ∀ earlier index later,
    calls = earlier ++ .release index :: later →
    (pool.run earlier).2.isTaken index = true →
    ∀ other ∈ (pool.run earlier).2.free, index < other

theorem ReleasesBelow.of_append
    {earlier later : List IndexCall}
    (below : pool.ReleasesBelow (earlier ++ later)) :
    pool.ReleasesBelow earlier := by
  intro first index last split
  refine below first index (last ++ later) ?_
  rw [split, List.append_assoc, List.cons_append]

/-- As long as every release frees an index below the free ones, they stay in ascending order. -/
theorem pairwise_free_run
    {calls : List IndexCall}
    (below : pool.ReleasesBelow calls)
    (ascending : pool.free.Pairwise (· < ·)) :
    (pool.run calls).2.free.Pairwise (· < ·) := by
  induction calls generalizing pool with
  | nil =>
      exact ascending
  | cons call rest inductionHypothesis =>
      apply inductionHypothesis
      · intro earlier index later split
        exact below (call :: earlier) index later (by rw [split, List.cons_append])
      · cases call with
        | acquire =>
            simp only [acquire?]
            cases stack : pool.free with
            | nil =>
                rw [stack]
                exact List.Pairwise.nil
            | cons top others =>
                rw [stack] at ascending
                exact ascending.tail
        | release index =>
            simp only [release]
            by_cases taken : pool.isTaken index = true
            · rw [if_pos taken]
              exact ascending.cons (below [] index rest rfl taken)
            · rw [if_neg taken]
              exact ascending

/--
After any calls on a pool that was made, the free indices lie as a stack: those
that were released and not acquired since, the last one released on top, above
those that were never acquired, in ascending order. At every moment of the run the
least free index is the one that is acquired next if and only if every release
frees an index below all others that are free.
-/
theorem acquires_least_iff
    (made : ofCapacity capacity = .ok pool)
    (calls : List IndexCall) :
    (∀ events after,
      pool.run calls = (events, after) →
      after.free = returned events ++ untouched capacity events) ∧
      ((∀ earlier, earlier <+: calls → (pool.run earlier).2.AcquiresLeast) ↔
        pool.ReleasesBelow calls) := by
  refine ⟨?_, ?_, ?_⟩
  · intro events after ran
    have stacked := isStacked_of_run made calls
    rw [ran] at stacked
    exact stacked.free_eq
  · intro least earlier index later split taken other member
    have moment : earlier ++ [.release index] <+: calls := ⟨later, by simp [split]⟩
    have stack :
        (pool.run (earlier ++ [.release index])).2.free =
          index :: (pool.run earlier).2.free := by
      rw [run_append_singleton, perform, release, if_pos taken]
    exact (tracks_of_run made _).acquiresLeast_iff.mp (least _ moment) _ _ stack other member
  · rintro below earlier ⟨later, rfl⟩
    have atStart : pool.free.Pairwise (· < ·) := by
      rw [(ofCapacity_eq_ok.mp made).2]
      exact List.pairwise_lt_range
    have ascending := pairwise_free_run below.of_append atStart
    refine (tracks_of_run made _).acquiresLeast_iff.mpr fun top rest stack other member => ?_
    rw [stack, List.pairwise_cons] at ascending
    exact ascending.1 other member

/-- Of three indices, two that are released in ascending order lie in descending order. -/
theorem ascending_releases_stacked :
    ∃ pool events after,
      ofCapacity 3 = .ok pool ∧
        pool.run [.acquire, .acquire, .release 0, .release 1] = (events, after) ∧
        after.free = [1, 0, 2] ∧
        returned events = [1, 0] ∧
        untouched 3 events = [2] ∧
        ¬∀ earlier,
            earlier <+: [.acquire, .acquire, .release 0, .release 1] →
            (pool.run earlier).2.AcquiresLeast := by
  obtain ⟨stacked, iff_below⟩ :=
    @acquires_least_iff 3 _ rfl [.acquire, .acquire, .release 0, .release 1]
  refine ⟨_, _, _, rfl, rfl, stacked _ _ rfl, by decide, by decide, ?_⟩
  rw [iff_below]
  intro below
  have overtaken := below [.acquire, .acquire, .release 0] 1 [] rfl rfl 0 (by decide)
  exact absurd overtaken (by decide)

/-- Of two free indices the greater one is acquired, since it was released last. -/
theorem lesser_index_passed_over :
    ∃ pool after,
      ofCapacity 2 = .ok pool ∧
        pool.run [.acquire, .acquire, .release 0, .release 1] =
          ([.acquired 0, .acquired 1, .released 0, .released 1], after) ∧
        after.isTaken 0 = false ∧
        (after.acquire?).map Prod.fst = some 1 ∧
        ¬after.AcquiresLeast := by
  refine ⟨_, _, rfl, rfl, rfl, rfl, fun least => ?_⟩
  obtain ⟨index, _, acquired, _, below⟩ := least ⟨0, by decide, rfl⟩
  cases acquired
  have notAbove : 1 ≤ 0 := below ⟨by decide, rfl⟩
  exact absurd notAbove (by decide)

end IndexPool

end Gatehouse
