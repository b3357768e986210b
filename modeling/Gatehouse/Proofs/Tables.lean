import Mathlib.Algebra.Ring.Nat
import Gatehouse.Session.ConnectionProtocol
import Gatehouse.Proofs.Outcomes

namespace Gatehouse

/-!
# Tables

What is found at an index of a table, and what the entries of a table weigh
together when one of them is replaced.
-/

theorem Checked.lookUp_eq_ok
    {table : List α}
    {index : Nat}
    {item : α} :
    lookUp table index = .ok item ↔ table[index]? = some item := by
  unfold lookUp
  split
  next other found =>
    simp only [found, Except.ok.injEq, Option.some.injEq]
  next missing =>
    simp [missing]

theorem Checked.lookUp_of_getElem?
    {table : List α}
    {index : Nat}
    {item : α}
    (found : table[index]? = some item) :
    lookUp table index = .ok item :=
  lookUp_eq_ok.mpr found

theorem Checked.lookUp_meets
    {allowed : Fault → Prop}
    {table : List α}
    {index : Nat}
    (inside : allowed .outOfRange ∨ index < table.length) :
    (lookUp table index).Meets allowed fun item => table[index]? = some item := by
  cases found : table[index]? with
  | none =>
      have missing : lookUp table index = .error .outOfRange := by
        simp [lookUp, found]
      rw [missing]
      rcases inside with isAllowed | within
      · exact isAllowed
      · exact absurd within (Nat.not_lt.mpr (List.getElem?_eq_none_iff.mp found))
  | some item =>
      rw [lookUp_of_getElem? found]
      rfl

/-- The entries of a table weigh no more than their number times the most that one weighs. -/
theorem sum_weights_le
    {table : List α}
    {weight : α → Nat}
    {bound : Nat}
    (light : ∀ item ∈ table, weight item ≤ bound) :
    (table.map weight).sum ≤ table.length * bound := by
  induction table with
  | nil =>
      simp
  | cons first later inductionHypothesis =>
      have here := light first (by simp)
      have there := inductionHypothesis fun item member => light item (by simp [member])
      simp only [List.map_cons, List.sum_cons, List.length_cons, Nat.succ_mul]
      omega

/-- One entry of a table is told apart from the others, which weigh some more. -/
theorem exists_rest_of_weights
    {table : List α}
    {index : Nat}
    {entry : α}
    (weight : α → Nat)
    (found : table[index]? = some entry) :
    ∃ rest,
      (table.map weight).sum = rest + weight entry ∧
        (∀ other, ((table.set index other).map weight).sum = rest + weight other) ∧
        ∀ bound, (∀ item ∈ table, weight item ≤ bound) → rest + bound ≤ table.length * bound := by
  induction table generalizing index with
  | nil =>
      cases found
  | cons first later inductionHypothesis =>
      cases index with
      | zero =>
          cases found
          refine ⟨(later.map weight).sum, by simp [Nat.add_comm], by simp [Nat.add_comm], ?_⟩
          intro bound light
          have total := sum_weights_le fun item member => light item (List.mem_cons_of_mem _ member)
          simp only [List.length_cons, Nat.succ_mul]
          omega
      | succ index =>
          obtain ⟨rest, total, replaced, bounded⟩ := inductionHypothesis found
          refine ⟨weight first + rest, ?_, ?_, ?_⟩
          · simp only [List.map_cons, List.sum_cons, total]
            omega
          · intro other
            simp only [List.set_cons_succ, List.map_cons, List.sum_cons, replaced other]
            omega
          · intro bound light
            have here := light first (by simp)
            have there :=
              bounded bound fun item member => light item (List.mem_cons_of_mem _ member)
            simp only [List.length_cons, Nat.succ_mul]
            omega

end Gatehouse
