import Gatehouse.Fault

namespace Gatehouse.Checked

/-!
# Outcomes of checked computations

A computation is judged by two predicates at once: what holds of its answer,
and for which reasons it may stop the program instead. The judgement passes
through a sequence step by step.
-/

/-- A computation answers what holds, or stops for an allowed reason. -/
def Meets (allowed : Fault → Prop) (holds : α → Prop) : Checked α → Prop
  | .ok value => holds value
  | .error fault => allowed fault

namespace Meets

variable {allowed : Fault → Prop} {holds : α → Prop}

/-- A sequence meets what its second part meets on all that its first part answers. -/
theorem bind
    {middle : α → Prop}
    {holds : β → Prop}
    {first : Checked α}
    {next : α → Checked β}
    (firstMeets : first.Meets allowed middle)
    (nextMeets : ∀ value, middle value → (next value).Meets allowed holds) :
    (first >>= next).Meets allowed holds := by
  cases first with
  | error fault =>
      exact firstMeets
  | ok value =>
      exact nextMeets value firstMeets

/-- A computation meets what follows from what it meets. -/
theorem weaken
    {less : α → Prop}
    {computation : Checked α}
    (meets : computation.Meets allowed holds)
    (implies : ∀ value, holds value → less value) :
    computation.Meets allowed less := by
  cases computation with
  | error fault =>
      exact meets
  | ok value =>
      exact implies value meets

/-- What holds of an answer holds together with the fact that it was answered. -/
theorem remember
    {computation : Checked α}
    (meets : computation.Meets allowed holds) :
    computation.Meets allowed fun value => computation = .ok value ∧ holds value := by
  cases computation with
  | error fault =>
      exact meets
  | ok value =>
      exact ⟨rfl, meets⟩

theorem allow
    {more : Fault → Prop}
    {computation : Checked α}
    (meets : computation.Meets allowed holds)
    (implies : ∀ fault, allowed fault → more fault) :
    computation.Meets more holds := by
  cases computation with
  | error fault =>
      exact implies fault meets
  | ok value =>
      exact meets

/-- What holds of every answer is met, whatever a computation may stop for. -/
theorem of_forall
    {computation : Checked α}
    (answers : ∀ value, computation = .ok value → holds value) :
    computation.Meets (fun _ => True) holds := by
  cases computation with
  | error fault =>
      trivial
  | ok value =>
      exact answers value rfl

theorem of_eq_ok
    {computation : Checked α}
    {value : α}
    (meets : computation.Meets allowed holds)
    (answered : computation = .ok value) :
    holds value := by
  subst answered
  exact meets

theorem of_eq_error
    {computation : Checked α}
    {fault : Fault}
    (meets : computation.Meets allowed holds)
    (stopped : computation = .error fault) :
    allowed fault := by
  subst stopped
  exact meets

/-- What may not stop answers. -/
theorem exists_eq_ok
    {computation : Checked α}
    (meets : computation.Meets (fun _ => False) holds) :
    ∃ value, computation = .ok value ∧ holds value := by
  cases computation with
  | error fault =>
      exact meets.elim
  | ok value =>
      exact ⟨value, rfl, meets⟩

end Meets

end Gatehouse.Checked
