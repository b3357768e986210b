import Gatehouse.Ticker

namespace Gatehouse

/-!
# How often ticks begin

A loop asks its ticker whether a tick is due and begins one only when it was
just told so. Then the ticks that began never take more time, at an interval
each, than went by since the ticker was made; and however long the loop was
held up, hardly more of them begin in any stretch of time than there are
intervals in it. Both rest on what is owed: every tick takes a whole interval
off it, and leaves at most one.
-/

/-- What a loop asks of its ticker. -/
inductive TickerCall where
  /-- Read the clock, and find out whether a tick is due. -/
  | ask (now : Nat)
  | begin
  | finish (duration : Nat)
  /-- Read the clock, and find out how long to wait. -/
  | wait (now : Nat)
  | restartSummary
deriving DecidableEq, Repr

/-- What becomes of a call. -/
inductive TickerEvent where
  | asked (now : Nat) (isDue : Bool)
  | begun
  | finished (duration : Nat)
  | waited (time : Nat)
  | restarted
deriving DecidableEq, Repr

namespace TickerEvent

/-- The reading of the clock at which a ticker was asked whether a tick is due. -/
def reading? : TickerEvent → Option Nat
  | .asked now _ => some now
  | .begun | .finished _ | .waited _ | .restarted => none

/-- The readings at which a ticker was asked whether a tick is due. -/
def readings (events : List TickerEvent) : List Nat :=
  events.filterMap reading?

/-- The reading seen last, once more happened. -/
def readingAfter (reading : Nat) (event : TickerEvent) : Nat :=
  event.reading?.getD reading

/-- The moments at which ticks began: for each the reading seen last, which at first is given. -/
def moments (reading : Nat) : List TickerEvent → List Nat
  | [] => []
  | event :: rest =>
      (if event = .begun then [reading] else []) ++ moments (event.readingAfter reading) rest

/-- Whether an event is the answer that a tick is due. -/
def saysDue : TickerEvent → Bool
  | .asked _ isDue => isDue
  | .begun | .finished _ | .waited _ | .restarted => false

/-- Whether every tick begins directly behind the answer that it is due. -/
def beginsWhenDue (wasDue : Bool) : List TickerEvent → Bool
  | [] => true
  | event :: rest => (event ≠ .begun || wasDue) && beginsWhenDue event.saysDue rest

theorem le_readingAfter
    {reading : Nat}
    {event : TickerEvent}
    {rest : List TickerEvent}
    (forward : (reading :: readings (event :: rest)).Pairwise (· ≤ ·)) :
    reading ≤ event.readingAfter reading ∧
      (event.readingAfter reading :: readings rest).Pairwise (· ≤ ·) := by
  rw [readings, List.filterMap_cons] at forward
  rw [readingAfter]
  cases asked : event.reading? with
  | none =>
      rw [asked] at forward
      exact ⟨Nat.le_refl _, forward⟩
  | some now =>
      rw [asked] at forward
      exact ⟨(List.pairwise_cons.mp forward).1 now (by simp), (List.pairwise_cons.mp forward).2⟩

theorem getLastD_readings_cons (reading : Nat) (event : TickerEvent) (rest : List TickerEvent) :
    (readings (event :: rest)).getLastD reading =
      (readings rest).getLastD (event.readingAfter reading) := by
  rw [readings, List.filterMap_cons, readingAfter]
  cases event.reading? with
  | none =>
      rfl
  | some now =>
      exact List.getLastD_cons

theorem length_moments (reading : Nat) (events : List TickerEvent) :
    (moments reading events).length = events.count .begun := by
  induction events generalizing reading with
  | nil =>
      rfl
  | cons event rest inductionHypothesis =>
      rw [moments, List.length_append, inductionHypothesis, List.count_cons, Nat.add_comm]
      by_cases begins : event = .begun
      · simp [begins]
      · simp [begins]

end TickerEvent

namespace Ticker

open TickerEvent

def perform (ticker : Ticker) : TickerCall → Checked (TickerEvent × Ticker)
  | .ask now => .ok (.asked now (ticker.advance now).isDue, ticker.advance now)
  | .begin => .ok (.begun, ticker.begin)
  | .finish duration => do return (.finished duration, ← ticker.finish duration)
  | .wait now => .ok (.waited (ticker.timeToNext now), ticker)
  | .restartSummary => .ok (.restarted, ticker.restartSummary)

/-- Perform calls in turn, and collect what becomes of them. -/
def run (ticker : Ticker) : List TickerCall → Checked (List TickerEvent × Ticker)
  | [] => .ok ([], ticker)
  | call :: rest => do
      let (event, next) ← ticker.perform call
      let (events, last) ← next.run rest
      return (event :: events, last)

/-! ## Moments apart -/

/-- Between any two moments lies an interval for every moment chosen between them. -/
def AreSpaced (interval : Nat) (moments : List Nat) : Prop :=
  ∀ first middle last,
    (first :: (middle ++ [last])).Sublist moments →
      first + middle.length * interval ≤ last

theorem sublist_append_singleton {chosen moments : List Nat} {moment : Nat} :
    chosen.Sublist (moments ++ [moment]) ↔
      chosen.Sublist moments ∨ ∃ front, chosen = front ++ [moment] ∧ front.Sublist moments := by
  rw [List.sublist_append_iff]
  constructor
  · rintro ⟨front, back, rfl, frontChosen, backChosen⟩
    rcases List.sublist_cons_iff.mp backChosen with none | ⟨rest, rfl, none⟩
    · left
      rw [List.sublist_nil.mp none, List.append_nil]
      exact frontChosen
    · right
      rw [List.sublist_nil.mp none]
      exact ⟨front, rfl, frontChosen⟩
  · rintro (chosenBefore | ⟨front, rfl, frontChosen⟩)
    · exact ⟨chosen, [], (List.append_nil _).symm, chosenBefore, List.nil_sublist _⟩
    · exact ⟨front, [moment], rfl, frontChosen, List.Sublist.refl _⟩

/-- In a stretch of time lie at most two moments more than intervals. -/
theorem AreSpaced.length_filter_le
    {interval : Nat}
    {moments : List Nat}
    (positive : 0 < interval)
    (spaced : AreSpaced interval moments)
    (opening length : Nat) :
    (moments.filter fun moment => opening ≤ moment ∧ moment ≤ opening + length).length ≤
      length / interval + 2 := by
  have chosen :=
    List.filter_sublist (l := moments)
      (p := fun moment => opening ≤ moment ∧ moment ≤ opening + length)
  have inside :
      ∀ moment ∈ moments.filter fun moment => opening ≤ moment ∧ moment ≤ opening + length,
        opening ≤ moment ∧ moment ≤ opening + length := by
    intro moment member
    exact of_decide_eq_true (List.mem_filter.mp member).2
  revert chosen inside
  generalize (moments.filter fun moment => opening ≤ moment ∧ moment ≤ opening + length) = within
  intro chosen inside
  rcases within with _ | ⟨first, rest⟩
  · simp
  · rcases List.eq_nil_or_concat rest with rfl | ⟨middle, last, rfl⟩
    · simp
    · rw [List.concat_eq_append] at chosen inside ⊢
      have apart := spaced first middle last chosen
      have opened := (inside first (by simp)).1
      have closed := (inside last (by simp)).2
      have few : middle.length ≤ length / interval := by
        rw [Nat.le_div_iff_mul_le positive]
        omega
      simp only [List.length_cons, List.length_append, List.length_nil]
      omega

/-! ## What is owed -/

/--
A ticker whose loop began ticks at the given moments. What is owed and the ticks
so far make up no more than the time since the start; and counted from any of
the ticks on, what is owed and the later ticks make up at most an interval more
than the time since then. All the time since the last tick is owed.
-/
structure KeepsPace
    (interval start : Nat)
    (moments : List Nat)
    (wasDue : Bool)
    (ticker : Ticker) : Prop where
  interval_eq : ticker.interval = interval
  count_eq : ticker.count = moments.length
  owed_of_due : wasDue = true → interval ≤ ticker.owed
  sinceStart : start + moments.length * interval + ticker.owed ≤ ticker.lastReading
  sinceTick :
    ∀ first later,
      (first :: later).Sublist moments →
        first + later.length * interval + ticker.owed ≤ ticker.lastReading + interval
  sinceLast : ticker.lastReading ≤ moments.getLastD start + ticker.owed
  spaced : AreSpaced interval moments

theorem keepsPace_ofInterval (interval start : Nat) :
    (ofInterval interval start).KeepsPace interval start [] false := by
  refine ⟨rfl, rfl, ?_, ?_, ?_, Nat.le_refl _, ?_⟩
  · intro due
    cases due
  · simp [ofInterval]
  · intro first later chosen
    cases chosen
  · intro first middle last chosen
    cases chosen

namespace KeepsPace

variable {interval start : Nat} {moments : List Nat} {wasDue : Bool} {ticker : Ticker}

/-- Time that goes by is owed from then on. -/
theorem advance
    {now : Nat}
    (keeps : ticker.KeepsPace interval start moments wasDue)
    (later : ticker.lastReading ≤ now) :
    (ticker.advance now).KeepsPace interval start moments (ticker.advance now).isDue := by
  have counted : (ticker.advance now).owed + ticker.lastReading = ticker.owed + now := by
    simp only [Ticker.advance]
    omega
  refine ⟨keeps.interval_eq, keeps.count_eq, ?_, ?_, ?_, ?_, keeps.spaced⟩
  · intro due
    have reached : (ticker.advance now).interval ≤ (ticker.advance now).owed :=
      of_decide_eq_true due
    rw [← keeps.interval_eq]
    exact reached
  · have before := keeps.sinceStart
    simp only [Ticker.advance] at counted ⊢
    omega
  · intro first others chosen
    have before := keeps.sinceTick first others chosen
    simp only [Ticker.advance] at counted ⊢
    omega
  · have before := keeps.sinceLast
    simp only [Ticker.advance] at counted ⊢
    omega

/-- A tick that is due takes an interval off what is owed, and leaves at most one. -/
theorem begin
    (keeps : ticker.KeepsPace interval start moments true) :
    ticker.begin.KeepsPace interval start (moments ++ [ticker.lastReading]) false := by
  have due := keeps.owed_of_due rfl
  have taken : ticker.begin.owed + interval ≤ ticker.owed := by
    simp only [Ticker.begin, keeps.interval_eq]
    omega
  have left : ticker.begin.owed ≤ interval := by
    simp only [Ticker.begin, keeps.interval_eq]
    omega
  have reading_eq : ticker.begin.lastReading = ticker.lastReading := rfl
  refine ⟨keeps.interval_eq, ?_, ?_, ?_, ?_, ?_, ?_⟩
  · rw [List.length_append, ← keeps.count_eq]
    rfl
  · intro due
    cases due
  · have before := keeps.sinceStart
    rw [List.length_append, List.length_singleton, Nat.succ_mul, reading_eq]
    omega
  · intro first later chosen
    rw [reading_eq]
    rcases sublist_append_singleton.mp chosen with before | ⟨front, same, frontChosen⟩
    · have earlier := keeps.sinceTick first later before
      omega
    · cases front with
      | nil =>
          -- The tick that begins is the first one counted, and the only one.
          obtain ⟨rfl, rfl⟩ := List.cons_eq_cons.mp same
          simp only [List.length_nil]
          omega
      | cons earliest middle =>
          rw [List.cons_append] at same
          obtain ⟨rfl, rfl⟩ := List.cons_eq_cons.mp same
          have earlier := keeps.sinceTick first middle frontChosen
          rw [List.length_append, List.length_singleton, Nat.succ_mul]
          omega
  · rw [List.getLastD_concat, reading_eq]
    exact Nat.le_add_right _ _
  · intro first middle last chosen
    rcases sublist_append_singleton.mp chosen with before | ⟨front, same, frontChosen⟩
    · exact keeps.spaced first middle last before
    · rw [← List.cons_append] at same
      obtain ⟨rfl, lastIsThis⟩ := List.append_inj' same rfl
      obtain rfl := List.singleton_inj.mp lastIsThis
      have earlier := keeps.sinceTick first middle frontChosen
      omega

/-- Once an interval went by since the last tick, the next one is due. -/
theorem isDue_advance
    {now : Nat}
    (keeps : ticker.KeepsPace interval start moments wasDue)
    (elapsed : moments.getLastD start + interval ≤ now) :
    (ticker.advance now).isDue = true := by
  have before := keeps.sinceLast
  have interval_eq := keeps.interval_eq
  apply decide_eq_true
  simp only [Ticker.advance]
  omega

/-- How long ticks took does not matter to the pace. -/
theorem withSummary
    (keeps : ticker.KeepsPace interval start moments wasDue)
    (summary : TickSummary) :
    { ticker with summary := summary }.KeepsPace interval start moments false := by
  refine ⟨keeps.interval_eq, keeps.count_eq, ?_, keeps.sinceStart, keeps.sinceTick,
    keeps.sinceLast, keeps.spaced⟩
  intro due
  cases due

end KeepsPace

/-! ## Runs -/

/-- Every call keeps the pace, if a tick begins only when it is due and the clock goes forward. -/
theorem KeepsPace.perform
    {interval start : Nat}
    {moments : List Nat}
    {wasDue : Bool}
    {ticker next : Ticker}
    {call : TickerCall}
    {event : TickerEvent}
    (keeps : ticker.KeepsPace interval start moments wasDue)
    (performed : ticker.perform call = .ok (event, next))
    (forward : ticker.lastReading ≤ event.readingAfter ticker.lastReading)
    (whenDue : event = .begun → wasDue = true) :
    next.lastReading = event.readingAfter ticker.lastReading ∧
      next.KeepsPace interval start
        (moments ++ if event = .begun then [ticker.lastReading] else []) event.saysDue := by
  cases call with
  | ask now =>
      cases performed
      refine ⟨rfl, ?_⟩
      rw [if_neg (by simp), List.append_nil]
      exact keeps.advance forward
  | begin =>
      cases performed
      obtain rfl := whenDue rfl
      refine ⟨rfl, ?_⟩
      rw [if_pos rfl]
      exact keeps.begin
  | finish duration =>
      simp only [Ticker.perform, Ticker.finish, Checked.bind_eq_ok] at performed
      obtain ⟨_, ⟨summary, _, finished⟩, same⟩ := performed
      cases finished
      cases same
      refine ⟨rfl, ?_⟩
      rw [if_neg (by simp), List.append_nil]
      exact keeps.withSummary summary
  | wait now =>
      cases performed
      refine ⟨rfl, ?_⟩
      rw [if_neg (by simp), List.append_nil]
      exact keeps.withSummary ticker.summary
  | restartSummary =>
      cases performed
      refine ⟨rfl, ?_⟩
      rw [if_neg (by simp), List.append_nil]
      exact keeps.withSummary (.ofInterval ticker.interval)

theorem KeepsPace.run
    {interval start : Nat}
    {moments : List Nat}
    {wasDue : Bool}
    {ticker last : Ticker}
    {calls : List TickerCall}
    {events : List TickerEvent}
    (keeps : ticker.KeepsPace interval start moments wasDue)
    (ran : ticker.run calls = .ok (events, last))
    (forward : (ticker.lastReading :: readings events).Pairwise (· ≤ ·))
    (whenDue : beginsWhenDue wasDue events = true) :
    last.lastReading = (readings events).getLastD ticker.lastReading ∧
      ∃ isDue,
        last.KeepsPace interval start
          (moments ++ TickerEvent.moments ticker.lastReading events) isDue := by
  induction calls generalizing ticker moments wasDue events with
  | nil =>
      cases ran
      rw [TickerEvent.moments, List.append_nil]
      exact ⟨rfl, wasDue, keeps⟩
  | cons call rest inductionHypothesis =>
      simp only [Ticker.run, Checked.bind_eq_ok] at ran
      obtain ⟨⟨event, next⟩, performed, ⟨later, _⟩, ranLater, same⟩ := ran
      cases same
      obtain ⟨forwardNow, forwardLater⟩ := le_readingAfter forward
      simp only [beginsWhenDue, Bool.and_eq_true] at whenDue
      have allowed : event = .begun → wasDue = true := by
        intro begins
        simpa [begins] using whenDue.1
      obtain ⟨reading_eq, keepsNext⟩ := keeps.perform performed forwardNow allowed
      rw [← reading_eq] at forwardLater
      obtain ⟨last_eq, isDue, keepsLast⟩ :=
        inductionHypothesis keepsNext ranLater forwardLater whenDue.2
      rw [getLastD_readings_cons, ← reading_eq, TickerEvent.moments, ← reading_eq,
        ← List.append_assoc]
      exact ⟨last_eq, isDue, keepsLast⟩

/--
For a ticker of any interval, and whatever is asked of it in any order, if ticks
begin only directly behind the answer that one is due and the readings of the
clock never go back: the ticks that began, counted as the ticker counts them, at
an interval each make up no more than the time from the start to the last
reading at which it was asked; and in any stretch of time, closed at both ends
and after whatever delay, at most two ticks more begin than there are whole
intervals in it. A tick begins at the reading at which it was found to be due,
and the next one is due as soon as an interval went by since then.
-/
theorem ticks_keep_pace
    {interval start : Nat}
    {calls : List TickerCall}
    {events : List TickerEvent}
    {ticker : Ticker}
    (positive : 0 < interval)
    (ran : (ofInterval interval start).run calls = .ok (events, ticker))
    (forward : (start :: readings events).Pairwise (· ≤ ·))
    (whenDue : beginsWhenDue false events = true) :
    ticker.count = events.count .begun ∧
      events.count .begun * interval ≤ (readings events).getLastD start - start ∧
      (∀ opening length,
        ((moments start events).filter fun moment =>
            opening ≤ moment ∧ moment ≤ opening + length).length ≤
          length / interval + 2) ∧
      ∀ now,
        (moments start events).getLastD start + interval ≤ now →
          ticker.perform (.ask now) = .ok (.asked now true, ticker.advance now) := by
  obtain ⟨last_eq, _, keeps⟩ := (keepsPace_ofInterval interval start).run ran forward whenDue
  have started : (ofInterval interval start).lastReading = start := rfl
  rw [List.nil_append, started] at keeps
  have count_eq := keeps.count_eq
  have spent := keeps.sinceStart
  rw [length_moments] at count_eq spent
  rw [last_eq, started] at spent
  refine ⟨count_eq, by omega, keeps.spaced.length_filter_le positive, ?_⟩
  intro now elapsed
  rw [Ticker.perform, keeps.isDue_advance elapsed]

/-- A loop held up for ten intervals begins two ticks at once, and the next after an interval. -/
theorem stall_caught_up_by_one_tick :
    ∃ events ticker,
      (ofInterval 10 0).run
          [.ask 100, .begin, .finish 3, .ask 100, .begin, .finish 3, .ask 100, .wait 100,
            .ask 109, .ask 110, .begin] =
        .ok (events, ticker) ∧
        moments 0 events = [100, 100, 110] ∧
        ticker.count = 3 ∧
        3 * 10 ≤ 110 - 0 ∧
        ((moments 0 events).filter fun moment => 100 ≤ moment ∧ moment ≤ 100 + 0).length ≤
          0 / 10 + 2 ∧
        ticker.perform (.ask 120) = .ok (.asked 120 true, ticker.advance 120) := by
  let events : List TickerEvent :=
    [.asked 100 true, .begun, .finished 3, .asked 100 true, .begun, .finished 3,
      .asked 100 false, .waited 10, .asked 109 false, .asked 110 true, .begun]
  obtain ⟨ticker, ran⟩ :
      ∃ ticker,
        (ofInterval 10 0).run
            [.ask 100, .begin, .finish 3, .ask 100, .begin, .finish 3, .ask 100, .wait 100,
              .ask 109, .ask 110, .begin] =
          .ok (events, ticker) :=
    ⟨_, rfl⟩
  obtain ⟨count_eq, spent, crowded, next⟩ :=
    ticks_keep_pace (by decide) ran (by decide) (by decide)
  exact ⟨events, ticker, ran, rfl, count_eq, spent, crowded 100 0, next 120 (by decide)⟩

end Ticker

end Gatehouse
