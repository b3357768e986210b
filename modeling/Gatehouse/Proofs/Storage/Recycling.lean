import Mathlib.Data.List.Perm.Basic
import Gatehouse.Proofs.Storage.Lending
import Gatehouse.Proofs.Storage.Tenancy

namespace Gatehouse

/-!
# Recycling of blocks

A run of a pool is told twice: by the pool, where every block carries its bytes,
and by a pool at work in one memory, where blocks are windows that might
overlap. Both tell the same, so a block that came back keeps what it was
released with until it is acquired again. The arena grows to the largest number
of blocks that were held at the same time and no further, and every sequence of
calls is answered for which it has that many blocks left.
-/

/-- A pool at work in one memory, and the windows of its blocks. -/
structure WindowPool where
  reservation : Reservation
  size : Nat
  /-- The windows of the blocks that came back, the last one first. -/
  free : List Window
  /-- The windows of the blocks that are held, in the order of their acquisition. -/
  held : List Window

namespace WindowPool

def ofArena (arena : Arena) (memory : Memory) (size : Nat) : WindowPool where
  reservation := .ofArena arena memory
  size := size
  free := []
  held := []

/-- What memory shows in a window. -/
def shown (pool : WindowPool) (window : Window) : Block where
  address := window.address
  bytes := pool.reservation.memory.window window.address window.length

/-- Perform a call; a holder writes into the memory that it was given. -/
def perform (pool : WindowPool) : PoolCall → Checked (PoolEvent × WindowPool)
  | .acquire =>
      match pool.free with
      | window :: free =>
          .ok (.acquired (pool.shown window),
            { pool with free := free, held := pool.held ++ [window] })
      | [] => do
          match ← pool.reservation.carve? pool.size Arena.wordAlignment with
          | (.error _, _) => .error .exhausted
          | (.ok block, reservation) =>
              return (.acquired block,
                { pool with reservation := reservation, held := pool.held ++ [block.window] })
  | .overwrite number offset bytes =>
      match pool.held[number]? with
      | none => .ok (.kept, pool)
      | some window =>
          let memory :=
            pool.reservation.memory.store window.address
              ((pool.shown window).bytes.overwrite offset bytes)
          .ok (.kept, { pool with reservation := { pool.reservation with memory := memory } })
  | .release number =>
      match pool.held[number]? with
      | none => .ok (.kept, pool)
      | some window =>
          .ok (.released (pool.shown window),
            { pool with free := window :: pool.free, held := pool.held.eraseIdx number })

/-- Perform calls in turn. -/
def run (pool : WindowPool) (calls : List PoolCall) : Checked (List PoolEvent × WindowPool) :=
  PoolCall.runAll perform pool calls

end WindowPool

/-- An entry may be changed in either of two orderings of the same entries. -/
theorem modify_perm_modify_append
    {entries front back : List α}
    {place number : Nat}
    {entry : α}
    (same : entries.Perm (front ++ back))
    (found : entries[place]? = some entry)
    (foundToo : front[number]? = some entry)
    (change : α → α) :
    (entries.modify place change).Perm (front.modify number change ++ back) := by
  obtain ⟨below, at_eq⟩ := List.getElem?_eq_some_iff.mp found
  obtain ⟨belowToo, atToo_eq⟩ := List.getElem?_eq_some_iff.mp foundToo
  have first := List.getElem_cons_eraseIdx_perm below
  have second := (List.getElem_cons_eraseIdx_perm belowToo).append_right back
  rw [at_eq] at first
  rw [atToo_eq] at second
  have rest : (entries.eraseIdx place).Perm (front.eraseIdx number ++ back) :=
    ((first.trans same).trans second.symm).cons_inv
  rw [List.modify_eq_set_getElem?, List.modify_eq_set_getElem?, found, foundToo]
  exact ((List.set_perm_cons_eraseIdx below _).trans (rest.cons _)).trans
    ((List.set_perm_cons_eraseIdx belowToo _).append_right back).symm

namespace Lending

open PoolCall PoolEvent

variable {start : Arena} {initial : Memory} {holdings : Holdings} {windows : WindowPool}
  {lending after : Lending} {call : PoolCall} {event : PoolEvent}

/--
The blocks of a pool are windows of one memory: every block that was carved is
held or came back, just once, and memory shows what it holds.
-/
structure BackedBy
    (start : Arena)
    (initial : Memory)
    (holdings : Holdings)
    (windows : WindowPool)
    (lending : Lending) : Prop where
  safe : holdings.IsSafe start
  arena_eq : holdings.arena = lending.pool.arena
  accounted : holdings.blocks.Perm (lending.held ++ lending.pool.free)
  backs :
    Tenancy.Backs start initial holdings
      { reservation := windows.reservation, windows := holdings.blocks.map Block.window }
  size_eq : windows.size = lending.pool.blockSize
  held_eq : windows.held = lending.held.map Block.window
  free_eq : windows.free = lending.pool.free.map Block.window

namespace BackedBy

variable (backed : lending.BackedBy start initial holdings windows)

include backed

theorem shown_window
    {block : Block}
    (member : block ∈ lending.held ++ lending.pool.free) :
    windows.shown block.window = block := by
  have shown := backed.backs.shown block (backed.accounted.mem_iff.mpr member)
  rw [WindowPool.shown, Block.window, shown]

theorem getElem?_held
    {number : Nat}
    {block : Block}
    (found : lending.held[number]? = some block) :
    windows.held[number]? = some block.window ∧ windows.shown block.window = block := by
  refine ⟨?_, backed.shown_window (List.mem_append_left _ (List.mem_of_getElem? found))⟩
  rw [backed.held_eq, List.getElem?_map, found]
  rfl

theorem getElem?_held_of_missing
    {number : Nat}
    (missing : lending.held[number]? = none) :
    windows.held[number]? = none := by
  rw [backed.held_eq, List.getElem?_map, missing]
  rfl

theorem recycled
    {block : Block}
    {free : List Block}
    (isFree : lending.pool.free = block :: free) :
    ∃ later,
      windows.perform .acquire = .ok (.acquired block, later) ∧
        BackedBy start initial holdings later
          { pool := { lending.pool with free := free }
            held := lending.held ++ [block] } := by
  have accounted := backed.accounted
  have free_eq := backed.free_eq
  have member : block ∈ lending.held ++ lending.pool.free := by
    simp [isFree]
  have shown := backed.shown_window member
  rw [isFree] at accounted free_eq
  refine ⟨{ windows with free := free.map Block.window, held := windows.held ++ [block.window] },
    ?_, backed.safe, backed.arena_eq, ?_, backed.backs, backed.size_eq, ?_, rfl⟩
  · simp only [WindowPool.perform, free_eq, List.map_cons, shown]
  · rw [List.append_assoc, List.singleton_append]
    exact accounted
  · rw [backed.held_eq, List.map_append]
    rfl

theorem carve
    (noneFree : lending.pool.free = [])
    (admits : lending.pool.arena.Admits lending.pool.blockSize Arena.wordAlignment) :
    ∃ laterHoldings later,
      windows.perform .acquire =
          .ok (.acquired ((request lending.pool.blockSize).nextBlock lending.pool.arena), later) ∧
        BackedBy start initial laterHoldings later
          { pool :=
              { lending.pool with
                arena := (request lending.pool.blockSize).advance lending.pool.arena
                free := []
                allocated := lending.pool.allocated + 1 }
            held :=
              lending.held ++
                [(request lending.pool.blockSize).nextBlock lending.pool.arena] } := by
  have accounted := backed.accounted
  have free_eq := backed.free_eq
  rw [noneFree] at free_eq
  rw [noneFree, List.append_nil] at accounted
  rw [← backed.arena_eq] at admits ⊢
  have sized : (request lending.pool.blockSize).alignment < Size.limit := by
    rw [request, ArenaRequest.alignment]
    decide
  have asked :
      holdings.arena.Admits (request lending.pool.blockSize).size
        (request lending.pool.blockSize).alignment :=
    admits
  obtain ⟨_, memory, carved, commits⟩ :=
    ArenaRequest.carve?_of_admits backed.safe.inOrder sized asked backed.backs.free_zero
  rw [← backed.backs.reservation_eq] at carved
  refine ⟨holdings.granted (request lending.pool.blockSize),
    { windows with
      reservation := .ofArena ((request lending.pool.blockSize).advance holdings.arena) memory
      held :=
        windows.held ++ [((request lending.pool.blockSize).nextBlock holdings.arena).window] },
    ?_, backed.safe.granted asked, rfl, ?_, ?_, backed.size_eq, ?_, free_eq⟩
  · have carve_eq :
        windows.reservation.carve? windows.size Arena.wordAlignment =
          (request lending.pool.blockSize).carveFrom? windows.reservation := by
      rw [backed.size_eq]
      rfl
    simp only [WindowPool.perform, free_eq, List.map_nil, carve_eq, carved, bind, Except.bind]
    rfl
  · rw [List.append_nil]
    exact accounted.append_right _
  · have backs := backed.backs.of_commits backed.safe asked commits
    rw [Holdings.granted, List.map_append]
    exact backs
  · rw [backed.held_eq, List.map_append]
    rfl

/-- A holder's writing shows in its own block and in no other, held or free. -/
theorem overwrite (number offset : Nat) (bytes : Bytes) :
    ∃ laterHoldings later,
      windows.perform (.overwrite number offset bytes) = .ok (.kept, later) ∧
        BackedBy start initial laterHoldings later
          { lending with
            held := lending.held.modify number fun block =>
              { block with bytes := block.bytes.overwrite offset bytes } } := by
  cases found : lending.held[number]? with
  | none =>
      have missing := backed.getElem?_held_of_missing found
      rw [List.modify_eq_self (List.getElem?_eq_none_iff.mp found)]
      refine ⟨holdings, windows, ?_, backed⟩
      simp only [WindowPool.perform, missing]
  | some block =>
      obtain ⟨foundWindow, _⟩ := backed.getElem?_held found
      have inFront : block ∈ lending.held ++ lending.pool.free :=
        List.mem_append_left _ (List.mem_of_getElem? found)
      obtain ⟨place, isAt⟩ := List.mem_iff_getElem?.mp (backed.accounted.mem_iff.mpr inFront)
      have keeps (held : Bytes) : (held.overwrite offset bytes).length = held.length :=
        Bytes.length_overwrite held offset bytes
      have backs := backed.backs.rewrite keeps backed.safe place
      have windows_eq := Holdings.windows_rewrite keeps holdings place
      have isThere : (holdings.blocks.map Block.window)[place]? = some block.window := by
        rw [List.getElem?_map, isAt]
        rfl
      simp only [Tenancy.rewrite, isThere] at backs
      rw [← windows_eq] at backs
      have accounted :=
        modify_perm_modify_append backed.accounted isAt found fun held =>
          { held with bytes := held.bytes.overwrite offset bytes }
      let memory :=
        windows.reservation.memory.store block.window.address
          ((windows.shown block.window).bytes.overwrite offset bytes)
      refine ⟨holdings.rewrite place fun held => held.overwrite offset bytes,
        { windows with reservation := { windows.reservation with memory := memory } }, ?_,
        backed.safe.rewrite keeps place, backed.arena_eq, accounted, backs, backed.size_eq, ?_,
        backed.free_eq⟩
      · simp only [WindowPool.perform, foundWindow, memory]
      · have held_eq :=
          Holdings.windows_rewrite keeps
            { arena := lending.pool.arena, blocks := lending.held } number
        exact backed.held_eq.trans held_eq.symm

theorem release
    {number : Nat}
    {block : Block}
    (found : lending.held[number]? = some block) :
    ∃ later,
      windows.perform (.release number) = .ok (.released block, later) ∧
        BackedBy start initial holdings later
          { pool := lending.pool.release block
            held := lending.held.eraseIdx number } := by
  obtain ⟨foundWindow, shown⟩ := backed.getElem?_held found
  obtain ⟨below, at_eq⟩ := List.getElem?_eq_some_iff.mp found
  have taken := List.getElem_cons_eraseIdx_perm below
  rw [at_eq] at taken
  have accounted :
      holdings.blocks.Perm (lending.held.eraseIdx number ++ block :: lending.pool.free) :=
    backed.accounted.trans
      ((taken.symm.append_right _).trans List.perm_middle.symm)
  refine ⟨{ windows with
      free := block.window :: windows.free
      held := windows.held.eraseIdx number },
    ?_, backed.safe, backed.arena_eq, accounted, backed.backs, backed.size_eq, ?_, ?_⟩
  · simp only [WindowPool.perform, foundWindow, shown]
  · rw [backed.held_eq]
    exact List.eraseIdx_map _ _ _
  · rw [backed.free_eq]
    rfl

/-- Whatever a call leads to, memory tells the same of it. -/
theorem moves (moved : lending.Moves call event after) :
    ∃ laterHoldings later,
      windows.perform call = .ok (event, later) ∧
        after.BackedBy start initial laterHoldings later := by
  cases moved with
  | recycled block free isFree =>
      exact ⟨holdings, backed.recycled isFree⟩
  | carved noneFree admits =>
      exact backed.carve noneFree admits
  | overwritten number offset bytes =>
      exact backed.overwrite number offset bytes
  | released number block found =>
      exact ⟨holdings, backed.release found⟩
  | notHeld number missing =>
      refine ⟨holdings, windows, ?_, backed⟩
      simp only [WindowPool.perform, backed.getElem?_held_of_missing missing]

/-- The blocks lie apart, in whatever order they are listed. -/
theorem apart :
    (lending.held ++ lending.pool.free).Pairwise fun block other =>
      block.address + block.length ≤ other.address ∨
        other.address + other.length ≤ block.address :=
  (backed.safe.apart.imp fun before => .inl before).perm backed.accounted Or.symm

end BackedBy

/-- At the start no block is carved, and memory may hold anything where nothing is committed. -/
theorem backedBy_ofArena
    (inOrder : start.IsInOrder)
    (zero : initial.IsZero (start.base + start.used) (start.base + start.committed))
    (size : Nat) :
    (Lending.ofArena start size).BackedBy start initial { arena := start, blocks := [] }
      (.ofArena start initial size) where
  safe := ⟨rfl, rfl, rfl, inOrder, by simp, .nil⟩
  arena_eq := rfl
  accounted := .nil
  backs := ⟨rfl, rfl, by simp, zero, fun _ _ => rfl⟩
  size_eq := rfl
  held_eq := rfl
  free_eq := rfl

/--
A run is told alike by the pool and by memory, up to its end or up to the first
acquisition with which more blocks would be held than the arena has left.
-/
theorem run_cases
    {size : Nat}
    {calls : List PoolCall}
    {events : List PoolEvent}
    (books : lending.Books start size calls events)
    (backed : lending.BackedBy start initial holdings windows)
    (rest : List PoolCall) :
    (∃ later after laterHoldings laterWindows,
        lending.run rest = .ok (later, after) ∧
          windows.run rest = .ok (later, laterWindows) ∧
          after.Books start size (calls ++ rest) (events ++ later) ∧
          after.BackedBy start initial laterHoldings laterWindows) ∨
      (lending.run rest = .error .exhausted ∧
        ∃ earlier,
          earlier <+: calls ++ rest ∧
            start.base + start.reserved <
              Arena.cursorAfter size (heldCount earlier) (start.base + start.used)) := by
  induction rest generalizing lending windows holdings calls events with
  | nil =>
      refine .inl ⟨[], lending, holdings, windows, rfl, rfl, ?_, backed⟩
      rw [List.append_nil, List.append_nil]
      exact books
  | cons call rest inductionHypothesis =>
      rcases perform_cases books.inOrder call with
        ⟨event, next, performed, moved⟩ | ⟨stopped, rfl, noneFree, refuses⟩
      · obtain ⟨_, nextWindows, performedToo, nextBacked⟩ := backed.moves moved
        have later := inductionHypothesis (books.moves moved) nextBacked
        simp only [List.append_assoc, List.singleton_append] at later
        rcases later with
          ⟨events, after, laterHoldings, laterWindows, ran, ranToo, afterBooks, afterBacked⟩ |
          ⟨stopped, earlier, before, exceeds⟩
        · exact .inl ⟨event :: events, after, laterHoldings, laterWindows,
            PoolCall.runAll_cons performed ran, PoolCall.runAll_cons performedToo ranToo,
            afterBooks, afterBacked⟩
        · refine .inr ⟨?_, earlier, before, exceeds⟩
          rw [run] at stopped
          simp only [run, PoolCall.runAll, performed, stopped, bind, Except.bind]
      · refine .inr ⟨?_, calls ++ [.acquire], ⟨rest, by simp⟩, ?_⟩
        · simp only [run, PoolCall.runAll, stopped, bind, Except.bind]
        · rw [books.blockSize_eq, books.inOrder.admits_iff, books.wordUp_end_add,
            books.carved.base_eq, books.carved.reserved_eq] at refuses
          rw [heldCount_append_singleton, heldAfter, books.heldCount_eq noneFree]
          exact Nat.lt_of_not_le refuses

/-- A run that ends was told alike by memory, and left the books in order. -/
theorem told_of_run
    {size : Nat}
    {calls : List PoolCall}
    {events : List PoolEvent}
    (inOrder : start.IsInOrder)
    (zero : initial.IsZero (start.base + start.used) (start.base + start.committed))
    (ran : (Lending.ofArena start size).run calls = .ok (events, after)) :
    ∃ laterHoldings laterWindows,
      (WindowPool.ofArena start initial size).run calls = .ok (events, laterWindows) ∧
        after.Books start size calls events ∧
        after.BackedBy start initial laterHoldings laterWindows := by
  have backed := backedBy_ofArena inOrder zero size
  rcases run_cases (.ofArena inOrder size) backed calls with
    ⟨_, _, laterHoldings, laterWindows, ranToo, told⟩ | ⟨stopped, _⟩
  · rw [ran] at ranToo
    cases ranToo
    exact ⟨laterHoldings, laterWindows, told⟩
  · rw [ran] at stopped
    cases stopped

/-- How the blocks of a pool were carved and handed round by some calls, and what became of them. -/
structure Recycles
    (start : Arena)
    (size : Nat)
    (calls : List PoolCall)
    (events : List PoolEvent)
    (lending : Lending) : Prop where
  held_length : lending.held.length = heldCount calls
  allocated_greatest : IsGreatest (heldCounts calls) lending.pool.allocated
  conserved : lending.pool.available + lending.held.length = lending.pool.allocated
  /-- The arena is what carving so many blocks, one after another, makes of it. -/
  traced : start.afterCarving size lending.pool.allocated = .ok lending.pool.arena
  /-- Each block starts at the next word behind the one before it. -/
  used_eq :
    start.base + lending.pool.arena.used =
      Arena.cursorAfter size lending.pool.allocated (start.base + start.used)
  length_eq : ∀ block ∈ lending.held ++ lending.pool.free, block.length = size
  apart :
    (lending.held ++ lending.pool.free).Pairwise fun block other =>
      block.address + block.length ≤ other.address ∨
        other.address + other.length ≤ block.address
  distinct : 0 < size → ((lending.held ++ lending.pool.free).map Block.address).Nodup
  free_eq : lending.pool.free = returned events

theorem BackedBy.recycles
    {size : Nat}
    {calls : List PoolCall}
    {events : List PoolEvent}
    (backed : lending.BackedBy start initial holdings windows)
    (books : lending.Books start size calls events) :
    lending.Recycles start size calls events where
  held_length := books.held_length
  allocated_greatest := books.allocated_greatest
  conserved := books.conserved
  traced := books.traced
  used_eq := books.carved.end_eq
  length_eq := books.length_eq
  apart := backed.apart
  distinct := by
    intro positive
    apply List.pairwise_map.mpr
    refine backed.apart.imp_of_mem fun {block other} member memberToo apart same => ?_
    rw [books.length_eq block member, books.length_eq other memberToo] at apart
    omega
  free_eq := books.free_eq

/-- How a pool acquires its next block, by what became of the calls before. -/
inductive AcquiresNext
    (size : Nat)
    (events : List PoolEvent)
    (lending : Lending)
    (block : Block)
    (next : BlockPool) : Prop where
  /-- The block that was released last is acquired as it was released, and nothing is carved. -/
  | recycled
      (rest : List Block)
      (isLast : returned events = block :: rest)
      (next_eq : next = { lending.pool with free := rest })
  /-- Only if all blocks are held another one is carved, behind them all and zero. -/
  | fresh
      (noneReturned : returned events = [])
      (zero : block.bytes = Bytes.zeros size)
      (behind : ∀ other ∈ lending.held, other.address + other.length ≤ block.address)
      (allocated_eq : next.allocated = lending.pool.allocated + 1)

theorem BackedBy.acquiresNext
    {size : Nat}
    {calls : List PoolCall}
    {events : List PoolEvent}
    {block : Block}
    {next : BlockPool}
    (backed : lending.BackedBy start initial holdings windows)
    (books : lending.Books start size calls events)
    (acquired : lending.pool.acquire = .ok (block, next)) :
    lending.AcquiresNext size events block next := by
  have performed :
      lending.perform .acquire =
        .ok (.acquired block, { pool := next, held := lending.held ++ [block] }) := by
    simp only [perform, acquired, bind, Except.bind]
    rfl
  have free_eq := books.free_eq
  rcases perform_cases books.inOrder .acquire with
    ⟨event, after, performedToo, moved⟩ | ⟨stopped, _⟩
  · rw [performed] at performedToo
    cases performedToo
    cases moved with
    | recycled _ free isFree =>
        rw [isFree] at free_eq
        exact .recycled free free_eq.symm rfl
    | carved noneFree admits =>
        rw [noneFree] at free_eq
        refine .fresh free_eq.symm ?_ ?_ rfl
        · rw [books.blockSize_eq]
          rfl
        · intro other isHeld
          have listed := backed.accounted.mem_iff.mpr (List.mem_append_left _ isHeld)
          obtain ⟨_, before⟩ := backed.safe.inside other listed
          rw [← backed.safe.base_eq, backed.arena_eq] at before
          exact Nat.le_trans before (Nat.le_add_right _ _)
  · rw [performed] at stopped
    cases stopped

/--
A pool starts on any arena that is in order, and blocks of any size are acquired,
written into and released in any order. The calls are answered if and only if
the arena has room for as many blocks as are held at the same time, at most.
Just so many are carved, and those that are not held are free; as long as that
number does not grow, the arena stays as it is. All blocks have the size of the
pool and lie apart, so none is held twice. A next block is the one that was
released last, as it was released, or, if none was, a new one that is zero. All
this is what one memory tells in which the blocks are windows, whatever it held
where nothing was committed.
-/
theorem blocks_recycled
    (inOrder : start.IsInOrder)
    (size : Nat)
    (calls : List PoolCall) :
    ((∃ events after, (Lending.ofArena start size).run calls = .ok (events, after)) ↔
        ∀ earlier,
          earlier <+: calls →
          Arena.cursorAfter size (heldCount earlier) (start.base + start.used) ≤
            start.base + start.reserved) ∧
      ∀ events after,
        (Lending.ofArena start size).run calls = .ok (events, after) →
        after.Recycles start size calls events ∧
          (∀ earlier earlierEvents moment,
            earlier <+: calls →
            (Lending.ofArena start size).run earlier = .ok (earlierEvents, moment) →
            moment.pool.allocated = after.pool.allocated →
            moment.pool.arena = after.pool.arena) ∧
          (∀ block next,
            after.pool.acquire = .ok (block, next) →
            after.AcquiresNext size events block next) ∧
          ∀ memory : Memory,
            memory.IsZero (start.base + start.used) (start.base + start.committed) →
            ∃ windows,
              (WindowPool.ofArena start memory size).run calls = .ok (events, windows) ∧
                windows.held = after.held.map Block.window ∧
                windows.free = after.pool.free.map Block.window ∧
                ∀ block ∈ after.held ++ after.pool.free,
                  windows.shown block.window = block := by
  have zero : Memory.IsZero (fun _ => 0) (start.base + start.used) (start.base + start.committed) :=
    fun _ _ _ => rfl
  refine ⟨⟨?_, ?_⟩, ?_⟩
  · rintro ⟨events, after, ran⟩ earlier before
    obtain ⟨_, _, _, books, _⟩ := told_of_run inOrder zero ran
    have few := books.allocated_greatest.2 ⟨earlier, before, rfl⟩
    have inside := Nat.le_trans books.inOrder.used_le books.inOrder.committed_le
    have atEnd := Nat.add_le_add_left inside start.base
    rw [books.carved.end_eq, books.carved.reserved_eq] at atEnd
    exact Nat.le_trans (Arena.cursorAfter_mono few) atEnd
  · intro fits
    have backed := backedBy_ofArena inOrder zero size
    rcases run_cases (.ofArena inOrder size) backed calls with
      ⟨events, after, _, _, ran, _⟩ | ⟨_, earlier, before, exceeds⟩
    · exact ⟨events, after, ran⟩
    · exact absurd (fits earlier before) (Nat.not_le.mpr exceeds)
  · intro events after ran
    obtain ⟨_, _, _, books, backed⟩ := told_of_run inOrder zero ran
    refine ⟨backed.recycles books, ?_, ?_, ?_⟩
    · intro earlier earlierEvents moment before ranEarlier same
      obtain ⟨_, _, _, momentBooks, _⟩ := told_of_run inOrder zero ranEarlier
      have traced := momentBooks.traced
      rw [same, books.traced] at traced
      exact (Except.ok.inj traced).symm
    · intro block next acquired
      exact backed.acquiresNext books acquired
    · intro memory uncommitted
      obtain ⟨_, windows, ranInMemory, _, shown⟩ :=
        told_of_run inOrder uncommitted ran
      exact ⟨windows, ranInMemory, shown.held_eq, shown.free_eq,
        fun block member => shown.shown_window member⟩

/-- A block that was written into is acquired again as it was released, next to a zero one. -/
theorem written_block_recycled :
    ∃ start events after windows,
      start.IsInOrder ∧
        (Lending.ofArena start 4).run
            [.acquire, .acquire, .overwrite 0 1 [7], .release 0, .acquire] =
          .ok (events, after) ∧
        (WindowPool.ofArena start (fun _ => 0xFF) 4).run
            [.acquire, .acquire, .overwrite 0 1 [7], .release 0, .acquire] =
          .ok (events, windows) ∧
        after.Recycles start 4 [.acquire, .acquire, .overwrite 0 1 [7], .release 0, .acquire]
          events ∧
        after.pool.allocated = 2 ∧
        after.held.map Block.bytes = [[0, 0, 0, 0], [0, 7, 0, 0]] := by
  let start : Arena :=
    { base := 4096, reserved := 65536, granule := 4096, committed := 0, used := 0 }
  let calls : List PoolCall :=
    [.acquire, .acquire, .overwrite 0 1 [7], .release 0, .acquire]
  have made : Arena.ofSizes 4096 65536 4096 = .ok (.ok start) := by
    decide +kernel
  have inOrder := Arena.isInOrder_of_ofSizes made (by decide)
  let first : Block := { address := 4096, bytes := [0, 0, 0, 0] }
  let second : Block := { address := 4104, bytes := [0, 0, 0, 0] }
  let written : Block := { first with bytes := [0, 7, 0, 0] }
  have ran :
      (Lending.ofArena start 4).run calls =
        .ok ([.acquired first, .acquired second, .kept, .released written, .acquired written],
          { pool :=
              { arena := { start with committed := 4096, used := 12 }
                blockSize := 4
                free := []
                allocated := 2 }
            held := [second, written] }) := by
    decide +kernel
  obtain ⟨_, told⟩ := blocks_recycled inOrder 4 calls
  obtain ⟨recycles, _, _, inMemory⟩ := told _ _ ran
  obtain ⟨windows, ranInMemory, _⟩ := inMemory (fun _ => 0xFF) (by simp [Memory.IsZero, start])
  exact ⟨start, _, _, windows, inOrder, ran, ranInMemory, recycles, rfl, rfl⟩

end Lending

end Gatehouse
