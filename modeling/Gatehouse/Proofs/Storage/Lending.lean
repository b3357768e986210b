import Mathlib.Order.Bounds.Basic
import Gatehouse.Proofs.Storage.BlockPool
import Gatehouse.Proofs.Storage.Granting

namespace Gatehouse

/-!
# Books of blocks that are lent

Blocks of a pool are acquired and released in any order, and whoever holds a
block may write into it. A block is carved only when all that were carved are
held, so as many are carved as were held at the same time, at most.
-/

/-- What is asked of a pool; blocks that are held are numbered in the order of their acquisition. -/
inductive PoolCall where
  | acquire
  /-- The holder of the block with this number writes into it from an offset on. -/
  | overwrite (number offset : Nat) (bytes : Bytes)
  /-- The holder of the block with this number gives it back. -/
  | release (number : Nat)
deriving DecidableEq, Repr

namespace PoolCall

/-- How many blocks are held after a call; only one that is held can be released. -/
def heldAfter (held : Nat) : PoolCall → Nat
  | .acquire => held + 1
  | .overwrite _ _ _ => held
  | .release number => if number < held then held - 1 else held

/-- How many blocks are held after some calls. -/
def heldCount (calls : List PoolCall) : Nat :=
  calls.foldl heldAfter 0

/-- The numbers of blocks that are held at one moment or another. -/
def heldCounts (calls : List PoolCall) : Set Nat :=
  {count | ∃ earlier, earlier <+: calls ∧ heldCount earlier = count}

theorem heldCount_append_singleton (calls : List PoolCall) (call : PoolCall) :
    heldCount (calls ++ [call]) = heldAfter (heldCount calls) call := by
  rw [heldCount, List.foldl_append]
  rfl

theorem heldCounts_append_singleton (calls : List PoolCall) (call : PoolCall) :
    heldCounts (calls ++ [call]) = insert (heldCount (calls ++ [call])) (heldCounts calls) := by
  ext count
  simp only [heldCounts, Set.mem_insert_iff, Set.mem_ofPred_eq, List.prefix_concat_iff]
  constructor
  · rintro ⟨earlier, rfl | before, rfl⟩
    · exact .inl rfl
    · exact .inr ⟨earlier, before, rfl⟩
  · rintro (rfl | ⟨earlier, before, rfl⟩)
    · exact ⟨_, .inl rfl, rfl⟩
    · exact ⟨earlier, .inr before, rfl⟩

end PoolCall

/-- What becomes of a call, with the contents of the block that changed hands. -/
inductive PoolEvent where
  | acquired (block : Block)
  | released (block : Block)
  /-- No block changed hands. -/
  | kept
deriving DecidableEq, Repr

namespace PoolEvent

/-- The blocks that were released and not acquired since, once more happened. -/
def returnedAfter (returned : List Block) : PoolEvent → List Block
  | .acquired block => returned.erase block
  | .released block => block :: returned
  | .kept => returned

/-- The blocks that were released and not acquired since, as they were released, the last first. -/
def returned (events : List PoolEvent) : List Block :=
  events.foldl returnedAfter []

theorem returned_append_singleton (events : List PoolEvent) (event : PoolEvent) :
    returned (events ++ [event]) = returnedAfter (returned events) event := by
  rw [returned, List.foldl_append]
  rfl

end PoolEvent

/-- Perform calls in turn, and collect what becomes of them. -/
def PoolCall.runAll
    (perform : σ → PoolCall → Checked (PoolEvent × σ))
    (state : σ) :
    List PoolCall → Checked (List PoolEvent × σ)
  | [] => .ok ([], state)
  | call :: rest => do
      let (event, next) ← perform state call
      let (events, last) ← runAll perform next rest
      return (event :: events, last)

theorem PoolCall.runAll_cons
    {perform : σ → PoolCall → Checked (PoolEvent × σ)}
    {state next last : σ}
    {call : PoolCall}
    {rest : List PoolCall}
    {event : PoolEvent}
    {events : List PoolEvent}
    (performed : perform state call = .ok (event, next))
    (ran : runAll perform next rest = .ok (events, last)) :
    runAll perform state (call :: rest) = .ok (event :: events, last) := by
  simp only [runAll, performed, ran, bind, Except.bind]
  rfl

/-- A pool and the blocks that are held, in the order of their acquisition. -/
structure Lending where
  pool : BlockPool
  held : List Block
deriving DecidableEq, Repr

namespace Lending

/-- A pool of blocks of one size of which none is held. -/
def ofArena (arena : Arena) (size : Nat) : Lending where
  pool := .ofArena arena size
  held := []

/-- Perform a call; a holder writes into the bytes of its own block. -/
def perform (lending : Lending) : PoolCall → Checked (PoolEvent × Lending)
  | .acquire => do
      let (block, pool) ← lending.pool.acquire
      return (.acquired block, { pool := pool, held := lending.held ++ [block] })
  | .overwrite number offset bytes =>
      .ok (.kept,
        { lending with
          held := lending.held.modify number fun block =>
            { block with bytes := block.bytes.overwrite offset bytes } })
  | .release number =>
      match lending.held[number]? with
      | none => .ok (.kept, lending)
      | some block =>
          .ok (.released block,
            { pool := lending.pool.release block, held := lending.held.eraseIdx number })

/-- Perform calls in turn. -/
def run (lending : Lending) (calls : List PoolCall) : Checked (List PoolEvent × Lending) :=
  PoolCall.runAll perform lending calls

end Lending

namespace Arena

/-- The same reservation, carved up to an address. -/
structure EndsAt (arena : Arena) (address : Nat) (after : Arena) : Prop where
  base_eq : after.base = arena.base
  reserved_eq : after.reserved = arena.reserved
  end_eq : arena.base + after.used = address

theorem paddingTo_word (arena : Arena) :
    arena.base + arena.used + arena.paddingTo wordAlignment =
      wordUp (arena.base + arena.used) := by
  rw [paddingTo, wordAlignment, Nat.ceilDiv_eq_add_pred_div, wordUp]
  omega

/-- A request for words is admitted if and only if the block ends inside the reservation. -/
theorem IsInOrder.admits_iff
    {arena : Arena}
    (inOrder : arena.IsInOrder)
    (size : Nat) :
    arena.Admits size wordAlignment ↔
      wordUp (arena.base + arena.used) + size ≤ arena.base + arena.reserved := by
  have inside := Nat.le_trans inOrder.used_le inOrder.committed_le
  have padded := arena.paddingTo_word
  rw [Admits]
  constructor
  · rintro ⟨_, fits⟩
    omega
  · intro fits
    exact ⟨⟨3, rfl⟩, by omega⟩

end Arena

namespace Lending

open PoolCall PoolEvent

variable {start : Arena} {size : Nat} {lending after : Lending} {call : PoolCall}
  {event : PoolEvent}

/-- The request for one more block. -/
def request (size : Nat) : ArenaRequest :=
  .block size Arena.wordAlignment

theorem carve_of_admits
    {arena : Arena}
    (inOrder : arena.IsInOrder)
    (admits : arena.Admits size Arena.wordAlignment) :
    arena.carve size Arena.wordAlignment =
      .ok ((request size).nextBlock arena, (request size).advance arena) := by
  have granted := inOrder.carve?_of_admits (by decide) admits
  simp only [Arena.carve, granted, bind, Except.bind]
  rfl

/-- What a call can lead to. -/
inductive Moves (lending : Lending) : PoolCall → PoolEvent → Lending → Prop where
  | recycled
      (block : Block)
      (free : List Block)
      (isFree : lending.pool.free = block :: free) :
      lending.Moves .acquire (.acquired block)
        { pool := { lending.pool with free := free }
          held := lending.held ++ [block] }
  | carved
      (noneFree : lending.pool.free = [])
      (admits : lending.pool.arena.Admits lending.pool.blockSize Arena.wordAlignment) :
      lending.Moves .acquire
        (.acquired ((request lending.pool.blockSize).nextBlock lending.pool.arena))
        { pool :=
            { lending.pool with
              arena := (request lending.pool.blockSize).advance lending.pool.arena
              free := []
              allocated := lending.pool.allocated + 1 }
          held :=
            lending.held ++ [(request lending.pool.blockSize).nextBlock lending.pool.arena] }
  | overwritten (number offset : Nat) (bytes : Bytes) :
      lending.Moves (.overwrite number offset bytes) .kept
        { lending with
          held := lending.held.modify number fun block =>
            { block with bytes := block.bytes.overwrite offset bytes } }
  | released
      (number : Nat)
      (block : Block)
      (found : lending.held[number]? = some block) :
      lending.Moves (.release number) (.released block)
        { pool := lending.pool.release block
          held := lending.held.eraseIdx number }
  | notHeld (number : Nat) (missing : lending.held[number]? = none) :
      lending.Moves (.release number) .kept lending

/-- A call leads somewhere, unless it asks for a block that does not fit what is left. -/
theorem perform_cases
    (inOrder : lending.pool.arena.IsInOrder)
    (call : PoolCall) :
    (∃ event after,
        lending.perform call = .ok (event, after) ∧ lending.Moves call event after) ∨
      (lending.perform call = .error .exhausted ∧
        call = .acquire ∧
        lending.pool.free = [] ∧
        ¬lending.pool.arena.Admits lending.pool.blockSize Arena.wordAlignment) := by
  cases call with
  | acquire =>
      simp only [perform, BlockPool.acquire]
      cases isFree : lending.pool.free with
      | cons block free =>
          exact .inl ⟨_, _, rfl, .recycled block free isFree⟩
      | nil =>
          by_cases admits :
              lending.pool.arena.Admits lending.pool.blockSize Arena.wordAlignment
          · simp only [carve_of_admits inOrder admits, bind, Except.bind]
            exact .inl ⟨_, _, rfl, .carved isFree admits⟩
          · obtain ⟨error, refused, _⟩ :=
              Reservation.carve?_of_refuses inOrder (by decide) admits
            simp only [Arena.carve, refused, Arena.obtained, bind, Except.bind]
            exact .inr ⟨trivial, trivial, trivial, admits⟩
  | overwrite number offset bytes =>
      exact .inl ⟨_, _, rfl, .overwritten number offset bytes⟩
  | release number =>
      simp only [perform]
      cases found : lending.held[number]? with
      | none =>
          exact .inl ⟨_, _, rfl, .notHeld number found⟩
      | some block =>
          exact .inl ⟨_, _, rfl, .released number block found⟩

/-- The books of a pool after some calls, by what became of them. -/
structure Books
    (start : Arena)
    (size : Nat)
    (calls : List PoolCall)
    (events : List PoolEvent)
    (lending : Lending) : Prop where
  blockSize_eq : lending.pool.blockSize = size
  held_length : lending.held.length = heldCount calls
  /-- As many blocks were carved as were held at the same time, at most. -/
  allocated_greatest : IsGreatest (heldCounts calls) lending.pool.allocated
  conserved : lending.pool.available + lending.held.length = lending.pool.allocated
  free_eq : lending.pool.free = returned events
  length_eq : ∀ block ∈ lending.held ++ lending.pool.free, block.length = size
  traced : start.afterCarving size lending.pool.allocated = .ok lending.pool.arena
  carved :
    start.EndsAt
      (Arena.cursorAfter size lending.pool.allocated (start.base + start.used))
      lending.pool.arena
  inOrder : lending.pool.arena.IsInOrder

namespace Books

variable {calls : List PoolCall} {events : List PoolEvent}

theorem ofArena
    (inOrder : start.IsInOrder)
    (size : Nat) :
    (Lending.ofArena start size).Books start size [] [] where
  blockSize_eq := rfl
  held_length := rfl
  allocated_greatest := by
    refine ⟨⟨[], List.prefix_rfl, rfl⟩, ?_⟩
    rintro count ⟨earlier, before, rfl⟩
    rw [List.prefix_nil.mp before]
    exact Nat.le_refl _
  conserved := rfl
  free_eq := rfl
  length_eq := by simp [Lending.ofArena, BlockPool.ofArena]
  traced := rfl
  carved := ⟨rfl, rfl, rfl⟩
  inOrder := inOrder

variable (books : lending.Books start size calls events)

include books

theorem heldCounts_isGreatest (call : PoolCall) :
    IsGreatest (heldCounts (calls ++ [call]))
      (max (heldAfter (heldCount calls) call) lending.pool.allocated) := by
  rw [heldCounts_append_singleton, heldCount_append_singleton]
  exact books.allocated_greatest.insert _

/-- If no more blocks are held than before, as many were carved as were held, at most. -/
theorem isGreatest_of_le
    (noMore : heldAfter (heldCount calls) call ≤ lending.pool.allocated) :
    IsGreatest (heldCounts (calls ++ [call])) lending.pool.allocated := by
  have greatest := books.heldCounts_isGreatest call
  rw [Nat.max_eq_right noMore] at greatest
  exact greatest

theorem heldCount_le : heldCount calls ≤ lending.pool.allocated := by
  rw [← books.conserved, books.held_length]
  exact Nat.le_add_left _ _

/-- A block that was returned is acquired again as it is. -/
theorem recycled
    {block : Block}
    {free : List Block}
    (isFree : lending.pool.free = block :: free) :
    Books start size (calls ++ [.acquire]) (events ++ [.acquired block])
      { pool := { lending.pool with free := free }
        held := lending.held ++ [block] } := by
  have conserved := books.conserved
  have held_length := books.held_length
  have free_eq := books.free_eq
  have length_eq := books.length_eq
  rw [BlockPool.available, isFree, List.length_cons] at conserved
  rw [isFree] at free_eq length_eq
  refine ⟨books.blockSize_eq, ?_, books.isGreatest_of_le ?_, ?_, ?_, ?_, books.traced,
    books.carved, books.inOrder⟩
  · rw [heldCount_append_singleton, List.length_append, held_length]
    rfl
  · rw [heldAfter]
    omega
  · rw [BlockPool.available, List.length_append, List.length_singleton]
    simp only
    omega
  · rw [returned_append_singleton, ← free_eq, returnedAfter, List.erase_cons_head]
  · simpa using length_eq

/-- Where the arena would end with one block more. -/
theorem wordUp_end_add :
    Arena.wordUp (lending.pool.arena.base + lending.pool.arena.used) + size =
      Arena.cursorAfter size (lending.pool.allocated + 1) (start.base + start.used) := by
  rw [books.carved.base_eq, books.carved.end_eq, Arena.cursorAfter_add]
  rfl

/-- With no block free, all that were carved are held. -/
theorem heldCount_eq (noneFree : lending.pool.free = []) :
    heldCount calls = lending.pool.allocated := by
  have conserved := books.conserved
  rw [BlockPool.available, noneFree, List.length_nil, Nat.zero_add, books.held_length] at conserved
  exact conserved

/-- A block is carved when all that were carved are held. -/
theorem carve
    (noneFree : lending.pool.free = [])
    (admits : lending.pool.arena.Admits lending.pool.blockSize Arena.wordAlignment) :
    Books start size (calls ++ [.acquire])
      (events ++ [.acquired ((request lending.pool.blockSize).nextBlock lending.pool.arena)])
      { pool :=
          { lending.pool with
            arena := (request lending.pool.blockSize).advance lending.pool.arena
            free := []
            allocated := lending.pool.allocated + 1 }
        held :=
          lending.held ++ [(request lending.pool.blockSize).nextBlock lending.pool.arena] } := by
  have inOrder := books.inOrder
  have free_eq := books.free_eq
  have allHeld := books.heldCount_eq noneFree
  have held_length := books.held_length
  have length_eq := books.length_eq
  have greatest := books.heldCounts_isGreatest .acquire
  rw [heldAfter, allHeld, Nat.max_eq_left (Nat.le_succ _)] at greatest
  rw [noneFree] at free_eq length_eq
  rw [books.blockSize_eq] at admits ⊢
  have granted := carve_of_admits inOrder admits
  have used_le := inOrder.used_le
  have committed_le := inOrder.committed_le
  have fits := admits.2
  refine ⟨books.blockSize_eq, ?_, greatest, ?_, ?_, ?_, ?_, ?_, inOrder.advancedBy ?_⟩
  · rw [heldCount_append_singleton, List.length_append, held_length]
    rfl
  · rw [BlockPool.available, List.length_append, List.length_singleton, held_length, allHeld]
    exact Nat.zero_add _
  · rw [returned_append_singleton, ← free_eq]
    rfl
  · intro block member
    rw [List.append_nil, List.mem_append, List.mem_singleton] at member
    rcases member with wasHeld | rfl
    · exact length_eq block (List.mem_append_left _ wasHeld)
    · exact ArenaRequest.length_nextBlock _ _
  · simp only [Arena.afterCarving, books.traced, granted, bind, Except.bind]
    rfl
  · refine ⟨books.carved.base_eq, books.carved.reserved_eq, ?_⟩
    rw [← books.wordUp_end_add, ← Arena.paddingTo_word, books.carved.base_eq]
    simp only [request, ArenaRequest.advance, Arena.advancedBy, ArenaRequest.size,
      ArenaRequest.alignment]
    omega
  · simp only [request, ArenaRequest.size, ArenaRequest.alignment]
    omega

/-- What a holder writes changes no number of the books. -/
theorem overwrite (number offset : Nat) (bytes : Bytes) :
    Books start size (calls ++ [.overwrite number offset bytes]) (events ++ [.kept])
      { lending with
        held := lending.held.modify number fun block =>
          { block with bytes := block.bytes.overwrite offset bytes } } := by
  refine ⟨books.blockSize_eq, ?_, books.isGreatest_of_le books.heldCount_le, ?_, ?_, ?_,
    books.traced, books.carved, books.inOrder⟩
  · rw [heldCount_append_singleton, List.length_modify]
    exact books.held_length
  · rw [List.length_modify]
    exact books.conserved
  · rw [returned_append_singleton]
    exact books.free_eq
  · intro block member
    rcases List.mem_append.mp member with isHeld | isFree
    · obtain ⟨place, isAt⟩ := List.mem_iff_getElem?.mp isHeld
      rw [List.getElem?_modify] at isAt
      obtain ⟨before, wasAt, rfl⟩ := Option.map_eq_some_iff.mp isAt
      have lengthBefore :=
        books.length_eq before (List.mem_append_left _ (List.mem_of_getElem? wasAt))
      split
      next =>
        exact (Bytes.length_overwrite _ _ _).trans lengthBefore
      next =>
        exact lengthBefore
    · exact books.length_eq block (List.mem_append_right _ isFree)

theorem release
    {number : Nat}
    {block : Block}
    (found : lending.held[number]? = some block) :
    Books start size (calls ++ [.release number]) (events ++ [.released block])
      { pool := lending.pool.release block
        held := lending.held.eraseIdx number } := by
  have held_length := books.held_length
  have conserved := books.conserved
  have heldCount_le := books.heldCount_le
  have below : number < lending.held.length := (List.getElem?_eq_some_iff.mp found).1
  have counted : heldAfter (heldCount calls) (.release number) = heldCount calls - 1 := by
    rw [heldAfter, ← held_length, if_pos below]
  refine ⟨books.blockSize_eq, ?_, books.isGreatest_of_le ?_, ?_, ?_, ?_, books.traced,
    books.carved, books.inOrder⟩
  · rw [heldCount_append_singleton, counted, List.length_eraseIdx_of_lt below, held_length]
  · simp only [counted]
    omega
  · rw [List.length_eraseIdx_of_lt below]
    simp only [BlockPool.available, BlockPool.release, List.length_cons] at conserved ⊢
    omega
  · rw [returned_append_singleton, BlockPool.release, books.free_eq]
    rfl
  · intro other member
    apply books.length_eq
    simp only [BlockPool.release, List.mem_append, List.mem_cons] at member ⊢
    rcases member with isHeld | rfl | isFree
    · exact .inl (List.mem_of_mem_eraseIdx isHeld)
    · exact .inl (List.mem_of_getElem? found)
    · exact .inr isFree

theorem notHeld
    {number : Nat}
    (missing : lending.held[number]? = none) :
    Books start size (calls ++ [.release number]) (events ++ [.kept]) lending := by
  have above : ¬number < heldCount calls := by
    rw [← books.held_length]
    exact Nat.not_lt.mpr (List.getElem?_eq_none_iff.mp missing)
  have counted : heldAfter (heldCount calls) (.release number) = heldCount calls := if_neg above
  refine ⟨books.blockSize_eq, ?_, books.isGreatest_of_le ?_, books.conserved, ?_,
    books.length_eq, books.traced, books.carved, books.inOrder⟩
  · rw [heldCount_append_singleton, counted]
    exact books.held_length
  · rw [counted]
    exact books.heldCount_le
  · rw [returned_append_singleton]
    exact books.free_eq

/-- Whatever a call leads to, the books are kept. -/
theorem moves
    (moved : lending.Moves call event after) :
    after.Books start size (calls ++ [call]) (events ++ [event]) := by
  cases moved with
  | recycled block free isFree =>
      exact books.recycled isFree
  | carved noneFree admits =>
      exact books.carve noneFree admits
  | overwritten number offset bytes =>
      exact books.overwrite number offset bytes
  | released number block found =>
      exact books.release found
  | notHeld number missing =>
      exact books.notHeld missing

end Books

end Lending

end Gatehouse
