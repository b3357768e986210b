import Gatehouse.Proofs.Storage.Granting

namespace Gatehouse

/-!
# Arenas over whole runs

Requests come in any order, and whoever holds a block may overwrite it or wipe
it at any time. A run is told twice: by the arena, where every block carries its
bytes, and by a reservation at work in one memory, where blocks are windows that
might overlap. Both give the same answers and show the same bytes; so no two
blocks share memory, and what is carved is zero whatever became of the blocks
before it.
-/

/-- What happens to an arena and the blocks carved from it. -/
inductive ArenaCall where
  | request (request : ArenaRequest)
  /-- The holder of the block with this number writes into it from an offset on. -/
  | overwrite (number offset : Nat) (bytes : Bytes)
  /-- The holder of the block with this number wipes it. -/
  | wipe (number : Nat)
deriving DecidableEq, Repr

/-- Whether the alignment that a call asks for is a size. -/
def ArenaCall.IsSized : ArenaCall → Prop
  | .request asked => asked.alignment < Size.limit
  | .overwrite _ _ _ | .wipe _ => True

/-- What a call is answered. -/
inductive ArenaAnswer where
  | granted (block : Block)
  | refused (error : ArenaError)
  | done
deriving DecidableEq, Repr

/-- Perform calls in turn, and collect the answers. -/
def ArenaCall.runAll
    (perform : σ → ArenaCall → Checked (ArenaAnswer × σ))
    (state : σ) :
    List ArenaCall → Checked (List ArenaAnswer × σ)
  | [] => .ok ([], state)
  | call :: rest => do
      let (answer, next) ← perform state call
      let (answers, last) ← runAll perform next rest
      return (answer :: answers, last)

theorem ArenaCall.runAll_cons
    {perform : σ → ArenaCall → Checked (ArenaAnswer × σ)}
    {state next last : σ}
    {call : ArenaCall}
    {rest : List ArenaCall}
    {answer : ArenaAnswer}
    {answers : List ArenaAnswer}
    (performed : perform state call = .ok (answer, next))
    (ran : runAll perform next rest = .ok (answers, last)) :
    runAll perform state (call :: rest) = .ok (answer :: answers, last) := by
  simp only [runAll, performed, ran, bind, Except.bind]
  rfl

/-- An arena and the blocks that it granted, in the order in which it did. -/
structure Holdings where
  arena : Arena
  blocks : List Block
deriving DecidableEq, Repr

namespace Holdings

/-- Change the bytes of the block with a number, if there is one. -/
def rewrite (holdings : Holdings) (number : Nat) (change : Bytes → Bytes) : Holdings :=
  { holdings with
    blocks := holdings.blocks.modify number fun block =>
      { block with bytes := change block.bytes } }

/-- Perform a call; a holder writes into the bytes of its own block. -/
def perform (holdings : Holdings) : ArenaCall → Checked (ArenaAnswer × Holdings)
  | .request request => do
      match ← request.carve? holdings.arena with
      | .error error => return (.refused error, holdings)
      | .ok (block, arena) =>
          return (.granted block, { arena := arena, blocks := holdings.blocks ++ [block] })
  | .overwrite number offset bytes =>
      .ok (.done, holdings.rewrite number fun held => held.overwrite offset bytes)
  | .wipe number =>
      .ok (.done, { holdings with blocks := holdings.blocks.modify number Block.wipe })

/-- Perform calls in turn. -/
def run (holdings : Holdings) (calls : List ArenaCall) :
    Checked (List ArenaAnswer × Holdings) :=
  ArenaCall.runAll perform holdings calls

end Holdings

/-- The place of a block in memory. -/
structure Window where
  address : Nat
  length : Nat
deriving DecidableEq, Repr

/-- The place of a block in memory. -/
def Block.window (block : Block) : Window where
  address := block.address
  length := block.length

/-- A reservation at work and the windows of the blocks that were carved from it. -/
structure Tenancy where
  reservation : Reservation
  windows : List Window

namespace Tenancy

/-- Change the bytes that memory holds in the window with a number, if there is one. -/
def rewrite (tenancy : Tenancy) (number : Nat) (change : Bytes → Bytes) : Tenancy :=
  match tenancy.windows[number]? with
  | none => tenancy
  | some window =>
      let held := tenancy.reservation.memory.window window.address window.length
      { tenancy with
        reservation :=
          { tenancy.reservation with
            memory := tenancy.reservation.memory.store window.address (change held) } }

/-- Perform a call; a holder writes into the memory that it was given. -/
def perform (tenancy : Tenancy) : ArenaCall → Checked (ArenaAnswer × Tenancy)
  | .request request => do
      let (outcome, reservation) ← request.carveFrom? tenancy.reservation
      match outcome with
      | .error error => return (.refused error, { tenancy with reservation := reservation })
      | .ok block =>
          return (.granted block,
            { reservation := reservation, windows := tenancy.windows ++ [block.window] })
  | .overwrite number offset bytes =>
      .ok (.done, tenancy.rewrite number fun held => held.overwrite offset bytes)
  | .wipe number =>
      .ok (.done, tenancy.rewrite number fun held => Bytes.zeros held.length)

/-- Perform calls in turn. -/
def run (tenancy : Tenancy) (calls : List ArenaCall) :
    Checked (List ArenaAnswer × Tenancy) :=
  ArenaCall.runAll perform tenancy calls

/--
A tenancy in memory backs the holdings: its counters are those of the arena, and
every window holds the bytes of its block. What is committed and not carved is
zero, and nothing outside the reservation was touched.
-/
structure Backs (start : Arena) (initial : Memory) (holdings : Holdings) (tenancy : Tenancy) :
    Prop where
  reservation_eq :
    tenancy.reservation = .ofArena holdings.arena tenancy.reservation.memory
  windows_eq : tenancy.windows = holdings.blocks.map Block.window
  shown :
    ∀ block ∈ holdings.blocks,
      tenancy.reservation.memory.window block.address block.length = block.bytes
  free_zero :
    tenancy.reservation.memory.IsZero
      (holdings.arena.base + holdings.arena.used)
      (holdings.arena.base + holdings.arena.committed)
  outside :
    ∀ place,
      place < start.base ∨ start.base + start.reserved ≤ place →
      tenancy.reservation.memory place = initial place

end Tenancy

/-- The counters are in order, and the blocks lie apart, inside what was carved. -/
structure Holdings.IsSafe (start : Arena) (holdings : Holdings) : Prop where
  base_eq : holdings.arena.base = start.base
  reserved_eq : holdings.arena.reserved = start.reserved
  granule_eq : holdings.arena.granule = start.granule
  inOrder : holdings.arena.IsInOrder
  inside :
    ∀ block ∈ holdings.blocks,
      start.base ≤ block.address ∧
        block.address + block.length ≤ start.base + holdings.arena.used
  apart :
    holdings.blocks.Pairwise fun earlier later =>
      earlier.address + earlier.length ≤ later.address

/-- Blocks with different numbers lie apart. -/
theorem Holdings.IsSafe.apart_of_ne
    {start : Arena}
    {holdings : Holdings}
    {number other : Nat}
    {block neighbour : Block}
    (safe : holdings.IsSafe start)
    (found : holdings.blocks[number]? = some block)
    (foundOther : holdings.blocks[other]? = some neighbour)
    (differ : number ≠ other) :
    neighbour.address + neighbour.length ≤ block.address ∨
      block.address + block.length ≤ neighbour.address := by
  obtain ⟨below, rfl⟩ := List.getElem?_eq_some_iff.mp found
  obtain ⟨otherBelow, rfl⟩ := List.getElem?_eq_some_iff.mp foundOther
  have apart := List.pairwise_iff_getElem.mp safe.apart
  rcases Nat.lt_or_gt_of_ne differ with earlier | later
  · exact .inr (apart number other below otherBelow earlier)
  · exact .inl (apart other number otherBelow below later)

/-- Whatever is stored, it is the same reservation. -/
theorem Reservation.withMemory_ofArena
    {reservation : Reservation}
    {arena : Arena}
    {memory : Memory}
    (reservation_eq : reservation = .ofArena arena memory)
    (after : Memory) :
    { reservation with memory := after } = Reservation.ofArena arena after := by
  rw [reservation_eq]
  rfl

section Rewriting

variable {start : Arena} {initial : Memory} {holdings : Holdings} {tenancy : Tenancy}
  {change : Bytes → Bytes} (keeps : ∀ bytes, (change bytes).length = bytes.length)

include keeps

/-- A change that keeps lengths moves no block. -/
theorem Holdings.windows_rewrite (holdings : Holdings) (number : Nat) :
    (holdings.rewrite number change).blocks.map Block.window =
      holdings.blocks.map Block.window := by
  apply List.ext_getElem?
  intro index
  simp only [rewrite, List.getElem?_map, List.getElem?_modify]
  cases holdings.blocks[index]? with
  | none =>
      rfl
  | some block =>
      by_cases here : number = index
      · simp [here, Block.window, Block.length, keeps]
      · simp [here]

theorem Holdings.IsSafe.rewrite (safe : holdings.IsSafe start) (number : Nat) :
    (holdings.rewrite number change).IsSafe start := by
  have same := Holdings.windows_rewrite keeps holdings number
  refine ⟨safe.base_eq, safe.reserved_eq, safe.granule_eq, safe.inOrder, ?_, ?_⟩
  · have inside :
        ∀ window ∈ holdings.blocks.map Block.window,
          start.base ≤ window.address ∧
            window.address + window.length ≤ start.base + holdings.arena.used :=
      List.forall_mem_map.mpr safe.inside
    rw [← same] at inside
    exact List.forall_mem_map.mp inside
  · have apart :
        (holdings.blocks.map Block.window).Pairwise fun earlier later =>
          earlier.address + earlier.length ≤ later.address :=
      List.pairwise_map.mpr safe.apart
    rw [← same] at apart
    exact List.pairwise_map.mp apart

/-- A holder's change shows in its own block and in no other. -/
theorem Tenancy.Backs.rewrite
    (backs : tenancy.Backs start initial holdings)
    (safe : holdings.IsSafe start)
    (number : Nat) :
    (tenancy.rewrite number change).Backs start initial (holdings.rewrite number change) := by
  have windows_eq := backs.windows_eq
  have moved := Holdings.windows_rewrite keeps holdings number
  unfold Tenancy.rewrite
  cases found : holdings.blocks[number]? with
  | none =>
      have none : tenancy.windows[number]? = none := by
        rw [windows_eq, List.getElem?_map, found]
        rfl
      have same : holdings.rewrite number change = holdings := by
        rw [Holdings.rewrite, List.modify_eq_self (List.getElem?_eq_none_iff.mp found)]
      simp only [none, same]
      exact backs
  | some block =>
      have isThere : tenancy.windows[number]? = some block.window := by
        rw [windows_eq, List.getElem?_map, found]
        rfl
      have member := List.mem_of_getElem? found
      obtain ⟨behind, before⟩ := safe.inside block member
      have shown := backs.shown block member
      have length_eq : (change block.bytes).length = block.length := keeps block.bytes
      have carved := Nat.le_trans safe.inOrder.used_le safe.inOrder.committed_le
      have base_eq := safe.base_eq
      have reserved_eq := safe.reserved_eq
      simp only [isThere, Block.window, shown]
      refine ⟨Reservation.withMemory_ofArena backs.reservation_eq _, windows_eq.trans moved.symm,
        ?_, ?_, ?_⟩
      · intro other isOther
        obtain ⟨index, isAt⟩ := List.mem_iff_getElem?.mp isOther
        simp only [Holdings.rewrite, List.getElem?_modify] at isAt
        by_cases here : number = index
        · subst here
          simp only [found, if_true, Option.map_eq_map, Option.map_some, Option.some.injEq] at isAt
          subst isAt
          have written :=
            tenancy.reservation.memory.window_store block.address (change block.bytes)
          exact written
        · simp only [here, if_false, Option.map_eq_map, Option.map_id'] at isAt
          have otherMember := List.mem_of_getElem? isAt
          rw [Memory.window_store_of_apart, backs.shown other otherMember]
          rw [length_eq]
          exact safe.apart_of_ne found isAt here
      · apply backs.free_zero.store_before
        rw [length_eq]
        omega
      · intro place isOutside
        have elsewhere :
            place < block.address ∨ block.address + (change block.bytes).length ≤ place := by
          omega
        exact (Memory.store_of_outside elsewhere).trans (backs.outside place isOutside)

end Rewriting

section Requests

variable {start : Arena} {initial : Memory} {holdings : Holdings} {tenancy : Tenancy}
  {request : ArenaRequest}

/-- The holdings once a request was granted. -/
def Holdings.granted (holdings : Holdings) (request : ArenaRequest) : Holdings where
  arena := request.advance holdings.arena
  blocks := holdings.blocks ++ [request.nextBlock holdings.arena]

theorem Holdings.IsSafe.granted
    (safe : holdings.IsSafe start)
    (admits : holdings.arena.Admits request.size request.alignment) :
    (holdings.granted request).IsSafe start := by
  have fits := admits.2
  have used_le := safe.inOrder.used_le
  have committed_le := safe.inOrder.committed_le
  have base_eq := safe.base_eq
  refine ⟨safe.base_eq, safe.reserved_eq, safe.granule_eq,
    safe.inOrder.advancedBy (by omega), ?_, ?_⟩
  · intro block member
    simp only [Holdings.granted, ArenaRequest.advance, Arena.advancedBy]
    rcases List.mem_append.mp member with held | isNew
    · have inside := safe.inside block held
      omega
    · rw [List.mem_singleton.mp isNew, ArenaRequest.length_nextBlock]
      simp only [ArenaRequest.nextBlock, Arena.nextBlock]
      omega
  · apply List.pairwise_append.mpr
    refine ⟨safe.apart, List.pairwise_singleton _ _, ?_⟩
    intro block held next isNew
    have inside := safe.inside block held
    rw [List.mem_singleton.mp isNew]
    simp only [ArenaRequest.nextBlock, Arena.nextBlock]
    omega

/-- The tenancy once a request was granted and memory changed. -/
def Tenancy.granted
    (tenancy : Tenancy)
    (request : ArenaRequest)
    (arena : Arena)
    (memory : Memory) : Tenancy where
  reservation := .ofArena (request.advance arena) memory
  windows := tenancy.windows ++ [(request.nextBlock arena).window]

/-- Committing for a block touches no block that is held, and shows the new one as zero. -/
theorem Tenancy.Backs.of_commits
    {memory : Memory}
    (backs : tenancy.Backs start initial holdings)
    (safe : holdings.IsSafe start)
    (admits : holdings.arena.Admits request.size request.alignment)
    (commits :
      Reservation.Commits holdings.arena (request.advance holdings.arena).committed
        tenancy.reservation.memory memory) :
    (tenancy.granted request holdings.arena memory).Backs start initial
      (holdings.granted request) := by
  have base_eq := safe.base_eq
  have reserved_eq := safe.reserved_eq
  have used_le := safe.inOrder.used_le
  have zero := commits.zero backs.free_zero
  have reached := (safe.granted admits).inOrder.used_le
  have used_eq :
      (request.advance holdings.arena).used =
        holdings.arena.used + (holdings.arena.paddingTo request.alignment + request.size) := rfl
  simp only [Holdings.granted] at reached
  refine ⟨rfl, ?_, ?_, ?_, ?_⟩
  · rw [granted, backs.windows_eq, Holdings.granted, List.map_append]
    rfl
  · intro block member
    rcases List.mem_append.mp member with held | isNew
    · obtain ⟨_, before⟩ := safe.inside block held
      rw [← backs.shown block held]
      exact Memory.window_congr fun place _ inside => commits.elsewhere place (.inl (by omega))
    · rw [List.mem_singleton.mp isNew, ArenaRequest.length_nextBlock]
      refine zero.window ?_ ?_ <;> simp only [ArenaRequest.nextBlock, Arena.nextBlock] <;> omega
  · apply zero.mono ?_ (Nat.le_refl _)
    simp only [Holdings.granted, used_eq]
    exact Nat.add_le_add_left (Nat.le_add_right _ _) _
  · intro place isOutside
    exact (commits.elsewhere place (by omega)).trans (backs.outside place isOutside)

/-- A request that is admitted is granted in both tellings. -/
theorem Tenancy.Backs.granted
    (backs : tenancy.Backs start initial holdings)
    (safe : holdings.IsSafe start)
    (sized : request.alignment < Size.limit)
    (admits : holdings.arena.Admits request.size request.alignment) :
    ∃ after,
      holdings.perform (.request request) =
          .ok (.granted (request.nextBlock holdings.arena), holdings.granted request) ∧
        tenancy.perform (.request request) =
          .ok (.granted (request.nextBlock holdings.arena), after) ∧
        after.Backs start initial (holdings.granted request) := by
  obtain ⟨carved, memory, carvedFrom, commits⟩ :=
    ArenaRequest.carve?_of_admits safe.inOrder sized admits backs.free_zero
  rw [← backs.reservation_eq] at carvedFrom
  refine ⟨tenancy.granted request holdings.arena memory, ?_, ?_,
    backs.of_commits safe admits commits⟩
  · simp only [Holdings.perform, carved, bind, Except.bind]
    rfl
  · simp only [Tenancy.perform, carvedFrom, bind, Except.bind]
    rfl

/-- A request that is not admitted is refused in both tellings, and changes nothing. -/
theorem Tenancy.Backs.refused
    (backs : tenancy.Backs start initial holdings)
    (safe : holdings.IsSafe start)
    (sized : request.alignment < Size.limit)
    (refuses : ¬holdings.arena.Admits request.size request.alignment) :
    ∃ error,
      holdings.perform (.request request) = .ok (.refused error, holdings) ∧
        tenancy.perform (.request request) = .ok (.refused error, tenancy) := by
  obtain ⟨error, refused, refusedFrom⟩ :=
    ArenaRequest.carve?_of_refuses safe.inOrder sized refuses
  have refusedHere := refusedFrom tenancy.reservation.memory
  rw [← backs.reservation_eq] at refusedHere
  refine ⟨error, ?_, ?_⟩
  · simp only [Holdings.perform, refused, bind, Except.bind]
    rfl
  · simp only [Tenancy.perform, refusedHere, bind, Except.bind]
    rfl

end Requests

/-- Every call is answered alike in both tellings, and keeps the holdings safe and backed. -/
theorem Tenancy.Backs.perform
    {start : Arena}
    {initial : Memory}
    {holdings : Holdings}
    {tenancy : Tenancy}
    {call : ArenaCall}
    (backs : tenancy.Backs start initial holdings)
    (safe : holdings.IsSafe start)
    (sized : call.IsSized) :
    ∃ answer after later,
      holdings.perform call = .ok (answer, after) ∧
        tenancy.perform call = .ok (answer, later) ∧
        after.IsSafe start ∧
        later.Backs start initial after := by
  cases call with
  | request request =>
      by_cases admits : holdings.arena.Admits request.size request.alignment
      · obtain ⟨later, performed, performedToo, stillBacks⟩ := backs.granted safe sized admits
        exact ⟨_, _, later, performed, performedToo, safe.granted admits, stillBacks⟩
      · obtain ⟨error, performed, performedToo⟩ := backs.refused safe sized admits
        exact ⟨_, _, _, performed, performedToo, safe, backs⟩
  | overwrite number offset bytes =>
      have keeps (held : Bytes) : (held.overwrite offset bytes).length = held.length :=
        Bytes.length_overwrite held offset bytes
      exact ⟨_, _, _, rfl, rfl, safe.rewrite keeps number, backs.rewrite keeps safe number⟩
  | wipe number =>
      have keeps (held : Bytes) : (Bytes.zeros held.length).length = held.length :=
        Bytes.length_zeros _
      exact ⟨_, _, _, rfl, rfl, safe.rewrite keeps number, backs.rewrite keeps safe number⟩

/-- Every run is answered alike in both tellings, and keeps the holdings safe and backed. -/
theorem Tenancy.Backs.run
    {start : Arena}
    {initial : Memory}
    {holdings : Holdings}
    {tenancy : Tenancy}
    {calls : List ArenaCall}
    (backs : tenancy.Backs start initial holdings)
    (safe : holdings.IsSafe start)
    (sized : ∀ call ∈ calls, call.IsSized) :
    ∃ answers after later,
      holdings.run calls = .ok (answers, after) ∧
        tenancy.run calls = .ok (answers, later) ∧
        after.IsSafe start ∧
        later.Backs start initial after := by
  induction calls generalizing holdings tenancy with
  | nil =>
      exact ⟨[], holdings, tenancy, rfl, rfl, safe, backs⟩
  | cons call rest inductionHypothesis =>
      obtain ⟨answer, next, tenancyNext, performed, performedToo, nextSafe, nextBacks⟩ :=
        backs.perform safe (sized call (by simp))
      obtain ⟨answers, after, later, ran, ranToo, afterSafe, laterBacks⟩ :=
        inductionHypothesis nextBacks nextSafe
          fun other member => sized other (List.mem_cons_of_mem call member)
      exact ⟨answer :: answers, after, later, ArenaCall.runAll_cons performed ran,
        ArenaCall.runAll_cons performedToo ranToo, afterSafe, laterBacks⟩

/-- A reservation that was made is safe and backed by any memory, for nothing is held yet. -/
theorem Tenancy.backs_of_ofSizes
    {base reserveBytes granuleBytes : Nat}
    {arena : Arena}
    (made : Arena.ofSizes base reserveBytes granuleBytes = .ok (.ok arena))
    (low : base + arena.reserved < 2 ^ 63)
    (memory : Memory) :
    Holdings.IsSafe arena { arena := arena, blocks := [] } ∧
      Tenancy.Backs arena memory { arena := arena, blocks := [] }
        { reservation := .ofArena arena memory, windows := [] } := by
  obtain ⟨_, _, _, _, uncommitted, _⟩ := Arena.of_ofSizes_eq_ok made
  refine ⟨⟨rfl, rfl, rfl, Arena.isInOrder_of_ofSizes made low, ?_, .nil⟩,
    ⟨rfl, rfl, ?_, ?_, fun _ _ => rfl⟩⟩
  · simp
  · simp
  · intro place behind before
    simp only [uncommitted] at behind before
    omega

/--
Whatever is asked of a reservation that was made in the lower half of all
addresses, and whatever the holders of its blocks write into them, in any order,
every call is answered. The answers are those that one memory gives, in which
the blocks are windows and granules are committed one by one: what a holder sees
is what it wrote. The counters are always in order, with just so many whole
granules committed as reach what was carved, or all that there is; the blocks
lie apart, inside what was carved. A next request is granted if and only if its
alignment is a power of two and the padding and the block fit what is left. The
block then has the size that was asked for, starts at a multiple of the
alignment and is all zero in memory; what was carved grows by the padding and
the block. A request that is refused changes nothing, so what comes later is
answered as if it had not been made.
-/
theorem arena_safe_over_runs
    {base reserveBytes granuleBytes : Nat}
    {arena : Arena}
    (made : Arena.ofSizes base reserveBytes granuleBytes = .ok (.ok arena))
    (low : base + arena.reserved < 2 ^ 63)
    (memory : Memory)
    (calls : List ArenaCall)
    (sized : ∀ call ∈ calls, call.IsSized) :
    ∃ answers holdings tenancy,
      Holdings.run { arena := arena, blocks := [] } calls = .ok (answers, holdings) ∧
        Tenancy.run { reservation := .ofArena arena memory, windows := [] } calls =
          .ok (answers, tenancy) ∧
        holdings.IsSafe arena ∧
        tenancy.Backs arena memory holdings ∧
        ∀ request : ArenaRequest,
          request.alignment < Size.limit →
          (holdings.arena.Admits request.size request.alignment →
            ∃ block after later,
              holdings.perform (.request request) = .ok (.granted block, after) ∧
                tenancy.perform (.request request) = .ok (.granted block, later) ∧
                block.length = request.size ∧
                request.alignment ∣ block.address ∧
                block.bytes = Bytes.zeros request.size ∧
                after.arena.used =
                  holdings.arena.used +
                    (holdings.arena.paddingTo request.alignment + request.size) ∧
                after.blocks = holdings.blocks ++ [block] ∧
                after.IsSafe arena ∧
                later.Backs arena memory after) ∧
            (¬holdings.arena.Admits request.size request.alignment →
              ∃ error,
                holdings.perform (.request request) = .ok (.refused error, holdings) ∧
                  tenancy.perform (.request request) = .ok (.refused error, tenancy) ∧
                  ∀ later laterAnswers last,
                    holdings.run later = .ok (laterAnswers, last) →
                    holdings.run (.request request :: later) =
                      .ok (.refused error :: laterAnswers, last)) := by
  obtain ⟨startSafe, startBacks⟩ := Tenancy.backs_of_ofSizes made low memory
  obtain ⟨answers, holdings, tenancy, ran, ranToo, safe, backs⟩ := startBacks.run startSafe sized
  refine ⟨answers, holdings, tenancy, ran, ranToo, safe, backs, ?_⟩
  intro request alignmentSized
  constructor
  · intro admits
    obtain ⟨exponent, isPower⟩ := admits.1
    have positive : 0 < request.alignment := by
      rw [isPower]
      exact Nat.two_pow_pos exponent
    obtain ⟨later, performed, performedToo, stillBacks⟩ :=
      backs.granted safe alignmentSized admits
    exact ⟨_, _, later, performed, performedToo, request.length_nextBlock holdings.arena,
      holdings.arena.dvd_paddingTo positive, rfl, rfl, rfl, safe.granted admits, stillBacks⟩
  · intro refuses
    obtain ⟨error, performed, performedToo⟩ := backs.refused safe alignmentSized refuses
    exact ⟨error, performed, performedToo,
      fun _ _ _ ranLater => ArenaCall.runAll_cons performed ranLater⟩

/-- Behind a block that its holder wrote into, the next words are zero, whatever memory held. -/
theorem next_block_zero_behind_overwritten :
    ∃ arena answers holdings tenancy block after later,
      Arena.ofSizes 4096 65536 4096 = .ok (.ok arena) ∧
        Holdings.run { arena := arena, blocks := [] }
            [.request (.block 10 1), .overwrite 0 4 [0xAB, 0xCD]] =
          .ok (answers, holdings) ∧
        Tenancy.run { reservation := .ofArena arena fun _ => 0xFF, windows := [] }
            [.request (.block 10 1), .overwrite 0 4 [0xAB, 0xCD]] =
          .ok (answers, tenancy) ∧
        holdings.perform (.request (.array 3 8 1)) = .ok (.granted block, after) ∧
        tenancy.perform (.request (.array 3 8 1)) = .ok (.granted block, later) ∧
        block.bytes = Bytes.zeros 24 ∧
        after.arena.used = 40 := by
  let arena : Arena :=
    { base := 4096, reserved := 65536, granule := 4096, committed := 0, used := 0 }
  let written : Holdings :=
    { arena := { arena with committed := 4096, used := 10 }
      blocks := [{ address := 4096, bytes := [0, 0, 0, 0, 0xAB, 0xCD, 0, 0, 0, 0] }] }
  have made : Arena.ofSizes 4096 65536 4096 = .ok (.ok arena) := by
    decide +kernel
  have computed :
      Holdings.run { arena := arena, blocks := [] }
          [.request (.block 10 1), .overwrite 0 4 [0xAB, 0xCD]] =
        .ok ([.granted { address := 4096, bytes := Bytes.zeros 10 }, .done], written) := by
    decide +kernel
  obtain ⟨answers, holdings, tenancy, ran, ranToo, _, _, next⟩ :=
    arena_safe_over_runs made (by decide) (fun _ => 0xFF)
      [.request (.block 10 1), .overwrite 0 4 [0xAB, 0xCD]]
      (by simp [ArenaCall.IsSized, ArenaRequest.alignment, Size.limit])
  have holdings_eq : holdings = written := by
    rw [computed] at ran
    cases ran
    rfl
  have cursor_eq : written.arena.base + written.arena.used = 4106 := rfl
  have padding_eq : holdings.arena.paddingTo 8 = 6 := by
    rw [holdings_eq, Arena.paddingTo, Nat.ceilDiv_eq_add_pred_div, cursor_eq]
  have admits : holdings.arena.Admits 24 8 := by
    refine ⟨⟨3, rfl⟩, ?_⟩
    rw [padding_eq, holdings_eq]
    decide
  obtain ⟨block, after, later, performed, performedToo, _, _, zero, used_eq, _⟩ :=
    (next (.array 3 8 1) (by decide)).1 admits
  refine ⟨arena, answers, holdings, tenancy, block, after, later, made, ran, ranToo, performed,
    performedToo, zero, ?_⟩
  have grown : after.arena.used = holdings.arena.used + (holdings.arena.paddingTo 8 + 24) :=
    used_eq
  rw [grown, padding_eq, holdings_eq]

end Gatehouse
