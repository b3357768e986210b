import Gatehouse.Proofs.Configuration.Accepted
import Gatehouse.Proofs.Configuration.Totality
import Gatehouse.Proofs.Storage.Carving

namespace Gatehouse.Configuration

/-!
# What the services carve

The services carve their buffers one after another: the replies and read
buffers of the login service, the read buffers of the game service, and on
demand its outbound buffers. Every block starts at a word, so a block takes
whole words unless it is the last one. The size that validation compares with
the reservation counts plain bytes and leaves the padding out.
-/

/-- The largest number of outbound buffers that are held at once. -/
def outboundCount (config : Configuration) : Nat :=
  config.game.maxConnections * (config.game.maxQueuedMessages + 1)

/-- The runs of blocks that are carved when the services start. -/
def fixedRuns (config : Configuration) : List (Nat × Nat) :=
  [(Protocol.loginReplyCapacity, config.login.maxConnections),
    (config.login.readBufferSize, config.login.maxConnections),
    (config.game.readBufferSize, config.game.maxConnections)]

/-- The run of outbound buffers, with every one that can be held at once. -/
def outboundRun (config : Configuration) : Nat × Nat :=
  (config.game.outputBufferSize, config.outboundCount)

/-- Carve everything that the services may carve. -/
def carveAll (config : Configuration) (arena : Arena) : Checked Arena :=
  arena.carveRuns (config.fixedRuns ++ [config.outboundRun])

/-- Bytes carved when the login service starts. -/
def loginBytes (config : Configuration) : Nat :=
  Arena.cursorAfter config.login.readBufferSize config.login.maxConnections
    (Arena.cursorAfter Protocol.loginReplyCapacity config.login.maxConnections 0)

/-- Bytes carved when the services start. -/
def fixedBytes (config : Configuration) : Nat :=
  Arena.cursorAfterRuns config.fixedRuns 0

/-- Bytes that everything takes: whole words, except for the last block. -/
def paddedBytes (config : Configuration) : Nat :=
  config.login.maxConnections * Arena.wordUp Protocol.loginReplyCapacity +
    config.login.maxConnections * Arena.wordUp config.login.readBufferSize +
    config.game.maxConnections * Arena.wordUp config.game.readBufferSize +
    (config.outboundCount - 1) * Arena.wordUp config.game.outputBufferSize +
    config.game.outputBufferSize

/-- A reservation of the default size. -/
def defaultArena : Arena where
  base := 4096
  reserved := 67108864
  granule := 1048576
  committed := 0
  used := 0

theorem isPlaced_defaultArena : defaultArena.IsPlaced :=
  ⟨by decide, by decide, by decide⟩

theorem loginBytes_le (config : Configuration) : config.loginBytes ≤ config.fixedBytes :=
  Arena.le_cursorAfter _ _ _

namespace Accepted

variable {config : Configuration} (accepted : config.Accepted)

include accepted

theorem outboundCount_pos : 0 < config.outboundCount :=
  Nat.mul_pos accepted.game_slots_pos (Nat.succ_pos _)

/-- Where the last of the outbound buffers ends. -/
theorem cursorAfter_fixedBytes :
    Arena.cursorAfter config.game.outputBufferSize config.outboundCount config.fixedBytes =
      config.paddedBytes := by
  obtain ⟨before, count⟩ := Nat.exists_eq_add_one.mpr accepted.outboundCount_pos
  rw [paddedBytes, count, Arena.cursorAfter_succ, Nat.add_sub_cancel]
  simp only [fixedBytes, fixedRuns, Arena.cursorAfterRuns, Arena.wordUp_cursorAfter]
  simp [Arena.wordUp]

/-- The first outbound buffer starts before the last one ends. -/
theorem fixedBytes_le : config.fixedBytes ≤ config.paddedBytes := by
  rw [← accepted.cursorAfter_fixedBytes]
  exact Arena.le_cursorAfter _ _ _

/-- Everything is carved from an untouched reservation that holds it with its padding. -/
theorem carveAll_of_fits
    {arena : Arena}
    (placed : arena.IsPlaced)
    (untouched : arena.used = 0)
    (fits : config.paddedBytes ≤ arena.reserved) :
    ∃ after, config.carveAll arena = .ok after := by
  have ends :
      Arena.cursorAfterRuns (config.fixedRuns ++ [config.outboundRun]) arena.used ≤
        arena.reserved := by
    rw [untouched]
    exact Nat.le_trans (Nat.le_of_eq accepted.cursorAfter_fixedBytes) fits
  obtain ⟨after, carved, _⟩ := Arena.carveRuns_of_fits placed ends
  exact ⟨after, carved⟩

theorem carveAll_of_exceeds
    {arena : Arena}
    (placed : arena.IsPlaced)
    (untouched : arena.used = 0)
    (exceeds : arena.reserved < config.paddedBytes) :
    config.carveAll arena = .error .exhausted := by
  apply Arena.carveRuns_of_exceeds placed
  rw [untouched]
  exact Nat.lt_of_lt_of_eq exceeds accepted.cursorAfter_fixedBytes.symm

/-- Blocks that are whole words take no padding, and then the validated size is enough. -/
theorem paddedBytes_le_of_words
    (loginReads : config.login.readBufferSize % 8 = 0)
    (gameReads : config.game.readBufferSize % 8 = 0)
    (outbound : config.game.outputBufferSize % 8 = 0) :
    config.paddedBytes ≤ config.arena.reserveBytes := by
  have whole (size : Nat) (aligned : size % 8 = 0) : Arena.wordUp size = size := by
    simp only [Arena.wordUp]
    omega
  obtain ⟨needed, computed, fits⟩ := accepted.carved_fits
  obtain ⟨before, count⟩ := Nat.exists_eq_add_one.mpr accepted.outboundCount_pos
  obtain ⟨_, rfl⟩ := carvedBytes_eq_ok.mp computed
  refine Nat.le_trans (Nat.le_of_eq ?_) fits
  have outboundTotal :
      (config.outboundCount - 1) * config.game.outputBufferSize + config.game.outputBufferSize =
        config.outboundCount * config.game.outputBufferSize := by
    rw [count, Nat.add_sub_cancel, Nat.succ_mul]
  simp only [neededBytes, paddedBytes, whole _ loginReads, whole _ gameReads, whole _ outbound,
    whole Protocol.loginReplyCapacity rfl]
  rw [Nat.add_assoc _ ((config.outboundCount - 1) * _), outboundTotal, outboundCount,
    Nat.add_comm (config.login.maxConnections * _), ← Nat.mul_add]

end Accepted

end Gatehouse.Configuration
