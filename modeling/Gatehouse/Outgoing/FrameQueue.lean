import Gatehouse.Storage.BlockPool
import Gatehouse.Outgoing.FrameDraft

namespace Gatehouse

/-!
# The frame queue

The drafts of one session that wait for the socket, oldest first and never
more than a limit. A packet goes into the newest draft as long as there is
room; every block goes back to the pool wiped.
-/

/-- Waiting drafts, oldest first. -/
structure FrameQueue where
  drafts : List FrameDraft
  limit : Nat
deriving DecidableEq, Repr

namespace FrameQueue

/-- A queue without drafts, which has its table of drafts set aside at once. -/
def ofLimit (limit : Nat) : Checked FrameQueue := do
  Size.checkTable limit FrameDraft.footprint
  return { drafts := [], limit := limit }

/-- Drafts waiting. -/
def length (queue : FrameQueue) : Nat :=
  queue.drafts.length

/-- Whether no draft waits. -/
def isEmpty (queue : FrameQueue) : Bool :=
  queue.drafts.isEmpty

/-- Whether the newest draft takes `size` more bytes; none does when `size` is zero. -/
def newestTakes (queue : FrameQueue) (size : Nat) : Checked Bool :=
  match queue.drafts.getLast? with
  | none => .ok false
  | some newest => if size = 0 then .ok false else newest.takes size

/--
Make sure that the newest draft takes `size` bytes, with a new draft if need
be; a `size` of zero always starts a new draft. Answers nothing if the queue
is full.
-/
def ensureRoom
    (queue : FrameQueue)
    (pool : BlockPool)
    (size : Nat) :
    Checked (Option (FrameQueue × BlockPool)) := do
  if ← queue.newestTakes size then
    return some (queue, pool)
  if queue.limit ≤ queue.length then
    return none
  let (block, pool) ← pool.acquire
  return some ({ queue with drafts := queue.drafts ++ [.ofBlock block] }, pool)

/-- Apply a change to the last of some drafts. -/
def changeLast (change : FrameDraft → FrameDraft) :
    List FrameDraft → List FrameDraft
  | [] => []
  | [draft] => [change draft]
  | draft :: rest => draft :: changeLast change rest

/-- Collect a packet in the newest draft. -/
def append (queue : FrameQueue) (packet : Packet) : FrameQueue :=
  { queue with drafts := changeLast (·.append packet) queue.drafts }

/-- Take the oldest draft. -/
def pop? (queue : FrameQueue) : Option (FrameDraft × FrameQueue) :=
  match queue.drafts with
  | [] => none
  | oldest :: rest => some (oldest, { queue with drafts := rest })

/-- Give every block back, the oldest draft's first. -/
def giveBack (queue : FrameQueue) (pool : BlockPool) : FrameQueue × BlockPool :=
  ({ queue with drafts := [] },
    queue.drafts.foldl (fun pool draft => pool.release draft.reclaimed) pool)

end FrameQueue

end Gatehouse
