import Gatehouse.Bytes
import Gatehouse.Net.SocketAddress

namespace Gatehouse

/-!
# Connection protocols

What the transport knows of a service: it is told of connections that come and
go and of whole messages, and is asked for output. Connections are known by the
index of their slot. The service stages the bytes of its output itself;
`produce` answers how many there are, and `staged` shows them.
-/

/-- Whether a connection goes on. -/
inductive Disposition where
  | isOpen
  | closing
deriving DecidableEq, Repr

/-- The operations of a protocol on its state. -/
structure ConnectionProtocol (σ : Type) where
  /-- A connection was bound to a slot. -/
  accept : σ → Nat → SocketAddress → Checked σ
  /-- The connection of a slot is gone. -/
  drop : σ → Nat → Checked σ
  /-- A message came; answers the message as the service leaves it. -/
  read : σ → Nat → Bytes → Checked (Bytes × σ)
  /-- Stage the next output; zero bytes if there is none. -/
  produce : σ → Nat → Checked (Nat × σ)
  /-- The staged output. -/
  staged : σ → Nat → Checked Bytes
  /-- Whether the connection goes on. -/
  status : σ → Nat → Checked Disposition

/-- The item at an index, which has to lie in the table. -/
def Checked.lookUp (table : List α) (index : Nat) : Checked α :=
  match table[index]? with
  | some item => .ok item
  | none => .error .outOfRange

end Gatehouse
