import Gatehouse.Configuration.Problem
import Gatehouse.Nanoseconds

namespace Gatehouse

/-!
# Switchboard settings

The part of a configuration that the transport of a service needs.
-/

/-- What a switchboard is set to. -/
structure SwitchboardSettings where
  service : ServiceName
  bind : SocketAddress
  /-- Connections at one time. -/
  capacity : Nat
  readBufferSize : Nat
  idleTimeoutMs : Nat
deriving DecidableEq, Repr

namespace SwitchboardSettings

/-- How long nothing may move, in nanoseconds. -/
def idleLimit (settings : SwitchboardSettings) : Nat :=
  Nanoseconds.ofMilliseconds settings.idleTimeoutMs

end SwitchboardSettings

namespace Configuration

/-- The settings of the login service. -/
def loginSettings (config : Configuration) : SwitchboardSettings where
  service := .login
  bind := config.login.bind
  capacity := config.login.maxConnections
  readBufferSize := config.login.readBufferSize
  idleTimeoutMs := config.login.idleTimeoutMs

/-- The settings of the game service. -/
def gameSettings (config : Configuration) : SwitchboardSettings where
  service := .game
  bind := config.game.bind
  capacity := config.game.maxConnections
  readBufferSize := config.game.readBufferSize
  idleTimeoutMs := config.game.idleTimeoutMs

end Configuration

end Gatehouse
