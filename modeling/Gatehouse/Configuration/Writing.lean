import Gatehouse.Configuration.Basic
import Gatehouse.Toml.Value

namespace Gatehouse

/-!
# Writing a configuration

A configuration as the document that says the same. Every field is written,
except the key when the built-in one is used.
-/

namespace Toml.Value

/-- A table with a header of its own. -/
def ofEntries (entries : Entries) : Value :=
  .table .header entries

/-- A natural number. -/
def ofNat (value : Nat) : Value :=
  .integer value

end Toml.Value

namespace ArenaSection

/-- The table of the arena. -/
def toDocument (config : ArenaSection) : Toml.Value :=
  .ofEntries [
    ("reserve_bytes", .ofNat config.reserveBytes),
    ("granule_bytes", .ofNat config.granuleBytes)]

end ArenaSection

namespace LoginSection

/-- The table of the login service. -/
def toDocument (config : LoginSection) : Toml.Value :=
  .ofEntries [
    ("bind", .string config.bind.render),
    ("max_connections", .ofNat config.maxConnections),
    ("read_buffer_size", .ofNat config.readBufferSize),
    ("idle_timeout_ms", .ofNat config.idleTimeoutMs),
    ("motd", .string config.motd),
    ("world_name", .string config.worldName),
    ("game_host", .string config.gameHost.render),
    ("game_port", .ofNat config.gamePort.toNat)]

end LoginSection

namespace GameSection

/-- The table of the game service. -/
def toDocument (config : GameSection) : Toml.Value :=
  .ofEntries [
    ("bind", .string config.bind.render),
    ("max_connections", .ofNat config.maxConnections),
    ("read_buffer_size", .ofNat config.readBufferSize),
    ("idle_timeout_ms", .ofNat config.idleTimeoutMs),
    ("output_buffer_size", .ofNat config.outputBufferSize),
    ("max_queued_messages", .ofNat config.maxQueuedMessages)]

end GameSection

namespace KeySection

/-- The table of the key. -/
def toDocument (config : KeySection) : Toml.Value :=
  .ofEntries [
    ("p", .string config.firstPrime),
    ("q", .string config.secondPrime),
    ("e", .string config.exponent)]

end KeySection

namespace Account

/-- The table of an account. -/
def toDocument (account : Account) : Toml.Value :=
  .ofEntries [
    ("name", .string account.name),
    ("password", .string account.password),
    ("premium_days", .ofNat account.premiumDays.toNat),
    ("characters", .array (account.characters.map .string))]

end Account

namespace Configuration

/-- The document of a whole configuration. -/
def toDocument (config : Configuration) : Toml.Value :=
  let key := config.key?.toList.map fun key => ("rsa", key.toDocument)
  .ofEntries ([
    ("log_level", .string config.logLevel),
    ("tick_interval_ms", .ofNat config.tickIntervalMs),
    ("arena", config.arena.toDocument),
    ("login", config.login.toDocument),
    ("game", config.game.toDocument),
    ("accounts", .tables (config.accounts.map Account.toDocument))] ++ key)

end Configuration

end Gatehouse
