import Gatehouse.Configuration.Basic
import Gatehouse.Toml.Document

namespace Gatehouse

/-!
# Reading configurations

A configuration from a TOML document. Keys that are missing keep their defaults,
and keys that are not known are passed over. In place of a table there may be an
array, whose items are the values of the keys in the order of the fields, or a
moment, which has no keys.
-/

namespace Configuration.Reading

/-- What a record of named values can be read from. -/
structure Record where
  get? : String → Option Toml.Value

/-- The record in a value, given the names of its fields in order. -/
def Record.ofValue? (names : List String) : Toml.Value → Option Record
  | .table _ entries => some { get? := Toml.Entries.get? entries }
  | .array items | .tables items =>
      some { get? := fun name => do items[← names.idxOf? name]? }
  | .moment _ => some { get? := fun _ => none }
  | _ => none

/-- Read a field, or take its default if it is missing. -/
def Record.fieldOr
    (record : Record)
    (name : String)
    (read? : Toml.Value → Option α)
    (default : α) :
    Option α :=
  match record.get? name with
  | none => some default
  | some value => read? value

def text? : Toml.Value → Option String
  | .string value => some value
  | _ => none

/-- A natural number below a limit. -/
def naturalBelow? (limit : Nat) : Toml.Value → Option Nat
  | .integer value => if 0 ≤ value ∧ value < limit then some value.toNat else none
  | _ => none

/-- A 64-bit number. -/
def size? : Toml.Value → Option Nat :=
  naturalBelow? Size.limit

/-- A 16-bit number. -/
def uint16? (value : Toml.Value) : Option UInt16 :=
  (naturalBelow? 65536 value).map UInt16.ofNat

/-- A list of values that are each read in the same way. -/
def list? (read? : Toml.Value → Option α) : Toml.Value → Option (List α)
  | .array items | .tables items => items.mapM read?
  | _ => none

def socketAddress? (value : Toml.Value) : Option SocketAddress := do
  SocketAddress.ofText? (← text? value)

/-- An IPv4 address. -/
def ipv4? (value : Toml.Value) : Option IPv4 := do
  IPv4.ofText? (← text? value)

def arena? (value : Toml.Value) : Option ArenaSection := do
  let default : ArenaSection := {}
  let record ← Record.ofValue? ["reserve_bytes", "granule_bytes"] value
  return {
    reserveBytes := ← record.fieldOr "reserve_bytes" size? default.reserveBytes
    granuleBytes := ← record.fieldOr "granule_bytes" size? default.granuleBytes
  }

/-- The fields of the login service. -/
def loginFields : List String :=
  ["bind", "max_connections", "read_buffer_size", "idle_timeout_ms", "motd", "world_name",
    "game_host", "game_port"]

/-- The login service. -/
def login? (value : Toml.Value) : Option LoginSection := do
  let default : LoginSection := {}
  let record ← Record.ofValue? loginFields value
  return {
    bind := ← record.fieldOr "bind" socketAddress? default.bind
    maxConnections := ← record.fieldOr "max_connections" size? default.maxConnections
    readBufferSize := ← record.fieldOr "read_buffer_size" size? default.readBufferSize
    idleTimeoutMs := ← record.fieldOr "idle_timeout_ms" size? default.idleTimeoutMs
    motd := ← record.fieldOr "motd" text? default.motd
    worldName := ← record.fieldOr "world_name" text? default.worldName
    gameHost := ← record.fieldOr "game_host" ipv4? default.gameHost
    gamePort := ← record.fieldOr "game_port" uint16? default.gamePort
  }

/-- The fields of the game service. -/
def gameFields : List String :=
  ["bind", "max_connections", "read_buffer_size", "idle_timeout_ms", "output_buffer_size",
    "max_queued_messages"]

/-- The game service. -/
def game? (value : Toml.Value) : Option GameSection := do
  let default : GameSection := {}
  let record ← Record.ofValue? gameFields value
  return {
    bind := ← record.fieldOr "bind" socketAddress? default.bind
    maxConnections := ← record.fieldOr "max_connections" size? default.maxConnections
    readBufferSize := ← record.fieldOr "read_buffer_size" size? default.readBufferSize
    idleTimeoutMs := ← record.fieldOr "idle_timeout_ms" size? default.idleTimeoutMs
    outputBufferSize := ← record.fieldOr "output_buffer_size" size? default.outputBufferSize
    maxQueuedMessages := ← record.fieldOr "max_queued_messages" size? default.maxQueuedMessages
  }

/-- The key; its primes have no defaults. -/
def key? (value : Toml.Value) : Option KeySection := do
  let record ← Record.ofValue? ["p", "q", "e"] value
  return {
    firstPrime := ← text? (← record.get? "p")
    secondPrime := ← text? (← record.get? "q")
    exponent := ← record.fieldOr "e" text? "65537"
  }

def account? (value : Toml.Value) : Option Account := do
  let default : Account := {}
  let record ← Record.ofValue? ["name", "password", "premium_days", "characters"] value
  return {
    name := ← record.fieldOr "name" text? default.name
    password := ← record.fieldOr "password" text? default.password
    premiumDays := ← record.fieldOr "premium_days" uint16? default.premiumDays
    characters := ← record.fieldOr "characters" (list? text?) default.characters
  }

/-- The fields of a configuration. -/
def configurationFields : List String :=
  ["log_level", "tick_interval_ms", "arena", "login", "game", "rsa", "accounts"]

/-- The whole configuration. -/
def configuration? (value : Toml.Value) : Option Configuration := do
  let default : Configuration := {}
  let record ← Record.ofValue? configurationFields value
  return {
    logLevel := ← record.fieldOr "log_level" text? default.logLevel
    tickIntervalMs := ← record.fieldOr "tick_interval_ms" size? default.tickIntervalMs
    arena := ← record.fieldOr "arena" arena? default.arena
    login := ← record.fieldOr "login" login? default.login
    game := ← record.fieldOr "game" game? default.game
    key? := ← record.fieldOr "rsa" (fun value => (key? value).map some) none
    accounts := ← record.fieldOr "accounts" (list? account?) default.accounts
  }

end Configuration.Reading

namespace Configuration

/-- The configuration that a document says. -/
def ofDocument? (document : Toml.Value) : Option Configuration :=
  Reading.configuration? document

/-- The configuration in a TOML text. -/
def ofToml? (text : String) : Option Configuration := do
  ofDocument? (← Toml.document? text)

end Configuration

end Gatehouse
