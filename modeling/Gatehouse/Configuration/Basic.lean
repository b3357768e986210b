import Gatehouse.FixedText
import Gatehouse.Net.SocketAddress
import Gatehouse.Protocol

namespace Gatehouse

/-!
# Configuration

What the two services are configured with. Every field has a default, and the
defaults together are a working configuration with one account. The accounts
form the account book: the first account of a name is the one that counts.
-/

/-- The arena that all buffers are carved from. -/
structure ArenaSection where
  reserveBytes : Nat := 67108864
  granuleBytes : Nat := 1048576
deriving DecidableEq, Repr

/-- The login service. -/
structure LoginSection where
  bind : SocketAddress :=
    .overIPv4 { octet0 := 0, octet1 := 0, octet2 := 0, octet3 := 0 } Protocol.loginPort
  maxConnections : Nat := 10
  readBufferSize : Nat := 256
  idleTimeoutMs : Nat := 30000
  motd : String := "1\nWelcome to Ashgate!"
  worldName : String := "Ashgate"
  gameHost : IPv4 := { octet0 := 127, octet1 := 0, octet2 := 0, octet3 := 1 }
  gamePort : UInt16 := Protocol.gamePort
deriving DecidableEq, Repr

/-- The game service. -/
structure GameSection where
  bind : SocketAddress :=
    .overIPv4 { octet0 := 0, octet1 := 0, octet2 := 0, octet3 := 0 } Protocol.gamePort
  maxConnections : Nat := 100
  readBufferSize : Nat := 2048
  idleTimeoutMs : Nat := 60000
  outputBufferSize : Nat := 16384
  maxQueuedMessages : Nat := 8
deriving DecidableEq, Repr

/-- A key to use in place of the built-in one, in written components. -/
structure KeySection where
  firstPrime : String
  secondPrime : String
  exponent : String := "65537"
deriving DecidableEq, Repr

/-- An account; an empty password accepts any password. -/
structure Account where
  name : String := "account"
  password : String := ""
  premiumDays : UInt16 := 1
  characters : List String := ["Player"]
deriving DecidableEq, Repr

/-- The whole configuration. -/
structure Configuration where
  logLevel : String := "info"
  tickIntervalMs : Nat := Protocol.tickIntervalMs
  arena : ArenaSection := {}
  login : LoginSection := {}
  game : GameSection := {}
  key? : Option KeySection := none
  accounts : List Account := [{}]
deriving DecidableEq, Repr

namespace Account

/-- Whether a presented password opens the account. -/
def isOpenedBy (account : Account) (password : String) : Bool :=
  account.password.isEmpty || account.password = password

def owns (account : Account) (character : String) : Bool :=
  account.characters.contains character

end Account

namespace Configuration

def account? (config : Configuration) (name : String) : Option Account :=
  config.accounts.find? fun account => account.name = name

end Configuration

end Gatehouse
