import Gatehouse.Configuration.Problem
import Gatehouse.Configuration.Size

namespace Gatehouse

/-!
# Validation

All objections to a configuration, in a fixed order. A configuration without
objections can be served; computing the objections can itself overflow, since it
includes the sizes that follow from the configuration.
-/

namespace LogLevel

def names : List String := ["error", "warn", "info", "debug", "trace"]

/-- A text with ASCII letters in lower case. -/
def lowercase (text : String) : List Char :=
  text.toList.map Char.toLower

/-- Whether a text is a level: a name in any case of letters, or a number from 1 to 5. -/
def isValid (text : String) : Bool :=
  let numbered := match Text.unsigned Size.limit text with
    | .ok number => decide (1 ≤ number ∧ number ≤ 5)
    | .error _ => false
  numbered || names.any fun name => name.toList = lowercase text

end LogLevel

/-- The problem if the condition holds. -/
def problemIf (condition : Bool) (problem : ConfigProblem) : List ConfigProblem :=
  if condition then [problem] else []

namespace ArenaSection

/-- Objections to the arena. -/
def problems (config : ArenaSection) : List ConfigProblem :=
  problemIf (config.reserveBytes = 0) .noReservation ++
    if config.granuleBytes = 0 then [.noGranule]
    else problemIf (config.reserveBytes < config.granuleBytes) .granuleTooLarge

end ArenaSection

/-- Objections to the number of connections of a service. -/
def ServiceName.slotProblems (service : ServiceName) (count : Nat) : List ConfigProblem :=
  if count = 0 then [.noConnections service]
  else problemIf (65535 < count) (.tooManyConnections service count)

/-- Objections to the read buffers of a service. -/
def ServiceName.readBufferProblems
    (service : ServiceName)
    (size handshake : Nat) :
    List ConfigProblem :=
  if size < handshake then [.readBufferTooSmall service size handshake]
  else problemIf (65535 < size) (.readBufferTooLarge service size)

namespace LoginSection

/-- Objections to the login service. -/
def problems (config : LoginSection) : List ConfigProblem :=
  ServiceName.login.slotProblems config.maxConnections ++
    ServiceName.login.readBufferProblems config.readBufferSize Protocol.loginHandshakeLength ++
    problemIf (config.idleTimeoutMs < 100) (.idleTimeoutTooShort .login) ++
    problemIf (config.gamePort = 0) .noGamePort

end LoginSection

namespace GameSection

/-- Objections to the outbound buffers. -/
def outputBufferProblems (config : GameSection) : List ConfigProblem :=
  if config.outputBufferSize < Protocol.minOutboundCapacity then
    [.outputBufferTooSmall config.outputBufferSize]
  else
    problemIf (65535 < config.outputBufferSize) (.outputBufferTooLarge config.outputBufferSize)

/-- Objections to the game service. -/
def problems (config : GameSection) : List ConfigProblem :=
  ServiceName.game.slotProblems config.maxConnections ++
    ServiceName.game.readBufferProblems config.readBufferSize Protocol.gameHandshakeLength ++
    problemIf (config.idleTimeoutMs < 100) (.idleTimeoutTooShort .game) ++
    config.outputBufferProblems ++
    problemIf (config.maxQueuedMessages = 0) .noQueue

end GameSection

namespace KeySection

/-- Whether a text is digits only, and at least one. -/
def isDecimal (text : String) : Bool :=
  !text.isEmpty && text.toList.all Char.isDigit

/-- Objections to the key. -/
def problems (config : KeySection) : List ConfigProblem :=
  problemIf (!isDecimal config.firstPrime) (.keyComponentNotDecimal "p") ++
    problemIf (!isDecimal config.secondPrime) (.keyComponentNotDecimal "q") ++
    problemIf (!isDecimal config.exponent) (.keyComponentNotDecimal "e")

end KeySection

namespace Account

/-- The texts that are limited in length. -/
def limitedTexts (account : Account) : List LimitedText :=
  .accountName account.name :: .password account.password ::
    account.characters.map .characterName

/-- Objections to the number of characters. -/
def characterProblems (account : Account) : List ConfigProblem :=
  if account.characters.isEmpty then [.noCharacters account.name]
  else problemIf (255 < account.characters.length) (.tooManyCharacters account.name)

/-- Objections to an account on its own. -/
def problems (account : Account) : List ConfigProblem :=
  problemIf account.name.isEmpty .noAccountName ++
    (account.limitedTexts.filter fun text => Credential.maxLength < text.value.utf8ByteSize).map
      .textTooLong ++
    account.characterProblems

end Account

namespace Configuration

/-- Objections to the tick interval. -/
def tickProblems (config : Configuration) : List ConfigProblem :=
  if config.tickIntervalMs = 0 then [.noTickInterval]
  else problemIf (1000 < config.tickIntervalMs) (.tickIntervalTooLong config.tickIntervalMs)

/-- Objections to the accounts, given those that came before them. -/
def accountProblems
    (config : Configuration)
    (earlier : List Account) :
    List Account → Checked (List ConfigProblem)
  | [] => .ok []
  | account :: rest => do
      let reply ← config.loginReplyLength account
      let isDuplicate := earlier.any fun other => other.name = account.name
      let later ← config.accountProblems (earlier ++ [account]) rest
      return account.problems ++
        problemIf isDuplicate (.duplicateAccount account.name) ++
        problemIf (Protocol.loginReplyCapacity < reply) (.characterListTooLarge account.name reply) ++
        later

/-- Objections to the size of the reservation. -/
def reservationProblems (config : Configuration) : Checked (List ConfigProblem) := do
  let needed ← config.carvedBytes
  return problemIf (config.arena.reserveBytes < needed)
    (.reservationTooSmall config.arena.reserveBytes needed)

/-- All objections to a configuration. -/
def problems (config : Configuration) : Checked (List ConfigProblem) := do
  let ofAccounts ← config.accountProblems [] config.accounts
  let ofReservation ← config.reservationProblems
  return problemIf (!LogLevel.isValid config.logLevel) (.invalidLogLevel config.logLevel) ++
    config.tickProblems ++
    config.arena.problems ++
    config.login.problems ++
    config.game.problems ++
    (config.key?.elim [] KeySection.problems) ++
    problemIf config.accounts.isEmpty .noAccounts ++
    ofAccounts ++
    ofReservation

/-- Accept a configuration without objections. -/
def validated (config : Configuration) : Checked (Except LoadError Configuration) := do
  let problems ← config.problems
  return if problems.isEmpty then .ok config else .error (.invalid problems)

end Configuration

end Gatehouse
