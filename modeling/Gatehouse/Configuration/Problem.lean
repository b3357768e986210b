import Gatehouse.Configuration.Basic
import Gatehouse.Text.Unsigned

namespace Gatehouse

/-!
# Configuration problems

Everything that validation can object to, and the wording of each objection.
-/

/-- One of the two services. -/
inductive ServiceName where
  | login
  | game
deriving DecidableEq, Repr

/-- The service at the front of a sentence. -/
def ServiceName.title : ServiceName → String
  | .login => "Login"
  | .game => "Game"

/-- The service in a list of settings. -/
def ServiceName.label : ServiceName → String
  | .login => "login"
  | .game => "game"

/-- A text of an account that is limited in length. -/
inductive LimitedText where
  | accountName (value : String)
  | password (value : String)
  | characterName (value : String)
deriving DecidableEq, Repr

namespace LimitedText

/-- The text itself. -/
def value : LimitedText → String
  | .accountName value => value
  | .password value => value
  | .characterName value => value

def title : LimitedText → String
  | .accountName _ => "Account name"
  | .password _ => "Password"
  | .characterName _ => "Character name"

/-- The text as a message may show it. -/
def shown : LimitedText → String
  | .password _ => "***"
  | text => text.value

end LimitedText

/-- An objection to a configuration. -/
inductive ConfigProblem where
  | invalidLogLevel (level : String)
  | noTickInterval
  | tickIntervalTooLong (milliseconds : Nat)
  | noReservation
  | noGranule
  | granuleTooLarge
  | noConnections (service : ServiceName)
  | tooManyConnections (service : ServiceName) (count : Nat)
  | readBufferTooSmall (service : ServiceName) (size handshake : Nat)
  | readBufferTooLarge (service : ServiceName) (size : Nat)
  | idleTimeoutTooShort (service : ServiceName)
  | noGamePort
  | outputBufferTooSmall (size : Nat)
  | outputBufferTooLarge (size : Nat)
  | noQueue
  | keyComponentNotDecimal (component : String)
  | noAccounts
  | noAccountName
  | textTooLong (text : LimitedText)
  | noCharacters (account : String)
  | tooManyCharacters (account : String)
  | duplicateAccount (account : String)
  | characterListTooLarge (account : String) (size : Nat)
  | reservationTooSmall (reserved needed : Nat)
deriving DecidableEq, Repr

/-- The wording of an objection. -/
def ConfigProblem.message : ConfigProblem → String
  | .invalidLogLevel level =>
      s!"Invalid log level: '{level}' (expected trace, debug, info, warn or error)"
  | .noTickInterval => "Tick interval must be greater than 0"
  | .tickIntervalTooLong milliseconds =>
      s!"Tick interval too long: {milliseconds}ms (maximum: 1000ms)"
  | .noReservation => "Arena reservation must be greater than 0"
  | .noGranule => "Arena granule must be greater than 0"
  | .granuleTooLarge => "Arena granule cannot exceed the reservation"
  | .noConnections service => service.title ++ " max connections must be greater than 0"
  | .tooManyConnections service count =>
      service.title ++ s!" max connections too high: {count} (maximum: 65535)"
  | .readBufferTooSmall service size handshake =>
      service.title ++ s!" read buffer too small: {size} (must hold the {handshake}-byte handshake)"
  | .readBufferTooLarge service size =>
      service.title ++ s!" read buffer too large: {size} (maximum: 65535)"
  | .idleTimeoutTooShort service => service.title ++ " idle timeout too short (minimum: 100ms)"
  | .noGamePort => "Advertised game port cannot be 0"
  | .outputBufferTooSmall size => s!"Game output buffer too small: {size} (minimum: 13312)"
  | .outputBufferTooLarge size => s!"Game output buffer too large: {size} (maximum: 65535)"
  | .noQueue => "Game outbound queue must hold at least one message"
  | .keyComponentNotDecimal component => s!"RSA component '{component}' must be a decimal integer"
  | .noAccounts => "At least one account must be configured"
  | .noAccountName => "Account name cannot be empty"
  | .textTooLong text =>
      text.title ++ " '" ++ text.shown ++ "' too long (maximum: 31 bytes)"
  | .noCharacters account => s!"Account '{account}' has no characters"
  | .tooManyCharacters account => s!"Account '{account}' has too many characters"
  | .duplicateAccount account => s!"Duplicate account name: '{account}'"
  | .characterListTooLarge account size =>
      s!"Character list for account '{account}' too large: {size} bytes (maximum: 512)"
  | .reservationTooSmall reserved needed =>
      s!"Arena reservation too small: {reserved} bytes, services need up to {needed} bytes"

/-- Why there is no valid configuration. -/
inductive LoadError where
  /-- The file cannot be read. -/
  | unreadable (path reason : String)
  /-- The text is not a configuration. -/
  | unparsable (reason : String)
  /-- Validation objects. -/
  | invalid (problems : List ConfigProblem)
deriving DecidableEq, Repr

/-- The message for the operator. -/
def LoadError.message : LoadError → String
  | .unreadable path reason => s!"failed to read config file {path}: {reason}"
  | .unparsable reason => s!"failed to parse config: {reason}"
  | .invalid problems =>
      "configuration validation failed:\n  - " ++
        "\n  - ".intercalate (problems.map ConfigProblem.message)

end Gatehouse
