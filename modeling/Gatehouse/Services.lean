import Gatehouse.Configuration.Validation
import Gatehouse.KeyPair.Basic
import Gatehouse.Transport.Switchboard
import Gatehouse.Session.Game.Service
import Gatehouse.Session.Login
import Gatehouse.Ticker

namespace Gatehouse

/-!
# Both services

The login and the game service behind their switchboards, and the ticker that
paces them. They share one arena and one key. In every tick the login service
has its pass before the game service.
-/

/-- Why the services cannot start. -/
inductive StartupError where
  | config (error : LoadError)
  | arena (error : ArenaError)
  | key (error : KeyError)
  | network (error : NetworkFailure)

/-- The message for the operator. -/
def StartupError.message : StartupError → String
  | .config error => error.message
  | .arena error => "arena: " ++ error.message
  | .key error => "rsa key: " ++ error.message
  | .network error => error.message

/-- Both services. -/
structure Services where
  login : Switchboard LoginService
  game : Switchboard GameService
  ticker : Ticker

/-- What a pass of both services finds. -/
structure ServicesInput where
  login : PassInput
  game : PassInput

/-- Both services after a pass: how it went, and the connections that ended in it. -/
structure AfterServicesPass where
  outcome : Except NetworkFailure Unit
  loginDepartures : List Departure
  gameDepartures : List Departure
  services : Services

namespace Configuration

/-- The key that the services use. -/
def keyPair (config : Configuration) : Except KeyError KeyPair :=
  match config.key? with
  | none => KeyPair.standard
  | some key => KeyPair.ofDecimal key.firstPrime key.secondPrime key.exponent

/-- Time between ticks, in nanoseconds. -/
def tickLength (config : Configuration) : Nat :=
  Nanoseconds.ofMilliseconds config.tickIntervalMs

end Configuration

namespace Services

/-- Where the arena starts. -/
def arenaBase : Nat := 0

/-- Listen with both services, which carve their buffers from an arena. -/
def listen
    (host : Host)
    (now : Nat)
    (config : Configuration)
    (arena : Arena)
    (key : KeyPair) :
    Checked (Except StartupError Services) := do
  let (loginService, arena) ← LoginService.ofArena arena key config
  match ← Switchboard.listen host config.loginSettings arena now fun _ => loginService with
  | .error error => return .error (.network error)
  | .ok (login, arena, host) =>
      let gameService ← GameService.ofArena arena key config
      match ← Switchboard.listen host config.gameSettings arena now gameService.onArena with
      | .error error => return .error (.network error)
      | .ok (game, _, _) =>
          return .ok {
            login := login
            game := game
            ticker := Ticker.ofInterval config.tickLength now
          }

/-- Start the services of a configuration. -/
def start
    (host : Host)
    (now : Nat)
    (config : Configuration) :
    Checked (Except StartupError Services) := do
  match ← Arena.ofSizes arenaBase config.arena.reserveBytes config.arena.granuleBytes with
  | .error error => return .error (.arena error)
  | .ok arena =>
      match config.keyPair with
      | .error error => return .error (.key error)
      | .ok key => listen host now config arena key

/-- One pass of the login service, and one of the game service unless the first failed. -/
def pass (services : Services) (input : ServicesInput) : Checked AfterServicesPass := do
  let login ← services.login.pass LoginService.protocol input.login
  let services := { services with login := login.switchboard }
  match login.outcome with
  | .error error =>
      return {
        outcome := .error error
        loginDepartures := login.departures
        gameDepartures := []
        services := services
      }
  | .ok () =>
      let game ← services.game.pass GameService.protocol input.game
      return {
        outcome := game.outcome
        loginDepartures := login.departures
        gameDepartures := game.departures
        services := { services with game := game.switchboard }
      }

end Services

end Gatehouse
