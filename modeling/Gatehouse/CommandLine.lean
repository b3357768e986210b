import Gatehouse.Configuration.Reading
import Gatehouse.Services

namespace Gatehouse

/-!
# The command line

What the arguments ask for, and what the program prints when it does not get to
serve. Arguments are read from left to right; the first fault counts, and a
request for help counts at once. All files that the program reads are read
through a function, so that nothing here touches a file system.
-/

/-- What is wrong with the arguments. -/
inductive UsageError where
  | noPath
  | noDuration
  | invalidDuration (error : Text.UnsignedError)
  | unknownArgument (argument : String)
deriving DecidableEq, Repr

/-- The message for the caller. -/
def UsageError.message : UsageError → String
  | .noPath => "--config needs a path"
  | .noDuration => "--duration needs a number of seconds"
  | .invalidDuration error => "--duration: " ++ error.message
  | .unknownArgument argument => "unknown argument: " ++ argument

/-- How to run. -/
structure RunOptions where
  /-- The configuration file; without one the defaults apply. -/
  configPath? : Option String := none
  /-- Seconds after which to stop. -/
  duration? : Option Nat := none
deriving DecidableEq, Repr

/-- What the arguments ask for. -/
inductive Command where
  | help
  | run (options : RunOptions)
deriving DecidableEq, Repr

namespace Command

/-- Read arguments onto the options read so far. -/
def ofArgumentsOnto (options : RunOptions) : List String → Except UsageError Command
  | [] => .ok (.run options)
  | "--config" :: path :: rest => ofArgumentsOnto { options with configPath? := some path } rest
  | ["--config"] => .error .noPath
  | "--duration" :: seconds :: rest =>
      match Text.unsigned Size.limit seconds with
      | .ok seconds => ofArgumentsOnto { options with duration? := some seconds } rest
      | .error error => .error (.invalidDuration error)
  | ["--duration"] => .error .noDuration
  | "--help" :: _ | "-h" :: _ => .ok .help
  | argument :: _ => .error (.unknownArgument argument)

/-- What the arguments ask for. -/
def ofArguments (arguments : List String) : Except UsageError Command :=
  ofArgumentsOnto {} arguments

/-- How the program is used. -/
def usage : String :=
  "\n".intercalate [
    "Usage: ashgate_server [--config <path>] [--duration <secs>]",
    "",
    "Options:",
    "  --config <path>     TOML service configuration (defaults apply when omitted)",
    "  --duration <secs>   Stop after this many seconds instead of running forever",
    "  --help              Print this message"]

end Command

/-- What a finished program leaves: its exit code and what it printed. -/
structure Report where
  code : UInt32
  output : String
  errors : String
deriving DecidableEq, Repr

namespace Report

/-- The end of a program that succeeded without a word. -/
def success : Report where
  code := 0
  output := ""
  errors := ""

/-- The end of a program that failed without a word. -/
def failure : Report where
  code := 1
  output := ""
  errors := ""

/-- The usage was asked for. -/
def ofHelp : Report :=
  { success with output := Command.usage ++ "\n" }

/-- The arguments are faulty. -/
def ofUsageError (error : UsageError) : Report :=
  { failure with errors := error.message ++ "\n\n" ++ Command.usage ++ "\n" }

/-- There is no valid configuration. -/
def ofConfigError (error : LoadError) : Report :=
  { failure with errors := "FATAL: " ++ error.message ++ "\n" }

/-- The services started, and were stopped at some time, or could not start. -/
def ofStart : Except StartupError Services → Report
  | .ok _ => success
  | .error _ => failure

end Report

namespace Configuration

/-- The configuration in a file, or the defaults. -/
def load
    (readFile : String → Except String String) :
    Option String → Except LoadError Configuration
  | none => .ok {}
  | some path =>
      match readFile path with
      | .error reason => .error (.unreadable path reason)
      | .ok text =>
          match ofToml? text with
          | some config => .ok config
          | none => .error (.unparsable "not a configuration")

/-- The valid configuration in a file, or the defaults. -/
def loadValidated
    (readFile : String → Except String String)
    (path? : Option String) :
    Checked (Except LoadError Configuration) :=
  match load readFile path? with
  | .error error => .ok (.error error)
  | .ok config => config.validated

end Configuration

/-- What is left to do once arguments and configuration are read. -/
inductive Preparation where
  /-- Nothing. -/
  | finished (report : Report)
  /-- To serve a configuration. -/
  | ready (options : RunOptions) (config : Configuration)

/-- Read arguments and configuration. -/
def Preparation.ofArguments
    (readFile : String → Except String String)
    (arguments : List String) :
    Checked Preparation := do
  match Command.ofArguments arguments with
  | .error error => return .finished (.ofUsageError error)
  | .ok .help => return .finished .ofHelp
  | .ok (.run options) =>
      match ← Configuration.loadValidated readFile options.configPath? with
      | .error error => return .finished (.ofConfigError error)
      | .ok config => return .ready options config

/-- What a program leaves that is stopped before its first tick. -/
def Report.ofArguments
    (host : Host)
    (readFile : String → Except String String)
    (arguments : List String) :
    Checked Report := do
  match ← Preparation.ofArguments readFile arguments with
  | .finished report => return report
  | .ready _ config => return .ofStart (← Services.start host 0 config)

end Gatehouse
