import Probing.Fault
import Probing.Log.Entry
import Probing.Settings

/-!
# Services

The services a program is put together from: its settings, the mode it runs in, the way it ends its
process and its logger. Each can be registered beforehand; starting registers the ones that are
missing. A start that fails on the settings registers nothing, and a second start does nothing.

That the settings were rejected is said before there is a logger among the services. A bootstrap
logger says it, at the level the process sets. It is made when it is first needed and kept from then
on, and where it cannot be made the start fails instead of being rejected.

## Main definitions

* `Services`: what is registered
* `Services.reset`: takes all registrations back
* `Services.bootstrapLogger`: what speaks before there are services
* `Services.start`: registers what is missing
* `Services.Started.entries`: what a start writes
-/

namespace Probing

/-- The mode a program runs in. -/
inductive Mode where
  | production
  | test
  | cli
deriving DecidableEq, Repr

/-- How a program ends its process. -/
inductive Terminator where
  /-- Ends the process with the code. -/
  | endsProcess
  /-- Hands the code to whoever runs the program. -/
  | tellsCaller
deriving DecidableEq, Repr

/-- The services that can be registered. -/
inductive Service where
  | settings
  | mode
  | terminator
  | logging
deriving DecidableEq, Repr

/-- The name under which a service is registered. -/
def Service.name : Service → Text
  | settings => "Config.App"
  | mode => "Runtime.Mode"
  | terminator => "Runtime.ProcessTerminator"
  | logging => "Logging.Factory"

/-- The wording of a request for a service that is not registered. -/
def Service.missing (service : Service) : Text :=
  "Attempted to resolve unregistered dependency token: \"Symbol(" ++ service.name ++ ")\""

/-- The registered services. Of several registrations the last one counts. -/
structure Services where
  settings : Option Settings := none
  mode : Option Mode := none
  terminator : Option Terminator := none
  /-- What the registered logger writes. -/
  logging : Option Log.Threshold := none
  started : Bool := false
  /-- What the bootstrap logger writes, once it has been made. It is no service. -/
  bootstrap : Option Log.Threshold := none
deriving DecidableEq, Inhabited

namespace Services

/-- A service is registered. -/
def isRegistered (services : Services) : Service → Bool
  | .settings => services.settings.isSome
  | .mode => services.mode.isSome
  | .terminator => services.terminator.isSome
  | .logging => services.logging.isSome

/-- Takes all registrations back. The bootstrap logger stays. -/
def reset (services : Services) : Services :=
  { bootstrap := services.bootstrap }

/-- Registers a logger whose level is given by name. -/
def registerLogging (services : Services) (level : Text) : Except Log.LevelError Services :=
  match Log.threshold level with
  | .ok threshold => .ok { services with logging := some threshold }
  | .error reason => .error reason

/-- The mode an environment asks for. -/
def detectMode (environment : Environment) : Mode :=
  if (environment .testRunner).getD [] ≠ [] ∨ environment .deployment = some "test" then .test
  else .production

/-- The terminator that fits a mode. -/
def terminatorFor : Mode → Terminator
  | .test => .tellsCaller
  | .production | .cli => .endsProcess

/-- How a start went. -/
inductive Started where
  | ready
  | rejected (issues : List Settings.Issue)
  /-- A logger could not be made, and the start failed on it. -/
  | withoutLogger (reason : Log.LevelError)
deriving DecidableEq

/-! ## Before there are services -/

/-- The name of the level that a process sets for its bootstrap logger, silent if it sets none. -/
def bootstrapLevel (process : Environment) : Text :=
  let given := ((process .logLevel).map Text.lowercase).getD []
  if given = [] then Log.Level.silent.name else given

/-- What the bootstrap logger writes: the one that was made, or else a new one at the level of the
process. -/
def bootstrapLogger (services : Services) (process : Environment) :
    Except Log.LevelError Log.Threshold :=
  match services.bootstrap with
  | some threshold => .ok threshold
  | none => Log.threshold (bootstrapLevel process)

/-- Rejects the settings of a program. The bootstrap logger is kept, also when it is of no use. -/
def reject (services : Services) (process : Environment) (issues : List Settings.Issue) :
    Services × Started :=
  match services.bootstrapLogger process with
  | .error reason => (services, .withoutLogger reason)
  | .ok threshold =>
    ({ services with bootstrap := some threshold },
      match threshold.forComponent with
      | .error reason => .withoutLogger reason
      | .ok _ => .rejected issues)

/-- The entry about rejected settings. -/
def rejectionEntry (issues : List Settings.Issue) : Log.Entry where
  level := .error
  component := some "di"
  fields := [("issues", .array (issues.map fun issue => issue.describe.json))]
  message := some (.text "Configuration rejected")

/-- The entries that a start has written, whose end left these services. -/
def Started.entries (services : Services) : Started → List Log.Entry
  | rejected issues =>
    match services.bootstrap with
    | some threshold => Log.admitted threshold [rejectionEntry issues]
    | none => []
  | ready | withoutLogger _ => []

/-! ## Starting -/

/-- Registers the mode, and the logger and terminator that are missing. A logger without a level
leaves the other registrations behind. -/
def complete (services : Services) (settings : Settings) (mode : Mode) : Services × Started :=
  let services :=
    { services with
      mode := some mode
      terminator := services.terminator <|> some (terminatorFor mode) }
  if services.logging.isSome then ({ services with started := true }, .ready)
  else
    match services.registerLogging settings.level with
    | .ok services => ({ services with started := true }, .ready)
    | .error reason => (services, .withoutLogger reason)

/-- Starts a program in a mode, which is detected when it is not given. A start that is given no
environment reads the one of the process, which sets nothing unless it is said to. -/
def start (services : Services) (given : Option Environment) (mode : Option Mode)
    (process : Environment := fun _ => none) : Services × Started :=
  if services.started then (services, .ready)
  else
    let environment := given.getD process
    let mode := mode.getD (detectMode environment)
    match services.settings with
    | some settings => services.complete settings mode
    | none =>
      match Settings.load environment with
      | .error issues => services.reject process issues
      | .ok settings => { services with settings := some settings }.complete settings mode

end Services

end Probing
