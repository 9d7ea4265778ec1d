import VolumePricing.Database.Schema
import VolumePricing.Launch.LogFilter
import VolumePricing.Settings.Basic

/-!
# Launching the service

The service finds out what to log, reads its settings, opens its store and takes
its port, in this order, and says so in its log. What goes wrong on the way ends it. A database
is asked for only when the settings name one; it is set up before it is used.
-/

namespace VolumePricing

structure LogLine where
  level : LogLevel
  target : String
  text : String
  deriving DecidableEq, Repr

/-- What becomes of an attempt to connect to a database. -/
inductive Connection
  | unreachable
  | denied (message : String)
  | opened (conversation : Database.Conversation)

/-- The surroundings of the service. -/
structure Site where
  connect : String → Connection
  portIsTaken : Bool

inductive LaunchFailure
  | logFilter
  | settings (fault : SettingsFault)
  | databaseUnreachable
  | databaseDenied (message : String)
  | setup
  | overflow (o : Overflow)
  | portTaken
  deriving DecidableEq, Repr

def LaunchFailure.exitCode : LaunchFailure → UInt8
  | .logFilter => 101
  | .overflow _ => 101
  | _ => 1

/-- The first line that a failure is told with, where its words are known. -/
def LaunchFailure.message? : LaunchFailure → Option String
  | .settings fault => fault.message?
  | .databaseDenied message => some (Database.refusalText message)
  | _ => none

/-- Where the service keeps its data. -/
inductive Backing
  | memory
  | database (conversation : Database.Conversation)

/-- What happened on the way to `α`, and whether it was reached. -/
structure Launch (α : Type) where
  log : List LogLine := []
  /-- The statements sent to the database. -/
  statements : List Database.Statement := []
  result : Except LaunchFailure α

/-- A service that is ready for requests. -/
structure Running where
  settings : Settings
  hub : HubSettings
  backing : Backing

namespace Launch

variable {α β : Type}

/-- One part of a launch after another, the second unless the first failed. -/
def andThen (l : Launch α) (next : α → Launch β) : Launch β :=
  match l.result with
  | .error failure => { log := l.log, statements := l.statements, result := .error failure }
  | .ok a =>
    let n := next a
    { n with log := l.log ++ n.log, statements := l.statements ++ n.statements }

instance : Monad Launch where
  pure a := { result := .ok a }
  bind := andThen

def main : String := "tierwise_api"
def database : String := "tierwise_store::database"

/-- The filter used when none is asked for, or one that cannot be read. -/
def standardFilter : String :=
  "tierwise_api=debug,tierwise_cart=debug"

def filterOf (environment : List (String × String)) : LogFilter.Reading LogFilter :=
  match (environment.lookup "RUST_LOG").map LogFilter.ofText with
  | some (.ok filter) => .ok filter
  | some (.error .torn) => .error .torn
  | _ => LogFilter.ofText standardFilter

def say (level : LogLevel) (target text : String) : Launch Unit :=
  { log := [⟨level, target, text⟩], result := .ok () }

def fail (failure : LaunchFailure) : Launch α := { result := .error failure }

/-- Goes on unless a computation overflowed. -/
def checked : Checked α → Launch α
  | .ok a => pure a
  | .error o => fail (.overflow o)

/-- Sends statements to a database that has just been connected. -/
def converse (talk : StoreAction Database.Conversation Unit) (conversation : Database.Conversation) :
    Launch Database.Conversation := do
  let (result, conversation) ← checked (talk conversation)
  let result := match result with
    | .ok () => .ok conversation
    | .error _ => .error .setup
  { statements := conversation.sent, result }

def setUp (conversation : Database.Conversation) : Launch Database.Conversation := do
  say .info database "Running database migrations..."
  let conversation ← converse Database.migrate conversation
  say .info database "Migrations completed successfully."
  return conversation

/-- Without any connection allowed a database cannot be reached. -/
def connect (site : Site) (url : String) (settings : DatabaseSettings) :
    Launch Database.Conversation :=
  if settings.maxConnections = 0 then fail .databaseUnreachable
  else
    match site.connect url with
    | .unreachable => fail .databaseUnreachable
    | .denied message => fail (.databaseDenied message)
    | .opened conversation => pure conversation

def openStore (site : Site) (settings : DatabaseSettings) : Launch Backing := do
  match settings.url with
  | none =>
    say .warn main "No database configured, using in-memory storage"
    return .memory
  | some url =>
    let conversation ← setUp (← connect site url settings)
    say .info main "Using PostgreSQL storage"
    return .database conversation

/-- Launches the service with the given files and environment. -/
def run (site : Site) (files environment : List (String × String)) : Launch Running := do
  let .ok _ := filterOf environment | fail .logFilter
  match Settings.load files environment with
  | .error fault => fail (.settings fault)
  | .ok settings =>
    let port := toString settings.server.port.toNat
    say .info main ("Starting Tierwise API on port " ++ port)
    let backing ← openStore site settings.database
    let hub ← checked settings.hub
    say .info main ("Listening on 0.0.0.0:" ++ port)
    if site.portIsTaken then fail .portTaken
    return { settings, hub, backing }

/-- The lines that the environment wants to see. -/
def shown (l : Launch α) (environment : List (String × String)) : List LogLine :=
  match filterOf environment with
  | .error _ => []
  | .ok filter => l.log.filter fun line => filter.shows line.target line.level

end Launch

end VolumePricing
