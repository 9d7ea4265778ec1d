import VolumePricing.Hub.Basic
import VolumePricing.Settings.Files

/-!
# The settings of the service

Five sections, of which the port and the secrets have no default. A section may
also be given as the list of its fields. What is missing is named; any other
fault is not described.
-/

/-!
### Layers of settings

Settings come from several layers, each laid over the ones before: a value
replaces what was there, and a table is merged member by member. A layer is a
file, or the variables of the environment that begin with the name of the
service.
-/

namespace VolumePricing.Settings

/-- The small letter of a letter. Of the letters outside ASCII only the sign of the kelvin
has a small letter within it, and no other can be part of a path. -/
def smallLetter (c : Char) : Char := if c = '\u212a' then 'k' else c.toLower

def lowerStart : List Char := "tierwise__".toList

/-- What a variable sets. Its name counts without regard to case, and two underscores in
it lead from a section to its fields. -/
def ofVariable? (name value : String) : Option (String × Setting) :=
  let cs := name.toList.map smallLetter
  if lowerStart.isPrefixOf cs then
    some (String.ofList (dotted (cs.drop lowerStart.length)), .text value)
  else none
where
  dotted : List Char → List Char
    | '_' :: '_' :: cs => '.' :: dotted cs
    | c :: cs => c :: dotted cs
    | [] => []

/-- The layer of the environment. -/
def environmentLayer (environment : List (String × String)) : Table :=
  environment.filterMap fun (name, value) => ofVariable? name value

/-- The layers in files, of which the environment names the second. -/
def layerNames (environment : List (String × String)) : List String :=
  ["default", (environment.lookup "RUN_MODE").getD "development", "local"]

/-- Lays the file of a layer over a table, if there is one. Nothing where the file does
not hold a table. -/
def layFile? (files : List (String × String)) (table : Table) (layer : String) : Option Table :=
  match findFile? files layer with
  | none => some table
  | some (format, text) => (format.table? text).map (overlay table)

/-- The table that all layers make up together. The first one has to be there. -/
def layered? (files environment : List (String × String)) : Option Table := do
  let _ ← findFile? files "default"
  let table ← (layerNames environment).foldlM (layFile? files) []
  return overlay table (environmentLayer environment)

end VolumePricing.Settings

namespace VolumePricing

/-! ### Sections -/

inductive SettingsFault
  /-- A section or field that has no default is not there. -/
  | missing (path : List String)
  /-- A layer that cannot be read, or a value that is not of the type asked for. -/
  | unusable
  deriving DecidableEq, Repr

def SettingsFault.message? : SettingsFault → Option String
  | .missing path => some ("missing configuration field \"" ++ ".".intercalate path ++ "\"")
  | .unusable => none

structure ServerSettings where
  port : UInt16
  deriving DecidableEq, Repr

structure DatabaseSettings where
  /-- Without an address everything is kept in memory. -/
  url : Option String := none
  maxConnections : UInt32
  deriving DecidableEq, Repr

structure AuthSettings where
  secret : String
  expirationSeconds : UInt64
  deriving DecidableEq, Repr

structure NotificationSettings where
  window : Int64 := 3000
  channelCapacity : UInt64 := 100
  maxTracked : UInt64 := 10000
  deriving DecidableEq, Repr

structure PricingSettings where
  fallback : Float := 2.0
  deriving DecidableEq, Repr

structure Settings where
  server : ServerSettings
  database : DatabaseSettings
  auth : AuthSettings
  notifications : NotificationSettings
  pricing : PricingSettings
  deriving DecidableEq, Repr

namespace Settings

abbrev Loaded (α : Type) := Except SettingsFault α

/-- The fields of a section: what each was given as, if it was. Missing fields of a section
written as a list are a fault of another kind. -/
structure Section where
  name : String
  fields : List (String × Setting)
  listed : Bool

/-- A section as written: a table, or the list of its fields in order. -/
def sectionOf (name : String) (fields : List String) : Setting → Loaded Section
  | .table ms => .ok ⟨name, ms, false⟩
  | .list items => .ok ⟨name, fields.zip items, true⟩
  | _ => .error .unusable

namespace Section

variable {α : Type} (s : Section)

/-- A field that may be missing. -/
def get? (field : String) (read : Setting → Option α) : Loaded (Option α) :=
  match s.fields.lookup field with
  | none => .ok none
  | some value =>
    match read value with
    | some a => .ok (some a)
    | none => .error .unusable

/-- The value of a field that must be there. -/
def require (field : String) : Option α → Loaded α
  | some a => .ok a
  | none => .error (if s.listed then .unusable else .missing [s.name, field])

end Section

end Settings

open Settings

def Setting.uint64? (s : Setting) : Option UInt64 := (s.nat? UInt64.size).map UInt64.ofNat

def ServerSettings.ofSetting (value : Setting) : Loaded ServerSettings := do
  let s ← sectionOf "server" ["port"] value
  let port ← s.get? "port" (·.nat? UInt16.size)
  return { port := .ofNat (← s.require "port" port) }

/-- An address that is written as nothing is none. -/
def Setting.optionalText? : Setting → Option (Option String)
  | .nothing => some none
  | value => value.text?.map some

def DatabaseSettings.defaultConnections : UInt32 := 5

def DatabaseSettings.ofSetting (value : Setting) : Loaded DatabaseSettings := do
  let s ← sectionOf "database" ["url", "max_connections"] value
  let url ← s.get? "url" Setting.optionalText?
  let connections ← s.get? "max_connections" (·.nat? UInt32.size)
  let url ← if s.listed then s.require "url" url else pure (url.getD none)
  return { url, maxConnections := (connections.map UInt32.ofNat).getD defaultConnections }

def AuthSettings.ofSetting (value : Setting) : Loaded AuthSettings := do
  let s ← sectionOf "auth" ["jwt_secret", "jwt_expiration_seconds"] value
  let secret ← s.get? "jwt_secret" Setting.text?
  let expiration ← s.get? "jwt_expiration_seconds" Setting.uint64?
  return {
    secret := ← s.require "jwt_secret" secret
    expirationSeconds := ← s.require "jwt_expiration_seconds" expiration }

def NotificationSettings.ofSetting (value : Setting) : Loaded NotificationSettings := do
  let s ← sectionOf "notifications" ["dedup_window_ms", "channel_capacity", "max_tracked_users"] value
  let window ← s.get? "dedup_window_ms" Setting.int64?
  let capacity ← s.get? "channel_capacity" Setting.uint64?
  let tracked ← s.get? "max_tracked_users" Setting.uint64?
  let defaults : NotificationSettings := {}
  return {
    window := window.getD defaults.window
    channelCapacity := capacity.getD defaults.channelCapacity
    maxTracked := tracked.getD defaults.maxTracked }

def PricingSettings.ofSetting (value : Setting) : Loaded PricingSettings := do
  let s ← sectionOf "pricing" ["guest_fallback_multiplier"] value
  let fallback ← s.get? "guest_fallback_multiplier" Setting.real?
  return { fallback := fallback.getD ({} : PricingSettings).fallback }

namespace Settings

/-- A section that may be left out. -/
def section? {α : Type} (table : Table) (name : String) (read : Setting → Loaded α) :
    Loaded (Option α) :=
  match table.lookup name with
  | none => .ok none
  | some value => (read value).map some

/-- The value of a section that must be there. -/
def requireSection {α : Type} (name : String) : Option α → Loaded α
  | some a => .ok a
  | none => .error (.missing [name])

/-- Without a section on the database, none is asked how many connections it may have. -/
def ofTable (table : Table) : Loaded Settings := do
  let server? ← section? table "server" ServerSettings.ofSetting
  let database? ← section? table "database" DatabaseSettings.ofSetting
  let auth? ← section? table "auth" AuthSettings.ofSetting
  let notifications? ← section? table "notifications" NotificationSettings.ofSetting
  let pricing? ← section? table "pricing" PricingSettings.ofSetting
  return {
    server := ← requireSection "server" server?
    database := database?.getD { maxConnections := 0 }
    auth := ← requireSection "auth" auth?
    notifications := notifications?.getD {}
    pricing := pricing?.getD {} }

/-- The settings that the files and the environment make up together. -/
def load (files environment : List (String × String)) : Loaded Settings :=
  match layered? files environment with
  | none => .error .unusable
  | some table => ofTable table

/-- The variables of the environment that set the fields, as they are usually written. -/
def variableNames : List String :=
  ["SERVER__PORT", "DATABASE__URL", "DATABASE__MAX_CONNECTIONS", "AUTH__JWT_SECRET",
   "AUTH__JWT_EXPIRATION_SECONDS", "NOTIFICATIONS__DEDUP_WINDOW_MS",
   "NOTIFICATIONS__CHANNEL_CAPACITY", "NOTIFICATIONS__MAX_TRACKED_USERS",
   "PRICING__GUEST_FALLBACK_MULTIPLIER"].map ("TIERWISE__" ++ ·)

/-- What the hub needs of the settings. -/
def hub (s : Settings) : Checked HubSettings :=
  HubSettings.ofWords s.notifications.window s.notifications.channelCapacity
    s.notifications.maxTracked s.pricing.fallback

end Settings

end VolumePricing
