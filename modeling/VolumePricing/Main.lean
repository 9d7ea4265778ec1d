import VolumePricing.Http.Wire
import VolumePricing.Launch.Basic
import VolumePricing.Service.Handle
import VolumePricing.Store.Seed
import Std.Time.DateTime.Timestamp

/-!
# The service as a program

The program launches with the files of its settings directory and with the
variables of its environment. It keeps everything in memory and answers the
requests that come in on standard input, one after another, until they end. Its
log goes to standard error.
-/

namespace VolumePricing.Program

/-- The variables that are looked at. -/
def variableNames : List String := ["RUST_LOG", "RUN_MODE"] ++ Settings.variableNames

def environment : IO (List (String × String)) :=
  variableNames.filterMapM fun name => do
    return (← IO.getEnv name).map fun value => (name, value)

def readFile? (name : String) : IO (Option (String × String)) := do
  try
    return some (name, ← IO.FS.readFile (Settings.directory ++ "/" ++ name))
  catch _ => return none

def readFiles (environment : List (String × String)) : IO (List (String × String)) :=
  ((Settings.layerNames environment).flatMap Settings.candidates).filterMapM fun c => readFile? c.1

/-- No database is within reach, and no port is asked for. -/
def site : Site := { connect := fun _ => .unreachable, portIsTaken := false }

def moment : IO Moment := do
  let now ← Std.Time.Timestamp.now
  let bytes ← IO.getRandomBytes 16
  return {
    now := now.toNanosecondsSinceUnixEpoch.val
    random := bytes.toList.foldl (fun n b => n * 256 + b.toNat) 0 }

/-- The lines up to an empty one, or nothing when the input has ended. -/
partial def readHead (input : IO.FS.Stream) : IO (List String) := do
  let line ← input.getLine
  if Text.isBlank line then return []
  return line :: (← readHead input)

/-- Reads so many bytes, or as many as there are. -/
partial def readBytes (input : IO.FS.Stream) (size : Nat) : IO ByteArray := do
  if size = 0 then return .empty
  let bytes ← input.read size.toUSize
  if bytes.isEmpty then return bytes
  return bytes ++ (← readBytes input (size - bytes.size))

partial def serve (service : Service Memory) (shop : Shop Memory) : IO Unit := do
  let input ← IO.getStdin
  let some request := Http.Request.ofHead? (← readHead input) | return
  let bytes ← readBytes input request.bodySize
  let body := String.ofList (Text.Utf8.decodeLossy bytes.toList)
  let (result, shop) := service.handle { request with body } (← moment) shop
  match result with
  | .ok response =>
    let output ← IO.getStdout
    output.putStr response.render
    output.flush
  | .error o => IO.eprintln o.message
  serve service shop

/-- Serves from memory what was launched. -/
def serveInMemory (running : Running) : IO UInt32 := do
  match Memory.holding Seed.tiers Seed.products with
  | .error o =>
    IO.eprintln o.message
    return 101
  | .ok store =>
    let auth := running.settings.auth
    let authority := Authority.signing auth.secret auth.expirationSeconds
    serve { store := Memory.store, settings := running.hub, authority }
      { store, hub := .new running.hub }
    return 0

def start : IO UInt32 := do
  let environment ← environment
  let launch := Launch.run site (← readFiles environment) environment
  for line in launch.shown environment do
    IO.eprintln (line.level.name ++ " " ++ line.target ++ ": " ++ line.text)
  match launch.result with
  | .ok running => serveInMemory running
  | .error failure =>
    IO.eprintln ("Error: " ++ failure.message?.getD "the service could not be started")
    return failure.exitCode.toUInt32

end VolumePricing.Program

def main : IO UInt32 := VolumePricing.Program.start
