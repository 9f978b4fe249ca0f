import Transclusion.Proxy.Options
import Transclusion.Proxy.Serve
import Transclusion.Settings.Environment

/-!
# The command line

Reads the options, loads the settings from the settings file and the
environment, and starts the proxy from them. A problem is reported on the
error stream as `error: ` followed by where it arose (`load config: ` for the
settings, `init service: ` for the proxy) and the message, with exit status 1;
asking for help prints the usage text and exits with status 0.

Accepting connections is the host's part: the command line stops once the
proxy has started.
-/

namespace Transclusion.Proxy

open Transclusion.Config

/-- Why the settings file could not be read, the way opening or reading it
describes the failure: system messages start in lower case. -/
def readFailure (path : String) : IO.Error → String
  | .noFileOrDirectory .. => "open " ++ path ++ ": no such file or directory"
  | .permissionDenied .. => "open " ++ path ++ ": permission denied"
  | .inappropriateType none _ details => "read " ++ path ++ ": " ++ details.decapitalize
  | .inappropriateType (some _) _ details => "open " ++ path ++ ": " ++ details.decapitalize
  | e => "open " ++ path ++ ": " ++ toString e

/-- The settings file at `path`, or none for an empty path. -/
def readSettingsFile (path : String) : IO SettingsFile := do
  if path.isEmpty then return .none
  try
    let text ← IO.FS.readFile path
    return .present path text
  catch e =>
    return .unreadable (readFailure path e)

/-- The variables starting with `STITCH_`, with their values: all of them
from the process's environment block when it can be read, else those the
settings name directly together with the first rules' prefixes. -/
def settingsEnvironment : IO (List (String × String)) := do
  try
    let block ← IO.FS.readBinFile "/proc/self/environ"
    let text := String.fromUTF8? block |>.getD ""
    return (environmentEntries text).filter (·.1.startsWith "STITCH_")
  catch _ =>
    let names := namesOf envFields ++ (List.range 64).map (fun i => "STITCH_" ++ toString i ++ "_")
    names.eraseDups.filterMapM fun name => do
      return (← IO.getEnv name).map (name, ·)

def reportFailure (message : String) : IO UInt32 := do
  IO.eprintln ("error: " ++ message)
  return 1

end Transclusion.Proxy

open Transclusion.Config Transclusion.Proxy

def main (args : List String) : IO UInt32 := do
  let defaultPath := ((← IO.getEnv "STITCH_CONFIG").getD "")
  match readOptions defaultPath args with
  | .error message => reportFailure message
  | .ok .help =>
    IO.eprint (usage defaultPath)
    return 0
  | .ok (.start path) =>
    let file ← readSettingsFile path
    let env ← settingsEnvironment
    match loadSettings file env with
    | .error message => reportFailure ("load config: " ++ message)
    | .ok settings =>
      match Service.start settings { ns := 0 } with
      | .error message => reportFailure ("init service: " ++ message)
      | .ok _ => return 0
