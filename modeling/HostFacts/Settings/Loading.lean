import HostFacts.Settings.Check
import HostFacts.Json.Names
import HostFacts.World

/-!
# Loading settings

Settings are one JSON text, in a file or at hand. Whatever is wrong with it,
the whole of it is ignored with a warning, and the defaults are left. Only a
path that cannot even be made out is the caller's problem.
-/

namespace HostFacts.Settings

/-! ## From text -/

/-- The settings of a JSON value, with names in any spelling. -/
def ofJson (j : Json) : Except Failure Settings :=
  (Settings.check j.withSnakeNames).toExcept.mapError (.invalid modelName)

def ofText (t : Text) : Except Failure Settings := do
  ofJson (← (Json.read t).mapError .json)

/-- The settings, or nothing with a warning why. -/
def orWarn (origin : Text) (settings : Except Failure (Option Settings)) :
    Attempt (Option Settings) :=
  (Attempt.ofExcept settings).orElse fun failure => do
    Attempt.warn ("Ignoring settings " ++ origin ++ ": " ++ failure.message)
    return none

/-- The settings that a text writes down. -/
def loadText (t : Text) : Attempt (Option Settings) := orWarn "string" ((ofText t).map some)

/-! ## From files -/

/-- The settings of the file at a path, nothing if there is no file. -/
def ofFile (w : World) (p : Path) : Except Failure (Option Settings) := do
  if ← w.fileExists p then return some (← ofText (← w.readText p)) else return none

/-- The settings of a file, in whose path a tilde stands for a home directory. -/
def loadFile (w : World) (p : Path) : Attempt (Option Settings) := do
  let path ← Attempt.ofExcept (w.expandHome p)
  orWarn ("file " ++ path.text) (ofFile w path)

/-! ## The settings in force -/

def pathVariable : Text := "HOSTINFO_SETTINGS"

def fileName : Text := ".hostinfo-settings.json"

/-- Where the settings are looked for unless the user says otherwise on the command line. -/
def defaultPath (w : World) : Except Failure Path :=
  match w.env.nonEmpty? pathVariable with
  | some t => .ok (.ofText t)
  | none => w.home.map (·.child fileName)

/-- The settings from the default place, the defaults without any. -/
def loadDefault (w : World) : Attempt Settings :=
  match defaultPath w with
  | .ok path => do return (← loadFile w path).getD {}
  | .error failure => do
    Attempt.warn ("Cannot locate settings file: " ++ failure.message)
    return {}

end HostFacts.Settings
